import PhraseStructure.Proofs.Diagnostics
import PhraseStructure.Proofs.FirstOccurrences
/-!
# Unknown symbols

The undefined symbols of a grammar are known before any sentence is parsed:
those that alternatives use although they have no rule and tag no word
(`mem_undefinedSymbols`). Matching finds out on the way, and tests a symbol for
a rule and for a tag only where it fails.

Main statement: what a parse reports as unknown is among the undefined symbols,
and a trace that parses share reports each symbol once, because every event
keeps it so (`ReportsOnce.record`).
-/
namespace PhraseStructure

/-! ## Undefined symbols -/

namespace Grammar

/-- The symbols of all alternatives, in table order, as often as they occur. -/
def bodySymbols (g : Grammar) : List String := g.productions.flatMap Production.rhs

variable {g : Grammar} {l : Lexicon} {s : String}

theorem mem_bodySymbols : s ∈ g.bodySymbols ↔ ∃ symbol, g.Uses symbol s := by
  simp only [bodySymbols, productions, Table.values, List.mem_flatMap, List.mem_flatten, List.mem_map]
  constructor
  · rintro ⟨production, ⟨_, ⟨⟨symbol, alternatives⟩, he, rfl⟩, hp⟩, hs⟩
    exact ⟨symbol, .intro (Table.get?_eq_some_iff.2 he) hp hs⟩
  · rintro ⟨symbol, ha, hp, hs⟩
    exact ⟨_, ⟨_, ⟨_, Table.get?_eq_some_iff.1 ha, rfl⟩, hp⟩, hs⟩

theorem mem_undefinedSymbols : s ∈ g.undefinedSymbols l ↔
    (∃ symbol, g.Uses symbol s) ∧ g.contains s = false ∧ l.isTag s = false := by
  rw [undefinedSymbols, List.mem_eraseDups, List.mem_filter, ← mem_bodySymbols]
  simp [bodySymbols]

theorem pairwise_undefinedSymbols (g : Grammar) (l : Lexicon) :
    (g.undefinedSymbols l).Pairwise fun s s' => g.bodySymbols.idxOf s < g.bodySymbols.idxOf s' :=
  pairwise_idxOf_eraseDups_filter g.bodySymbols _

end Grammar

/-! ## Reported once -/

namespace Trace

/-- No symbol is reported as unknown twice. -/
def ReportsOnce (t : Trace) : Prop := ∀ s, t.diagnostics.countP (·.reportsUnknown s) ≤ 1

variable {t : Trace}

theorem ReportsOnce.record (h : t.ReportsOnce) (e : Event) : (t.record e).ReportsOnce := by
  intro s
  cases e with
  | expectation symbol position => exact h s
  | diagnostic d =>
    cases d with
    | unknownSymbol symbol position =>
      rw [Trace.record, diagnostics_reportUnknown]
      split
      · exact h s
      · -- The symbol is recorded because no diagnostic reports it so far; any
        -- other is counted as before.
        rename_i hnew
        rw [List.countP_append]
        by_cases hs : symbol = s
        · subst hs
          have hzero : t.diagnostics.countP (·.reportsUnknown symbol) = 0 := by
            rw [List.countP_eq_zero]
            simpa using hnew
          rw [hzero]
          simp [Diagnostic.reportsUnknown]
        · simpa [Diagnostic.reportsUnknown, hs] using h s
    | noMatch | cycle | recursionLimit => simpa [Trace.record, Diagnostic.reportsUnknown] using h s

theorem ReportsOnce.recordAll (h : t.ReportsOnce) (log : List Event) : (t.recordAll log).ReportsOnce := by
  induction log generalizing t with
  | nil => exact h
  | cons e log ih => exact ih (h.record e)

end Trace

theorem Parser.reportsOnce_parseFrom (p : Parser) (tokens : List String) (symbol : String) {t : Trace}
    (h : t.ReportsOnce) : (p.parseFrom tokens symbol t).2.ReportsOnce := by
  obtain ⟨outcome, log, -, hrun⟩ := Matcher.exists_runLog (p.matcher tokens) symbol
  rw [parseFrom_eq, hrun]
  exact h.recordAll log

/-- A parse to be made: by which parser, of which tokens, as which symbol. -/
structure Request where
  parser : Parser
  tokens : List String
  symbol : String

/-- The trace that parses leave which are made one after the other and share
it. -/
def Trace.after (requests : List Request) : Trace :=
  requests.foldl (fun t r => (r.parser.parseFrom r.tokens r.symbol t).2) .empty

theorem Trace.reportsOnce_after (requests : List Request) : (Trace.after requests).ReportsOnce := by
  suffices h : ∀ t : Trace, t.ReportsOnce →
      (requests.foldl (fun t r => (r.parser.parseFrom r.tokens r.symbol t).2) t).ReportsOnce from
    h .empty (by simp [ReportsOnce])
  induction requests with
  | nil => exact fun t h => h
  | cons r requests ih => exact fun t h => ih _ (r.parser.reportsOnce_parseFrom r.tokens r.symbol h)

/-! ## Main theorem -/

/-- The undefined symbols of a grammar are those that an alternative uses, that
have no rule and that tag no word, each once and in the order in which they
first occur in the table. A parse of a symbol that has a rule reports no others
as unknown, whatever the tokens, the limit and the trace; and however many
parses share a trace, of whichever parsers, it reports each symbol as unknown at
most once. -/
theorem undefinedSymbols_cover_unknownSymbols (g : Grammar) (l : Lexicon) :
    (∀ s, s ∈ g.undefinedSymbols l ↔
      (∃ symbol, g.Uses symbol s) ∧ g.alternatives? s = none ∧ ∀ word, l.tag? word ≠ some s) ∧
    (g.undefinedSymbols l).Nodup ∧
    ((g.undefinedSymbols l).Pairwise fun s s' => g.bodySymbols.idxOf s < g.bodySymbols.idxOf s') ∧
    (∀ p : Parser, p.grammar = g → p.lexicon = l → ∀ tokens symbol t, g.contains symbol = true →
      ∃ added, (p.parseFrom tokens symbol t).2.diagnostics = t.diagnostics ++ added ∧
        (∀ s q, .unknownSymbol s q ∈ added → s ∈ g.undefinedSymbols l) ∧
        (g.undefinedSymbols l = [] → ∀ s q, .unknownSymbol s q ∉ added)) ∧
    ∀ requests s, (Trace.after requests).diagnostics.countP (·.reportsUnknown s) ≤ 1 := by
  refine ⟨fun s => ?_, ?_, g.pairwise_undefinedSymbols l, ?_, Trace.reportsOnce_after⟩
  · rw [Grammar.mem_undefinedSymbols, Grammar.alternatives?_eq_none, ← Bool.not_eq_true (l.isTag s),
      Lexicon.isTag_iff, not_exists]
  · refine (g.pairwise_undefinedSymbols l).imp ?_
    rintro s _ hlt rfl
    exact Nat.lt_irrefl _ hlt
  · rintro p rfl rfl tokens symbol t hc
    obtain ⟨outcome, log, hlog, hrun⟩ := Matcher.exists_runLog (p.matcher tokens) symbol
    have hmem : ∀ s q, .unknownSymbol s q ∈ t.added log → s ∈ p.grammar.undefinedSymbols p.lexicon :=
      fun s q hd => Grammar.mem_undefinedSymbols.2 (hlog.warranted hc _ (Trace.mem_log_of_mem_added hd))
    refine ⟨t.added log, ?_, hmem, fun hnil s q hd => ?_⟩
    · rw [Parser.parseFrom_eq, hrun, t.diagnostics_recordAll]
    · have hs := hmem s q hd
      rw [hnil] at hs
      cases hs

end PhraseStructure
