import PhraseStructure.Proofs.Progress
/-!
# Leading loops

A nonterminal leads to the first symbol of its first alternative. At a token
that is not tagged with that symbol nothing else is tried before it, so an abort
there is the abort of the nonterminal, whatever its other alternatives are
(`SymbolLog.of_leadsTo`). Where nonterminals lead from one to the next and come
back to one of them, a match goes down the chain until one of the two guards
stops it.

Main statement: such a loop is always caught, the first time that it comes round
or at the limit, and nothing else is recorded.
-/
namespace PhraseStructure

/-- The first alternative of the first symbol begins with the second. -/
inductive Grammar.LeadsTo (g : Grammar) : String → String → Prop
  | intro {symbol production productions s rest} :
    g.alternatives? symbol = some (production :: productions) → production.rhs = s :: rest → LeadsTo g symbol s

/-- `chain 0` leads to `chain 1`, that to `chain 2` and so on, and `chain k` is
the first that has come before. -/
structure Grammar.LeadingLoop (g : Grammar) (chain : Nat → String) (k : Nat) : Prop where
  leadsTo : ∀ i < k, g.LeadsTo (chain i) (chain (i + 1))
  ne : ∀ j < k, ∀ i < j, chain i ≠ chain j
  comes_back : ∃ i < k, chain i = chain k

namespace Grammar

variable {g : Grammar} {chain : Nat → String} {k : Nat}

theorem LeadsTo.contains {symbol s : String} (h : g.LeadsTo symbol s) : g.contains symbol = true := by
  obtain ⟨ha, -⟩ := h
  exact contains_iff.2 ⟨_, ha⟩

/-- All symbols of the chain have rules, the last one because it has come
before. -/
theorem LeadingLoop.contains (h : g.LeadingLoop chain k) {i : Nat} (hi : i ≤ k) :
    g.contains (chain i) = true := by
  rcases Nat.lt_or_eq_of_le hi with hlt | rfl
  · exact (h.leadsTo i hlt).contains
  · obtain ⟨j, hj, hback⟩ := h.comes_back
    exact hback ▸ (h.leadsTo j hj).contains

end Grammar

namespace Matcher

variable {m : Matcher} {chain : Nat → String} {k : Nat}

/-- A nonterminal is aborted if the symbol that it leads to is. -/
theorem SymbolLog.of_leadsTo {budget path symbol s position token reason log} (hl : m.grammar.LeadsTo symbol s)
    (hp : (symbol, position) ∉ path) (ht : m.tokens[position]? = some token)
    (htag : m.lexicon.tag? token ≠ some s) (hc : m.grammar.contains s = true)
    (h : m.SymbolLog budget ((symbol, position) :: path) s position (.aborted reason) log) :
    m.SymbolLog (budget + 1) path symbol position (.aborted reason) log := by
  cases hl with
  | @intro production _ _ _ ha hr =>
    have hs : m.SequenceLog budget ((symbol, position) :: path) production.rhs position (.aborted reason) log := by
      rw [hr]
      exact .aborted ht htag hc h
    exact .aborted ha hp (.here hs nofun)

/-- The calls for `chain 0` up to the one before `chain i`, all at the first
token; the innermost first. -/
def leadingPath (chain : Nat → String) : Nat → List (String × Nat)
  | 0 => []
  | i + 1 => (chain i, 0) :: leadingPath chain i

theorem mem_leadingPath {s : String} {i : Nat} : (s, 0) ∈ leadingPath chain i ↔ ∃ j < i, chain j = s := by
  induction i with
  | zero => simp [leadingPath]
  | succ i ih =>
    rw [leadingPath, List.mem_cons, ih]
    constructor
    · rintro (he | ⟨j, hj, he⟩)
      · exact ⟨i, Nat.lt_succ_self i, (Prod.mk.inj he).1.symm⟩
      · exact ⟨j, Nat.lt_succ_of_lt hj, he⟩
    · rintro ⟨j, hj, rfl⟩
      rcases Nat.lt_or_eq_of_le (Nat.le_of_lt_succ hj) with hlt | rfl
      · exact .inr ⟨j, hlt, rfl⟩
      · exact .inl rfl

section
variable {token : String} (h : m.grammar.LeadingLoop chain k) (ht : m.tokens[0]? = some token)
  (htag : ∀ i, 1 ≤ i → i ≤ k → m.lexicon.tag? token ≠ some (chain i))
include h

theorem not_mem_leadingPath {i : Nat} (hi : i < k) : (chain i, 0) ∉ leadingPath chain i := by
  intro hmem
  obtain ⟨j, hj, he⟩ := mem_leadingPath.1 hmem
  exact h.ne i hi j hj he

include ht htag

/-- A call down the chain that is aborted aborts the calls around it, back to
the first one. -/
theorem symbolLog_of_leadingPath {e : Nat} (he : e ≤ k) {budget reason log}
    (hend : m.SymbolLog budget (leadingPath chain e) (chain e) 0 (.aborted reason) log) :
    m.SymbolLog (budget + e) [] (chain 0) 0 (.aborted reason) log := by
  induction e generalizing budget with
  | zero => exact hend
  | succ e ih =>
    have hstep := hend.of_leadsTo (h.leadsTo e he) (not_mem_leadingPath h he) ht (htag (e + 1) (by omega) he)
      (h.contains he)
    have hrest := ih (Nat.le_of_succ_le he) hstep
    rwa [Nat.add_right_comm] at hrest

/-- With a limit that the chain fits in, the loop itself is what is found. -/
theorem runLog_of_leadingLoop_of_le (hlimit : k ≤ m.limit) :
    m.RunLog (chain 0) (.aborted (.cycle (chain k) 0)) [.diagnostic (.cycle (chain k) 0)] := by
  obtain ⟨budget, hb⟩ : ∃ budget, m.limit = budget + k := ⟨m.limit - k, by omega⟩
  rw [RunLog, hb]
  exact symbolLog_of_leadingPath h ht htag (Nat.le_refl k)
    (.repeated (h.contains (Nat.le_refl k)) (mem_leadingPath.2 h.comes_back))

/-- With a smaller limit the match is stopped on its way down the chain. -/
theorem runLog_of_leadingLoop_of_lt (hlimit : m.limit < k) :
    m.RunLog (chain 0) (.aborted (.tooDeep (chain m.limit) m.limit))
      [.diagnostic (.recursionLimit (chain m.limit) 0 m.limit)] := by
  have hend := symbolLog_of_leadingPath h ht htag (Nat.le_of_lt hlimit)
    (.tooDeep (h.contains (Nat.le_of_lt hlimit)) (not_mem_leadingPath h hlimit))
  rwa [Nat.zero_add] at hend

end

end Matcher

/-! ## Main theorem -/

namespace Parser

/-- Suppose that nonterminals lead from one to the next, beginning with the one
that is parsed, and that the `k`-th is the first that has come before; and that
the first token is tagged with none of those that are led to. If the limit is at
least `k`, the sentence is rejected for a cycle in the `k`-th at the first
token, and otherwise for exceeding the limit with the nonterminal that comes
after as many as the limit allows. In both cases nothing is matched, nothing is
expected, and the trace holds the report of the abort and no other. -/
theorem parseFrom_leadingLoop (p : Parser) (chain : Nat → String) (k : Nat) (h : p.grammar.LeadingLoop chain k)
    (token : String) (tokens : List String)
    (htag : ∀ i, 1 ≤ i → i ≤ k → p.lexicon.tag? token ≠ some (chain i)) :
    (k ≤ p.limit → p.parseFrom (token :: tokens) (chain 0) .empty =
      (.error ⟨.cycle (chain k) 0, 0, [], 0, (token :: tokens).length⟩,
        ⟨[.cycle (chain k) 0], .start⟩)) ∧
    (p.limit < k → p.parseFrom (token :: tokens) (chain 0) .empty =
      (.error ⟨.recursionLimit (chain p.limit) p.limit, 0, [], 0, (token :: tokens).length⟩,
        ⟨[.recursionLimit (chain p.limit) 0 p.limit], .start⟩)) := by
  have hrun : ∀ {reason log}, (p.matcher (token :: tokens)).RunLog (chain 0) (.aborted reason) log →
      p.parseFrom (token :: tokens) (chain 0) .empty =
        (.error (.ofFrontier (Trace.empty.recordAll log).frontier reason.rejectReason 0 (token :: tokens).length),
          Trace.empty.recordAll log) := by
    intro reason log hlog
    have hresult : (p.matcher (token :: tokens)).run (chain 0) .empty = (.aborted reason, _) := hlog.eq .empty
    rw [parseFrom_eq, hresult, judge_aborted]
  constructor
  · intro hlimit
    exact hrun (Matcher.runLog_of_leadingLoop_of_le (m := p.matcher (token :: tokens)) h rfl htag hlimit)
  · intro hlimit
    exact hrun (Matcher.runLog_of_leadingLoop_of_lt (m := p.matcher (token :: tokens)) h rfl htag hlimit)

/-- Noun phrases that lead to nouns and these back to noun phrases, with
alternatives that would match. -/
def leadingPhrases : Parser where
  grammar := ((Grammar.empty.insert "S" [⟨"S", ["NP", "v"]⟩]).insert "NP"
    [⟨"NP", ["N", "adj"]⟩, ⟨"NP", ["det", "n"]⟩]).insert "N" [⟨"N", ["NP", "n"]⟩, ⟨"N", ["n"]⟩]
  lexicon := ⟨⟨[("the", "det"), ("dog", "n"), ("barks", "v")], by decide⟩⟩
  start := "S"
  limit := 512
  start_mem := by decide

theorem parseFrom_leadingLoop_leadingPhrases :
    Grammar.ofText "S -> NP v\nNP -> N adj | det n\nN -> NP n | n" = .ok leadingPhrases.grammar ∧
    ∃ chain, chain 0 = "S" ∧ leadingPhrases.grammar.LeadingLoop chain 3 ∧
      (∀ i, 1 ≤ i → i ≤ 3 → leadingPhrases.lexicon.tag? "the" ≠ some (chain i)) ∧
      leadingPhrases.parseFrom ["the", "dog", "barks"] "S" .empty =
        (.error ⟨.cycle "NP" 0, 0, [], 0, 3⟩, ⟨[.cycle "NP" 0], .start⟩) ∧
      (leadingPhrases.withLimit 2).parseFrom ["the", "dog", "barks"] "S" .empty =
        (.error ⟨.recursionLimit "N" 2, 0, [], 0, 3⟩, ⟨[.recursionLimit "N" 0 2], .start⟩) := by
  let chain : Nat → String := fun | 0 => "S" | 2 => "N" | _ => "NP"
  have hloop : leadingPhrases.grammar.LeadingLoop chain 3 := by
    refine ⟨fun i hi => ?_, by decide, ⟨1, by decide, rfl⟩⟩
    match i, hi with
    | 0, _ | 1, _ | 2, _ => exact .intro rfl rfl
  have htag : ∀ i, 1 ≤ i → i ≤ 3 → leadingPhrases.lexicon.tag? "the" ≠ some (chain i) := by
    intro i hi hi'
    match i, hi, hi' with
    | 1, _, _ | 2, _, _ | 3, _, _ => decide
  refine ⟨by rfl, chain, rfl, hloop, htag, ?_, ?_⟩
  · exact (parseFrom_leadingLoop leadingPhrases chain 3 hloop "the" ["dog", "barks"] htag).1 (by decide)
  · exact (parseFrom_leadingLoop (leadingPhrases.withLimit 2) chain 3 hloop "the" ["dog", "barks"] htag).2
      (by decide)

end Parser

end PhraseStructure
