import PhraseStructure.Proofs.UnknownSymbols
/-!
# Dead alternatives

An alternative that mentions an undefined symbol never matches: matching comes
to that symbol, if it comes that far, and finds neither a token tagged with it
nor a rule for it (`SequenceRun.defined`). Before it fails it may consume tokens
and match other symbols; all this leads to nothing but entries in the trace.

Main statement: without these alternatives the grammar accepts the same
sentences with the same trees, and rejects for the same reason, with as many
tokens matched, what it rejected without being stopped by a guard. A grammar
without some of its dead alternatives makes some of the calls that the whole
grammar makes, so that it is not stopped where the whole one is not
(`SymbolLog.filter`).
-/
namespace PhraseStructure

/-! ## Grammars with fewer alternatives -/

namespace Grammar

/-- The grammar with those alternatives only that are to be kept. Every
nonterminal stays, if need be without alternatives. -/
def filter (keep : Production → Bool) (g : Grammar) : Grammar := ⟨g.table.mapValues (·.filter keep)⟩

/-- Whether an alternative mentions no symbol that is undefined with the
lexicon. -/
def isLive (g : Grammar) (l : Lexicon) (production : Production) : Bool :=
  !production.rhs.any (g.undefinedSymbols l).contains

/-- The grammar without the alternatives that mention an undefined symbol. -/
def withoutUndefined (g : Grammar) (l : Lexicon) : Grammar := g.filter (g.isLive l)

theorem alternatives?_filter (keep : Production → Bool) (g : Grammar) (symbol : String) :
    (g.filter keep).alternatives? symbol = (g.alternatives? symbol).map (·.filter keep) :=
  Table.get?_mapValues ..

@[simp] theorem contains_filter (keep : Production → Bool) (g : Grammar) (symbol : String) :
    (g.filter keep).contains symbol = g.contains symbol := by
  rw [contains_eq_isSome, contains_eq_isSome, alternatives?_filter, Option.isSome_map]

end Grammar

/-! ## Undefined symbols do not match -/

namespace Outcome

variable {α β : Type}

/-- Matching came to its end; no guard stopped it. -/
def Completes (o : Outcome α) : Prop := ∀ reason, o ≠ aborted reason

@[simp] theorem completes_matched {value : α} {stop : Nat} : (matched value stop).Completes := by
  simp [Completes]

@[simp] theorem completes_failed : (failed : Outcome α).Completes := by
  simp [Completes]

@[simp] theorem not_completes_aborted {reason : Abort} : ¬ (aborted reason : Outcome α).Completes :=
  fun h => h reason rfl

@[simp] theorem completes_map {f : α → β} {o : Outcome α} : (o.map f).Completes ↔ o.Completes := by
  simp [Completes]

theorem Completes.exists_matched {o : Outcome α} (h : o.Completes) (hne : o ≠ failed) :
    ∃ value stop, o = matched value stop := by
  cases o with
  | matched value stop => exact ⟨value, stop, rfl⟩
  | failed => exact absurd rfl hne
  | aborted reason => exact absurd rfl (h reason)

theorem exists_of_map_eq_matched {f : α → β} {o : Outcome α} {value : β} {stop : Nat}
    (h : o.map f = matched value stop) : ∃ value', o = matched value' stop := by
  cases o with
  | matched value' stop' => cases h; exact ⟨value', rfl⟩
  | failed | aborted => cases h

end Outcome

namespace Matcher

variable {m : Matcher} {keep : Production → Bool}

/-- Symbols that match have a rule or tag a word. -/
theorem SequenceRun.defined {call : Call} {symbols cursor trace outcome trace'}
    (h : m.SequenceRun call symbols cursor trace outcome trace') {children : List Tree} {stop : Nat}
    (ho : outcome = .matched children stop) :
    ∀ s ∈ symbols, m.grammar.contains s = true ∨ m.lexicon.isTag s = true := by
  induction h generalizing children with
  | nil => simp
  | exhausted | failed | aborted | unknown => cases ho
  | token _ hl _ ih =>
    obtain ⟨_, ho⟩ := Outcome.exists_of_map_eq_matched ho
    intro s hs
    rcases List.mem_cons.1 hs with rfl | hs
    · exact .inr (Lexicon.isTag_iff.2 ⟨_, hl⟩)
    · exact ih ho s hs
  | matched _ _ hc _ _ ih =>
    obtain ⟨_, ho⟩ := Outcome.exists_of_map_eq_matched ho
    intro s hs
    rcases List.mem_cons.1 hs with rfl | hs
    · exact .inl hc
    · exact ih ho s hs

variable (m keep) in
/-- The alternatives that are not to be kept never match. -/
def DropsDead : Prop :=
  ∀ production, keep production = false → ∀ budget path position children stop log,
    ¬ m.SequenceLog budget path production.rhs position (.matched children stop) log

/-- An alternative that mentions an undefined symbol never matches. -/
theorem dropsDead_isLive (m : Matcher) : m.DropsDead (m.grammar.isLive m.lexicon) := by
  intro production hkeep budget path position children stop log hlog
  obtain ⟨s, hs, hundefined⟩ : ∃ s ∈ production.rhs, s ∈ m.grammar.undefinedSymbols m.lexicon := by
    simpa [Grammar.isLive] using hkeep
  obtain ⟨-, hc, ht⟩ := Grammar.mem_undefinedSymbols.1 hundefined
  rcases (hlog.run .empty).defined rfl s hs with h | h
  · simp [hc] at h
  · simp [ht] at h

/-! ## Matching without dead alternatives -/

mutual

/-- What matching comes to without being stopped, it comes to without the dead
alternatives as well. -/
theorem SymbolLog.filter (hdead : m.DropsDead keep) {budget path symbol position outcome log} :
    m.SymbolLog budget path symbol position outcome log → outcome.Completes →
    ∃ log', (m.withRules (m.grammar.filter keep) m.lexicon).SymbolLog budget path symbol position outcome log'
  | .unknown ha, _ => ⟨_, .unknown (by simp [withRules, Grammar.alternatives?_filter, ha])⟩
  | .repeated _ _, ho | .tooDeep _ _, ho | .aborted _ _ _, ho => absurd ho Outcome.not_completes_aborted
  | .matched ha hp hf, _ => by
    obtain ⟨log', hf'⟩ := hf.filter hdead Outcome.completes_matched
    exact ⟨log', .matched (by simp [withRules, Grammar.alternatives?_filter, ha]) hp hf'⟩
  | .failed ha hp hf, _ => by
    obtain ⟨log', hf'⟩ := hf.filter hdead Outcome.completes_failed
    exact ⟨_, .failed (by simp [withRules, Grammar.alternatives?_filter, ha]) hp hf'⟩

/-- A dead alternative that is tried fails, so that it makes no difference
whether it is tried. -/
theorem FirstLog.filter (hdead : m.DropsDead keep) {budget path position productions outcome log} :
    m.FirstLog budget path position productions outcome log → outcome.Completes →
    ∃ log', (m.withRules (m.grammar.filter keep) m.lexicon).FirstLog budget path position
      (productions.filter keep) outcome log'
  | .nil, _ => ⟨_, .nil⟩
  | .next hs hf, ho => by
    obtain ⟨log₁, hs'⟩ := hs.filter hdead Outcome.completes_failed
    obtain ⟨log₂, hf'⟩ := hf.filter hdead ho
    rw [List.filter_cons]
    split
    · exact ⟨_, .next hs' hf'⟩
    · exact ⟨log₂, hf'⟩
  | .here hs hne, ho => by
    obtain ⟨log', hs'⟩ := hs.filter hdead ho
    rw [List.filter_cons]
    split
    · exact ⟨log', .here hs' hne⟩
    · next hkeep =>
      obtain ⟨children, stop, rfl⟩ := ho.exists_matched hne
      exact absurd hs (hdead _ (by simpa using hkeep) _ _ _ _ _ _)

theorem SequenceLog.filter (hdead : m.DropsDead keep) {budget path symbols cursor outcome log} :
    m.SequenceLog budget path symbols cursor outcome log → outcome.Completes →
    ∃ log', (m.withRules (m.grammar.filter keep) m.lexicon).SequenceLog budget path symbols cursor outcome log'
  | .nil, _ => ⟨_, .nil⟩
  | .exhausted ht, _ => ⟨_, .exhausted ht⟩
  | .token ht hl hs, ho => by
    obtain ⟨log', hs'⟩ := hs.filter hdead (Outcome.completes_map.1 ho)
    exact ⟨log', .token ht hl hs'⟩
  | .matched ht hl hc hm hs, ho => by
    obtain ⟨log₁, hm'⟩ := hm.filter hdead Outcome.completes_matched
    obtain ⟨log₂, hs'⟩ := hs.filter hdead (Outcome.completes_map.1 ho)
    exact ⟨_, .matched ht hl (by simpa [withRules] using hc) hm' hs'⟩
  | .failed ht hl hc hf, _ => by
    obtain ⟨log', hf'⟩ := hf.filter hdead Outcome.completes_failed
    exact ⟨log', .failed ht hl (by simpa [withRules] using hc) hf'⟩
  | .aborted _ _ _ _, ho => absurd ho Outcome.not_completes_aborted
  | .unknown ht hl hc, _ => ⟨_, .unknown ht hl (by simpa [withRules] using hc)⟩

end

end Matcher

/-! ## Main theorem -/

namespace Parser

/-- The parser without the alternatives that mention an undefined symbol. -/
def withoutUndefined (p : Parser) : Parser where
  grammar := p.grammar.withoutUndefined p.lexicon
  lexicon := p.lexicon
  start := p.start
  limit := p.limit
  start_mem := (Grammar.contains_filter ..).trans p.start_mem

variable {p : Parser} {tokens : List String} {symbol : String}

/-- A parse that no guard stops comes to the same verdict without the
alternatives that mention an undefined symbol. -/
theorem sameVerdict_withoutUndefined {trace : Trace}
    (ho : ((p.matcher tokens).run symbol trace).1.Completes) (trace' : Trace) :
    SameVerdict (p.parseFrom tokens symbol trace).1 (p.withoutUndefined.parseFrom tokens symbol trace').1 := by
  obtain ⟨outcome, log, hlog, hrun⟩ := Matcher.exists_runLog (p.matcher tokens) symbol
  rw [hrun] at ho
  obtain ⟨log', hlog'⟩ := hlog.filter (p.matcher tokens).dropsDead_isLive ho
  have hrun' : (p.withoutUndefined.matcher tokens).run symbol trace' = (outcome, trace'.recordAll log') :=
    hlog'.eq trace'
  have hcontains : p.withoutUndefined.grammar.contains symbol = p.grammar.contains symbol :=
    Grammar.contains_filter ..
  rw [parseFrom_eq, parseFrom_eq, hrun, hrun', judge_congr hcontains]
  exact sameVerdict_judge _ _

/-- Let the alternatives that mention an undefined symbol be removed from the
grammar. What was accepted is accepted with the same tree. What was rejected
because the symbol has no rule, does not match or leaves tokens is rejected for
the same reason, with as many tokens matched. The traces that the two parses
start with may differ. -/
theorem parseFrom_withoutUndefined (p : Parser) (tokens : List String) (symbol : String) (trace trace' : Trace) :
    (∀ d, (p.parseFrom tokens symbol trace).1 = .ok d →
      (p.withoutUndefined.parseFrom tokens symbol trace').1 = .ok d) ∧
    (∀ r, (p.parseFrom tokens symbol trace).1 = .error r →
      (∃ s, r.reason = .noMatch s) ∨ (∃ s, r.reason = .unknownSymbol s) ∨ r.reason = .incomplete →
      ∃ r', (p.withoutUndefined.parseFrom tokens symbol trace').1 = .error r' ∧
        r'.reason = r.reason ∧ r'.consumed = r.consumed) := by
  constructor
  · intro d hd
    have hmatched : ((p.matcher tokens).run symbol trace).1 = .matched d.tree tokens.length :=
      (judge_eq_ok_iff.1 hd).1
    have hsame := sameVerdict_withoutUndefined (hmatched ▸ Outcome.completes_matched) trace'
    rw [hd] at hsame
    exact hsame.eq_ok
  · intro r hr hreason
    have hcompletes : ((p.matcher tokens).run symbol trace).1.Completes := by
      intro reason ha
      rw [parseFrom_eq, ha, judge_aborted] at hr
      cases hr
      cases reason <;> simp [Rejection.ofFrontier, Abort.rejectReason] at hreason
    have hsame := sameVerdict_withoutUndefined hcompletes trace'
    rw [hr] at hsame
    exact hsame.exists_error

/-- Noun phrases with a place for prepositional phrases and for verbs, of which
the lexicon has none. -/
def verblessPhrases : Grammar :=
  (((Grammar.empty.insert "S" [⟨"S", ["NP", "VP"]⟩]).insert "NP" [⟨"NP", ["n", "PP"]⟩, ⟨"NP", ["n"]⟩]).insert
    "PP" [⟨"PP", ["prep", "NP"]⟩]).insert "VP" [⟨"VP", ["v", "NP"]⟩, ⟨"VP", ["n"]⟩]

theorem parseFrom_withoutUndefined_verblessPhrases :
    let p : Parser := ⟨verblessPhrases, Matcher.nouns, "S", 6, by decide⟩
    p.grammar.undefinedSymbols p.lexicon = ["prep", "v"] ∧
    (p.withoutUndefined.parseFrom ["dog", "cat"] "S" .empty).1 =
      .ok ⟨.node "S" [.node "NP" [.tagged "n" "dog"], .node "VP" [.tagged "n" "cat"]], 2⟩ ∧
    (p.parseFrom ["dog", "cat", "cat"] "S" .empty).1 = .error ⟨.incomplete, 2, [], 2, 3⟩ ∧
    ∃ r', (p.withoutUndefined.parseFrom ["dog", "cat", "cat"] "S" .empty).1 = .error r' ∧
      r'.reason = .incomplete ∧ r'.consumed = 2 := by
  intro p
  have hr : (p.parseFrom ["dog", "cat", "cat"] "S" .empty).1 = .error ⟨.incomplete, 2, [], 2, 3⟩ := by decide
  exact ⟨by decide, (parseFrom_withoutUndefined p ["dog", "cat"] "S" .empty .empty).1 _ (by decide), hr,
    (parseFrom_withoutUndefined p ["dog", "cat", "cat"] "S" .empty .empty).2 _ hr (.inr (.inr rfl))⟩

end Parser

end PhraseStructure
