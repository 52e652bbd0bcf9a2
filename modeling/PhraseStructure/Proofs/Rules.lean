import PhraseStructure.Matching
/-!
# The rules of matching

What one level of matching can do, one rule for each case: `SequenceRun` for the
symbols of an alternative, `FirstRun` for the alternatives of a symbol and
`SymbolRun` for a symbol. The main statements say that these are what matching
computes (`matchSequence_eq_iff`, `matchFirst_eq_iff`, `matchSymbol_eq_iff`);
proofs about matching go by induction on the rules.
-/
namespace PhraseStructure

/-! ## Outcomes -/

namespace Outcome

variable {α β : Type}

/-- What the outcome says about the symbol matched: its value and where that
stops, or that it fails. An abort says nothing. -/
def answer? : Outcome α → Option (Option (α × Nat))
  | matched value stop => some (some (value, stop))
  | failed => some none
  | aborted _ => none

/-- Whether the outcome comes from the limit on nested calls. -/
def IsTooDeep (o : Outcome α) : Prop := ∃ symbol limit, o = aborted (.tooDeep symbol limit)

@[simp] theorem map_eq_aborted {f : α → β} {o : Outcome α} {reason : Abort} :
    o.map f = aborted reason ↔ o = aborted reason := by
  cases o <;> simp [map]

@[simp] theorem not_isTooDeep_matched {value : α} {stop : Nat} : ¬ (matched value stop).IsTooDeep := by
  simp [IsTooDeep]

@[simp] theorem not_isTooDeep_failed : ¬ (failed : Outcome α).IsTooDeep := by
  simp [IsTooDeep]

theorem isTooDeep_aborted {reason : Abort} :
    (aborted reason : Outcome α).IsTooDeep ↔ ∃ symbol limit, reason = .tooDeep symbol limit := by
  simp [IsTooDeep]

end Outcome

theorem Grammar.contains_eq_isSome (g : Grammar) (symbol : String) :
    g.contains symbol = (g.alternatives? symbol).isSome := rfl

theorem Grammar.contains_iff {g : Grammar} {symbol : String} :
    g.contains symbol = true ↔ ∃ alternatives, g.alternatives? symbol = some alternatives :=
  Option.isSome_iff_exists

theorem Grammar.alternatives?_eq_none {g : Grammar} {symbol : String} :
    g.alternatives? symbol = none ↔ g.contains symbol = false :=
  Option.isSome_eq_false_iff.trans Option.isNone_iff_eq_none |>.symm

namespace Matcher

variable (m : Matcher)

/-! ## Rules -/

/-- Matching the symbols of an alternative from a cursor on: its outcome, and
the trace it leaves. -/
inductive SequenceRun (call : Call) : List String → Nat → Trace → Outcome (List Tree) → Trace → Prop
  | nil {cursor trace} : SequenceRun call [] cursor trace (.matched [] cursor) trace
  | exhausted {symbol symbols cursor trace} : m.tokens[cursor]? = none →
    SequenceRun call (symbol :: symbols) cursor trace .failed (trace.expect symbol cursor)
  | token {symbol symbols cursor trace token outcome trace'} :
    m.tokens[cursor]? = some token → m.lexicon.tag? token = some symbol →
    SequenceRun call symbols (cursor + 1) trace outcome trace' →
    SequenceRun call (symbol :: symbols) cursor trace (outcome.map (Tree.tagged symbol token :: ·)) trace'
  | matched {symbol symbols cursor trace token tree stop trace' outcome trace''} :
    m.tokens[cursor]? = some token → m.lexicon.tag? token ≠ some symbol →
    m.grammar.contains symbol = true → call symbol cursor trace = (.matched tree stop, trace') →
    SequenceRun call symbols stop trace' outcome trace'' →
    SequenceRun call (symbol :: symbols) cursor trace (outcome.map (tree :: ·)) trace''
  | failed {symbol symbols cursor trace token trace'} :
    m.tokens[cursor]? = some token → m.lexicon.tag? token ≠ some symbol →
    m.grammar.contains symbol = true → call symbol cursor trace = (.failed, trace') →
    SequenceRun call (symbol :: symbols) cursor trace .failed trace'
  | aborted {symbol symbols cursor trace token reason trace'} :
    m.tokens[cursor]? = some token → m.lexicon.tag? token ≠ some symbol →
    m.grammar.contains symbol = true → call symbol cursor trace = (.aborted reason, trace') →
    SequenceRun call (symbol :: symbols) cursor trace (.aborted reason) trace'
  | unknown {symbol symbols cursor trace token} :
    m.tokens[cursor]? = some token → m.lexicon.tag? token ≠ some symbol →
    m.grammar.contains symbol = false →
    SequenceRun call (symbol :: symbols) cursor trace .failed
      ((if m.lexicon.isTag symbol then trace else trace.reportUnknown symbol cursor).expect symbol cursor)

/-- Matching the first of some alternatives that matches. -/
inductive FirstRun (call : Call) (position : Nat) :
    List Production → Trace → Outcome (List Tree) → Trace → Prop
  | nil {trace} : FirstRun call position [] trace .failed trace
  | next {production productions trace trace' outcome trace''} :
    m.SequenceRun call production.rhs position trace .failed trace' →
    FirstRun call position productions trace' outcome trace'' →
    FirstRun call position (production :: productions) trace outcome trace''
  | here {production productions trace outcome trace'} :
    m.SequenceRun call production.rhs position trace outcome trace' → outcome ≠ .failed →
    FirstRun call position (production :: productions) trace outcome trace'

/-- Matching a symbol, given how the calls below it are matched. -/
inductive SymbolRun : Nat → List (String × Nat) → String → Nat → Trace → Outcome Tree → Trace → Prop
  | unknown {budget path symbol position trace} : m.grammar.alternatives? symbol = none →
    SymbolRun budget path symbol position trace .failed (trace.reportUnknown symbol position)
  | repeated {budget path symbol position trace} :
    m.grammar.contains symbol = true → (symbol, position) ∈ path →
    SymbolRun budget path symbol position trace (.aborted (.cycle symbol position))
      (trace.report (.cycle symbol position))
  | tooDeep {path symbol position trace} :
    m.grammar.contains symbol = true → (symbol, position) ∉ path →
    SymbolRun 0 path symbol position trace (.aborted (.tooDeep symbol m.limit))
      (trace.report (.recursionLimit symbol position m.limit))
  | matched {budget path symbol position trace alternatives children stop trace'} :
    m.grammar.alternatives? symbol = some alternatives → (symbol, position) ∉ path →
    m.FirstRun (m.matchSymbol budget ((symbol, position) :: path)) position alternatives trace
      (.matched children stop) trace' →
    SymbolRun (budget + 1) path symbol position trace (.matched (.node symbol children) stop) trace'
  | failed {budget path symbol position trace alternatives trace'} :
    m.grammar.alternatives? symbol = some alternatives → (symbol, position) ∉ path →
    m.FirstRun (m.matchSymbol budget ((symbol, position) :: path)) position alternatives trace
      .failed trace' →
    SymbolRun (budget + 1) path symbol position trace .failed (trace'.report (.noMatch symbol position))
  | aborted {budget path symbol position trace alternatives reason trace'} :
    m.grammar.alternatives? symbol = some alternatives → (symbol, position) ∉ path →
    m.FirstRun (m.matchSymbol budget ((symbol, position) :: path)) position alternatives trace
      (.aborted reason) trace' →
    SymbolRun (budget + 1) path symbol position trace (.aborted reason) trace'

/-! ## Matching follows the rules -/

variable {m} {call : Call}

theorem matchSequence_run (m : Matcher) (call : Call) (symbols : List String) (cursor : Nat) (trace : Trace) :
    m.SequenceRun call symbols cursor trace (m.matchSequence call symbols cursor trace).1
      (m.matchSequence call symbols cursor trace).2 := by
  induction symbols generalizing cursor trace with
  | nil => exact .nil
  | cons symbol symbols ih =>
    rw [matchSequence]
    cases ht : m.tokens[cursor]? with
    | none => exact .exhausted ht
    | some token =>
      by_cases hl : m.lexicon.tag? token = some symbol
      · simp only [hl, if_true]
        exact .token ht hl (ih _ _)
      · cases hc : m.grammar.contains symbol with
        | false =>
          simp only [hl, if_false]
          exact .unknown ht hl hc
        | true =>
          simp only [hl, if_false, if_true]
          cases hcall : call symbol cursor trace with
          | mk outcome trace' =>
            cases outcome with
            | matched tree stop => exact .matched ht hl hc hcall (ih _ _)
            | failed => exact .failed ht hl hc hcall
            | aborted reason => exact .aborted ht hl hc hcall

theorem SequenceRun.eq {symbols cursor trace outcome trace'}
    (h : m.SequenceRun call symbols cursor trace outcome trace') :
    m.matchSequence call symbols cursor trace = (outcome, trace') := by
  induction h with
  | nil => rfl
  | exhausted ht => simp [matchSequence, ht]
  | token ht hl _ ih => simp [matchSequence, ht, hl, ih]
  | matched ht hl hc hcall _ ih => simp [matchSequence, ht, hl, hc, hcall, ih]
  | failed ht hl hc hcall => simp [matchSequence, ht, hl, hc, hcall]
  | aborted ht hl hc hcall => simp [matchSequence, ht, hl, hc, hcall]
  | unknown ht hl hc => simp [matchSequence, ht, hl, hc]

theorem matchSequence_eq_iff {symbols cursor trace outcome trace'} :
    m.matchSequence call symbols cursor trace = (outcome, trace') ↔
      m.SequenceRun call symbols cursor trace outcome trace' :=
  ⟨fun h => by simpa [h] using matchSequence_run m call symbols cursor trace, SequenceRun.eq⟩

theorem matchFirst_run (m : Matcher) (call : Call) (position : Nat) (productions : List Production)
    (trace : Trace) :
    m.FirstRun call position productions trace (m.matchFirst call position productions trace).1
      (m.matchFirst call position productions trace).2 := by
  induction productions generalizing trace with
  | nil => exact .nil
  | cons production productions ih =>
    rw [matchFirst]
    cases hs : m.matchSequence call production.rhs position trace with
    | mk outcome trace' =>
      have hs := matchSequence_eq_iff.1 hs
      cases outcome with
      | failed => exact .next hs (ih _)
      | matched trees stop => exact .here hs (by simp)
      | aborted reason => exact .here hs (by simp)

theorem FirstRun.eq {position productions trace outcome trace'}
    (h : m.FirstRun call position productions trace outcome trace') :
    m.matchFirst call position productions trace = (outcome, trace') := by
  induction h with
  | nil => rfl
  | next hs _ ih => simp [matchFirst, hs.eq, ih]
  | @here _ _ _ outcome _ hs hne =>
    rw [matchFirst, hs.eq]
    cases outcome <;> simp_all

theorem matchFirst_eq_iff {position productions trace outcome trace'} :
    m.matchFirst call position productions trace = (outcome, trace') ↔
      m.FirstRun call position productions trace outcome trace' :=
  ⟨fun h => by simpa [h] using matchFirst_run m call position productions trace, FirstRun.eq⟩

theorem matchSymbol_run (m : Matcher) (budget : Nat) (path : List (String × Nat)) (symbol : String)
    (position : Nat) (trace : Trace) :
    m.SymbolRun budget path symbol position trace (m.matchSymbol budget path symbol position trace).1
      (m.matchSymbol budget path symbol position trace).2 := by
  rw [matchSymbol.eq_def]
  cases ha : m.grammar.alternatives? symbol with
  | none => exact .unknown ha
  | some alternatives =>
    have hc := Grammar.contains_iff.2 ⟨_, ha⟩
    by_cases hp : (symbol, position) ∈ path
    · simp only [hp, if_true]
      exact .repeated hc hp
    · simp only [hp, if_false]
      cases budget with
      | zero => exact .tooDeep hc hp
      | succ budget =>
        have hf :=
          matchFirst_run m (m.matchSymbol budget ((symbol, position) :: path)) position alternatives trace
        dsimp only
        generalize m.matchFirst (m.matchSymbol budget ((symbol, position) :: path)) position alternatives
          trace = result at hf
        obtain ⟨outcome, trace'⟩ := result
        cases outcome with
        | matched children stop => exact .matched ha hp hf
        | failed => exact .failed ha hp hf
        | aborted reason => exact .aborted ha hp hf

theorem SymbolRun.eq {budget path symbol position trace outcome trace'}
    (h : m.SymbolRun budget path symbol position trace outcome trace') :
    m.matchSymbol budget path symbol position trace = (outcome, trace') := by
  cases h with
  | unknown ha => rw [matchSymbol.eq_def]; simp [ha]
  | repeated hc hp =>
    obtain ⟨_, ha⟩ := Grammar.contains_iff.1 hc
    rw [matchSymbol.eq_def]; simp [ha, hp]
  | tooDeep hc hp =>
    obtain ⟨_, ha⟩ := Grammar.contains_iff.1 hc
    rw [matchSymbol.eq_def]; simp [ha, hp]
  | matched ha hp hf => rw [matchSymbol.eq_def]; simp [ha, hp, hf.eq]
  | failed ha hp hf => rw [matchSymbol.eq_def]; simp [ha, hp, hf.eq]
  | aborted ha hp hf => rw [matchSymbol.eq_def]; simp [ha, hp, hf.eq]

theorem matchSymbol_eq_iff {budget path symbol position trace outcome trace'} :
    m.matchSymbol budget path symbol position trace = (outcome, trace') ↔
      m.SymbolRun budget path symbol position trace outcome trace' :=
  ⟨fun h => by simpa [h] using matchSymbol_run m budget path symbol position trace, SymbolRun.eq⟩

end Matcher

end PhraseStructure
