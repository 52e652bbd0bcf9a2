import Mathlib.Data.Nat.Find
import PhraseStructure.Proofs.Calls
import PhraseStructure.Proofs.Log
import PhraseStructure.Proofs.Verdicts
/-!
# The limit on nested calls

Main statement: a sentence has a threshold, at most the number of rules times
that of positions. With a smaller limit the parse is cut short, with any other
it comes to the same end and leaves the same trace. The threshold does not
depend on the trace that the parse starts with (`matchSymbol_outcome_eq`).

Two runs with different limits agree as long as the smaller limit does not tell:
their calls are the same, and a call that is cut short would cut short the whole
run (`extends_matchSymbol`).
-/
namespace PhraseStructure

namespace Matcher

/-- The matcher with another limit. -/
def withLimit (m : Matcher) (limit : Nat) : Matcher := { m with limit }

variable {m : Matcher} {call : Call} {L L' : Nat}

/-! ## Larger limits -/

theorem matchSequence_withLimit (symbols : List String) (cursor : Nat) (trace : Trace) :
    (m.withLimit L).matchSequence call symbols cursor trace = m.matchSequence call symbols cursor trace := by
  induction symbols generalizing cursor trace with
  | nil => rfl
  | cons symbol symbols ih =>
    simp only [matchSequence, ih]
    rfl

theorem matchFirst_withLimit (position : Nat) (productions : List Production) (trace : Trace) :
    (m.withLimit L).matchFirst call position productions trace =
      m.matchFirst call position productions trace := by
  induction productions generalizing trace with
  | nil => rfl
  | cons production productions ih => simp only [matchFirst, matchSequence_withLimit, ih]

/-- A run that is not cut short makes no call that is. -/
theorem FirstRun.not_isTooDeep {position productions trace outcome trace'}
    (h : m.FirstRun call position productions trace outcome trace') (ho : ¬ outcome.IsTooDeep) {s q u}
    (hs : m.FirstCalls call position productions trace s q u) : ¬ (call s q u).1.IsTooDeep := by
  rintro ⟨symbol, limit, hd⟩
  have ha := firstRun_aborted_iff.2 ⟨s, q, u, hs, Prod.ext hd rfl⟩
  cases ha.eq.symm.trans h.eq
  exact ho ⟨symbol, limit, rfl⟩

/-- What `extends_matchSymbol` says of one budget. -/
def Extends (m : Matcher) (L budget : Nat) : Prop :=
  ∀ budget', budget ≤ budget' → ∀ path s q u, ¬ (m.matchSymbol budget path s q u).1.IsTooDeep →
    (m.withLimit L).matchSymbol budget' path s q u = m.matchSymbol budget path s q u

theorem FirstRun.withLimit {budget budget' : Nat} (hb : budget ≤ budget') (hcall : m.Extends L budget)
    {path position productions trace outcome trace'}
    (h : m.FirstRun (m.matchSymbol budget path) position productions trace outcome trace')
    (ho : ¬ outcome.IsTooDeep) :
    (m.withLimit L).FirstRun ((m.withLimit L).matchSymbol budget' path) position productions trace outcome
      trace' := by
  rw [← matchFirst_eq_iff, matchFirst_withLimit, matchFirst_eq_iff]
  exact h.congr fun s q u hs => hcall budget' hb path s q u (h.not_isTooDeep ho hs)

theorem SymbolRun.withLimit {budget budget' : Nat} (hb : budget ≤ budget')
    (hcall : ∀ b < budget, m.Extends L b) {path symbol position trace outcome trace'}
    (h : m.SymbolRun budget path symbol position trace outcome trace') (ho : ¬ outcome.IsTooDeep) :
    (m.withLimit L).SymbolRun budget' path symbol position trace outcome trace' := by
  cases h with
  | unknown ha => exact .unknown ha
  | repeated hc hp => exact .repeated hc hp
  | tooDeep => exact absurd ⟨_, _, rfl⟩ ho
  | matched ha hp hf =>
    obtain ⟨k, rfl⟩ := Nat.exists_eq_add_of_lt hb
    have hf := hf.withLimit (Nat.le_add_right _ k) (hcall _ (Nat.lt_succ_self _)) Outcome.not_isTooDeep_matched
    exact .matched ha hp hf
  | failed ha hp hf =>
    obtain ⟨k, rfl⟩ := Nat.exists_eq_add_of_lt hb
    have hf := hf.withLimit (Nat.le_add_right _ k) (hcall _ (Nat.lt_succ_self _)) Outcome.not_isTooDeep_failed
    exact .failed ha hp hf
  | aborted ha hp hf =>
    obtain ⟨k, rfl⟩ := Nat.exists_eq_add_of_lt hb
    rw [Outcome.isTooDeep_aborted] at ho
    have hf := hf.withLimit (Nat.le_add_right _ k) (hcall _ (Nat.lt_succ_self _))
      (Outcome.isTooDeep_aborted.not.2 ho)
    exact .aborted ha hp hf

/-- Without a call that the limit refuses, a larger budget and another limit
make no difference. -/
theorem extends_matchSymbol (budget : Nat) : m.Extends L budget := by
  induction budget using Nat.strongRecOn with
  | ind budget ih =>
    intro budget' hb path s q u h
    exact ((matchSymbol_run m budget path s q u).withLimit hb ih h).eq

/-- A run that its limit does not cut short is the run with every larger
limit. -/
theorem run_withLimit_eq {symbol : String} {trace : Trace} (hL : L ≤ L')
    (h : ¬ ((m.withLimit L).run symbol trace).1.IsTooDeep) :
    (m.withLimit L').run symbol trace = (m.withLimit L).run symbol trace :=
  extends_matchSymbol (m := m.withLimit L) L L' hL [] symbol 0 trace h

/-- A run that is cut short names its own limit. -/
theorem limit_eq_of_tooDeep {symbol : String} {trace : Trace} {s : String} {limit : Nat}
    (h : (m.run symbol trace).1 = .aborted (.tooDeep s limit)) : limit = m.limit := by
  obtain ⟨v, vs, -, hr⟩ := exists_refused_of_aborted h
  cases hr
  rfl

/-! ## Other traces -/

/-- The outcomes of calls do not depend on their traces. -/
def IgnoresTrace (call : Call) : Prop := ∀ s q u u', (call s q u).1 = (call s q u').1

/-- What matching comes to does not depend on the trace so far. -/
theorem matchSymbol_outcome_eq (budget : Nat) (path : List (String × Nat)) :
    IgnoresTrace (m.matchSymbol budget path) := by
  intro s q u u'
  obtain ⟨log, h⟩ := exists_symbolLog m budget path s q u
  rw [h.eq u']

end Matcher

/-! ## The threshold -/

namespace Parser

variable {p : Parser} {tokens : List String} {symbol : String} {trace : Trace} {L L' : Nat}

theorem cutShort_iff :
    CutShort (p.parseFrom tokens symbol trace).1 ↔ ((p.matcher tokens).run symbol trace).1.IsTooDeep := by
  simp only [CutShort, parseFrom_eq, judge_recursionLimit_iff, Outcome.IsTooDeep]

/-- Only the limit of the parser itself is named. -/
theorem exists_rejectedFor_of_cutShort (h : CutShort (p.parseFrom tokens symbol trace).1) :
    ∃ s, RejectedFor (.recursionLimit s p.limit) (p.parseFrom tokens symbol trace).1 := by
  obtain ⟨s, limit, hr⟩ := h
  rw [parseFrom_eq, judge_recursionLimit_iff] at hr
  rw [← show limit = p.limit from Matcher.limit_eq_of_tooDeep hr]
  exact ⟨s, by rwa [parseFrom_eq, judge_recursionLimit_iff]⟩

/-- Whether the limit tells does not depend on the trace so far. -/
theorem cutShort_congr (trace' : Trace) :
    CutShort (p.parseFrom tokens symbol trace).1 ↔ CutShort (p.parseFrom tokens symbol trace').1 := by
  rw [cutShort_iff, cutShort_iff, show ((p.matcher tokens).run symbol trace).1 =
    ((p.matcher tokens).run symbol trace').1 from Matcher.matchSymbol_outcome_eq _ _ _ _ _ _]

theorem parseFrom_withLimit_eq (hL : L ≤ L')
    (h : ¬ CutShort ((p.withLimit L).parseFrom tokens symbol trace).1) :
    (p.withLimit L').parseFrom tokens symbol trace = (p.withLimit L).parseFrom tokens symbol trace := by
  rw [cutShort_iff] at h
  have hrun : ((p.withLimit L').matcher tokens).run symbol trace =
      ((p.withLimit L).matcher tokens).run symbol trace :=
    Matcher.run_withLimit_eq (m := p.matcher tokens) hL h
  rw [parseFrom_eq, parseFrom_eq, hrun]
  rfl

/-- The limit is large enough for the sentence. -/
def Suffices (p : Parser) (tokens : List String) (symbol : String) (limit : Nat) : Prop :=
  ¬ CutShort ((p.withLimit limit).parseFrom tokens symbol .empty).1

theorem suffices_iff (trace : Trace) :
    p.Suffices tokens symbol L ↔ ¬ CutShort ((p.withLimit L).parseFrom tokens symbol trace).1 :=
  (cutShort_congr trace).not

theorem suffices_bound : p.Suffices tokens symbol (p.grammar.size * max 1 tokens.length) := by
  rw [Suffices, cutShort_iff]
  exact Matcher.not_isTooDeep_of_le (Nat.le_refl _)

theorem suffices_of_not_contains (hc : p.grammar.contains symbol = false) : p.Suffices tokens symbol L := by
  have hrun : ((p.withLimit L).matcher tokens).run symbol .empty = (.failed, _) :=
    (Matcher.SymbolRun.unknown (Grammar.alternatives?_eq_none.2 hc)).eq
  simp [Suffices, cutShort_iff, hrun]

/-- Every sentence has a threshold `D` for the limit on nested calls, at most
the number of rules times that of positions, and the same for every trace that
the parse may start with. From `D` on the limit makes no difference to the
verdict and to the trace and is never exceeded; below `D` the sentence is
rejected for exceeding it. Hence a larger limit changes no verdict but that one.
Whatever the limit, no call of `matchSymbol` is nested in more calls than the
bound, and one that is not refused for being its own part counts among them. -/
theorem parseFrom_limit_threshold (p : Parser) (tokens : List String) (symbol : String) :
    ∃ D ≤ p.grammar.size * max 1 tokens.length,
      (p.grammar.contains symbol = false → D = 0) ∧
      (∀ trace L, D ≤ L →
        (p.withLimit L).parseFrom tokens symbol trace = (p.withLimit D).parseFrom tokens symbol trace ∧
        ¬ CutShort ((p.withLimit L).parseFrom tokens symbol trace).1) ∧
      (∀ trace L, L < D →
        ∃ s, RejectedFor (.recursionLimit s L) ((p.withLimit L).parseFrom tokens symbol trace).1) ∧
      (∀ trace L L', L ≤ L' → ¬ CutShort ((p.withLimit L).parseFrom tokens symbol trace).1 →
        (p.withLimit L').parseFrom tokens symbol trace = (p.withLimit L).parseFrom tokens symbol trace) ∧
      (∀ trace L v vs, ((p.withLimit L).matcher tokens).CallStack symbol trace v vs →
        vs.length ≤ p.grammar.size * max 1 tokens.length ∧
        (p.grammar.contains v.symbol = true → v.key ∉ v.path →
          vs.length < p.grammar.size * max 1 tokens.length)) := by
  classical
  -- The least limit that suffices for one trace suffices for all of them.
  have hex : ∃ L, p.Suffices tokens symbol L := ⟨_, suffices_bound⟩
  refine ⟨Nat.find hex, Nat.find_min' hex suffices_bound, ?_, ?_, ?_, ?_, ?_⟩
  · intro hc
    exact (Nat.find_eq_zero hex).2 (suffices_of_not_contains hc)
  · intro trace L hL
    have hfrom := (suffices_iff trace).1 (Nat.find_spec hex)
    have heq := parseFrom_withLimit_eq hL hfrom
    exact ⟨heq, heq ▸ hfrom⟩
  · intro trace L hL
    have hshort := Nat.find_min hex hL
    rw [suffices_iff trace, not_not] at hshort
    exact exists_rejectedFor_of_cutShort hshort
  · intro trace L L' hL h
    exact parseFrom_withLimit_eq hL h
  · intro trace L v vs h
    exact ⟨h.length_le, h.length_lt⟩

end Parser

end PhraseStructure
