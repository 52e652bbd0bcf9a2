import PhraseStructure.Proofs.GrammarText
import PhraseStructure.Proofs.Log
import PhraseStructure.Proofs.OrderedChoice
import PhraseStructure.Proofs.Verdicts
/-!
# How far matching comes

A match stops where it starts or further on, and a failed one has expected a
symbol where it starts or further on (`Outcome.Advances`), provided that every
nonterminal has an alternative. So no diagnostic lies beyond the symbols
expected, unless it reports why the match is aborted (`SymbolLog.covers`).

Main statement: the position of a rejection is at least that of every diagnostic
but the one that reports an abort. The frontier knows nothing of that one, so a
parse that is aborted after some tokens can be rejected at the first of them
(`Parser.abort_behind_position`).
-/
namespace PhraseStructure

/-! ## Progress -/

/-- A symbol is expected at a position or further on. -/
def ExpectsFrom (log : List Event) (position : Nat) : Prop :=
  ∃ s q, .expectation s q ∈ log ∧ position ≤ q

theorem ExpectsFrom.mono {log log' : List Event} {position position' : Nat} (h : ExpectsFrom log position)
    (hsub : log ⊆ log') (hle : position' ≤ position) : ExpectsFrom log' position' := by
  obtain ⟨s, q, he, hq⟩ := h
  exact ⟨s, q, hsub he, Nat.le_trans hle hq⟩

/-- From a position on: a match stops there or further on, and a failed one has
expected a symbol there or further on. -/
def Outcome.Advances {α : Type} (outcome : Outcome α) (log : List Event) (position : Nat) : Prop :=
  match outcome with
  | matched _ stop => position ≤ stop
  | failed => ExpectsFrom log position
  | aborted _ => True

namespace Outcome

variable {α β : Type} {outcome : Outcome α} {log log' : List Event} {position position' : Nat}

theorem Advances.mono (h : outcome.Advances log position) (hsub : log ⊆ log') (hle : position' ≤ position) :
    outcome.Advances log' position' := by
  cases outcome with
  | matched value stop => exact Nat.le_trans hle h
  | failed => exact ExpectsFrom.mono h hsub hle
  | aborted reason => trivial

theorem advances_map {f : α → β} :
    (outcome.map f).Advances log position ↔ outcome.Advances log position := by
  cases outcome <;> rfl

end Outcome

namespace Matcher

variable {m : Matcher}

mutual

theorem SymbolLog.advances (hg : m.grammar.NoEmptyRule) {budget path symbol position outcome log} :
    m.SymbolLog budget path symbol position outcome log → m.grammar.contains symbol = true →
    outcome.Advances log position
  | .unknown ha, hc => by simp [Grammar.alternatives?_eq_none.1 ha] at hc
  | .repeated _ _, _ => trivial
  | .tooDeep _ _, _ => trivial
  | .matched _ _ hf, _ => hf.advances hg nofun
  | .failed ha _ hf, _ => (hf.advances hg fun _ => hg _ _ ha).mono (List.subset_append_left _ _) (Nat.le_refl _)
  | .aborted _ _ _, _ => trivial

theorem FirstLog.advances (hg : m.grammar.NoEmptyRule) {budget path position productions outcome log} :
    m.FirstLog budget path position productions outcome log → (outcome = .failed → productions ≠ []) →
    outcome.Advances log position
  | .nil, hne => absurd rfl (hne rfl)
  | .here hs _, _ => hs.advances hg
  | @FirstLog.next _ _ _ _ _ _ _ outcome _ hs hf, _ => by
    have hhead := hs.advances hg
    have htail := hf.advances hg
    cases outcome with
    | matched children stop => exact (htail nofun).mono (List.subset_append_right _ _) (Nat.le_refl _)
    | failed => exact hhead.mono (List.subset_append_left _ _) (Nat.le_refl _)
    | aborted reason => trivial

theorem SequenceLog.advances (hg : m.grammar.NoEmptyRule) {budget path symbols cursor outcome log} :
    m.SequenceLog budget path symbols cursor outcome log → outcome.Advances log cursor
  | .nil => Nat.le_refl _
  | .exhausted _ => ⟨_, _, List.mem_singleton_self _, Nat.le_refl _⟩
  | .token _ _ hs => Outcome.advances_map.2 ((hs.advances hg).mono (List.Subset.refl _) (Nat.le_succ _))
  | .matched _ _ hc hm hs =>
    have hstop : (Outcome.matched _ _).Advances _ _ := hm.advances hg hc
    Outcome.advances_map.2 ((hs.advances hg).mono (List.subset_append_right _ _) hstop)
  | .failed _ _ hc hf => hf.advances hg hc
  | .aborted _ _ _ _ => trivial
  | .unknown _ _ _ => ⟨_, _, expectation_mem_mismatch.2 ⟨rfl, rfl⟩, Nat.le_refl _⟩

end

end Matcher

/-! ## Aborts -/

/-- The reason of a rejection after an abort. -/
def Abort.rejectReason : Abort → RejectReason
  | cycle symbol position => .cycle symbol position
  | tooDeep symbol limit => .recursionLimit symbol limit

/-- The diagnostic reports the abort that is the reason of a rejection. -/
def RejectReason.ReportedBy : RejectReason → Diagnostic → Prop
  | cycle symbol position, d => d = .cycle symbol position
  | recursionLimit symbol limit, d => ∃ position, d = .recursionLimit symbol position limit
  | _, _ => False

/-- A diagnostic lies where a symbol was expected or before, or it reports why
the outcome is an abort. -/
def Outcome.Covers {α : Type} (outcome : Outcome α) (log : List Event) (d : Diagnostic) : Prop :=
  ExpectsFrom log d.position ∨ ∃ reason, outcome = .aborted reason ∧ reason.rejectReason.ReportedBy d

theorem Outcome.Covers.mono {α β : Type} {outcome : Outcome α} {outcome' : Outcome β} {log log' : List Event}
    {d : Diagnostic} (h : outcome.Covers log d) (hsub : log ⊆ log')
    (ho : ∀ reason, outcome = .aborted reason → outcome' = .aborted reason) : outcome'.Covers log' d := by
  rcases h with he | ⟨reason, rfl, hr⟩
  · exact .inl (he.mono hsub (Nat.le_refl _))
  · exact .inr ⟨reason, ho reason rfl, hr⟩

namespace Matcher

variable {m : Matcher}

mutual

theorem SymbolLog.covers (hg : m.grammar.NoEmptyRule) {budget path symbol position outcome log} :
    m.SymbolLog budget path symbol position outcome log → m.grammar.contains symbol = true →
    ∀ d, .diagnostic d ∈ log → outcome.Covers log d
  | .unknown ha, hc, _, _ => by simp [Grammar.alternatives?_eq_none.1 ha] at hc
  | .repeated _ _, _, d, hd => .inr ⟨_, rfl, by simpa [Abort.rejectReason, RejectReason.ReportedBy] using hd⟩
  | .tooDeep _ _, _, d, hd => .inr ⟨_, rfl, position, by simpa using hd⟩
  | .matched _ _ hf, _, d, hd => (hf.covers hg d hd).mono (List.Subset.refl _) nofun
  | .failed ha hp hf, hc, d, hd => by
    rcases List.mem_append.1 hd with hd | hd
    · exact (hf.covers hg d hd).mono (List.subset_append_left _ _) nofun
    · -- The alternatives have failed, so one of them has expected a symbol
      -- where they start or further on.
      cases List.mem_singleton.1 hd
      exact .inl ((SymbolLog.failed ha hp hf).advances hg hc)
  | .aborted _ _ hf, _, d, hd => (hf.covers hg d hd).mono (List.Subset.refl _) (by simp)

theorem FirstLog.covers (hg : m.grammar.NoEmptyRule) {budget path position productions outcome log} :
    m.FirstLog budget path position productions outcome log →
    ∀ d, .diagnostic d ∈ log → outcome.Covers log d
  | .nil, _, hd => by cases hd
  | .next hs hf, d, hd => by
    rcases List.mem_append.1 hd with hd | hd
    · exact (hs.covers hg d hd).mono (List.subset_append_left _ _) nofun
    · exact (hf.covers hg d hd).mono (List.subset_append_right _ _) (fun _ h => h)
  | .here hs _, d, hd => hs.covers hg d hd

theorem SequenceLog.covers (hg : m.grammar.NoEmptyRule) {budget path symbols cursor outcome log} :
    m.SequenceLog budget path symbols cursor outcome log →
    ∀ d, .diagnostic d ∈ log → outcome.Covers log d
  | .nil, _, hd => by cases hd
  | .exhausted _, _, hd => by simp at hd
  | .token _ _ hs, d, hd => (hs.covers hg d hd).mono (List.Subset.refl _) (by simp)
  | .matched _ _ hc hm hs, d, hd => by
    rcases List.mem_append.1 hd with hd | hd
    · exact (hm.covers hg hc d hd).mono (List.subset_append_left _ _) nofun
    · exact (hs.covers hg d hd).mono (List.subset_append_right _ _) (by simp)
  | .failed _ _ hc hf, d, hd => (hf.covers hg hc d hd).mono (List.Subset.refl _) nofun
  | .aborted _ _ hc ha, d, hd => (ha.covers hg hc d hd).mono (List.Subset.refl _) (by simp)
  | .unknown _ _ _, d, hd => by
    obtain ⟨-, rfl⟩ := diagnostic_mem_mismatch.1 hd
    exact .inl ⟨_, _, expectation_mem_mismatch.2 ⟨rfl, rfl⟩, Nat.le_refl _⟩

end

/-- No diagnostic of a run lies beyond its frontier but the one that reports why
the run is aborted. -/
theorem RunLog.position_le (hg : m.grammar.NoEmptyRule) {symbol outcome log}
    (h : m.RunLog symbol outcome log) {d : Diagnostic} (hd : d ∈ (Trace.empty.recordAll log).diagnostics) :
    d.position ≤ (Trace.empty.recordAll log).frontier.position ∨
      ∃ reason, outcome = .aborted reason ∧ reason.rejectReason.ReportedBy d := by
  have hd : .diagnostic d ∈ log := (Trace.mem_diagnostics_recordAll hd).resolve_left (by simp)
  cases hc : m.grammar.contains symbol with
  | true =>
    rcases h.covers hg hc d hd with ⟨s, q, he, hq⟩ | habort
    · exact .inl (Nat.le_trans hq (Trace.position_le_of_mem he))
    · exact .inr habort
  | false =>
    obtain ⟨-, rfl⟩ := h.eq_of_not_contains hc
    cases List.mem_singleton.1 hd
    exact .inl (Nat.zero_le _)

end Matcher

/-! ## Main theorem -/

namespace Parser

variable {p : Parser} {symbol : String} {n : Nat} {f : Frontier}

theorem judge_aborted (reason : Abort) :
    p.judge symbol n f (.aborted reason) = .error (.ofFrontier f reason.rejectReason 0 n) := by
  cases reason <;> rfl

/-- Suppose that the grammar was read from a text and that the parse starts with
an empty trace. Then no diagnostic lies beyond the position of a rejection but
the one that reports an abort, and that one only if it lies beyond the
frontier. -/
theorem diagnostic_position_le (p : Parser) (text : String) (hg : Grammar.ofText text = .ok p.grammar)
    (tokens : List String) (symbol : String) (r : Rejection)
    (h : (p.parseFrom tokens symbol .empty).1 = .error r) :
    (∀ d ∈ (p.parseFrom tokens symbol .empty).2.diagnostics,
      d.position ≤ r.position ∨ r.reason.ReportedBy d) ∧
    ((∀ d ∈ (p.parseFrom tokens symbol .empty).2.diagnostics, d.position ≤ r.position) ↔
      ∀ d ∈ (p.parseFrom tokens symbol .empty).2.diagnostics, r.reason.ReportedBy d →
        d.position ≤ (p.parseFrom tokens symbol .empty).2.frontier.position) := by
  obtain ⟨outcome, log, hlog, hrun⟩ := Matcher.exists_runLog (p.matcher tokens) symbol
  simp only [parseFrom_eq, hrun] at h ⊢
  have hposition := judge_position h
  have hcases : ∀ d ∈ (Trace.empty.recordAll log).diagnostics,
      d.position ≤ (Trace.empty.recordAll log).frontier.position ∨
        r.position = (Trace.empty.recordAll log).frontier.position ∧ r.reason.ReportedBy d := by
    intro d hd
    refine (hlog.position_le (Grammar.noEmptyRule_of_ofText hg) hd).imp_right ?_
    rintro ⟨reason, rfl, hr⟩
    -- An aborted match covers no tokens, so the rejection lies at the frontier.
    rw [judge_aborted] at h
    cases h
    exact ⟨by simp [Rejection.ofFrontier], hr⟩
  have hfrontier : (Trace.empty.recordAll log).frontier.position ≤ r.position :=
    hposition ▸ Nat.le_max_left _ _
  refine ⟨fun d hd => ?_, fun hall d hd hr => ?_, fun hall d hd => ?_⟩
  · rcases hcases d hd with hle | ⟨-, hr⟩
    · exact .inl (Nat.le_trans hle hfrontier)
    · exact .inr hr
  · rcases hcases d hd with hle | ⟨hp, -⟩
    · exact hle
    · exact hp ▸ hall d hd
  · rcases hcases d hd with hle | ⟨hp, hr⟩
    · exact Nat.le_trans hle hfrontier
    · exact hp ▸ hall d hd hr

theorem diagnostic_position_le_nounPhrases :
    let p : Parser := ⟨Matcher.nounPhrases, Matcher.nouns, "S", 6, by decide⟩
    (p.parseFrom ["dog", "cat", "mouse"] "S" .empty).1 = .error ⟨.noMatch "S", 2, ["n"], 0, 3⟩ ∧
    (p.parseFrom ["dog", "cat", "mouse"] "S" .empty).2.diagnostics = [.noMatch "VP" 2, .noMatch "S" 0] ∧
    ∀ d ∈ (p.parseFrom ["dog", "cat", "mouse"] "S" .empty).2.diagnostics, d.position ≤ 2 := by
  intro p
  have h : (p.parseFrom ["dog", "cat", "mouse"] "S" .empty).1 = .error ⟨.noMatch "S", 2, ["n"], 0, 3⟩ := by
    decide
  have hle := diagnostic_position_le p "S -> NP VP\nNP -> n n | n\nVP -> n" (by rfl) _ _ _ h
  exact ⟨h, by decide, fun d hd => (hle.1 d hd).resolve_right id⟩

/-- Phrases that begin with themselves, behind a determiner. -/
def loopingPhrases : Parser where
  grammar := ((Grammar.empty.insert "S" [⟨"S", ["det", "A"]⟩]).insert "A" [⟨"A", ["B", "n"]⟩]).insert
    "B" [⟨"B", ["A"]⟩]
  lexicon := ⟨⟨[("the", "det"), ("dog", "n")], by decide⟩⟩
  start := "S"
  limit := 512
  start_mem := by decide

/-- A parse that is aborted behind its first token is rejected at that token,
because nothing was expected in vain on the way: with the usual limit for the
loop itself, and with a small one for the nesting. -/
theorem abort_behind_position :
    Grammar.ofText "S -> det A\nA -> B n\nB -> A" = .ok loopingPhrases.grammar ∧
    (loopingPhrases.parseFrom ["the", "dog"] "S" .empty).1 = .error ⟨.cycle "A" 1, 0, [], 0, 2⟩ ∧
    (loopingPhrases.parseFrom ["the", "dog"] "S" .empty).2.diagnostics = [.cycle "A" 1] ∧
    ¬ (∀ d ∈ (loopingPhrases.parseFrom ["the", "dog"] "S" .empty).2.diagnostics, d.position ≤ 0) ∧
    ((loopingPhrases.withLimit 2).parseFrom ["the", "dog"] "S" .empty).1 =
      .error ⟨.recursionLimit "B" 2, 0, [], 0, 2⟩ ∧
    ((loopingPhrases.withLimit 2).parseFrom ["the", "dog"] "S" .empty).2.diagnostics =
      [.recursionLimit "B" 1 2] := by
  refine ⟨by rfl, by decide, by decide, ?_, by decide, by decide⟩
  intro hle
  exact absurd (hle (.cycle "A" 1) (by decide)) (by decide)

end Parser

end PhraseStructure
