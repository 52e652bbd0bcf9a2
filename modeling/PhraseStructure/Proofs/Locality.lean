import PhraseStructure.Proofs.Progress
/-!
# Tokens behind the position of a rejection

A match that is not aborted looks at no token behind the symbols that it expects
and behind its end: a token that it takes lies before the end of the alternative
if that matches, and before a symbol expected later if it fails
(`Outcome.Advances`). So on tokens that agree up to there the match has the same
log (`SymbolLog.withTokens`).

Main statement: tokens behind the position of a rejection make no difference, as
long as there is one at it.
-/
namespace PhraseStructure

/-- A match that is not aborted ends within a bound, and so does every symbol
that it expects lie. -/
structure Outcome.Within {α : Type} (outcome : Outcome α) (log : List Event) (bound : Nat) : Prop where
  ne_aborted : ∀ reason, outcome ≠ .aborted reason
  stop_le : ∀ value stop, outcome = .matched value stop → stop ≤ bound
  expectation_le : ∀ s q, .expectation s q ∈ log → q ≤ bound

namespace Outcome.Within

variable {α β : Type} {outcome : Outcome α} {log log' : List Event} {position bound : Nat}

/-- A match within a bound starts within it. -/
theorem position_le (h : outcome.Within log bound) (ha : outcome.Advances log position) :
    position ≤ bound := by
  cases outcome with
  | matched value stop => exact Nat.le_trans ha (h.stop_le value stop rfl)
  | failed =>
    obtain ⟨s, q, he, hq⟩ := ha
    exact Nat.le_trans hq (h.expectation_le s q he)
  | aborted reason => exact absurd rfl (h.ne_aborted reason)

theorem of_subset (h : outcome.Within log bound) (hsub : log' ⊆ log) : outcome.Within log' bound :=
  ⟨h.ne_aborted, h.stop_le, fun s q he => h.expectation_le s q (hsub he)⟩

theorem of_map {f : α → β} (h : (outcome.map f).Within log bound) : outcome.Within log bound where
  ne_aborted reason ho := h.ne_aborted reason (by rw [ho]; rfl)
  stop_le value stop ho := h.stop_le (f value) stop (by rw [ho]; rfl)
  expectation_le := h.expectation_le

theorem failed (h : ∀ s q, .expectation s q ∈ log → q ≤ bound) :
    (Outcome.failed : Outcome α).Within log bound :=
  ⟨nofun, nofun, h⟩

theorem matched {value : α} {stop : Nat} (hstop : stop ≤ bound)
    (h : ∀ s q, .expectation s q ∈ log → q ≤ bound) : (Outcome.matched value stop).Within log bound :=
  ⟨nofun, fun _ _ ho => by cases ho; exact hstop, h⟩

end Outcome.Within

/-- Two sentences have the same tokens up to a position, and the first has a
token there. -/
structure AgreeUpTo (tokens tokens' : List String) (bound : Nat) : Prop where
  lt_length : bound < tokens.length
  get?_eq : ∀ i ≤ bound, tokens'[i]? = tokens[i]?

theorem agreeUpTo_of_take_eq {tokens tokens' : List String} {bound : Nat} (hlt : bound < tokens.length)
    (h : tokens'.take (bound + 1) = tokens.take (bound + 1)) : AgreeUpTo tokens tokens' bound where
  lt_length := hlt
  get?_eq i hi := by
    have hlt : i < bound + 1 := Nat.lt_succ_of_le hi
    rw [← List.getElem?_take_of_lt hlt, h, List.getElem?_take_of_lt hlt]

namespace Matcher

/-- The matcher with other tokens. -/
def withTokens (m : Matcher) (tokens : List String) : Matcher := { m with tokens }

section
variable {m : Matcher} {tokens : List String} {bound : Nat}

mutual

/-- A match within a bound is the same on tokens that agree up to the bound. -/
theorem SymbolLog.withTokens (hg : m.grammar.NoEmptyRule) (htokens : AgreeUpTo m.tokens tokens bound)
    {budget path symbol position outcome log} :
    m.SymbolLog budget path symbol position outcome log → outcome.Within log bound →
    (m.withTokens tokens).SymbolLog budget path symbol position outcome log
  | .unknown ha, _ => .unknown ha
  | .repeated _ _, hw => absurd rfl (hw.ne_aborted _)
  | .tooDeep _ _, hw => absurd rfl (hw.ne_aborted _)
  | .matched ha hp hf, hw => by
    refine .matched ha hp (hf.withTokens hg htokens ?_)
    exact .matched (hw.stop_le _ _ rfl) hw.expectation_le
  | .failed ha hp hf, hw => by
    refine .failed ha hp (hf.withTokens hg htokens ?_)
    exact .failed fun s q he => hw.expectation_le s q (List.mem_append_left _ he)
  | .aborted _ _ _, hw => absurd rfl (hw.ne_aborted _)

theorem FirstLog.withTokens (hg : m.grammar.NoEmptyRule) (htokens : AgreeUpTo m.tokens tokens bound)
    {budget path position productions outcome log} :
    m.FirstLog budget path position productions outcome log → outcome.Within log bound →
    (m.withTokens tokens).FirstLog budget path position productions outcome log
  | .nil, _ => .nil
  | .next hs hf, hw => by
    have hhead : (Outcome.failed : Outcome (List Tree)).Within _ bound :=
      .failed fun s q he => hw.expectation_le s q (List.mem_append_left _ he)
    have htail := hw.of_subset (List.subset_append_right _ _)
    exact .next (hs.withTokens hg htokens hhead) (hf.withTokens hg htokens htail)
  | .here hs hne, hw => .here (hs.withTokens hg htokens hw) hne

/-- The cursor stays within the bound, because what comes after it advances from
there. -/
theorem SequenceLog.withTokens (hg : m.grammar.NoEmptyRule) (htokens : AgreeUpTo m.tokens tokens bound)
    {budget path symbols cursor outcome log} :
    m.SequenceLog budget path symbols cursor outcome log → outcome.Within log bound →
    (m.withTokens tokens).SequenceLog budget path symbols cursor outcome log
  | .nil, _ => .nil
  | .exhausted ht, hw => by
    have hle := hw.expectation_le _ _ (List.mem_singleton_self _)
    have hlt := htokens.lt_length
    have hlength := List.getElem?_eq_none_iff.1 ht
    omega
  | .token ht hl hs, hw => by
    have hlt := hw.of_map.position_le (hs.advances hg)
    have ht' := htokens.get?_eq _ (Nat.le_of_succ_le hlt)
    exact .token (ht'.trans ht) hl (hs.withTokens hg htokens hw.of_map)
  | .matched ht hl hc hm hs, hw => by
    have htail := hw.of_map.of_subset (List.subset_append_right _ _)
    have hstop := htail.position_le (hs.advances hg)
    have hle := Nat.le_trans (show _ ≤ _ from hm.advances hg hc) hstop
    have ht' := htokens.get?_eq _ hle
    refine .matched (ht'.trans ht) hl hc (hm.withTokens hg htokens ?_) (hs.withTokens hg htokens htail)
    exact .matched hstop fun s q he => hw.expectation_le s q (List.mem_append_left _ he)
  | .failed ht hl hc hf, hw => by
    have hfail : (Outcome.failed : Outcome Tree).Within _ bound := .failed hw.expectation_le
    have hle := hfail.position_le (hf.advances hg hc)
    have ht' := htokens.get?_eq _ hle
    exact .failed (ht'.trans ht) hl hc (hf.withTokens hg htokens hfail)
  | .aborted _ _ _ _, hw => absurd rfl (hw.ne_aborted _)
  | .unknown ht hl hc, hw => by
    have hle := hw.expectation_le _ _ (expectation_mem_mismatch.2 ⟨rfl, rfl⟩)
    have ht' := htokens.get?_eq _ hle
    exact .unknown (ht'.trans ht) hl hc

end

end

end Matcher

/-! ## Main theorem -/

/-- Suppose that the grammar was read from a text, and that a sentence is
rejected because the symbol did not match or because tokens are left, at a
position where it has a token. Then every sentence that has the same tokens up
to this one is rejected for the same reason at the same position, with the same
symbols expected and as many tokens matched, and the parse leaves the same
trace. -/
theorem Parser.parseFrom_eq_of_agree (p : Parser) (text : String) (hg : Grammar.ofText text = .ok p.grammar)
    (symbol : String) (tokens tokens' : List String) (trace : Trace) (r : Rejection)
    (h : (p.parseFrom tokens symbol trace).1 = .error r)
    (hreason : (∃ s, r.reason = .noMatch s) ∨ r.reason = .incomplete)
    (hlt : r.position < tokens.length) (hlt' : r.position < tokens'.length)
    (hagree : tokens'.take (r.position + 1) = tokens.take (r.position + 1)) :
    p.parseFrom tokens' symbol trace =
      (.error { r with tokenCount := tokens'.length }, (p.parseFrom tokens symbol trace).2) := by
  obtain ⟨outcome, log, hlog, hrun⟩ := Matcher.exists_runLog (p.matcher tokens) symbol
  simp only [parseFrom_eq, hrun] at h ⊢
  have hfrontier : (trace.recordAll log).frontier.position ≤ r.position :=
    judge_position h ▸ Nat.le_max_left _ _
  have hexpected : ∀ s q, .expectation s q ∈ log → q ≤ r.position :=
    fun _ _ he => Nat.le_trans (Trace.position_le_of_mem he) hfrontier
  have hrun' : outcome.Within log r.position →
      (p.matcher tokens').run symbol trace = (outcome, trace.recordAll log) := fun hw =>
    (hlog.withTokens (Grammar.noEmptyRule_of_ofText hg) (agreeUpTo_of_take_eq hlt hagree) hw).eq trace
  cases outcome with
  | matched tree stop =>
    have hne : stop ≠ tokens.length := fun he => by simp [judge, he] at h
    rw [judge_matched hne] at h
    cases h
    have hstop : stop ≤ max (trace.recordAll log).frontier.position stop := Nat.le_max_right _ _
    rw [hrun' (.matched hstop hexpected), judge_matched (Nat.ne_of_lt (Nat.lt_of_le_of_lt hstop hlt'))]
    rfl
  | failed =>
    rw [hrun' (.failed hexpected)]
    cases h
    rfl
  | aborted reason =>
    rw [judge_aborted] at h
    cases h
    cases reason <;> simp [Rejection.ofFrontier, Abort.rejectReason] at hreason

theorem Parser.parseFrom_eq_of_agree_nounPhrases :
    let p : Parser := ⟨Matcher.nounPhrases, Matcher.nouns, "S", 6, by decide⟩
    (p.parseFrom ["dog", "cat", "dog", "cat"] "S" .empty).1 = .error ⟨.incomplete, 3, [], 3, 4⟩ ∧
    p.parseFrom ["dog", "cat", "dog", "cat", "mouse", "dog"] "S" .empty =
      (.error ⟨.incomplete, 3, [], 3, 6⟩, (p.parseFrom ["dog", "cat", "dog", "cat"] "S" .empty).2) := by
  intro p
  have h : (p.parseFrom ["dog", "cat", "dog", "cat"] "S" .empty).1 = .error ⟨.incomplete, 3, [], 3, 4⟩ := by
    decide
  exact ⟨h, parseFrom_eq_of_agree p "S -> NP VP\nNP -> n n | n\nVP -> n" (by rfl) "S" _
    ["dog", "cat", "dog", "cat", "mouse", "dog"] .empty _ h (.inr rfl) (by decide) (by decide) (by decide)⟩

end PhraseStructure
