import Mathlib.Data.List.Induction
import PhraseStructure.Proofs.Barriers
import PhraseStructure.Proofs.ContextFree
/-!
# Rejections

What the parts of a rejection have to do with each other. The end of a sentence
is a barrier, so nothing lies beyond it; the frontier holds every symbol once,
and it is empty only where nothing has been expected (`Frontier.WellFormed`),
which one more expectation keeps so.

Main statement: a rejection lies between the tokens that were matched and the
end of the sentence, and it is for tokens left over exactly if there are such
tokens. Where no alternative is empty, tokens are left over after one token at
least, and a symbol that does not match has expected something.
-/
namespace PhraseStructure

/-! ## Frontiers -/

/-- Every symbol is expected once, and the frontier has moved only if one is. -/
structure Frontier.WellFormed (f : Frontier) : Prop where
  nodup : f.expected.Nodup
  position_eq_zero : f.expected = [] → f.position = 0

namespace Frontier

variable {f : Frontier}

theorem wellFormed_start : start.WellFormed := ⟨List.nodup_nil, fun _ => rfl⟩

theorem WellFormed.expected_expect_ne_nil (h : f.WellFormed) (symbol : String) (position : Nat) :
    (f.expect symbol position).expected ≠ [] := by
  rcases Nat.lt_trichotomy position f.position with hlt | rfl | hgt
  · rw [expect_of_lt hlt]
    intro hnil
    have := h.position_eq_zero hnil
    omega
  · rw [expect_of_eq]
    split
    · exact fun hnil => List.ne_nil_of_mem ‹_› (List.append_eq_nil_iff.1 hnil).1
    · simp
  · rw [expect_of_gt hgt]
    simp

theorem WellFormed.expect (h : f.WellFormed) (symbol : String) (position : Nat) :
    (f.expect symbol position).WellFormed where
  position_eq_zero hnil := absurd hnil (h.expected_expect_ne_nil symbol position)
  nodup := by
    rcases Nat.lt_trichotomy position f.position with hlt | rfl | hgt
    · rw [expect_of_lt hlt]
      exact h.nodup
    · rw [expect_of_eq]
      split
      · simpa using h.nodup
      · next hnew =>
        refine List.nodup_append.2 ⟨h.nodup, by simp, ?_⟩
        rintro s hs _ hsymbol rfl
        exact hnew (List.mem_singleton.1 hsymbol ▸ hs)
    · rw [expect_of_gt hgt]
      simp

end Frontier

namespace Trace

variable {t : Trace}

theorem wellFormed_recordAll (h : t.frontier.WellFormed) (log : List Event) :
    (t.recordAll log).frontier.WellFormed :=
  frontier_recordAll_of_expect h fun _ s q hf _ => hf.expect s q

/-- Once a symbol has been expected, the frontier names one. -/
theorem expected_ne_nil_of_mem (h : t.frontier.WellFormed) {log : List Event} {symbol : String} {position : Nat}
    (he : .expectation symbol position ∈ log) : (t.recordAll log).frontier.expected ≠ [] := by
  -- Of the symbols expected the last decides: what is recorded after it leaves
  -- the frontier as it is.
  induction log using List.reverseRecOn with
  | nil => cases he
  | append_singleton log e ih =>
    rw [recordAll_append, recordAll_cons, recordAll_nil]
    cases e with
    | expectation s q => exact (wellFormed_recordAll h log).expected_expect_ne_nil s q
    | diagnostic d =>
      rw [frontier_record_diagnostic]
      exact ih (by simpa using he)

end Trace

/-! ## Main theorem -/

namespace Parser

variable {p : Parser} {symbol : String} {n : Nat} {f : Frontier} {o : Outcome Tree} {r : Rejection}

/-- A rejection for tokens left over comes from a match that stops before the
end, and any other comes from no match, so that no token counts as matched. -/
theorem judge_eq_error_cases (h : p.judge symbol n f o = .error r)
    (hstop : ∀ tree stop, o = .matched tree stop → stop ≤ n) :
    (r.reason = .incomplete → r.consumed < n ∧ ∃ tree, o = .matched tree r.consumed) ∧
      (r.reason ≠ .incomplete → r.consumed = 0 ∧ ∀ tree stop, o ≠ .matched tree stop) := by
  cases o with
  | matched tree stop =>
    have hne : stop ≠ n := fun he => by simp [judge, he] at h
    rw [judge_matched hne] at h
    cases h
    exact ⟨fun _ => ⟨Nat.lt_of_le_of_ne (hstop tree stop rfl) hne, tree, rfl⟩, fun hr => absurd rfl hr⟩
  | failed =>
    cases h
    refine ⟨fun hr => ?_, fun _ => ⟨rfl, by simp⟩⟩
    simp only [Rejection.ofFrontier] at hr
    split at hr <;> cases hr
  | aborted reason =>
    rw [judge_aborted] at h
    cases h
    refine ⟨fun hr => ?_, fun _ => ⟨rfl, by simp⟩⟩
    cases reason <;> cases hr

/-- A rejection after a parse with an empty trace lies at or behind the tokens
matched and within the sentence. Its reason is that tokens are left exactly if
the symbol matches and its match stops before the end; for any other reason no
token counts as matched. No symbol is expected twice. If the grammar was read
from a text, tokens are left only behind one token at least, and where the
symbol does not match some symbol is expected. -/
theorem rejection_consistent (p : Parser) (tokens : List String) (symbol : String) (r : Rejection)
    (h : (p.parseFrom tokens symbol .empty).1 = .error r) :
    r.consumed ≤ r.position ∧ r.position ≤ r.tokenCount ∧ r.tokenCount = tokens.length ∧
    (r.reason = .incomplete ↔
      ∃ tree stop, ((p.matcher tokens).run symbol .empty).1 = .matched tree stop ∧ stop < tokens.length) ∧
    (r.reason = .incomplete → r.consumed < r.tokenCount) ∧ (r.reason ≠ .incomplete → r.consumed = 0) ∧
    r.expected.Nodup ∧
    ∀ text, Grammar.ofText text = .ok p.grammar →
      (r.reason = .incomplete → 1 ≤ r.consumed) ∧ (∀ s, r.reason = .noMatch s → r.expected ≠ []) := by
  obtain ⟨outcome, log, hlog, hrun⟩ := Matcher.exists_runLog (p.matcher tokens) symbol
  simp only [parseFrom_eq, hrun] at h ⊢
  have hs := hlog.staysWithin (p.matcher tokens).isBarrier_length (Nat.zero_le _)
  have hfrontier : (Trace.empty.recordAll log).frontier.position ≤ tokens.length :=
    hs.frontier_position_le (Nat.zero_le _)
  obtain ⟨hleft, hother⟩ := judge_eq_error_cases h hs.stop_le
  have hcount : r.tokenCount = tokens.length := congrArg Rejection.tokenCount (judge_eq_error h)
  have hposition := judge_position h
  have hexpected := judge_expected h
  have hconsumed : r.consumed ≤ tokens.length := by
    by_cases hr : r.reason = .incomplete
    · exact Nat.le_of_lt (hleft hr).1
    · exact (hother hr).1 ▸ Nat.zero_le _
  refine ⟨?_, ?_, hcount, ⟨fun hr => ?_, ?_⟩, fun hr => ?_, fun hr => (hother hr).1, ?_,
    fun text ht => ⟨fun hr => ?_, fun s hr => ?_⟩⟩
  · exact hposition ▸ Nat.le_max_right _ _
  · rw [hposition, hcount]
    exact Nat.max_le.2 ⟨hfrontier, hconsumed⟩
  · obtain ⟨hlt, tree, ho⟩ := hleft hr
    exact ⟨tree, r.consumed, ho, hlt⟩
  · rintro ⟨tree, stop, ho, -⟩
    by_contra hr
    exact (hother hr).2 tree stop ho
  · rw [hcount]
    exact (hleft hr).1
  · rw [hexpected]
    split
    · exact (Trace.wellFormed_recordAll Frontier.wellFormed_start log).nodup
    · exact List.nodup_nil
  · obtain ⟨-, tree, ho⟩ := hleft hr
    have hd : DerivesByRule p.grammar p.lexicon tokens symbol 0 r.consumed :=
      Matcher.derivesByRule_of_matched ((congrArg Prod.fst (hrun .empty)).trans ho)
    exact hd.lt (Grammar.noEmptyAlternative_of_ofText ht)
  · obtain ⟨rfl, hc, -⟩ := judge_noMatch_iff.1 ⟨r, h, hr⟩
    obtain ⟨_, _, he, -⟩ := hlog.advances (Grammar.noEmptyRule_of_ofText ht) hc
    -- Nothing was matched, so the rejection lies at the frontier.
    have hzero : r.consumed = 0 := (hother (by rw [hr]; nofun)).1
    rw [hexpected, if_pos (by omega)]
    exact Trace.expected_ne_nil_of_mem Frontier.wellFormed_start he

theorem rejection_consistent_nounPhrases :
    let p : Parser := ⟨Matcher.nounPhrases, Matcher.nouns, "S", 6, by decide⟩
    let left : Rejection := ⟨.incomplete, 3, [], 3, 4⟩
    let unmatched : Rejection := ⟨.noMatch "S", 2, ["n"], 0, 3⟩
    Grammar.ofText "S -> NP VP\nNP -> n n | n\nVP -> n" = .ok p.grammar ∧
    (p.parseFrom ["dog", "cat", "dog", "cat"] "S" .empty).1 = .error left ∧
    (∃ tree stop, ((p.matcher ["dog", "cat", "dog", "cat"]).run "S" .empty).1 = .matched tree stop ∧ stop < 4) ∧
    1 ≤ left.consumed ∧
    (p.parseFrom ["dog", "cat", "mouse"] "S" .empty).1 = .error unmatched ∧
    unmatched.consumed ≤ unmatched.position ∧ unmatched.position ≤ unmatched.tokenCount ∧
    unmatched.expected ≠ [] := by
  intro p left unmatched
  have hg : Grammar.ofText "S -> NP VP\nNP -> n n | n\nVP -> n" = .ok p.grammar := by rfl
  have h : (p.parseFrom ["dog", "cat", "dog", "cat"] "S" .empty).1 = .error left := by decide
  have h' : (p.parseFrom ["dog", "cat", "mouse"] "S" .empty).1 = .error unmatched := by decide
  obtain ⟨-, -, -, hiff, -, -, -, htext⟩ := rejection_consistent p _ _ _ h
  obtain ⟨hconsumed, hposition, -, -, -, -, -, htext'⟩ := rejection_consistent p _ _ _ h'
  exact ⟨hg, h, hiff.1 rfl, (htext _ hg).1 rfl, h', hconsumed, hposition, (htext' _ hg).2 "S" rfl⟩

end Parser

end PhraseStructure
