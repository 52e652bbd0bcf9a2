import PhraseStructure.Proofs.Locality
/-!
# Unknown words

A position is a barrier if there is no token at it, or one without a tag. A
token is passed only where the lexicon tags it, so a match that starts at a
barrier or before it stops there or before, and records nothing beyond it
(`SymbolLog.staysWithin`). This holds of matches that fail or are aborted too,
and of grammars with empty alternatives. What comes behind the barrier plays no
part (`SymbolLog.withTokens_of_isBarrier`).

Main statement: a sentence with a word that the lexicon does not know is
rejected, no further on than at that word, and the tokens behind it make no
difference.
-/
namespace PhraseStructure

/-! ## Words without a tag -/

namespace Lexicon

variable {l : Lexicon} {tokens : List String} {token : String} {position : Nat}

theorem contains_eq_false : l.contains token = false ↔ l.tag? token = none :=
  Option.isSome_eq_false_iff.trans Option.isNone_iff_eq_none

theorem mem_uncovered :
    (position, token) ∈ l.uncovered tokens ↔ tokens[position]? = some token ∧ l.tag? token = none := by
  simp [uncovered, List.mem_zipIdx_iff_getElem?, contains_eq_false]

end Lexicon

/-- There is no token at the position, or one without a tag. -/
def Matcher.IsBarrier (m : Matcher) (position : Nat) : Prop :=
  ∀ token, m.tokens[position]? = some token → m.lexicon.tag? token = none

/-! ## Matches stay before a barrier -/

/-- Where an event lies. -/
def Event.position : Event → Nat
  | diagnostic d => d.position
  | expectation _ position => position

/-- A match ends within a bound, if it ends anywhere, and so does everything lie
that it records. -/
structure Outcome.StaysWithin {α : Type} (outcome : Outcome α) (log : List Event) (bound : Nat) : Prop where
  stop_le : ∀ value stop, outcome = matched value stop → stop ≤ bound
  position_le : ∀ e ∈ log, e.position ≤ bound

namespace Outcome.StaysWithin

variable {α β : Type} {outcome : Outcome α} {log log' : List Event} {bound : Nat}

theorem append_left (h : outcome.StaysWithin log bound) (h' : ∀ e ∈ log', e.position ≤ bound) :
    outcome.StaysWithin (log' ++ log) bound where
  stop_le := h.stop_le
  position_le e he := (List.mem_append.1 he).elim (h' e) (h.position_le e)

theorem map (h : outcome.StaysWithin log bound) (f : α → β) : (outcome.map f).StaysWithin log bound where
  stop_le value stop ho := by
    cases outcome with
    | matched value' stop' => cases ho; exact h.stop_le _ _ rfl
    | failed | aborted => cases ho
  position_le := h.position_le

theorem frontier_position_le (h : outcome.StaysWithin log bound) {t : Trace} (ht : t.frontier.position ≤ bound) :
    (t.recordAll log).frontier.position ≤ bound :=
  Trace.position_recordAll_le ht fun _ _ he => h.position_le _ he

end Outcome.StaysWithin

namespace Matcher

variable {m : Matcher} {bound : Nat}

theorem isBarrier_length (m : Matcher) : m.IsBarrier m.tokens.length := by
  intro token ht
  simp at ht

/-- A token with a tag that is not behind a barrier is before it. -/
theorem IsBarrier.lt {position : Nat} {token symbol : String} (hb : m.IsBarrier bound) (hle : position ≤ bound)
    (ht : m.tokens[position]? = some token) (hl : m.lexicon.tag? token = some symbol) : position < bound := by
  refine Nat.lt_of_le_of_ne hle ?_
  rintro rfl
  simp [hb token ht] at hl

theorem position_of_mem_mismatch {symbol : String} {position : Nat} {e : Event}
    (h : e ∈ m.mismatch symbol position) : e.position = position := by
  cases e with
  | diagnostic d =>
    obtain ⟨-, rfl⟩ := diagnostic_mem_mismatch.1 h
    rfl
  | expectation s q => exact (expectation_mem_mismatch.1 h).2

mutual

/-- A match does not pass a barrier, whatever it comes to. -/
theorem SymbolLog.staysWithin (hb : m.IsBarrier bound) {budget path symbol position outcome log} :
    m.SymbolLog budget path symbol position outcome log → position ≤ bound → outcome.StaysWithin log bound
  | .unknown _, hle => ⟨nofun, by simpa [Event.position, Diagnostic.position] using hle⟩
  | .repeated _ _, hle => ⟨nofun, by simpa [Event.position, Diagnostic.position] using hle⟩
  | .tooDeep _ _, hle => ⟨nofun, by simpa [Event.position, Diagnostic.position] using hle⟩
  | .matched _ _ hf, hle => (hf.staysWithin hb hle).map (Tree.node symbol)
  | .failed _ _ hf, hle => by
    refine ⟨nofun, fun e he => ?_⟩
    rcases List.mem_append.1 he with he | he
    · exact (hf.staysWithin hb hle).position_le e he
    · cases List.mem_singleton.1 he
      exact hle
  | .aborted _ _ hf, hle => ⟨nofun, (hf.staysWithin hb hle).position_le⟩

theorem FirstLog.staysWithin (hb : m.IsBarrier bound) {budget path position productions outcome log} :
    m.FirstLog budget path position productions outcome log → position ≤ bound → outcome.StaysWithin log bound
  | .nil, _ => ⟨nofun, nofun⟩
  | .next hs hf, hle => (hf.staysWithin hb hle).append_left (hs.staysWithin hb hle).position_le
  | .here hs _, hle => hs.staysWithin hb hle

/-- The cursor moves past a token only if the token has a tag, and else to where
a nonterminal stops. -/
theorem SequenceLog.staysWithin (hb : m.IsBarrier bound) {budget path symbols cursor outcome log} :
    m.SequenceLog budget path symbols cursor outcome log → cursor ≤ bound → outcome.StaysWithin log bound
  | .nil, hle => ⟨fun _ _ ho => by cases ho; exact hle, nofun⟩
  | .exhausted _, hle => ⟨nofun, by simpa [Event.position] using hle⟩
  | .token ht hl hs, hle => (hs.staysWithin hb (hb.lt hle ht hl)).map _
  | .matched _ _ _ hm hs, hle => by
    have hhead := hm.staysWithin hb hle
    have htail := hs.staysWithin hb (hhead.stop_le _ _ rfl)
    exact (htail.append_left hhead.position_le).map _
  | .failed _ _ _ hf, hle => ⟨nofun, (hf.staysWithin hb hle).position_le⟩
  | .aborted _ _ _ ha, hle => ⟨nofun, (ha.staysWithin hb hle).position_le⟩
  | .unknown _ _ _, hle => ⟨nofun, fun _ he => by rwa [position_of_mem_mismatch he]⟩

end

/-! ## What comes behind a barrier -/

section
variable {tokens : List String}

mutual

/-- On tokens that agree up to a barrier a match is the same. -/
theorem SymbolLog.withTokens_of_isBarrier (hb : m.IsBarrier bound) (htokens : AgreeUpTo m.tokens tokens bound)
    {budget path symbol position outcome log} :
    m.SymbolLog budget path symbol position outcome log → position ≤ bound →
    (m.withTokens tokens).SymbolLog budget path symbol position outcome log
  | .unknown ha, _ => .unknown ha
  | .repeated hc hp, _ => .repeated hc hp
  | .tooDeep hc hp, _ => .tooDeep hc hp
  | .matched ha hp hf, hle => .matched ha hp (hf.withTokens_of_isBarrier hb htokens hle)
  | .failed ha hp hf, hle => .failed ha hp (hf.withTokens_of_isBarrier hb htokens hle)
  | .aborted ha hp hf, hle => .aborted ha hp (hf.withTokens_of_isBarrier hb htokens hle)

theorem FirstLog.withTokens_of_isBarrier (hb : m.IsBarrier bound) (htokens : AgreeUpTo m.tokens tokens bound)
    {budget path position productions outcome log} :
    m.FirstLog budget path position productions outcome log → position ≤ bound →
    (m.withTokens tokens).FirstLog budget path position productions outcome log
  | .nil, _ => .nil
  | .next hs hf, hle =>
    .next (hs.withTokens_of_isBarrier hb htokens hle) (hf.withTokens_of_isBarrier hb htokens hle)
  | .here hs hne, hle => .here (hs.withTokens_of_isBarrier hb htokens hle) hne

theorem SequenceLog.withTokens_of_isBarrier (hb : m.IsBarrier bound)
    (htokens : AgreeUpTo m.tokens tokens bound) {budget path symbols cursor outcome log} :
    m.SequenceLog budget path symbols cursor outcome log → cursor ≤ bound →
    (m.withTokens tokens).SequenceLog budget path symbols cursor outcome log
  | .nil, _ => .nil
  | .exhausted ht, hle => .exhausted ((htokens.get?_eq _ hle).trans ht)
  | .token ht hl hs, hle =>
    .token ((htokens.get?_eq _ hle).trans ht) hl (hs.withTokens_of_isBarrier hb htokens (hb.lt hle ht hl))
  | .matched ht hl hc hm hs, hle => by
    have hstop := (hm.staysWithin hb hle).stop_le _ _ rfl
    exact .matched ((htokens.get?_eq _ hle).trans ht) hl hc (hm.withTokens_of_isBarrier hb htokens hle)
      (hs.withTokens_of_isBarrier hb htokens hstop)
  | .failed ht hl hc hf, hle =>
    .failed ((htokens.get?_eq _ hle).trans ht) hl hc (hf.withTokens_of_isBarrier hb htokens hle)
  | .aborted ht hl hc ha, hle =>
    .aborted ((htokens.get?_eq _ hle).trans ht) hl hc (ha.withTokens_of_isBarrier hb htokens hle)
  | .unknown ht hl hc, hle => .unknown ((htokens.get?_eq _ hle).trans ht) hl hc

end

end

end Matcher

/-! ## Main theorem -/

namespace Parser

variable {p : Parser} {symbol : String} {o : Outcome Tree} {i : Nat}

/-- A match that ends within the first `i` tokens, if it ends anywhere, is
judged alike in all sentences that are longer. -/
theorem exists_judge_eq_error (p : Parser) (symbol : String) (f : Frontier)
    (h : ∀ tree stop, o = .matched tree stop → stop ≤ i) :
    ∃ reason, ∃ consumed ≤ i, ∀ n, i < n → p.judge symbol n f o = .error (.ofFrontier f reason consumed n) := by
  cases o with
  | matched tree stop =>
    have hstop := h tree stop rfl
    exact ⟨.incomplete, stop, hstop, fun n hn => judge_matched (by omega)⟩
  | failed => exact ⟨_, 0, Nat.zero_le i, fun _ _ => rfl⟩
  | aborted reason => exact ⟨reason.rejectReason, 0, Nat.zero_le i, fun _ _ => judge_aborted reason⟩

/-- An accepted sentence has no word that the lexicon does not know. A sentence
that has one is rejected: for every such word, so for the first one, the
rejection and all diagnostics lie at that word or before it, no more tokens are
matched than come before it, and with any other tokens behind it the parse is
rejected in the same way and leaves the same trace. -/
theorem rejected_of_uncovered (p : Parser) (tokens : List String) (symbol : String) :
    (∀ trace d, (p.parseFrom tokens symbol trace).1 = .ok d → p.lexicon.uncovered tokens = []) ∧
    ∀ i token, (i, token) ∈ p.lexicon.uncovered tokens →
      ∃ r, (p.parseFrom tokens symbol .empty).1 = .error r ∧ r.consumed ≤ i ∧ r.position ≤ i ∧
        (∀ d ∈ (p.parseFrom tokens symbol .empty).2.diagnostics, d.position ≤ i) ∧
        ∀ others, p.parseFrom (tokens.take (i + 1) ++ others) symbol .empty =
          (.error { r with tokenCount := i + 1 + others.length }, (p.parseFrom tokens symbol .empty).2) := by
  obtain ⟨outcome, log, hlog, hrun⟩ := Matcher.exists_runLog (p.matcher tokens) symbol
  have hwithin : ∀ i token, (i, token) ∈ p.lexicon.uncovered tokens →
      i < tokens.length ∧ (p.matcher tokens).IsBarrier i ∧ outcome.StaysWithin log i := by
    intro i token hi
    obtain ⟨ht, hl⟩ := Lexicon.mem_uncovered.1 hi
    have hb : (p.matcher tokens).IsBarrier i := by
      intro token' ht'
      cases ht.symm.trans ht'
      exact hl
    exact ⟨(List.getElem?_eq_some_iff.1 ht).1, hb, hlog.staysWithin hb (Nat.zero_le i)⟩
  constructor
  · intro trace d hd
    rw [parseFrom_eq, hrun] at hd
    refine List.eq_nil_iff_forall_not_mem.2 ?_
    rintro ⟨i, token⟩ hi
    -- The match covers the whole sentence and ends at the word or before it.
    obtain ⟨hlt, -, hs⟩ := hwithin i token hi
    have hle := hs.stop_le _ _ (judge_eq_ok_iff.1 hd).1
    omega
  · intro i token hi
    obtain ⟨hlt, hb, hs⟩ := hwithin i token hi
    have hfrontier : (Trace.empty.recordAll log).frontier.position ≤ i :=
      hs.frontier_position_le (Nat.zero_le i)
    obtain ⟨reason, consumed, hconsumed, hjudge⟩ :=
      exists_judge_eq_error p symbol (Trace.empty.recordAll log).frontier hs.stop_le
    simp only [parseFrom_eq, hrun]
    refine ⟨_, hjudge _ hlt, hconsumed, Nat.max_le.2 ⟨hfrontier, hconsumed⟩, fun d hd => ?_, fun others => ?_⟩
    · exact hs.position_le _ ((Trace.mem_diagnostics_recordAll hd).resolve_left (by simp))
    · have hlength : (tokens.take (i + 1) ++ others).length = i + 1 + others.length := by
        rw [List.length_append, List.length_take, Nat.min_eq_left hlt]
      have hagree : AgreeUpTo tokens (tokens.take (i + 1) ++ others) i :=
        agreeUpTo_of_take_eq hlt (by simp [Nat.min_eq_left hlt])
      have hrun' : (p.matcher (tokens.take (i + 1) ++ others)).run symbol .empty =
          (outcome, Trace.empty.recordAll log) :=
        (hlog.withTokens_of_isBarrier hb hagree (Nat.zero_le i)).eq .empty
      rw [hrun', hlength, hjudge _ (by omega)]
      rfl

theorem rejected_of_uncovered_mouse :
    let p : Parser := ⟨Matcher.nounPhrases, Matcher.nouns, "S", 6, by decide⟩
    (∃ d, (p.parseFrom ["dog", "cat"] "NP" .empty).1 = .ok d) ∧ p.lexicon.uncovered ["dog", "cat"] = [] ∧
    p.lexicon.uncovered ["dog", "mouse", "cat"] = [(1, "mouse")] ∧
    ∃ r, (p.parseFrom ["dog", "mouse", "cat"] "S" .empty).1 = .error r ∧ r.consumed ≤ 1 ∧ r.position ≤ 1 ∧
      (p.parseFrom ["dog", "mouse"] "S" .empty).1 = .error { r with tokenCount := 2 } := by
  intro p
  have hd : (p.parseFrom ["dog", "cat"] "NP" .empty).1 =
      .ok ⟨.node "NP" [.tagged "n" "dog", .tagged "n" "cat"], 2⟩ := by decide
  have hu : p.lexicon.uncovered ["dog", "mouse", "cat"] = [(1, "mouse")] := by decide
  obtain ⟨r, hr, hconsumed, hposition, -, hothers⟩ :=
    (rejected_of_uncovered p ["dog", "mouse", "cat"] "S").2 1 "mouse" (by decide)
  exact ⟨⟨_, hd⟩, (rejected_of_uncovered p ["dog", "cat"] "NP").1 _ _ hd, hu, r, hr, hconsumed, hposition,
    congrArg Prod.fst (hothers [])⟩

end Parser

end PhraseStructure
