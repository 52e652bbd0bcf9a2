import PhraseStructure.Parser
/-!
# Verdicts

What a parser says about a sentence, read off the outcome of matching: each
verdict belongs to one kind of outcome, and the trace plays no part in which it
is.
-/
namespace PhraseStructure.Parser

/-- The sentence is rejected for a reason. -/
def RejectedFor (reason : RejectReason) (verdict : Except Rejection Derivation) : Prop :=
  ∃ r, verdict = .error r ∧ r.reason = reason

/-- The sentence is rejected because the limit on nested calls is too small. -/
def CutShort (verdict : Except Rejection Derivation) : Prop :=
  ∃ s limit, RejectedFor (.recursionLimit s limit) verdict

/-- Two verdicts agree but for where a rejection lies and what was expected
there. -/
inductive SameVerdict : Except Rejection Derivation → Except Rejection Derivation → Prop
  | accepted {d} : SameVerdict (.ok d) (.ok d)
  | rejected {r r'} : r.reason = r'.reason → r.consumed = r'.consumed → r.tokenCount = r'.tokenCount →
    SameVerdict (.error r) (.error r')

theorem SameVerdict.eq_ok {d : Derivation} {verdict : Except Rejection Derivation}
    (h : SameVerdict (.ok d) verdict) : verdict = .ok d := by
  cases h
  rfl

theorem SameVerdict.exists_error {r : Rejection} {verdict : Except Rejection Derivation}
    (h : SameVerdict (.error r) verdict) :
    ∃ r', verdict = .error r' ∧ r'.reason = r.reason ∧ r'.consumed = r.consumed := by
  cases h with
  | rejected hreason hconsumed _ => exact ⟨_, rfl, hreason.symm, hconsumed.symm⟩

variable (p : Parser)

/-- The matcher that a parser runs on some tokens. -/
def matcher (tokens : List String) : Matcher := ⟨p.grammar, p.lexicon, tokens, p.limit⟩

/-- The parser with another limit. -/
def withLimit (limit : Nat) : Parser := { p with limit }

variable {p} {symbol : String} {tokens : List String} {trace : Trace}

theorem parseFrom_eq : p.parseFrom tokens symbol trace =
    (p.judge symbol tokens.length ((p.matcher tokens).run symbol trace).2.frontier
      ((p.matcher tokens).run symbol trace).1, ((p.matcher tokens).run symbol trace).2) := rfl

@[simp] theorem not_rejectedFor_ok {reason : RejectReason} {d : Derivation} : ¬ RejectedFor reason (.ok d) := by
  simp [RejectedFor]

@[simp] theorem rejectedFor_ofFrontier {reason reason' : RejectReason} {f : Frontier} {consumed n : Nat} :
    RejectedFor reason (.error (.ofFrontier f reason' consumed n)) ↔ reason' = reason := by
  simp [RejectedFor, Rejection.ofFrontier]

/-! ## Outcomes and verdicts -/

section
variable {n : Nat} {f : Frontier} {o : Outcome Tree}

theorem judge_eq_ok_iff {d : Derivation} :
    p.judge symbol n f o = .ok d ↔ o = .matched d.tree n ∧ d.consumed = n := by
  obtain ⟨tree, consumed⟩ := d
  cases o with
  | matched tree' stop => simp only [judge]; split <;> simp <;> grind
  | failed => simp [judge]
  | aborted reason => cases reason <;> simp [judge]

theorem judge_noMatch_iff {s : String} :
    RejectedFor (.noMatch s) (p.judge symbol n f o) ↔
      o = .failed ∧ p.grammar.contains symbol = true ∧ symbol = s := by
  cases o with
  | matched tree stop => simp only [judge]; split <;> simp
  | failed => cases hc : p.grammar.contains symbol <;> simp [judge, hc]
  | aborted reason => cases reason <;> simp [judge]

theorem judge_cycle_iff {s : String} {q : Nat} :
    RejectedFor (.cycle s q) (p.judge symbol n f o) ↔ o = .aborted (.cycle s q) := by
  cases o with
  | matched tree stop => simp only [judge]; split <;> simp
  | failed => cases hc : p.grammar.contains symbol <;> simp [judge, hc]
  | aborted reason => cases reason <;> simp [judge]

theorem judge_recursionLimit_iff {s : String} {limit : Nat} :
    RejectedFor (.recursionLimit s limit) (p.judge symbol n f o) ↔ o = .aborted (.tooDeep s limit) := by
  cases o with
  | matched tree stop => simp only [judge]; split <;> simp
  | failed => cases hc : p.grammar.contains symbol <;> simp [judge, hc]
  | aborted reason => cases reason <;> simp [judge]

theorem judge_incomplete_iff {consumed : Nat} :
    (∃ r, p.judge symbol n f o = .error r ∧ r.reason = .incomplete ∧ r.consumed = consumed) ↔
      consumed ≠ n ∧ ∃ tree, o = .matched tree consumed := by
  cases o with
  | matched tree stop => simp only [judge]; split <;> simp [Rejection.ofFrontier] <;> grind
  | failed => cases hc : p.grammar.contains symbol <;> simp [judge, Rejection.ofFrontier, hc]
  | aborted reason => cases reason <;> simp [judge, Rejection.ofFrontier]

theorem judge_matched {tree : Tree} {stop : Nat} (h : stop ≠ n) :
    p.judge symbol n f (.matched tree stop) = .error (.ofFrontier f .incomplete stop n) :=
  if_neg h

/-- The frontier says where a rejection lies and what was expected there, and
nothing else. -/
theorem judge_eq_error {r : Rejection} (h : p.judge symbol n f o = .error r) :
    r = .ofFrontier f r.reason r.consumed n := by
  cases o with
  | matched tree stop => simp only [judge] at h; split at h <;> cases h; rfl
  | failed => cases h; rfl
  | aborted reason => cases reason <;> cases h <;> rfl

theorem judge_position {r : Rejection} (h : p.judge symbol n f o = .error r) :
    r.position = max f.position r.consumed :=
  congrArg Rejection.position (judge_eq_error h)

/-- A rejection that lies at the frontier names the symbols expected there, any
other none. -/
theorem judge_expected {r : Rejection} (h : p.judge symbol n f o = .error r) :
    r.expected = if f.position = r.position then f.expected else [] := by
  have he : r.expected = if f.position < r.consumed then [] else f.expected :=
    congrArg Rejection.expected (judge_eq_error h)
  rw [he, judge_position h]
  by_cases hlt : f.position < r.consumed
  · rw [if_pos hlt, if_neg (by omega)]
  · rw [if_neg hlt, if_pos (by omega)]

theorem sameVerdict_judge (f f' : Frontier) :
    SameVerdict (p.judge symbol n f o) (p.judge symbol n f' o) := by
  cases o with
  | matched tree stop =>
    simp only [judge]
    split
    · exact .accepted
    · exact .rejected rfl rfl rfl
  | failed => exact .rejected rfl rfl rfl
  | aborted reason => cases reason <;> exact .rejected rfl rfl rfl

end

end PhraseStructure.Parser
