import PhraseStructure.Proofs.KeptTraces
import PhraseStructure.Proofs.Phrases
import PhraseStructure.Proofs.Progress
import PhraseStructure.Proofs.Reachability
/-!
# Diagnostics and verdicts

A match that is aborted records the abort last, and no match records an abort
that it survives (`SymbolLog.concludes`). What a diagnostic says is so: a symbol
reported as not matching at a position has no other reading there
(`SymbolLog.warranted`), whichever of its calls reported it.

Main statement: the diagnostics that a parse adds to its trace agree with its
verdict and with its tree.
-/
namespace PhraseStructure

/-! ## What a log adds to a trace -/

namespace Trace

/-- The diagnostics that a log adds to those of a trace. -/
def added (t : Trace) (log : List Event) : List Diagnostic :=
  (empty.recordAll log).diagnostics.filter (!t.hasReported ·)

variable {t : Trace} {log : List Event} {d : Diagnostic}

theorem diagnostics_recordAll (t : Trace) (log : List Event) :
    (t.recordAll log).diagnostics = t.diagnostics ++ t.added log := by
  rw [recordAll_eq_followedBy, diagnostics_followedBy, added]

theorem mem_log_of_mem_added (h : d ∈ t.added log) : .diagnostic d ∈ log :=
  (mem_diagnostics_recordAll (List.mem_of_mem_filter h)).resolve_left (by simp)

/-- A diagnostic comes last if it is recorded last, unless it reports a symbol
as unknown. -/
theorem added_concat (hd : ∀ s q, d ≠ .unknownSymbol s q) :
    t.added (log ++ [.diagnostic d]) = t.added log ++ [d] := by
  cases d with
  | unknownSymbol s q => exact absurd rfl (hd s q)
  | noMatch | cycle | recursionLimit => simp [added, record, hasReported]

end Trace

/-! ## Aborts are reported last -/

/-- Whether the diagnostic reports an abort. -/
def Diagnostic.reportsAbort : Diagnostic → Bool
  | cycle _ _ | recursionLimit _ _ _ => true
  | _ => false

/-- No diagnostic in a log reports an abort. -/
def NoAbort (log : List Event) : Prop := ∀ d, .diagnostic d ∈ log → d.reportsAbort = false

theorem NoAbort.append {log log' : List Event} (h : NoAbort log) (h' : NoAbort log') : NoAbort (log ++ log') := by
  intro d hd
  rcases List.mem_append.1 hd with hd | hd
  · exact h d hd
  · exact h' d hd

/-- The log of an outcome that is an abort ends with the report of it and
reports no other; that of any other outcome reports none. -/
def Outcome.Concludes {α : Type} (outcome : Outcome α) (log : List Event) : Prop :=
  match outcome with
  | aborted reason => ∃ before d, log = before ++ [.diagnostic d] ∧ reason.rejectReason.ReportedBy d ∧
    NoAbort before
  | _ => NoAbort log

namespace Outcome

variable {α β : Type} {outcome : Outcome α} {log log' : List Event}

theorem Concludes.append_left (h : outcome.Concludes log) (h' : NoAbort log') :
    outcome.Concludes (log' ++ log) := by
  cases outcome with
  | matched value stop => exact h'.append h
  | failed => exact h'.append h
  | aborted reason =>
    obtain ⟨before, d, rfl, hr, hb⟩ := h
    exact ⟨log' ++ before, d, (List.append_assoc ..).symm, hr, h'.append hb⟩

theorem concludes_map {f : α → β} : (outcome.map f).Concludes log ↔ outcome.Concludes log := by
  cases outcome <;> rfl

/-- An abort that is reported is what the outcome is. -/
theorem Concludes.exists_aborted (h : outcome.Concludes log) {d : Diagnostic} (hd : .diagnostic d ∈ log)
    (ha : d.reportsAbort = true) : ∃ reason, outcome = .aborted reason ∧ reason.rejectReason.ReportedBy d := by
  cases outcome with
  | matched value stop => simp [h d hd] at ha
  | failed => simp [h d hd] at ha
  | aborted reason =>
    obtain ⟨before, d', rfl, hr, hb⟩ := h
    rcases List.mem_append.1 hd with hd | hd
    · simp [hb d hd] at ha
    · cases List.mem_singleton.1 hd
      exact ⟨reason, rfl, hr⟩

end Outcome

namespace Matcher

variable {m : Matcher}

mutual

theorem SymbolLog.concludes {budget path symbol position outcome log} :
    m.SymbolLog budget path symbol position outcome log → outcome.Concludes log
  | .unknown _ => by simp [Outcome.Concludes, NoAbort, Diagnostic.reportsAbort]
  | .repeated _ _ => ⟨[], _, rfl, rfl, by simp [NoAbort]⟩
  | .tooDeep _ _ => ⟨[], _, rfl, ⟨_, rfl⟩, by simp [NoAbort]⟩
  | .matched _ _ hf => hf.concludes
  | .failed _ _ hf =>
    have halternatives : NoAbort _ := hf.concludes
    halternatives.append (by simp [NoAbort, Diagnostic.reportsAbort])
  | .aborted _ _ hf => hf.concludes

theorem FirstLog.concludes {budget path position productions outcome log} :
    m.FirstLog budget path position productions outcome log → outcome.Concludes log
  | .nil => by simp [Outcome.Concludes, NoAbort]
  | .next hs hf => hf.concludes.append_left hs.concludes
  | .here hs _ => hs.concludes

theorem SequenceLog.concludes {budget path symbols cursor outcome log} :
    m.SequenceLog budget path symbols cursor outcome log → outcome.Concludes log
  | .nil => by simp [Outcome.Concludes, NoAbort]
  | .exhausted _ => by simp [Outcome.Concludes, NoAbort]
  | .token _ _ hs => Outcome.concludes_map.2 hs.concludes
  | .matched _ _ _ hm hs => Outcome.concludes_map.2 (hs.concludes.append_left hm.concludes)
  | .failed _ _ _ hf => hf.concludes
  | .aborted _ _ _ ha => ha.concludes
  | .unknown _ _ _ => by simp [Outcome.Concludes, NoAbort, Diagnostic.reportsAbort]

end

/-- A nonterminal that fails is reported last. -/
theorem SymbolLog.eq_concat_of_failed {budget path symbol position log}
    (h : m.SymbolLog budget path symbol position .failed log) (hc : m.grammar.contains symbol = true) :
    ∃ before, log = before ++ [.diagnostic (.noMatch symbol position)] := by
  cases h with
  | unknown ha => simp [Grammar.alternatives?_eq_none.1 ha] at hc
  | failed => exact ⟨_, rfl⟩

/-! ## What a diagnostic says -/

/-- What a diagnostic says is so. -/
def Warranted (m : Matcher) : Diagnostic → Prop
  | .unknownSymbol s _ =>
    (∃ symbol, m.grammar.Uses symbol s) ∧ m.grammar.contains s = false ∧ m.lexicon.isTag s = false
  | .noMatch s q => m.Reads s q none
  | .cycle s _ | .recursionLimit s _ _ => m.grammar.contains s = true

mutual

theorem SymbolLog.warranted {budget path symbol position outcome log} :
    m.SymbolLog budget path symbol position outcome log → m.grammar.contains symbol = true →
    ∀ d, .diagnostic d ∈ log → m.Warranted d
  | .unknown ha, hc, _, _ => by simp [Grammar.alternatives?_eq_none.1 ha] at hc
  | .repeated _ _, hc, d, hd => by
    cases List.mem_singleton.1 hd
    exact hc
  | .tooDeep _ _, hc, d, hd => by
    cases List.mem_singleton.1 hd
    exact hc
  | .matched ha _ hf, _, d, hd => hf.warranted (fun _ hp _ hs => ⟨_, .intro ha hp hs⟩) d hd
  | .failed ha hp hf, hc, d, hd => by
    rcases List.mem_append.1 hd with hd | hd
    · exact hf.warranted (fun _ hp _ hs => ⟨_, .intro ha hp hs⟩) d hd
    · cases List.mem_singleton.1 hd
      -- The log belongs to a call that fails, so the reading that this call
      -- computes is failure.
      have hfailed := congrArg Prod.fst ((SymbolLog.failed ha hp hf).eq .empty)
      exact reads_of_failed hc hfailed
  | .aborted ha _ hf, _, d, hd => hf.warranted (fun _ hp _ hs => ⟨_, .intro ha hp hs⟩) d hd

theorem FirstLog.warranted {budget path position productions outcome log} :
    m.FirstLog budget path position productions outcome log →
    (∀ production ∈ productions, ∀ s ∈ production.rhs, ∃ symbol, m.grammar.Uses symbol s) →
    ∀ d, .diagnostic d ∈ log → m.Warranted d
  | .nil, _, _, hd => by cases hd
  | .next hs hf, hu, d, hd => by
    rcases List.mem_append.1 hd with hd | hd
    · exact hs.warranted (hu _ List.mem_cons_self) d hd
    · exact hf.warranted (fun production hp => hu production (List.mem_cons_of_mem _ hp)) d hd
  | .here hs _, hu, d, hd => hs.warranted (hu _ List.mem_cons_self) d hd

theorem SequenceLog.warranted {budget path symbols cursor outcome log} :
    m.SequenceLog budget path symbols cursor outcome log →
    (∀ s ∈ symbols, ∃ symbol, m.grammar.Uses symbol s) → ∀ d, .diagnostic d ∈ log → m.Warranted d
  | .nil, _, _, hd => by cases hd
  | .exhausted _, _, _, hd => by simp at hd
  | .token _ _ hs, hu, d, hd => hs.warranted (fun s h => hu s (List.mem_cons_of_mem _ h)) d hd
  | .matched _ _ hc hm hs, hu, d, hd => by
    rcases List.mem_append.1 hd with hd | hd
    · exact hm.warranted hc d hd
    · exact hs.warranted (fun s h => hu s (List.mem_cons_of_mem _ h)) d hd
  | .failed _ _ hc hf, _, d, hd => hf.warranted hc d hd
  | .aborted _ _ hc ha, _, d, hd => ha.warranted hc d hd
  | .unknown _ _ hc, hu, d, hd => by
    obtain ⟨ht, rfl⟩ := diagnostic_mem_mismatch.1 hd
    exact ⟨hu _ List.mem_cons_self, hc, ht⟩

end

/-- A symbol that is reported as not matching at a position has no other reading
there. -/
theorem RunLog.reads_none {symbol outcome log} (h : m.RunLog symbol outcome log) {s : String} {q : Nat}
    (hd : .diagnostic (.noMatch s q) ∈ log) : m.Reads s q none := by
  cases hc : m.grammar.contains symbol with
  | true => exact h.warranted hc _ hd
  | false =>
    obtain ⟨-, rfl⟩ := h.eq_of_not_contains hc
    simp at hd

/-- Where a symbol has no reading but failure, every call for it fails that is
not aborted. -/
theorem result_eq_failed {s : String} {q : Nat} (h : m.Reads s q none) {v : Visit} (hk : v.key = (s, q))
    (hv : ∀ reason, (m.result v).1 ≠ .aborted reason) : (m.result v).1 = .failed := by
  obtain ⟨rfl, rfl⟩ := Prod.mk.inj hk
  cases ho : (m.result v).1 with
  | matched tree stop =>
    cases h.unique (reads_of_matched ho)
  | failed => rfl
  | aborted reason => exact absurd ho (hv reason)

end Matcher

/-! ## Main theorem -/

/-- The diagnostics that a parse adds to its trace. An abort is reported if it
is the reason of the rejection, as the last diagnostic, and no other abort is; a
symbol that does not match is reported last. A symbol that is reported as not
matching at a position has a rule, and every call for it there that is not
aborted fails; so the phrases of an accepted tree, each the answer to a call
where it starts, are none of those. -/
theorem Parser.diagnostics_agree (p : Parser) (tokens : List String) (symbol : String) (t : Trace) :
    ∃ added, (p.parseFrom tokens symbol t).2.diagnostics = t.diagnostics ++ added ∧
      (∀ s q, RejectedFor (.cycle s q) (p.parseFrom tokens symbol t).1 →
        ∃ before, added = before ++ [.cycle s q] ∧ ∀ d ∈ before, d.reportsAbort = false) ∧
      (∀ s limit, RejectedFor (.recursionLimit s limit) (p.parseFrom tokens symbol t).1 →
        ∃ before q, added = before ++ [.recursionLimit s q limit] ∧ ∀ d ∈ before, d.reportsAbort = false) ∧
      (∀ s, RejectedFor (.noMatch s) (p.parseFrom tokens symbol t).1 → added.getLast? = some (.noMatch s 0)) ∧
      ((∃ d, (p.parseFrom tokens symbol t).1 = .ok d) ∨
          RejectedFor .incomplete (p.parseFrom tokens symbol t).1 →
        ∀ d ∈ added, d.reportsAbort = false) ∧
      (∀ s q, .noMatch s q ∈ added → p.grammar.contains s = true ∧
        ∀ v vs, (p.matcher tokens).CallStack symbol t v vs → v.key = (s, q) →
          (∀ reason, ((p.matcher tokens).result v).1 ≠ .aborted reason) →
          ((p.matcher tokens).result v).1 = .failed) ∧
      ∀ d, (p.parseFrom tokens symbol t).1 = .ok d →
        PhraseWhere p.lexicon tokens (fun tree start stop =>
          (p.matcher tokens).Answered symbol t tree start stop ∧ .noMatch tree.label start ∉ added)
          d.tree 0 tokens.length := by
  obtain ⟨outcome, log, hlog, hrun⟩ := Matcher.exists_runLog (p.matcher tokens) symbol
  simp only [parseFrom_eq, hrun]
  have hconcludes := hlog.concludes
  refine ⟨t.added log, t.diagnostics_recordAll log, ?_, ?_, ?_, ?_, ?_, ?_⟩
  · intro s q h
    cases judge_cycle_iff.1 h
    obtain ⟨before, d, rfl, rfl, hb⟩ := hconcludes
    exact ⟨t.added before, Trace.added_concat (by simp), fun d hd => hb d (Trace.mem_log_of_mem_added hd)⟩
  · intro s limit h
    cases judge_recursionLimit_iff.1 h
    obtain ⟨before, d, rfl, ⟨q, rfl⟩, hb⟩ := hconcludes
    exact ⟨t.added before, q, Trace.added_concat (by simp), fun d hd => hb d (Trace.mem_log_of_mem_added hd)⟩
  · intro s h
    obtain ⟨rfl, hc, rfl⟩ := judge_noMatch_iff.1 h
    obtain ⟨before, rfl⟩ := hlog.eq_concat_of_failed hc
    rw [Trace.added_concat (by simp), List.getLast?_concat]
  · intro h d hd
    have hmatched : ∃ tree stop, outcome = .matched tree stop := by
      rcases h with ⟨d, h⟩ | ⟨r, h, hr⟩
      · exact ⟨_, _, (judge_eq_ok_iff.1 h).1⟩
      · obtain ⟨-, tree, ho⟩ := judge_incomplete_iff.1 ⟨r, h, hr, rfl⟩
        exact ⟨tree, _, ho⟩
    obtain ⟨tree, stop, rfl⟩ := hmatched
    exact hconcludes d (Trace.mem_log_of_mem_added hd)
  · intro s q hd
    have hreads := hlog.reads_none (Trace.mem_log_of_mem_added hd)
    exact ⟨hreads.contains, fun v vs _ hk hv => Matcher.result_eq_failed hreads hk hv⟩
  · intro d h
    obtain ⟨rfl, -⟩ := judge_eq_ok_iff.1 h
    have hstart : ((p.matcher tokens).result ⟨p.limit, [], symbol, 0, t⟩).1 = .matched d.tree tokens.length :=
      congrArg Prod.fst (hrun t)
    refine (Matcher.CallStack.start.phraseWhere hstart).imp fun tree start stop ha => ⟨ha, fun hd => ?_⟩
    -- A phrase that was reported would be the answer to a call that fails.
    obtain ⟨v, vs, -, hk, hm⟩ := ha
    have hreads := hlog.reads_none (Trace.mem_log_of_mem_added hd)
    have hfailed := Matcher.result_eq_failed hreads hk (by simp [hm])
    simp [hm] at hfailed

end PhraseStructure
