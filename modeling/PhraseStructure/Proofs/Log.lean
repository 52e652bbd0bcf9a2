import PhraseStructure.Proofs.Rules
/-!
# Logs

What matching records, one event after the other. `SymbolLog`, `FirstLog` and
`SequenceLog` say what a match comes to and which events it records, without a
trace: neither depends on the trace that the match starts with. Proofs about
what a whole run records go by induction on these.

Main statements: every match has a log (`exists_symbolLog`), and matching
answers with the outcome of its log and adds the events of the log to the trace
(`SymbolLog.eq`).
-/
namespace PhraseStructure

/-! ## Events -/

/-- Something that matching records: a diagnostic, or that a symbol was expected
in vain. -/
inductive Event where
  | diagnostic (d : Diagnostic)
  | expectation (symbol : String) (position : Nat)

namespace Trace

/-- The trace after an event. A symbol that has been reported as unknown is not
reported again. -/
def record (t : Trace) : Event → Trace
  | .diagnostic (.unknownSymbol symbol position) => t.reportUnknown symbol position
  | .diagnostic d => t.report d
  | .expectation symbol position => t.expect symbol position

/-- The trace after some events. -/
def recordAll (t : Trace) (log : List Event) : Trace := log.foldl record t

@[simp] theorem recordAll_nil (t : Trace) : t.recordAll [] = t := rfl

@[simp] theorem recordAll_cons (t : Trace) (e : Event) (log : List Event) :
    t.recordAll (e :: log) = (t.record e).recordAll log := rfl

@[simp] theorem recordAll_append (t : Trace) (log log' : List Event) :
    t.recordAll (log ++ log') = (t.recordAll log).recordAll log' :=
  List.foldl_append

/-! ## What a trace keeps of a log -/

variable {t : Trace} {log : List Event}

@[simp] theorem frontier_record_diagnostic (t : Trace) (d : Diagnostic) :
    (t.record (.diagnostic d)).frontier = t.frontier := by
  cases d <;> simp [record]

@[simp] theorem frontier_record_expectation (t : Trace) (symbol : String) (position : Nat) :
    (t.record (.expectation symbol position)).frontier = t.frontier.expect symbol position := rfl

/-- What the expectations in a log keep of a frontier, the log keeps:
diagnostics do not move it. -/
theorem frontier_recordAll_of_expect {P : Frontier → Prop} (ht : P t.frontier)
    (hexpect : ∀ f s q, P f → .expectation s q ∈ log → P (f.expect s q)) : P (t.recordAll log).frontier := by
  induction log generalizing t with
  | nil => exact ht
  | cons e log ih =>
    refine ih ?_ fun f s q hf he => hexpect f s q hf (List.mem_cons_of_mem _ he)
    cases e with
    | diagnostic d => rwa [frontier_record_diagnostic]
    | expectation symbol position => exact hexpect _ _ _ ht List.mem_cons_self

/-- The frontier never moves back. -/
theorem position_le_recordAll (t : Trace) (log : List Event) :
    t.frontier.position ≤ (t.recordAll log).frontier.position := by
  refine frontier_recordAll_of_expect (P := fun f => t.frontier.position ≤ f.position) (Nat.le_refl _) ?_
  intro f s q hle _
  rw [Frontier.position_expect]
  exact Nat.le_trans hle (Nat.le_max_left _ _)

/-- The frontier stays within a bound that nothing expected lies beyond. -/
theorem position_recordAll_le {bound : Nat} (ht : t.frontier.position ≤ bound)
    (hlog : ∀ s q, .expectation s q ∈ log → q ≤ bound) : (t.recordAll log).frontier.position ≤ bound := by
  refine frontier_recordAll_of_expect (P := fun f => f.position ≤ bound) ht ?_
  intro f s q hle he
  rw [Frontier.position_expect]
  exact Nat.max_le.2 ⟨hle, hlog s q he⟩

/-- The frontier lies at or after every position at which a symbol was
expected. -/
theorem position_le_of_mem {symbol : String} {position : Nat} (h : .expectation symbol position ∈ log) :
    position ≤ (t.recordAll log).frontier.position := by
  induction log generalizing t with
  | nil => cases h
  | cons e log ih =>
    rcases List.mem_cons.1 h with rfl | h
    · refine Nat.le_trans ?_ (position_le_recordAll _ log)
      rw [frontier_record_expectation, Frontier.position_expect]
      exact Nat.le_max_right _ _
    · exact ih h

/-- What holds of every symbol expected so far, at the position where it was
expected, and of those that a log expects, holds of those expected at the
frontier. -/
theorem forall_mem_expected_recordAll {P : String → Nat → Prop}
    (ht : ∀ s ∈ t.frontier.expected, P s t.frontier.position)
    (hlog : ∀ s q, .expectation s q ∈ log → P s q) :
    ∀ s ∈ (t.recordAll log).frontier.expected, P s (t.recordAll log).frontier.position := by
  refine frontier_recordAll_of_expect (P := fun f => ∀ s ∈ f.expected, P s f.position) ht ?_
  intro f symbol position hf he s hs
  rcases Frontier.mem_expected_expect hs with ⟨hs, hp⟩ | ⟨rfl, hp⟩
  · rw [hp]
    exact hf s hs
  · rw [hp]
    exact hlog s position he

/-- The symbols expected at the frontier of a log by itself were expected there
by the log. -/
theorem expectation_mem_of_mem_expected {s : String} (h : s ∈ (empty.recordAll log).frontier.expected) :
    .expectation s (empty.recordAll log).frontier.position ∈ log :=
  forall_mem_expected_recordAll (P := fun s q => .expectation s q ∈ log)
    (by simp [empty, Frontier.start]) (fun _ _ h => h) s h

theorem mem_diagnostics_record {e : Event} {d : Diagnostic} (h : d ∈ (t.record e).diagnostics) :
    d ∈ t.diagnostics ∨ e = .diagnostic d := by
  cases e with
  | expectation symbol position => exact .inl h
  | diagnostic d' =>
    cases d' with
    | unknownSymbol symbol position =>
      rw [record, diagnostics_reportUnknown] at h
      split at h
      · exact .inl h
      · simpa [eq_comm] using h
    | noMatch | cycle | recursionLimit => simpa [record, eq_comm] using h

/-- Diagnostics are kept or come from the log. -/
theorem mem_diagnostics_recordAll {d : Diagnostic} (h : d ∈ (t.recordAll log).diagnostics) :
    d ∈ t.diagnostics ∨ .diagnostic d ∈ log := by
  induction log generalizing t with
  | nil => exact .inl h
  | cons e log ih =>
    rcases ih h with h | h
    · rcases mem_diagnostics_record h with h | rfl
      · exact .inl h
      · exact .inr List.mem_cons_self
    · exact .inr (List.mem_cons_of_mem _ h)

end Trace

namespace Matcher

variable (m : Matcher)

/-- What is recorded where a symbol without a rule is met that does not tag the
token: it was expected, and it is unknown unless it tags some word. -/
def mismatch (symbol : String) (position : Nat) : List Event :=
  if m.lexicon.isTag symbol then [.expectation symbol position]
  else [.diagnostic (.unknownSymbol symbol position), .expectation symbol position]

/-! ## Logs -/

mutual

/-- Matching a symbol with a budget below a path: its outcome, and what it
records. -/
inductive SymbolLog : Nat → List (String × Nat) → String → Nat → Outcome Tree → List Event → Prop
  | unknown {budget path symbol position} : m.grammar.alternatives? symbol = none →
    SymbolLog budget path symbol position .failed [.diagnostic (.unknownSymbol symbol position)]
  | repeated {budget path symbol position} :
    m.grammar.contains symbol = true → (symbol, position) ∈ path →
    SymbolLog budget path symbol position (.aborted (.cycle symbol position))
      [.diagnostic (.cycle symbol position)]
  | tooDeep {path symbol position} :
    m.grammar.contains symbol = true → (symbol, position) ∉ path →
    SymbolLog 0 path symbol position (.aborted (.tooDeep symbol m.limit))
      [.diagnostic (.recursionLimit symbol position m.limit)]
  | matched {budget path symbol position alternatives children stop log} :
    m.grammar.alternatives? symbol = some alternatives → (symbol, position) ∉ path →
    FirstLog budget ((symbol, position) :: path) position alternatives (.matched children stop) log →
    SymbolLog (budget + 1) path symbol position (.matched (.node symbol children) stop) log
  | failed {budget path symbol position alternatives log} :
    m.grammar.alternatives? symbol = some alternatives → (symbol, position) ∉ path →
    FirstLog budget ((symbol, position) :: path) position alternatives .failed log →
    SymbolLog (budget + 1) path symbol position .failed (log ++ [.diagnostic (.noMatch symbol position)])
  | aborted {budget path symbol position alternatives reason log} :
    m.grammar.alternatives? symbol = some alternatives → (symbol, position) ∉ path →
    FirstLog budget ((symbol, position) :: path) position alternatives (.aborted reason) log →
    SymbolLog (budget + 1) path symbol position (.aborted reason) log

/-- Matching the first of some alternatives that matches: its outcome, and what
it records. -/
inductive FirstLog :
    Nat → List (String × Nat) → Nat → List Production → Outcome (List Tree) → List Event → Prop
  | nil {budget path position} : FirstLog budget path position [] .failed []
  | next {budget path position production productions log outcome log'} :
    SequenceLog budget path production.rhs position .failed log →
    FirstLog budget path position productions outcome log' →
    FirstLog budget path position (production :: productions) outcome (log ++ log')
  | here {budget path position production productions outcome log} :
    SequenceLog budget path production.rhs position outcome log → outcome ≠ .failed →
    FirstLog budget path position (production :: productions) outcome log

/-- Matching the symbols of an alternative from a cursor on: its outcome, and
what it records. -/
inductive SequenceLog :
    Nat → List (String × Nat) → List String → Nat → Outcome (List Tree) → List Event → Prop
  | nil {budget path cursor} : SequenceLog budget path [] cursor (.matched [] cursor) []
  | exhausted {budget path symbol symbols cursor} : m.tokens[cursor]? = none →
    SequenceLog budget path (symbol :: symbols) cursor .failed [.expectation symbol cursor]
  | token {budget path symbol symbols cursor token outcome log} :
    m.tokens[cursor]? = some token → m.lexicon.tag? token = some symbol →
    SequenceLog budget path symbols (cursor + 1) outcome log →
    SequenceLog budget path (symbol :: symbols) cursor (outcome.map (Tree.tagged symbol token :: ·)) log
  | matched {budget path symbol symbols cursor token tree stop log outcome log'} :
    m.tokens[cursor]? = some token → m.lexicon.tag? token ≠ some symbol →
    m.grammar.contains symbol = true → SymbolLog budget path symbol cursor (.matched tree stop) log →
    SequenceLog budget path symbols stop outcome log' →
    SequenceLog budget path (symbol :: symbols) cursor (outcome.map (tree :: ·)) (log ++ log')
  | failed {budget path symbol symbols cursor token log} :
    m.tokens[cursor]? = some token → m.lexicon.tag? token ≠ some symbol →
    m.grammar.contains symbol = true → SymbolLog budget path symbol cursor .failed log →
    SequenceLog budget path (symbol :: symbols) cursor .failed log
  | aborted {budget path symbol symbols cursor token reason log} :
    m.tokens[cursor]? = some token → m.lexicon.tag? token ≠ some symbol →
    m.grammar.contains symbol = true → SymbolLog budget path symbol cursor (.aborted reason) log →
    SequenceLog budget path (symbol :: symbols) cursor (.aborted reason) log
  | unknown {budget path symbol symbols cursor token} :
    m.tokens[cursor]? = some token → m.lexicon.tag? token ≠ some symbol →
    m.grammar.contains symbol = false →
    SequenceLog budget path (symbol :: symbols) cursor .failed (m.mismatch symbol cursor)

end

variable {m}

@[simp] theorem expectation_mem_mismatch {symbol s : String} {position q : Nat} :
    .expectation s q ∈ m.mismatch symbol position ↔ s = symbol ∧ q = position := by
  unfold mismatch
  split <;> simp

@[simp] theorem diagnostic_mem_mismatch {symbol : String} {position : Nat} {d : Diagnostic} :
    .diagnostic d ∈ m.mismatch symbol position ↔
      m.lexicon.isTag symbol = false ∧ d = .unknownSymbol symbol position := by
  unfold mismatch
  split <;> simp_all

theorem recordAll_mismatch (t : Trace) (symbol : String) (position : Nat) :
    t.recordAll (m.mismatch symbol position) =
      (if m.lexicon.isTag symbol then t else t.reportUnknown symbol position).expect symbol position := by
  unfold mismatch
  split <;> rfl

/-- A symbol without a rule is reported as unknown and nothing else. -/
theorem SymbolLog.eq_of_not_contains {budget path symbol position outcome log}
    (h : m.SymbolLog budget path symbol position outcome log) (hc : m.grammar.contains symbol = false) :
    outcome = .failed ∧ log = [.diagnostic (.unknownSymbol symbol position)] := by
  have ha := Grammar.alternatives?_eq_none.2 hc
  cases h with
  | unknown => exact ⟨rfl, rfl⟩
  | repeated hc' | tooDeep hc' => simp [hc] at hc'
  | matched ha' | failed ha' | aborted ha' => simp [ha] at ha'

/-! ## Matching follows its log -/

mutual

theorem SymbolLog.run {budget path symbol position outcome log} :
    m.SymbolLog budget path symbol position outcome log →
    ∀ trace, m.SymbolRun budget path symbol position trace outcome (trace.recordAll log)
  | .unknown ha, _ => .unknown ha
  | .repeated hc hp, _ => .repeated hc hp
  | .tooDeep hc hp, _ => .tooDeep hc hp
  | .matched ha hp hf, trace => .matched ha hp (hf.run trace)
  | .failed ha hp hf, trace => by
    rw [Trace.recordAll_append]
    exact .failed ha hp (hf.run trace)
  | .aborted ha hp hf, trace => .aborted ha hp (hf.run trace)

theorem FirstLog.run {budget path position productions outcome log} :
    m.FirstLog budget path position productions outcome log →
    ∀ trace, m.FirstRun (m.matchSymbol budget path) position productions trace outcome (trace.recordAll log)
  | .nil, _ => .nil
  | .next hs hf, trace => by
    rw [Trace.recordAll_append]
    exact .next (hs.run trace) (hf.run _)
  | .here hs hne, trace => .here (hs.run trace) hne

theorem SequenceLog.run {budget path symbols cursor outcome log} :
    m.SequenceLog budget path symbols cursor outcome log →
    ∀ trace, m.SequenceRun (m.matchSymbol budget path) symbols cursor trace outcome (trace.recordAll log)
  | .nil, _ => .nil
  | .exhausted ht, _ => .exhausted ht
  | .token ht hl hs, trace => .token ht hl (hs.run trace)
  | .matched ht hl hc hm hs, trace => by
    rw [Trace.recordAll_append]
    exact .matched ht hl hc (hm.run trace).eq (hs.run _)
  | .failed ht hl hc hf, trace => .failed ht hl hc (hf.run trace).eq
  | .aborted ht hl hc ha, trace => .aborted ht hl hc (ha.run trace).eq
  | .unknown ht hl hc, trace => by
    rw [recordAll_mismatch]
    exact .unknown ht hl hc

end

/-- Whatever the trace so far, a match answers with the outcome of its log and
records the log. -/
theorem SymbolLog.eq {budget path symbol position outcome log}
    (h : m.SymbolLog budget path symbol position outcome log) (trace : Trace) :
    m.matchSymbol budget path symbol position trace = (outcome, trace.recordAll log) :=
  (h.run trace).eq

/-! ## Every match has a log -/

/-- The outcomes of calls come with logs. -/
def Logged (m : Matcher) (budget : Nat) (path : List (String × Nat)) : Prop :=
  ∀ s q u, ∃ log, m.SymbolLog budget path s q (m.matchSymbol budget path s q u).1 log

variable {budget : Nat} {path : List (String × Nat)}

theorem SequenceRun.exists_log (hcall : m.Logged budget path) {symbols cursor trace outcome trace'}
    (h : m.SequenceRun (m.matchSymbol budget path) symbols cursor trace outcome trace') :
    ∃ log, m.SequenceLog budget path symbols cursor outcome log := by
  have hlog : ∀ {s q u o u'}, m.matchSymbol budget path s q u = (o, u') →
      ∃ log, m.SymbolLog budget path s q o log :=
    fun {s q u _ _} he => by simpa only [he] using hcall s q u
  induction h with
  | nil => exact ⟨_, .nil⟩
  | exhausted ht => exact ⟨_, .exhausted ht⟩
  | token ht hl _ ih =>
    obtain ⟨log, hs⟩ := ih
    exact ⟨log, .token ht hl hs⟩
  | matched ht hl hc hm _ ih =>
    obtain ⟨log, hm⟩ := hlog hm
    obtain ⟨log', hs⟩ := ih
    exact ⟨log ++ log', .matched ht hl hc hm hs⟩
  | failed ht hl hc hf =>
    obtain ⟨log, hf⟩ := hlog hf
    exact ⟨log, .failed ht hl hc hf⟩
  | aborted ht hl hc ha =>
    obtain ⟨log, ha⟩ := hlog ha
    exact ⟨log, .aborted ht hl hc ha⟩
  | unknown ht hl hc => exact ⟨_, .unknown ht hl hc⟩

theorem FirstRun.exists_log (hcall : m.Logged budget path) {position productions trace outcome trace'}
    (h : m.FirstRun (m.matchSymbol budget path) position productions trace outcome trace') :
    ∃ log, m.FirstLog budget path position productions outcome log := by
  induction h with
  | nil => exact ⟨_, .nil⟩
  | next hs _ ih =>
    obtain ⟨log, hs⟩ := hs.exists_log hcall
    obtain ⟨log', hf⟩ := ih
    exact ⟨log ++ log', .next hs hf⟩
  | here hs hne =>
    obtain ⟨log, hs⟩ := hs.exists_log hcall
    exact ⟨log, .here hs hne⟩

theorem SymbolRun.exists_log (hcall : ∀ b < budget, ∀ path, m.Logged b path)
    {symbol position trace outcome trace'}
    (h : m.SymbolRun budget path symbol position trace outcome trace') :
    ∃ log, m.SymbolLog budget path symbol position outcome log := by
  cases h with
  | unknown ha => exact ⟨_, .unknown ha⟩
  | repeated hc hp => exact ⟨_, .repeated hc hp⟩
  | tooDeep hc hp => exact ⟨_, .tooDeep hc hp⟩
  | matched ha hp hf =>
    obtain ⟨log, hf⟩ := hf.exists_log (hcall _ (Nat.lt_succ_self _) _)
    exact ⟨log, .matched ha hp hf⟩
  | failed ha hp hf =>
    obtain ⟨log, hf⟩ := hf.exists_log (hcall _ (Nat.lt_succ_self _) _)
    exact ⟨_, .failed ha hp hf⟩
  | aborted ha hp hf =>
    obtain ⟨log, hf⟩ := hf.exists_log (hcall _ (Nat.lt_succ_self _) _)
    exact ⟨log, .aborted ha hp hf⟩

theorem exists_symbolLog (m : Matcher) (budget : Nat) (path : List (String × Nat)) : m.Logged budget path := by
  induction budget using Nat.strongRecOn generalizing path with
  | ind budget ih =>
    intro s q u
    exact (matchSymbol_run m budget path s q u).exists_log ih

/-- The log of a whole run. -/
abbrev RunLog (m : Matcher) (symbol : String) (outcome : Outcome Tree) (log : List Event) : Prop :=
  m.SymbolLog m.limit [] symbol 0 outcome log

/-- A run has one outcome and one log, whatever the trace that it starts
with. -/
theorem exists_runLog (m : Matcher) (symbol : String) :
    ∃ outcome log, m.RunLog symbol outcome log ∧
      ∀ trace, m.run symbol trace = (outcome, trace.recordAll log) := by
  obtain ⟨log, h⟩ := exists_symbolLog m m.limit [] symbol 0 .empty
  exact ⟨_, log, h, h.eq⟩

end Matcher

end PhraseStructure
