import PhraseStructure.Proofs.Calls
/-!
# Ordered choice

`Evaluates` reads a grammar as ordered choice, without guards, limits or traces:
a nonterminal stands for the first of its alternatives that succeeds. It gives
each nonterminal at most one result at a position (`Evaluates.unique`), and none
at all where evaluation would go on forever.

Main statement: matching computes this reading. The guard on the call path makes
no false alarm, because a nonterminal that has a result calls for itself nowhere
below (`acc_of_reads`); and a run whose limit is at least the number of
nonterminals times that of positions is not cut short.
-/
namespace PhraseStructure

section
variable (g : Grammar) (l : Lexicon) (tokens : List String)

mutual

/-- A nonterminal at a position, read as ordered choice: its tree and where the
tree stops, or failure. -/
inductive Evaluates : String → Nat → Option (Tree × Nat) → Prop
  | rule {symbol position alternatives result} :
    g.alternatives? symbol = some alternatives → EvaluatesFirst alternatives position result →
    Evaluates symbol position (result.map (.map (.node symbol) id))

/-- The first of some alternatives that succeeds at a position. -/
inductive EvaluatesFirst : List Production → Nat → Option (List Tree × Nat) → Prop
  | nil {position} : EvaluatesFirst [] position none
  | here {production productions position children} :
    EvaluatesSequence production.rhs position (some children) →
    EvaluatesFirst (production :: productions) position (some children)
  | next {production productions position result} :
    EvaluatesSequence production.rhs position none → EvaluatesFirst productions position result →
    EvaluatesFirst (production :: productions) position result

/-- The symbols of one alternative, from a cursor on. A token tagged with the
symbol is taken, also when the symbol has a rule; no symbol succeeds after the
last token. -/
inductive EvaluatesSequence : List String → Nat → Option (List Tree × Nat) → Prop
  | nil {cursor} : EvaluatesSequence [] cursor (some ([], cursor))
  | exhausted {symbol symbols cursor} :
    tokens[cursor]? = none → EvaluatesSequence (symbol :: symbols) cursor none
  | token {symbol symbols cursor token result} :
    tokens[cursor]? = some token → l.tag? token = some symbol →
    EvaluatesSequence symbols (cursor + 1) result →
    EvaluatesSequence (symbol :: symbols) cursor (result.map (.map (Tree.tagged symbol token :: ·) id))
  | matched {symbol symbols cursor token tree stop result} :
    tokens[cursor]? = some token → l.tag? token ≠ some symbol → Evaluates symbol cursor (some (tree, stop)) →
    EvaluatesSequence symbols stop result →
    EvaluatesSequence (symbol :: symbols) cursor (result.map (.map (tree :: ·) id))
  | failed {symbol symbols cursor token} :
    tokens[cursor]? = some token → l.tag? token ≠ some symbol → Evaluates symbol cursor none →
    EvaluatesSequence (symbol :: symbols) cursor none
  | unknown {symbol symbols cursor token} :
    tokens[cursor]? = some token → l.tag? token ≠ some symbol → g.contains symbol = false →
    EvaluatesSequence (symbol :: symbols) cursor none

end

end

/-! ## One result -/

section
variable {g : Grammar} {l : Lexicon} {tokens : List String}

theorem Evaluates.contains {symbol position result} (h : Evaluates g l tokens symbol position result) :
    g.contains symbol = true := by
  cases h with
  | rule ha _ => exact Grammar.contains_iff.2 ⟨_, ha⟩

mutual

theorem Evaluates.unique {symbol position r r'} :
    Evaluates g l tokens symbol position r → Evaluates g l tokens symbol position r' → r = r'
  | .rule ha hf, .rule ha' hf' => by
    cases ha.symm.trans ha'
    rw [hf.unique hf']

theorem EvaluatesFirst.unique {productions position r r'} :
    EvaluatesFirst g l tokens productions position r → EvaluatesFirst g l tokens productions position r' →
      r = r'
  | .nil, .nil => rfl
  | .here h, .here h' => h.unique h'
  | .here h, .next h' _ => by cases h.unique h'
  | .next h _, .here h' => by cases h.unique h'
  | .next _ h, .next _ h' => h.unique h'

theorem EvaluatesSequence.unique {symbols cursor r r'} :
    EvaluatesSequence g l tokens symbols cursor r → EvaluatesSequence g l tokens symbols cursor r' → r = r'
  | .nil, .nil => rfl
  | .exhausted ht, h' => by cases h' <;> simp_all
  | .token ht hl h, h' => by
    cases h' with
    | token ht' _ h' =>
      cases ht.symm.trans ht'
      rw [h.unique h']
    | _ => simp_all
  | .matched ht hl hs h, h' => by
    cases h' with
    | matched _ _ hs' h' =>
      cases hs.unique hs'
      rw [h.unique h']
    | failed _ _ hs' => cases hs.unique hs'
    | unknown _ _ hc => simp [hs.contains] at hc
    | _ => simp_all
  | .failed ht hl hs, h' => by
    cases h' with
    | matched _ _ hs' _ => cases hs.unique hs'
    | failed | unknown => rfl
    | _ => simp_all
  | .unknown ht hl hc, h' => by
    cases h' with
    | matched _ _ hs' _ => simp [hs'.contains] at hc
    | failed | unknown => rfl
    | _ => simp_all

end

end

/-! ## Matching answers with the result -/

namespace Outcome

variable {α β : Type}

theorem answer?_map (f : α → β) (o : Outcome α) :
    (o.map f).answer? = o.answer?.map (Option.map (Prod.map f id)) := by
  cases o <;> rfl

end Outcome

namespace Matcher

variable (m : Matcher)

/-- The ordered-choice reading of a nonterminal, for the grammar, the lexicon
and the tokens of `m`. -/
abbrev Reads (symbol : String) (position : Nat) (result : Option (Tree × Nat)) : Prop :=
  Evaluates m.grammar m.lexicon m.tokens symbol position result

/-- Calls for nonterminals are answered with their results, if at all. -/
def Agrees (call : Call) : Prop :=
  ∀ s q u r, m.grammar.contains s = true → (call s q u).1.answer? = some r → m.Reads s q r

variable {m} {call : Call}

theorem SequenceRun.evaluates (hcall : m.Agrees call) {symbols cursor trace outcome trace'}
    (h : m.SequenceRun call symbols cursor trace outcome trace') {r} (hr : outcome.answer? = some r) :
    EvaluatesSequence m.grammar m.lexicon m.tokens symbols cursor r := by
  induction h generalizing r with
  | nil => cases hr; exact .nil
  | exhausted ht => cases hr; exact .exhausted ht
  | token ht hl _ ih =>
    rw [Outcome.answer?_map, Option.map_eq_some_iff] at hr
    obtain ⟨r, hr, rfl⟩ := hr
    exact .token ht hl (ih hr)
  | matched ht hl hc hm _ ih =>
    rw [Outcome.answer?_map, Option.map_eq_some_iff] at hr
    obtain ⟨r, hr, rfl⟩ := hr
    exact .matched ht hl (hcall _ _ _ _ hc (by rw [hm]; rfl)) (ih hr)
  | failed ht hl hc hf => cases hr; exact .failed ht hl (hcall _ _ _ _ hc (by rw [hf]; rfl))
  | aborted => cases hr
  | unknown ht hl hc => cases hr; exact .unknown ht hl hc

theorem FirstRun.evaluates (hcall : m.Agrees call) {position productions trace outcome trace'}
    (h : m.FirstRun call position productions trace outcome trace') {r} (hr : outcome.answer? = some r) :
    EvaluatesFirst m.grammar m.lexicon m.tokens productions position r := by
  induction h with
  | nil => cases hr; exact .nil
  | next hs _ ih => exact .next (hs.evaluates hcall rfl) (ih hr)
  | @here _ _ _ outcome _ hs hne =>
    cases outcome with
    | matched children stop => cases hr; exact .here (hs.evaluates hcall rfl)
    | failed => exact absurd rfl hne
    | aborted => cases hr

theorem SymbolRun.evaluates {budget path symbol position trace outcome trace'}
    (hcall : ∀ b < budget, ∀ path, m.Agrees (m.matchSymbol b path)) (hc : m.grammar.contains symbol = true)
    (h : m.SymbolRun budget path symbol position trace outcome trace') {r} (hr : outcome.answer? = some r) :
    m.Reads symbol position r := by
  cases h with
  | unknown ha => simp [Grammar.alternatives?_eq_none.1 ha] at hc
  | repeated | tooDeep | aborted => cases hr
  | @matched budget _ _ _ _ _ _ _ _ ha _ hf =>
    cases hr
    exact .rule ha (hf.evaluates (hcall budget (Nat.lt_succ_self _) _) rfl)
  | @failed budget _ _ _ _ _ _ ha _ hf =>
    cases hr
    exact .rule ha (hf.evaluates (hcall budget (Nat.lt_succ_self _) _) rfl)

/-- Whatever the budget and the path, an answer is the result. -/
theorem agrees_matchSymbol (budget : Nat) (path : List (String × Nat)) :
    m.Agrees (m.matchSymbol budget path) := by
  induction budget using Nat.strongRecOn generalizing path with
  | ind budget ih =>
    intro s q u r hc hr
    exact (matchSymbol_run m budget path s q u).evaluates ih hc hr

theorem SymbolRun.contains_of_matched {budget path symbol position trace tree stop trace'}
    (h : m.SymbolRun budget path symbol position trace (.matched tree stop) trace') :
    m.grammar.contains symbol = true := by
  cases h with
  | matched ha _ _ => exact Grammar.contains_iff.2 ⟨_, ha⟩

/-- What a call matches is the reading of its symbol, wherever the call
stands. -/
theorem reads_of_matched {budget path symbol position trace tree stop}
    (h : (m.matchSymbol budget path symbol position trace).1 = .matched tree stop) :
    m.Reads symbol position (some (tree, stop)) := by
  have hrun := matchSymbol_run m budget path symbol position trace
  rw [h] at hrun
  exact agrees_matchSymbol budget path symbol position trace _ hrun.contains_of_matched
    (congrArg Outcome.answer? h)

theorem reads_of_failed {budget path symbol position trace} (hc : m.grammar.contains symbol = true)
    (h : (m.matchSymbol budget path symbol position trace).1 = .failed) : m.Reads symbol position none :=
  agrees_matchSymbol budget path symbol position trace none hc (congrArg Outcome.answer? h)

/-! ## No false alarm -/

variable (m) in
/-- While the nonterminal and position `k'` are matched, `k` is called for. -/
def Below (k k' : String × Nat) : Prop := ∃ v w, m.Nests v w ∧ v.key = k' ∧ w.key = k

mutual

/-- Below a nonterminal that has a result, calls do not go on forever. -/
theorem acc_of_reads {symbol position r} : m.Reads symbol position r → Acc m.Below (symbol, position)
  | .rule ha hf => Acc.intro _ fun
    | _, ⟨_, _, .intro ha' _ hs, rfl, rfl⟩ => by
      cases ha.symm.trans ha'
      exact acc_of_first (agrees_matchSymbol _ _) hf hs

theorem acc_of_first {call : Call} (hcall : m.Agrees call) {productions position r} :
    EvaluatesFirst m.grammar m.lexicon m.tokens productions position r →
    ∀ {trace s q u}, m.FirstCalls call position productions trace s q u → Acc m.Below (s, q)
  | .here h, _, _, _, _, .here hs => acc_of_sequence hcall h hs
  -- Later alternatives are not tried: this one would have failed against its
  -- result.
  | .here h, _, _, _, _, .next hf _ => by cases h.unique (hf.evaluates hcall rfl)
  | .next h _, _, _, _, _, .here hs => acc_of_sequence hcall h hs
  | .next _ h, _, _, _, _, .next _ hs => acc_of_first hcall h hs

theorem acc_of_sequence {call : Call} (hcall : m.Agrees call) {symbols cursor r} :
    EvaluatesSequence m.grammar m.lexicon m.tokens symbols cursor r →
    ∀ {trace s q u}, m.SequenceCalls call symbols cursor trace s q u → Acc m.Below (s, q)
  | .exhausted ht, _, _, _, _, hs => by cases hs <;> simp_all
  | .token ht hl h, _, _, _, _, hs => by
    have htail := @acc_of_sequence _ hcall _ _ _ h
    cases hs with
    | token _ _ hs => exact htail hs
    | _ => simp_all
  | .matched ht hl he h, _, _, _, _, hs => by
    have hacc := acc_of_reads he
    have htail := @acc_of_sequence _ hcall _ _ _ h
    cases hs with
    | here => exact hacc
    | token => simp_all
    | matched _ _ hc hm hs =>
      -- The call answered with the result of the symbol, so the cursor moves on
      -- as in the reading.
      cases he.unique (hcall _ _ _ _ hc (by rw [hm]; rfl))
      exact htail hs
  | .failed ht hl he, _, _, _, _, hs => by
    have hacc := acc_of_reads he
    cases hs with
    | here => exact hacc
    | token => simp_all
    | matched _ _ hc hm hs => cases he.unique (hcall _ _ _ _ hc (by rw [hm]; rfl))
  | .unknown ht hl hc, _, _, _, _, hs => by cases hs <;> simp_all

end

variable {symbol : String} {trace : Trace} {v : Visit} {vs : List Visit}

/-- A call lies below those around it. -/
theorem CallStack.transGen_below (h : m.CallStack symbol trace v vs) :
    ∀ w ∈ vs, Relation.TransGen m.Below v.key w.key := by
  induction h with
  | start => simp
  | @nest u v us _ hn ih =>
    intro w hw
    have hstep : m.Below v.key u.key := ⟨u, v, hn, rfl, rfl⟩
    rcases List.mem_cons.1 hw with rfl | hw
    · exact .single hstep
    · exact .trans (.single hstep) (ih w hw)

theorem CallStack.acc (h : m.CallStack symbol trace v vs) (hacc : Acc m.Below (symbol, 0)) :
    Acc m.Below v.key := by
  induction h with
  | start => exact hacc
  | nest _ hn ih => exact ih.inv ⟨_, _, hn, rfl, rfl⟩

theorem not_of_acc {α : Type} {r : α → α → Prop} {a : α} (h : Acc r a) : ¬ r a a := by
  induction h with
  | intro a _ ih => exact fun hr => ih a hr hr

/-- A symbol that has a result is not reported as a cycle: the call that the
path guard refuses would lie below itself. -/
theorem run_ne_cycle {r s q} (h : m.Reads symbol 0 r) : (m.run symbol trace).1 ≠ .aborted (.cycle s q) := by
  intro ho
  obtain ⟨v, vs, hs, hr⟩ := exists_refused_of_aborted ho
  cases hr with
  | repeated _ hp =>
    rw [hs.path_eq] at hp
    obtain ⟨w, hw, hk⟩ := List.mem_map.1 hp
    have hloop := hs.transGen_below w hw
    rw [hk] at hloop
    exact not_of_acc (hs.acc (acc_of_reads h)).transGen hloop

/-! ## Main theorem -/

/-- Matching a nonterminal at the first token computes its ordered-choice
reading. What matches or fails is the one result of the nonterminal, and a cycle
means that it has none. If the limit is at least the number of rules times that
of positions, the result is always found, and a cycle if there is none. -/
theorem run_refines_orderedChoice (m : Matcher) (symbol : String) (trace : Trace)
    (hc : m.grammar.contains symbol = true) :
    (∀ tree stop, (m.run symbol trace).1 = .matched tree stop →
      ∀ r, m.Reads symbol 0 r ↔ r = some (tree, stop)) ∧
    ((m.run symbol trace).1 = .failed → ∀ r, m.Reads symbol 0 r ↔ r = none) ∧
    (∀ s q, (m.run symbol trace).1 = .aborted (.cycle s q) → ∀ r, ¬ m.Reads symbol 0 r) ∧
    (m.grammar.size * max 1 m.tokens.length ≤ m.limit →
      (∀ tree stop, m.Reads symbol 0 (some (tree, stop)) → (m.run symbol trace).1 = .matched tree stop) ∧
      (m.Reads symbol 0 none → (m.run symbol trace).1 = .failed) ∧
      ((∀ r, ¬ m.Reads symbol 0 r) → ∃ s q, (m.run symbol trace).1 = .aborted (.cycle s q))) := by
  have huniq : ∀ r, m.Reads symbol 0 r → ∀ r', m.Reads symbol 0 r' ↔ r' = r :=
    fun r h r' => ⟨fun h' => h'.unique h, fun he => he ▸ h⟩
  refine ⟨?_, ?_, ?_, ?_⟩
  · intro tree stop ho
    exact huniq _ (reads_of_matched ho)
  · intro ho
    exact huniq _ (reads_of_failed hc ho)
  · intro s q ho r h
    exact run_ne_cycle h ho
  · intro hlimit
    have hdeep : ¬ (m.run symbol trace).1.IsTooDeep := not_isTooDeep_of_le hlimit
    cases ho : (m.run symbol trace).1 with
    | matched tree stop =>
      have hiff := huniq _ (reads_of_matched ho)
      refine ⟨fun tree' stop' h => ?_, fun h => ?_, fun h => ?_⟩
      · cases (hiff _).1 h
        rfl
      · cases (hiff _).1 h
      · exact absurd ((hiff _).2 rfl) (h _)
    | failed =>
      have hiff := huniq _ (reads_of_failed hc ho)
      refine ⟨fun tree' stop' h => ?_, fun _ => rfl, fun h => ?_⟩
      · cases (hiff _).1 h
      · exact absurd ((hiff _).2 rfl) (h _)
    | aborted reason =>
      cases reason with
      | cycle s q =>
        exact ⟨fun tree stop h => absurd ho (run_ne_cycle h), fun h => absurd ho (run_ne_cycle h),
          fun _ => ⟨s, q, rfl⟩⟩
      | tooDeep s limit => exact absurd ⟨s, limit, ho⟩ hdeep

/-- A subject of one or two nouns, the longer tried first, and a noun after
it. -/
def nounPhrases : Grammar :=
  ((Grammar.empty.insert "S" [⟨"S", ["NP", "VP"]⟩]).insert "NP" [⟨"NP", ["n", "n"]⟩, ⟨"NP", ["n"]⟩]).insert
    "VP" [⟨"VP", ["n"]⟩]

/-- Two nouns. -/
def nouns : Lexicon := ⟨⟨[("dog", "n"), ("cat", "n")], by decide⟩⟩

theorem reads_nounPhrases :
    nounPhrases.contains "S" = true ∧
    ((⟨nounPhrases, nouns, ["dog", "cat"], 6⟩ : Matcher).run "S" .empty).1 = .failed ∧
    ∀ r, (⟨nounPhrases, nouns, ["dog", "cat"], 6⟩ : Matcher).Reads "S" 0 r ↔ r = none :=
  ⟨by decide, by decide, (run_refines_orderedChoice _ "S" .empty (by decide)).2.1 (by decide)⟩

end Matcher

end PhraseStructure
