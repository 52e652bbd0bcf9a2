import Mathlib.Data.List.Perm.Subperm
import Mathlib.Data.List.ProdSigma
import PhraseStructure.Proofs.Rules
/-!
# Calls

Matching a symbol calls for other symbols, and those calls for others in turn.
`SequenceCalls` and `FirstCalls` are the calls that one level of matching makes:
its result depends on the answers to these alone (`FirstRun.congr`), and it is
aborted exactly if one of them is (`firstRun_aborted_iff`). A `CallStack` lists
the calls that are unfinished at some moment of a run.

Main statements: the path that a call is given names the calls around it
(`CallStack.path_eq`), no symbol twice at one position (`CallStack.nodup`), so
that a call has at most as many calls around it as there are nonterminals and
positions (`CallStack.length_le`); and an aborted run has come to a call that
one of the two guards refuses (`exists_refused_of_aborted`).
-/
namespace PhraseStructure.Matcher

variable (m : Matcher)

/-! ## One level -/

/-- Matching the symbols of an alternative from a cursor on calls for a symbol
at a position, with a trace. -/
inductive SequenceCalls (call : Call) : List String → Nat → Trace → String → Nat → Trace → Prop
  | here {symbol symbols cursor trace token} :
    m.tokens[cursor]? = some token → m.lexicon.tag? token ≠ some symbol →
    m.grammar.contains symbol = true →
    SequenceCalls call (symbol :: symbols) cursor trace symbol cursor trace
  | token {symbol symbols cursor trace token s q u} :
    m.tokens[cursor]? = some token → m.lexicon.tag? token = some symbol →
    SequenceCalls call symbols (cursor + 1) trace s q u →
    SequenceCalls call (symbol :: symbols) cursor trace s q u
  | matched {symbol symbols cursor trace token tree stop trace' s q u} :
    m.tokens[cursor]? = some token → m.lexicon.tag? token ≠ some symbol →
    m.grammar.contains symbol = true → call symbol cursor trace = (.matched tree stop, trace') →
    SequenceCalls call symbols stop trace' s q u →
    SequenceCalls call (symbol :: symbols) cursor trace s q u

/-- Matching the first of some alternatives at a position calls for a symbol at
a position, with a trace. -/
inductive FirstCalls (call : Call) (position : Nat) :
    List Production → Trace → String → Nat → Trace → Prop
  | here {production productions trace s q u} :
    m.SequenceCalls call production.rhs position trace s q u →
    FirstCalls call position (production :: productions) trace s q u
  | next {production productions trace trace' s q u} :
    m.SequenceRun call production.rhs position trace .failed trace' →
    FirstCalls call position productions trace' s q u →
    FirstCalls call position (production :: productions) trace s q u

variable {m} {call call' : Call}

/-- A call is made for a nonterminal at a token. -/
theorem SequenceCalls.bounds {symbols cursor trace s q u}
    (h : m.SequenceCalls call symbols cursor trace s q u) :
    m.grammar.contains s = true ∧ q < m.tokens.length := by
  induction h with
  | here ht _ hc => exact ⟨hc, (List.getElem?_eq_some_iff.1 ht).1⟩
  | token _ _ _ ih => exact ih
  | matched _ _ _ _ _ ih => exact ih

theorem FirstCalls.bounds {position productions trace s q u}
    (h : m.FirstCalls call position productions trace s q u) :
    m.grammar.contains s = true ∧ q < m.tokens.length := by
  induction h with
  | here h => exact h.bounds
  | next _ _ ih => exact ih

theorem SequenceRun.congr {symbols cursor trace outcome trace'}
    (h : m.SequenceRun call symbols cursor trace outcome trace')
    (hcall : ∀ s q u, m.SequenceCalls call symbols cursor trace s q u → call' s q u = call s q u) :
    m.SequenceRun call' symbols cursor trace outcome trace' := by
  induction h with
  | nil => exact .nil
  | exhausted ht => exact .exhausted ht
  | token ht hl _ ih => exact .token ht hl (ih fun s q u hs => hcall s q u (.token ht hl hs))
  | matched ht hl hc hm _ ih =>
    exact .matched ht hl hc ((hcall _ _ _ (.here ht hl hc)).trans hm)
      (ih fun s q u hs => hcall s q u (.matched ht hl hc hm hs))
  | failed ht hl hc hf => exact .failed ht hl hc ((hcall _ _ _ (.here ht hl hc)).trans hf)
  | aborted ht hl hc ha => exact .aborted ht hl hc ((hcall _ _ _ (.here ht hl hc)).trans ha)
  | unknown ht hl hc => exact .unknown ht hl hc

/-- Two ways to answer the calls that are made lead to the same result if they
agree on these. -/
theorem FirstRun.congr {position productions trace outcome trace'}
    (h : m.FirstRun call position productions trace outcome trace')
    (hcall : ∀ s q u, m.FirstCalls call position productions trace s q u → call' s q u = call s q u) :
    m.FirstRun call' position productions trace outcome trace' := by
  induction h with
  | nil => exact .nil
  | next hs _ ih =>
    exact .next (hs.congr fun s q u h => hcall s q u (.here h)) (ih fun s q u h => hcall s q u (.next hs h))
  | here hs hne => exact .here (hs.congr fun s q u h => hcall s q u (.here h)) hne

theorem SequenceRun.exists_call_of_aborted {symbols cursor trace outcome reason trace'}
    (h : m.SequenceRun call symbols cursor trace outcome trace') (ho : outcome = .aborted reason) :
    ∃ s q u, m.SequenceCalls call symbols cursor trace s q u ∧ call s q u = (.aborted reason, trace') := by
  induction h with
  | nil | exhausted | failed | unknown => cases ho
  | token ht hl _ ih =>
    obtain ⟨s, q, u, hs, ha⟩ := ih (Outcome.map_eq_aborted.1 ho)
    exact ⟨s, q, u, .token ht hl hs, ha⟩
  | matched ht hl hc hm _ ih =>
    obtain ⟨s, q, u, hs, ha⟩ := ih (Outcome.map_eq_aborted.1 ho)
    exact ⟨s, q, u, .matched ht hl hc hm hs, ha⟩
  | aborted ht hl hc ha =>
    cases ho
    exact ⟨_, _, _, .here ht hl hc, ha⟩

theorem SequenceCalls.aborted {symbols cursor trace s q u reason trace'}
    (h : m.SequenceCalls call symbols cursor trace s q u) (ha : call s q u = (.aborted reason, trace')) :
    m.SequenceRun call symbols cursor trace (.aborted reason) trace' := by
  induction h with
  | here ht hl hc => exact .aborted ht hl hc ha
  | token ht hl _ ih => exact .token ht hl (ih ha)
  | matched ht hl hc hm _ ih => exact .matched ht hl hc hm (ih ha)

/-- The first call that is aborted decides. -/
theorem firstRun_aborted_iff {position productions trace reason trace'} :
    m.FirstRun call position productions trace (.aborted reason) trace' ↔
      ∃ s q u, m.FirstCalls call position productions trace s q u ∧ call s q u = (.aborted reason, trace') := by
  constructor
  · intro h
    generalize ho : Outcome.aborted reason = outcome at h
    induction h with
    | nil => cases ho
    | next hs _ ih =>
      obtain ⟨s, q, u, h, ha⟩ := ih ho
      exact ⟨s, q, u, .next hs h, ha⟩
    | here hs _ =>
      obtain ⟨s, q, u, h, ha⟩ := hs.exists_call_of_aborted ho.symm
      exact ⟨s, q, u, .here h, ha⟩
  · rintro ⟨s, q, u, h, ha⟩
    induction h with
    | here h => exact .here (h.aborted ha) (by simp)
    | next hs _ ih => exact .next hs (ih ha)

/-! ## Nested calls -/

/-- A call of `matchSymbol`: what it is given. -/
structure Visit where
  budget : Nat
  path : List (String × Nat)
  symbol : String
  position : Nat
  trace : Trace

/-- The symbol of a call and its position. -/
def Visit.key (v : Visit) : String × Nat := (v.symbol, v.position)

variable (m)

/-- The result of a call. -/
def result (v : Visit) : Outcome Tree × Trace := m.matchSymbol v.budget v.path v.symbol v.position v.trace

/-- One call makes another, which is then nested in it. -/
inductive Nests : Visit → Visit → Prop
  | intro {budget path symbol position trace alternatives s q u} :
    m.grammar.alternatives? symbol = some alternatives → (symbol, position) ∉ path →
    m.FirstCalls (m.matchSymbol budget ((symbol, position) :: path)) position alternatives trace s q u →
    Nests ⟨budget + 1, path, symbol, position, trace⟩ ⟨budget, (symbol, position) :: path, s, q, u⟩

/-- A call is refused by one of the two guards. -/
inductive Refuses (v : Visit) : Abort → Prop
  | repeated : m.grammar.contains v.symbol = true → v.key ∈ v.path → Refuses v (.cycle v.symbol v.position)
  | tooDeep : m.grammar.contains v.symbol = true → v.key ∉ v.path → v.budget = 0 →
    Refuses v (.tooDeep v.symbol m.limit)

/-- While a symbol is matched at the first token, a call is made. The calls
around it are those that are unfinished then, the innermost first. -/
inductive CallStack (symbol : String) (trace : Trace) : Visit → List Visit → Prop
  | start : CallStack symbol trace ⟨m.limit, [], symbol, 0, trace⟩ []
  | nest {v w vs} : CallStack symbol trace v vs → m.Nests v w → CallStack symbol trace w (v :: vs)

variable {m} {symbol : String} {trace : Trace} {v : Visit} {vs : List Visit}

/-- A call is aborted if it is refused itself or makes a call that is
aborted. -/
theorem refuses_or_nests_of_aborted {reason : Abort} {t : Trace} (h : m.result v = (.aborted reason, t)) :
    m.Refuses v reason ∨ ∃ w, m.Nests v w ∧ m.result w = (.aborted reason, t) := by
  obtain ⟨budget, path, symbol, position, trace⟩ := v
  cases matchSymbol_eq_iff.1 h with
  | repeated hc hp => exact .inl (.repeated hc hp)
  | tooDeep hc hp => exact .inl (.tooDeep hc hp rfl)
  | aborted ha hp hf =>
    obtain ⟨s, q, u, hs, hab⟩ := firstRun_aborted_iff.1 hf
    exact .inr ⟨_, .intro ha hp hs, hab⟩

theorem CallStack.exists_refused {reason : Abort} {t : Trace} (hs : m.CallStack symbol trace v vs)
    (h : m.result v = (.aborted reason, t)) :
    ∃ w ws, m.CallStack symbol trace w ws ∧ m.Refuses w reason := by
  -- Nested calls have less budget, so the aborted calls come to an end in one
  -- that is refused itself.
  induction hb : v.budget generalizing v vs with
  | zero =>
    rcases refuses_or_nests_of_aborted h with hr | ⟨w, hw, -⟩
    · exact ⟨v, vs, hs, hr⟩
    · cases hw; cases hb
  | succ budget ih =>
    rcases refuses_or_nests_of_aborted h with hr | ⟨w, hw, ha⟩
    · exact ⟨v, vs, hs, hr⟩
    · refine ih (hs.nest hw) ha ?_
      cases hw
      simpa using hb

/-- An aborted run has come to a call that is refused. -/
theorem exists_refused_of_aborted {reason : Abort} (h : (m.run symbol trace).1 = .aborted reason) :
    ∃ v vs, m.CallStack symbol trace v vs ∧ m.Refuses v reason :=
  CallStack.start.exists_refused (Prod.ext h rfl :
    m.result ⟨m.limit, [], symbol, 0, trace⟩ = (.aborted reason, (m.run symbol trace).2))

/-! ## The call path -/

/-- The path names the calls around a call. -/
theorem CallStack.path_eq (h : m.CallStack symbol trace v vs) : v.path = vs.map Visit.key := by
  induction h with
  | start => rfl
  | nest _ hn ih =>
    cases hn
    simp [Visit.key, ← ih]

/-- The budget is what the calls around a call leave of the limit. -/
theorem CallStack.budget_add_length (h : m.CallStack symbol trace v vs) : v.budget + vs.length = m.limit := by
  induction h with
  | start => rfl
  | nest _ hn ih =>
    cases hn
    simp only [List.length_cons] at ih ⊢
    omega

/-- No symbol is being matched twice at one position. -/
theorem CallStack.nodup (h : m.CallStack symbol trace v vs) : (vs.map Visit.key).Nodup := by
  induction h with
  | start => simp
  | nest h hn ih =>
    have hp := h.path_eq
    cases hn with
    | intro _ hnot _ =>
      rw [List.map_cons, List.nodup_cons, ← hp]
      exact ⟨hnot, by rw [hp]; exact ih⟩

/-- The calls around a call match nonterminals. -/
theorem CallStack.contains (h : m.CallStack symbol trace v vs) :
    ∀ w ∈ vs, m.grammar.contains w.symbol = true := by
  induction h with
  | start => simp
  | nest _ hn ih =>
    intro w hw
    rcases List.mem_cons.1 hw with rfl | hw
    · cases hn with
      | intro ha _ _ => exact Grammar.contains_iff.2 ⟨_, ha⟩
    · exact ih w hw

/-- Calls are made at tokens, or at the start of an empty sentence. -/
theorem CallStack.position_lt (h : m.CallStack symbol trace v vs) :
    ∀ w ∈ v :: vs, w.position < max 1 m.tokens.length := by
  induction h with
  | start =>
    simp only [List.mem_singleton, forall_eq]
    omega
  | nest _ hn ih =>
    intro w hw
    rcases List.mem_cons.1 hw with rfl | hw
    · cases hn with
      | intro _ _ hf => exact Nat.lt_of_lt_of_le hf.bounds.2 (Nat.le_max_right _ _)
    · exact ih w hw

/-- Different pairs of a nonterminal and a position are at most as many as there
are. -/
theorem length_le_of_nodup {g : Grammar} {n : Nat} {keys : List (String × Nat)} (hn : keys.Nodup)
    (hkeys : ∀ k ∈ keys, g.contains k.1 = true ∧ k.2 < n) : keys.length ≤ g.size * n := by
  have hsub : keys ⊆ g.nonterminals ×ˢ List.range n := by
    rintro ⟨s, p⟩ hk
    obtain ⟨hs, hp⟩ := hkeys _ hk
    exact List.mem_product.2 ⟨Table.contains_iff_mem_keys.1 hs, List.mem_range.2 hp⟩
  have := hn.length_le_of_subset hsub
  simpa [List.length_product, Grammar.nonterminals, Grammar.size, Table.keys, Table.size] using this

/-- No call has more calls around it than there are nonterminals and
positions. -/
theorem CallStack.length_le (h : m.CallStack symbol trace v vs) :
    vs.length ≤ m.grammar.size * max 1 m.tokens.length := by
  rw [← List.length_map Visit.key]
  refine length_le_of_nodup h.nodup fun k hk => ?_
  obtain ⟨w, hw, rfl⟩ := List.mem_map.1 hk
  exact ⟨h.contains w hw, h.position_lt w (List.mem_cons_of_mem _ hw)⟩

/-- A call for a nonterminal that is not being matched there already counts with
those around it. -/
theorem CallStack.length_lt (h : m.CallStack symbol trace v vs) (hc : m.grammar.contains v.symbol = true)
    (hp : v.key ∉ v.path) : vs.length < m.grammar.size * max 1 m.tokens.length := by
  have hn : ((v :: vs).map Visit.key).Nodup := List.nodup_cons.2 ⟨h.path_eq ▸ hp, h.nodup⟩
  have := length_le_of_nodup (g := m.grammar) hn fun k hk => by
    obtain ⟨w, hw, rfl⟩ := List.mem_map.1 hk
    refine ⟨?_, h.position_lt w hw⟩
    rcases List.mem_cons.1 hw with rfl | hw
    · exact hc
    · exact h.contains w hw
  rwa [List.length_map, List.length_cons] at this

/-- With a limit that large the limit never tells. -/
theorem not_isTooDeep_of_le (h : m.grammar.size * max 1 m.tokens.length ≤ m.limit) :
    ¬ (m.run symbol trace).1.IsTooDeep := by
  rintro ⟨s, limit, ho⟩
  obtain ⟨v, vs, hs, hr⟩ := exists_refused_of_aborted ho
  cases hr with
  | tooDeep hc hp hb =>
    have := hs.budget_add_length
    have := hs.length_lt hc hp
    omega

end PhraseStructure.Matcher
