import PhraseStructure.Proofs.Barriers
import PhraseStructure.Proofs.DeadAlternatives
import PhraseStructure.Proofs.DepthLimit
/-!
# Subtrees

A match that no guard stops is the same on the rest of the sentence from where
it starts, with every position moved (`SymbolLog.relocate`): it looks at no
token before that. Nor does it need the calls around it, because a shorter path
refuses fewer calls, nor does a larger budget make a difference
(`extends_matchSymbol`).

Main statement: every phrase in the tree of an accepted sentence is what its
label is matched with on the rest of the sentence, from where the phrase starts.
-/
namespace PhraseStructure

/-! ## Moved positions -/

/-- The second outcome is the first one with its end moved. -/
inductive Outcome.Shifted {α : Type} (offset : Nat) : Outcome α → Outcome α → Prop
  | matched {value stop} : Shifted offset (.matched value stop) (.matched value (stop + offset))
  | failed : Shifted offset .failed .failed

theorem Outcome.Shifted.map {α β : Type} {offset : Nat} {o o' : Outcome α} (h : o.Shifted offset o') (f : α → β) :
    (o.map f).Shifted offset (o'.map f) := by
  cases h with
  | matched => exact .matched
  | failed => exact .failed

theorem Outcome.Shifted.exists_stop {α : Type} {offset stop : Nat} {o : Outcome α} {value : α}
    (h : o.Shifted offset (.matched value stop)) : ∃ first, o = .matched value first ∧ stop = first + offset := by
  cases h with
  | matched => exact ⟨_, rfl, rfl⟩

theorem Outcome.Shifted.ne_failed {α : Type} {offset : Nat} {o o' : Outcome α} (h : o.Shifted offset o')
    (hne : o' ≠ .failed) : o ≠ .failed := by
  cases h with
  | matched => nofun
  | failed => exact absurd rfl hne

namespace Matcher

variable {m : Matcher} {offset : Nat}

/-- The calls on the first path, each with its position moved, are on the second
one. -/
def MovedInto (offset : Nat) (path path' : List (String × Nat)) : Prop :=
  ∀ s q, (s, q) ∈ path → (s, q + offset) ∈ path'

theorem MovedInto.cons {path path' : List (String × Nat)} (h : MovedInto offset path path') {position q : Nat}
    (hq : q = position + offset) (symbol : String) :
    MovedInto offset ((symbol, position) :: path) ((symbol, q) :: path') := by
  subst hq
  intro s q hs
  rcases List.mem_cons.1 hs with he | hs
  · cases he
    exact List.mem_cons_self
  · exact List.mem_cons_of_mem _ (h s q hs)

theorem MovedInto.not_mem {path path' : List (String × Nat)} (h : MovedInto offset path path') {symbol : String}
    {position q : Nat} (hq : q = position + offset) (hp : (symbol, q) ∉ path') : (symbol, position) ∉ path := by
  subst hq
  exact fun hs => hp (h _ _ hs)

theorem getElem?_drop {position q : Nat} (hq : q = position + offset) :
    (m.withTokens (m.tokens.drop offset)).tokens[position]? = m.tokens[q]? := by
  subst hq
  rw [Nat.add_comm]
  exact List.getElem?_drop

mutual

/-- A match that no guard stops is found on the rest of the tokens too, with its
positions moved and below any path that lists fewer calls. -/
theorem SymbolLog.relocate {budget path symbol position outcome log} :
    m.SymbolLog budget path symbol position outcome log → outcome.Completes →
    ∀ {path' q}, position = q + offset → MovedInto offset path' path →
    ∃ outcome' log', outcome'.Shifted offset outcome ∧
      (m.withTokens (m.tokens.drop offset)).SymbolLog budget path' symbol q outcome' log'
  | .unknown ha, _, _, _, _, _ => ⟨_, _, .failed, .unknown ha⟩
  | .repeated _ _, ho, _, _, _, _ | .tooDeep _ _, ho, _, _, _, _ | .aborted _ _ _, ho, _, _, _, _ =>
    absurd ho Outcome.not_completes_aborted
  | .matched ha hp hf, _, _, _, hq, hpath => by
    obtain ⟨_, log', ⟨⟩, hf'⟩ := hf.relocate Outcome.completes_matched hq (hpath.cons hq symbol)
    exact ⟨_, log', .matched, .matched ha (hpath.not_mem hq hp) hf'⟩
  | .failed ha hp hf, _, _, _, hq, hpath => by
    obtain ⟨_, log', ⟨⟩, hf'⟩ := hf.relocate Outcome.completes_failed hq (hpath.cons hq symbol)
    exact ⟨_, _, .failed, .failed ha (hpath.not_mem hq hp) hf'⟩

theorem FirstLog.relocate {budget path position productions outcome log} :
    m.FirstLog budget path position productions outcome log → outcome.Completes →
    ∀ {path' q}, position = q + offset → MovedInto offset path' path →
    ∃ outcome' log', outcome'.Shifted offset outcome ∧
      (m.withTokens (m.tokens.drop offset)).FirstLog budget path' q productions outcome' log'
  | .nil, _, _, _, _, _ => ⟨_, _, .failed, .nil⟩
  | .next hs hf, ho, _, _, hq, hpath => by
    obtain ⟨_, log₁, ⟨⟩, hs'⟩ := hs.relocate Outcome.completes_failed hq hpath
    obtain ⟨outcome', log₂, hshift, hf'⟩ := hf.relocate ho hq hpath
    exact ⟨outcome', _, hshift, .next hs' hf'⟩
  | .here hs hne, ho, _, _, hq, hpath => by
    obtain ⟨outcome', log', hshift, hs'⟩ := hs.relocate ho hq hpath
    exact ⟨outcome', log', hshift, .here hs' (hshift.ne_failed hne)⟩

theorem SequenceLog.relocate {budget path symbols cursor outcome log} :
    m.SequenceLog budget path symbols cursor outcome log → outcome.Completes →
    ∀ {path' q}, cursor = q + offset → MovedInto offset path' path →
    ∃ outcome' log', outcome'.Shifted offset outcome ∧
      (m.withTokens (m.tokens.drop offset)).SequenceLog budget path' symbols q outcome' log'
  | .nil, _, _, q, hq, _ => ⟨.matched [] q, _, hq ▸ .matched, .nil⟩
  | .exhausted ht, _, _, _, hq, _ => ⟨_, _, .failed, .exhausted ((getElem?_drop hq).trans ht)⟩
  | .token ht hl hs, ho, _, q, hq, hpath => by
    have hnext : cursor + 1 = q + 1 + offset := by omega
    obtain ⟨_, log', hshift, hs'⟩ := hs.relocate (Outcome.completes_map.1 ho) hnext hpath
    exact ⟨_, log', hshift.map _, .token ((getElem?_drop hq).trans ht) hl hs'⟩
  | .matched ht hl hc hm hs, ho, _, _, hq, hpath => by
    obtain ⟨_, log₁, hhead, hm'⟩ := hm.relocate Outcome.completes_matched hq hpath
    obtain ⟨_, rfl, hstop⟩ := hhead.exists_stop
    obtain ⟨_, log₂, hshift, hs'⟩ := hs.relocate (Outcome.completes_map.1 ho) hstop hpath
    exact ⟨_, _, hshift.map _, .matched ((getElem?_drop hq).trans ht) hl hc hm' hs'⟩
  | .failed ht hl hc hf, _, _, _, hq, hpath => by
    obtain ⟨_, log', ⟨⟩, hf'⟩ := hf.relocate Outcome.completes_failed hq hpath
    exact ⟨_, log', .failed, .failed ((getElem?_drop hq).trans ht) hl hc hf'⟩
  | .aborted _ _ _ _, ho, _, _, _, _ => absurd ho Outcome.not_completes_aborted
  | .unknown ht hl hc, _, _, _, hq, _ => ⟨_, _, .failed, .unknown ((getElem?_drop hq).trans ht) hl hc⟩

end

/-- What a call answers with, its symbol is matched with on the rest of the
tokens, whatever calls are around it. -/
theorem CallStack.run_drop {symbol : String} {trace : Trace} {v : Visit} {vs : List Visit} {tree : Tree}
    {stop : Nat} (hs : m.CallStack symbol trace v vs) (h : (m.result v).1 = .matched tree stop) :
    v.position ≤ stop ∧ stop ≤ m.tokens.length ∧
    ∀ t, ((m.withTokens (m.tokens.drop v.position)).run v.symbol t).1 = .matched tree (stop - v.position) := by
  obtain ⟨log, hlog⟩ := exists_symbolLog m v.budget v.path v.symbol v.position v.trace
  rw [show (m.matchSymbol v.budget v.path v.symbol v.position v.trace).1 = .matched tree stop from h] at hlog
  have hpath : MovedInto v.position [] v.path := nofun
  obtain ⟨_, log', hshift, hlog'⟩ :=
    hlog.relocate Outcome.completes_matched (Nat.zero_add v.position).symm hpath
  obtain ⟨first, rfl, hstop⟩ := hshift.exists_stop
  have hposition : v.position ≤ m.tokens.length := by
    have := hs.position_lt v List.mem_cons_self
    omega
  refine ⟨by omega, (hlog.staysWithin m.isBarrier_length hposition).stop_le _ _ rfl, fun t => ?_⟩
  -- The call has as much budget as the calls around it leave; a run of its own
  -- has the whole limit.
  have hbudget : v.budget ≤ m.limit := by
    have := hs.budget_add_length
    omega
  have hcall := hlog'.eq t
  have hrun := extends_matchSymbol (m := m.withTokens (m.tokens.drop v.position)) (L := m.limit) v.budget m.limit
    hbudget [] v.symbol 0 t (by simp [hcall])
  rw [show stop - v.position = first by omega]
  exact congrArg Prod.fst (hrun.trans hcall)

end Matcher

/-! ## Main theorem -/

namespace Parser

/-- On the rest of the sentence, from where a phrase starts, its label is
matched with the phrase itself: the rest is accepted if the phrase stops where
the sentence does, and otherwise rejected for the tokens left over. -/
structure ParsesAlone (p : Parser) (tokens : List String) (tree : Tree) (start stop : Nat) : Prop where
  start_le : start ≤ stop
  stop_le : stop ≤ tokens.length
  matched : ∀ trace,
    ((p.matcher (tokens.drop start)).run tree.label trace).1 = .matched tree (stop - start)
  accepted : stop = tokens.length → ∀ trace,
    (p.parseFrom (tokens.drop start) tree.label trace).1 = .ok ⟨tree, stop - start⟩
  incomplete : stop ≠ tokens.length → ∀ trace, ∃ r,
    (p.parseFrom (tokens.drop start) tree.label trace).1 = .error r ∧ r.reason = .incomplete ∧
      r.consumed = stop - start

variable {p : Parser} {tokens : List String} {symbol : String} {trace : Trace}

theorem parsesAlone_of_answered {tree : Tree} {start stop : Nat}
    (h : (p.matcher tokens).Answered symbol trace tree start stop) : p.ParsesAlone tokens tree start stop := by
  obtain ⟨v, vs, hs, hkey, hm⟩ := h
  obtain ⟨hsymbol, rfl⟩ := Prod.mk.inj hkey
  obtain ⟨hstart, hend, hrun⟩ := hs.run_drop hm
  have hstop : stop ≤ tokens.length := hend
  have hmatched : ∀ t, ((p.matcher (tokens.drop v.position)).run tree.label t).1 =
      .matched tree (stop - v.position) := hsymbol ▸ hrun
  refine ⟨hstart, hstop, hmatched, fun he t => ?_, fun hne t => ?_⟩
  · rw [parseFrom_eq, hmatched]
    simp [judge, he]
  · have hleft : stop - v.position ≠ (tokens.drop v.position).length := by
      rw [List.length_drop]
      omega
    rw [parseFrom_eq, hmatched, judge_matched hleft]
    exact ⟨_, rfl, rfl, rfl⟩

/-- Every phrase in the tree of an accepted sentence is the answer to a call for
its label where it starts, and is what its label is matched with on the rest of
the sentence from there, with the same limit and whatever the trace: the rest is
accepted with the phrase as its tree, or tokens are left over behind as many as
the phrase spans. -/
theorem parseFrom_subtree (p : Parser) (tokens : List String) (symbol : String) (trace : Trace) (d : Derivation)
    (h : (p.parseFrom tokens symbol trace).1 = .ok d) :
    PhraseWhere p.lexicon tokens (fun tree start stop =>
      (p.matcher tokens).Answered symbol trace tree start stop ∧ p.ParsesAlone tokens tree start stop)
      d.tree 0 tokens.length := by
  have hstart : ((p.matcher tokens).result ⟨p.limit, [], symbol, 0, trace⟩).1 = .matched d.tree tokens.length :=
    (judge_eq_ok_iff.1 h).1
  exact (Matcher.CallStack.start.phraseWhere hstart).imp fun _ _ _ ha => ⟨ha, parsesAlone_of_answered ha⟩

theorem parseFrom_subtree_nounPhrases :
    let p : Parser := ⟨Matcher.nounPhrases, Matcher.nouns, "S", 6, by decide⟩
    let np := Tree.node "NP" [.tagged "n" "dog", .tagged "n" "cat"]
    let vp := Tree.node "VP" [.tagged "n" "dog"]
    (p.parseFrom ["dog", "cat", "dog"] "S" .empty).1 = .ok ⟨.node "S" [np, vp], 3⟩ ∧
    ∃ middle, p.ParsesAlone ["dog", "cat", "dog"] np 0 middle ∧ p.ParsesAlone ["dog", "cat", "dog"] vp middle 3 := by
  intro p np vp
  have h : (p.parseFrom ["dog", "cat", "dog"] "S" .empty).1 = .ok ⟨.node "S" [np, vp], 3⟩ := by decide
  -- Neither part is a tag node, so each of them is a phrase.
  cases parseFrom_subtree p _ _ _ _ h with
  | node _ hs =>
    obtain ⟨middle, hnp, hs⟩ := hs.exists_middle (by simp [np, Tree.tagged])
    obtain ⟨last, hvp, hs⟩ := hs.exists_middle (by simp [vp, Tree.tagged, Tree.leaf])
    cases hs
    exact ⟨h, middle, hnp.root.2, hvp.root.2⟩

end Parser

end PhraseStructure
