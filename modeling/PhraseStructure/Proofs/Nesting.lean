import PhraseStructure.Proofs.DepthLimit
import PhraseStructure.Proofs.OrderedChoice
import PhraseStructure.Proofs.Phrases
/-!
# Nested phrases

The phrases on a way down an accepted tree are the calls that are unfinished at
once (`CallStack.phraseBelow`), so what holds of nested calls holds of nested
phrases: no label comes twice at one position, and there are no more of them
than the limit allows or than there are nonterminals and positions. The tree is
as high as its longest way down, with one edge more for the token
(`PhraseBelow.height_le`).

Main statement: both hold of the tree of every accepted sentence.
-/
namespace PhraseStructure

/-! ## The height of a phrase -/

section
variable {l : Lexicon} {tokens : List String} {P : List (String × Nat) → Tree → Nat → Nat → Prop} {bound : Nat}

mutual

/-- Where no more than `bound` phrases stand in one another, a tree has as many
edges on its longest way, and one more down to a token. -/
theorem PhraseBelow.height_le (hP : ∀ path tree start stop, P path tree start stop → path.length < bound)
    {path tree start stop} :
    PhraseBelow l tokens P path tree start stop → path.length + tree.height ≤ bound + 1
  | .node hp hs => by
    have hlength := hP _ _ _ _ hp
    have hchildren := hs.heights_le hP hlength
    rw [List.length_cons] at hchildren
    rw [Tree.height]
    omega

theorem SpansBelow.heights_le (hP : ∀ path tree start stop, P path tree start stop → path.length < bound)
    {path trees start stop} : SpansBelow l tokens P path trees start stop → path.length ≤ bound →
    path.length + Tree.heights trees ≤ bound + 2
  | .nil, hle => by
    rw [Tree.heights]
    omega
  | .tagged _ _ hs, hle => by
    have hrest := hs.heights_le hP hle
    have htag : ∀ tag token, (Tree.tagged tag token).height = 1 := fun _ _ => rfl
    rw [Tree.heights, htag]
    omega
  | .phrase _ hp hs, hle => by
    have htree := hp.height_le hP
    have hrest := hs.heights_le hP hle
    rw [Tree.heights]
    omega

end

end

/-! ## Calls that are answered -/

namespace Matcher

variable {m : Matcher} {symbol : String} {trace : Trace} {v : Visit} {vs : List Visit} {tree : Tree} {stop : Nat}

/-- A call that is answered with a tree has been refused by neither guard. -/
theorem passes_of_matched (h : (m.result v).1 = .matched tree stop) :
    m.grammar.contains v.symbol = true ∧ v.key ∉ v.path ∧ 0 < v.budget := by
  obtain ⟨budget, path, s, q, u⟩ := v
  cases matchSymbol_eq_iff.1 (Prod.ext h rfl : m.result ⟨budget, path, s, q, u⟩ = (_, _)) with
  | matched ha hp _ => exact ⟨Grammar.contains_iff.2 ⟨_, ha⟩, hp, Nat.succ_pos _⟩

theorem CallStack.nodup_of_matched (hs : m.CallStack symbol trace v vs)
    (h : (m.result v).1 = .matched tree stop) : (v.key :: v.path).Nodup := by
  obtain ⟨-, hp, -⟩ := passes_of_matched h
  exact List.nodup_cons.2 ⟨hp, hs.path_eq ▸ hs.nodup⟩

theorem CallStack.length_path_lt_of_matched (hs : m.CallStack symbol trace v vs)
    (h : (m.result v).1 = .matched tree stop) :
    v.path.length < min m.limit (m.grammar.size * max 1 m.tokens.length) := by
  obtain ⟨hc, hp, hbudget⟩ := passes_of_matched h
  have hsum := hs.budget_add_length
  have hlength : v.path.length = vs.length := by rw [hs.path_eq, List.length_map]
  rw [hlength]
  exact Nat.lt_min.2 ⟨by omega, hs.length_lt hc hp⟩

end Matcher

/-! ## Main theorem -/

namespace Parser

/-- Every phrase in the tree of an accepted sentence is the answer to a call for
its label where it starts, and the calls around that call are those for the
phrases around the phrase. No two phrases on one way down the tree have the same
label and start at the same token. The tree is at most one edge higher than the
limit on nested calls, and than the number of rules times that of positions. -/
theorem parseFrom_nested_distinct (p : Parser) (tokens : List String) (symbol : String) (trace : Trace)
    (d : Derivation) (h : (p.parseFrom tokens symbol trace).1 = .ok d) :
    PhraseBelow p.lexicon tokens (fun path tree start stop =>
      (p.matcher tokens).AnsweredBelow symbol trace path tree start stop ∧ ((tree.label, start) :: path).Nodup)
      [] d.tree 0 tokens.length ∧
    d.tree.height ≤ min p.limit (p.grammar.size * max 1 tokens.length) + 1 := by
  have hstart : ((p.matcher tokens).result ⟨p.limit, [], symbol, 0, trace⟩).1 = .matched d.tree tokens.length :=
    (judge_eq_ok_iff.1 h).1
  have hbelow : PhraseBelow p.lexicon tokens ((p.matcher tokens).AnsweredBelow symbol trace) [] d.tree 0
      tokens.length := (Matcher.CallStack.start.phraseBelow hstart).2
  constructor
  · refine hbelow.imp fun path tree start stop ha => ⟨ha, ?_⟩
    obtain ⟨v, vs, hs, rfl, hkey, hm⟩ := ha
    exact hkey ▸ hs.nodup_of_matched hm
  · have hpath : ∀ path tree start stop, (p.matcher tokens).AnsweredBelow symbol trace path tree start stop →
        path.length < min p.limit (p.grammar.size * max 1 tokens.length) := by
      rintro path tree start stop ⟨v, vs, hs, rfl, -, hm⟩
      exact hs.length_path_lt_of_matched hm
    have hheight := hbelow.height_le hpath
    rwa [List.length_nil, Nat.zero_add] at hheight

/-- With no more nested calls allowed than the sentence needs, the bound on the
height is met. -/
theorem parseFrom_nested_distinct_nounPhrases :
    let p : Parser := ⟨Matcher.nounPhrases, Matcher.nouns, "S", 2, by decide⟩
    let tree := Tree.node "S"
      [.node "NP" [.tagged "n" "dog", .tagged "n" "cat"], .node "VP" [.tagged "n" "dog"]]
    (p.parseFrom ["dog", "cat", "dog"] "S" .empty).1 = .ok ⟨tree, 3⟩ ∧
    PhraseBelow p.lexicon ["dog", "cat", "dog"] (fun path tree start _ => ((tree.label, start) :: path).Nodup)
      [] tree 0 3 ∧
    tree.height = 3 ∧ tree.height ≤ min 2 (3 * 3) + 1 := by
  intro p tree
  have h : (p.parseFrom ["dog", "cat", "dog"] "S" .empty).1 = .ok ⟨tree, 3⟩ := by decide
  obtain ⟨hbelow, hheight⟩ := parseFrom_nested_distinct p _ _ _ _ h
  exact ⟨h, hbelow.imp fun _ _ _ _ hp => hp.2, by decide, hheight⟩

end Parser

end PhraseStructure
