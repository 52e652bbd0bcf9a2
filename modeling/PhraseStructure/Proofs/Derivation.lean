import PhraseStructure.Proofs.GrammarText
import PhraseStructure.Proofs.OrderedChoice
import PhraseStructure.Proofs.Preorder
import PhraseStructure.Proofs.Verdicts
/-!
# Derivations

A tree derives a stretch of tokens if its nodes can be given consecutive spans:
a tag node spans one token with that tag (`Spans`), and the children of a phrase
are the symbols of one of its alternatives and divide its span (`Phrase`). Where
no alternative is empty the leaves are then the tokens (`Spans.leaves_append`).

Main statement: an accepted sentence has a tree that derives exactly its tokens.
-/
namespace PhraseStructure

section
variable (g : Grammar) (l : Lexicon) (tokens : List String)

mutual

/-- A tree spans the tokens from one position up to another. -/
inductive Spans : Tree → Nat → Nat → Prop
  | tagged {tag token position} : tokens[position]? = some token → l.tag? token = some tag →
    Spans (.tagged tag token) position (position + 1)
  | phrase {tree start stop} : Phrase tree start stop → Spans tree start stop

/-- The children of a tree are the symbols of an alternative of its label and
span the tokens from one position up to another. -/
inductive Phrase : Tree → Nat → Nat → Prop
  | node {label children start stop alternatives production} :
    g.alternatives? label = some alternatives → production ∈ alternatives →
    children.map Tree.label = production.rhs → SpansAll children start stop →
    Phrase (.node label children) start stop

/-- Trees span the tokens from one position up to another, each from where the
one before it stops. -/
inductive SpansAll : List Tree → Nat → Nat → Prop
  | nil {position} : SpansAll [] position position
  | cons {tree trees start middle stop} :
    Spans tree start middle → SpansAll trees middle stop → SpansAll (tree :: trees) start stop

end

end

variable {g : Grammar} {l : Lexicon} {tokens : List String}

/-! ## Results are derivations -/

mutual

theorem Evaluates.phrase {symbol position r} : Evaluates g l tokens symbol position r →
    ∀ {tree stop}, r = some (tree, stop) → tree.label = symbol ∧ Phrase g l tokens tree position stop
  | .rule ha hf, _, _, hr => by
    obtain ⟨⟨children, stop⟩, hs, he⟩ := Option.map_eq_some_iff.1 hr
    obtain ⟨production, hp, hl, hc⟩ := hf.spansAll hs
    cases he
    exact ⟨rfl, .node ha hp hl hc⟩

theorem EvaluatesFirst.spansAll {productions position r} : EvaluatesFirst g l tokens productions position r →
    ∀ {children stop}, r = some (children, stop) → ∃ production ∈ productions,
      children.map Tree.label = production.rhs ∧ SpansAll g l tokens children position stop
  | .nil, _, _, hr => by cases hr
  | .here hs, _, _, hr => ⟨_, List.mem_cons_self, hs.spansAll hr⟩
  | .next _ hf, _, _, hr => by
    obtain ⟨production, hp, hc⟩ := hf.spansAll hr
    exact ⟨production, List.mem_cons_of_mem _ hp, hc⟩

theorem EvaluatesSequence.spansAll {symbols cursor r} : EvaluatesSequence g l tokens symbols cursor r →
    ∀ {trees stop}, r = some (trees, stop) →
      trees.map Tree.label = symbols ∧ SpansAll g l tokens trees cursor stop
  | .nil, _, _, hr => by cases hr; exact ⟨rfl, .nil⟩
  | .token ht hl h, _, _, hr => by
    obtain ⟨⟨trees, stop⟩, hs, he⟩ := Option.map_eq_some_iff.1 hr
    obtain ⟨hlabels, hspans⟩ := h.spansAll hs
    cases he
    exact ⟨congrArg _ hlabels, .cons (.tagged ht hl) hspans⟩
  | .matched _ _ hs h, _, _, hr => by
    obtain ⟨hlabel, hphrase⟩ := hs.phrase rfl
    obtain ⟨⟨trees, stop⟩, hs, he⟩ := Option.map_eq_some_iff.1 hr
    obtain ⟨hlabels, hspans⟩ := h.spansAll hs
    cases he
    exact ⟨by simp [hlabel, hlabels], .cons (.phrase hphrase) hspans⟩

end

/-! ## Leaves are tokens -/

mutual

/-- Where no alternative is empty, the leaves of a tree are the tokens that it
spans. -/
theorem Spans.leaves_append (hg : g.NoEmptyAlternative) {tree start stop} : Spans g l tokens tree start stop →
    tree.leaves ++ tokens.drop stop = tokens.drop start
  | .tagged ht _ => by
    obtain ⟨hlt, rfl⟩ := List.getElem?_eq_some_iff.1 ht
    simp [Tree.tagged, Tree.leaf, Tree.leaves_node, ← List.drop_eq_getElem_cons hlt]
  | .phrase h => h.leaves_append hg

theorem Phrase.leaves_append (hg : g.NoEmptyAlternative) {tree start stop} :
    Phrase g l tokens tree start stop → tree.leaves ++ tokens.drop stop = tokens.drop start
  | .node ha hp hl hs => by
    have hne := hg _ _ ha _ hp
    rw [← hl] at hne
    rw [Tree.leaves_node, if_neg (by simpa using hne), hs.leaves_append hg]

theorem SpansAll.leaves_append (hg : g.NoEmptyAlternative) {trees start stop} :
    SpansAll g l tokens trees start stop →
    trees.flatMap Tree.leaves ++ tokens.drop stop = tokens.drop start
  | .nil => rfl
  | .cons h hs => by rw [List.flatMap_cons, List.append_assoc, hs.leaves_append hg, h.leaves_append hg]

end

/-! ## Main theorem -/

/-- The tree of an accepted sentence is a phrase over exactly its tokens,
labelled with the symbol that was parsed, and `consumed` is their number. If the
grammar was read from a text, the leaves are the tokens. -/
theorem Parser.parseFrom_sound (p : Parser) (tokens : List String) (symbol : String) (trace : Trace)
    (d : Derivation) (h : (p.parseFrom tokens symbol trace).1 = .ok d) :
    d.consumed = tokens.length ∧ d.tree.label = symbol ∧
    Phrase p.grammar p.lexicon tokens d.tree 0 tokens.length ∧
    ∀ text, Grammar.ofText text = .ok p.grammar → d.tree.leaves = tokens := by
  obtain ⟨ho, hd⟩ := judge_eq_ok_iff.1 h
  obtain ⟨hlabel, hphrase⟩ := (Matcher.reads_of_matched ho).phrase rfl
  have hphrase : Phrase p.grammar p.lexicon tokens d.tree 0 tokens.length := hphrase
  refine ⟨hd, hlabel, hphrase, fun text ht => ?_⟩
  simpa using hphrase.leaves_append (Grammar.noEmptyAlternative_of_ofText ht)

theorem Parser.parseFrom_sound_nounPhrases :
    let p : Parser := ⟨Matcher.nounPhrases, Matcher.nouns, "S", 6, by decide⟩
    let tree := Tree.node "S"
      [.node "NP" [.tagged "n" "dog", .tagged "n" "cat"], .node "VP" [.tagged "n" "dog"]]
    (p.parseFrom ["dog", "cat", "dog"] "S" .empty).1 = .ok ⟨tree, 3⟩ ∧
    Phrase p.grammar p.lexicon ["dog", "cat", "dog"] tree 0 3 ∧ tree.leaves = ["dog", "cat", "dog"] := by
  intro p tree
  have h : (p.parseFrom ["dog", "cat", "dog"] "S" .empty).1 = .ok ⟨tree, 3⟩ := by decide
  obtain ⟨-, -, hphrase, hleaves⟩ := parseFrom_sound p _ _ _ _ h
  exact ⟨h, hphrase, hleaves "S -> NP VP\nNP -> n n | n\nVP -> n" (by rfl)⟩

end PhraseStructure
