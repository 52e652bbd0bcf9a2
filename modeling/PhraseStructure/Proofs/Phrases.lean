import PhraseStructure.Proofs.Calls
/-!
# The phrases of a tree

A tree spans a stretch of tokens if its tag nodes stand for one token each and
its phrases divide their spans among their parts. `PhraseWhere` says so of a
tree whose phrases all have some property at their spans, and `PhraseBelow` of
one whose phrases have it together with the phrases on the way down to them.

Main statements: every phrase of the tree that a call answers with is the answer
to a call for its label at the position where it starts
(`CallStack.phraseWhere`), and the calls around that call are for the phrases
around the phrase (`CallStack.phraseBelow`).
-/
namespace PhraseStructure

/-! ## Spans -/

section
variable (l : Lexicon) (tokens : List String) (P : Tree → Nat → Nat → Prop)

mutual

/-- A phrase spans the tokens from one position up to another, and `P` holds of
it and of every phrase in it. -/
inductive PhraseWhere : Tree → Nat → Nat → Prop
  | node {label children start stop} : P (.node label children) start stop →
    SpansWhere children start stop → PhraseWhere (.node label children) start stop

/-- Tag nodes and phrases divide the tokens from one position up to another
among them, and `P` holds of every phrase. -/
inductive SpansWhere : List Tree → Nat → Nat → Prop
  | nil {position} : SpansWhere [] position position
  | tagged {tag token trees position stop} : tokens[position]? = some token → l.tag? token = some tag →
    SpansWhere trees (position + 1) stop → SpansWhere (.tagged tag token :: trees) position stop
  | phrase {tree trees start middle stop} : PhraseWhere tree start middle → SpansWhere trees middle stop →
    SpansWhere (tree :: trees) start stop

end

end

section
variable {l : Lexicon} {tokens : List String} {P Q : Tree → Nat → Nat → Prop}

theorem PhraseWhere.root {tree start stop} (h : PhraseWhere l tokens P tree start stop) : P tree start stop := by
  cases h with
  | node hp _ => exact hp

/-- The first of some parts is a phrase if it is no tag node, and the others
come behind it. -/
theorem SpansWhere.exists_middle {tree trees start stop} (h : SpansWhere l tokens P (tree :: trees) start stop)
    (hne : ∀ tag token, tree ≠ .tagged tag token) :
    ∃ middle, PhraseWhere l tokens P tree start middle ∧ SpansWhere l tokens P trees middle stop := by
  generalize hparts : tree :: trees = parts at h
  cases h with
  | nil => cases hparts
  | tagged => exact absurd (List.cons.inj hparts).1 (hne _ _)
  | phrase hp hs =>
    obtain ⟨rfl, rfl⟩ := List.cons.inj hparts
    exact ⟨_, hp, hs⟩

mutual

theorem PhraseWhere.imp (h : ∀ tree start stop, P tree start stop → Q tree start stop) {tree start stop} :
    PhraseWhere l tokens P tree start stop → PhraseWhere l tokens Q tree start stop
  | .node hp hs => .node (h _ _ _ hp) (hs.imp h)

theorem SpansWhere.imp (h : ∀ tree start stop, P tree start stop → Q tree start stop) {trees start stop} :
    SpansWhere l tokens P trees start stop → SpansWhere l tokens Q trees start stop
  | .nil => .nil
  | .tagged ht hl hs => .tagged ht hl (hs.imp h)
  | .phrase hp hs => .phrase (hp.imp h) (hs.imp h)

end

end

/-! ## Spans below a path -/

section
variable (l : Lexicon) (tokens : List String) (P : List (String × Nat) → Tree → Nat → Nat → Prop)

mutual

/-- A phrase below the phrases of a path, which are listed with the positions
where they start, the innermost first. It spans the tokens from one position up
to another, and `P` holds of it and of every phrase in it, each with the path
down to it. -/
inductive PhraseBelow : List (String × Nat) → Tree → Nat → Nat → Prop
  | node {path label children start stop} : P path (.node label children) start stop →
    SpansBelow ((label, start) :: path) children start stop → PhraseBelow path (.node label children) start stop

/-- Tag nodes and phrases below a path divide the tokens from one position up to
another among them. A part that is labelled with the tag of the token where it
starts is the tag node of the token, and any other is a phrase. -/
inductive SpansBelow : List (String × Nat) → List Tree → Nat → Nat → Prop
  | nil {path position} : SpansBelow path [] position position
  | tagged {path tag token trees position stop} : tokens[position]? = some token → l.tag? token = some tag →
    SpansBelow path trees (position + 1) stop → SpansBelow path (.tagged tag token :: trees) position stop
  | phrase {path tree trees start middle stop} :
    (∀ token, tokens[start]? = some token → l.tag? token ≠ some tree.label) →
    PhraseBelow path tree start middle → SpansBelow path trees middle stop →
    SpansBelow path (tree :: trees) start stop

end

end

section
variable {l : Lexicon} {tokens : List String} {P Q : List (String × Nat) → Tree → Nat → Nat → Prop}

mutual

theorem PhraseBelow.imp (h : ∀ path tree start stop, P path tree start stop → Q path tree start stop)
    {path tree start stop} :
    PhraseBelow l tokens P path tree start stop → PhraseBelow l tokens Q path tree start stop
  | .node hp hs => .node (h _ _ _ _ hp) (hs.imp h)

theorem SpansBelow.imp (h : ∀ path tree start stop, P path tree start stop → Q path tree start stop)
    {path trees start stop} :
    SpansBelow l tokens P path trees start stop → SpansBelow l tokens Q path trees start stop
  | .nil => .nil
  | .tagged ht hl hs => .tagged ht hl (hs.imp h)
  | .phrase ht hp hs => .phrase ht (hp.imp h) (hs.imp h)

end

mutual

/-- The paths may be forgotten. -/
theorem PhraseBelow.phraseWhere {path tree start stop} : PhraseBelow l tokens P path tree start stop →
    PhraseWhere l tokens (fun tree start stop => ∃ path, P path tree start stop) tree start stop
  | .node hp hs => .node ⟨_, hp⟩ hs.spansWhere

theorem SpansBelow.spansWhere {path trees start stop} : SpansBelow l tokens P path trees start stop →
    SpansWhere l tokens (fun tree start stop => ∃ path, P path tree start stop) trees start stop
  | .nil => .nil
  | .tagged ht hl hs => .tagged ht hl hs.spansWhere
  | .phrase _ hp hs => .phrase hp.phraseWhere hs.spansWhere

end

end

/-! ## Phrases are answers to calls -/

namespace Matcher

variable {m : Matcher} {call : Call} {P : List (String × Nat) → Tree → Nat → Nat → Prop}
  {path : List (String × Nat)}

/-- The phrases among what an alternative matches are what its calls answer
with. -/
theorem SequenceRun.spansBelow {symbols cursor trace outcome trace'}
    (h : m.SequenceRun call symbols cursor trace outcome trace')
    (hcall : ∀ s q u, m.SequenceCalls call symbols cursor trace s q u →
      ∀ tree stop u', call s q u = (.matched tree stop, u') →
        tree.label = s ∧ PhraseBelow m.lexicon m.tokens P path tree q stop)
    {trees stop} (ho : outcome = .matched trees stop) :
    SpansBelow m.lexicon m.tokens P path trees cursor stop := by
  induction h generalizing trees stop with
  | nil =>
    cases ho
    exact .nil
  | exhausted | failed | aborted | unknown => cases ho
  | @token _ _ _ _ _ outcome _ ht hl _ ih =>
    cases outcome with
    | matched children last =>
      cases ho
      exact .tagged ht hl (ih (fun s q u hs => hcall s q u (.token ht hl hs)) rfl)
    | failed | aborted => cases ho
  | @matched symbol _ cursor _ token tree _ _ outcome _ ht hl hc hm _ ih =>
    cases outcome with
    | matched children last =>
      cases ho
      obtain ⟨hlabel, hp⟩ := hcall _ _ _ (.here ht hl hc) _ _ _ hm
      have htag : ∀ t, m.tokens[cursor]? = some t → m.lexicon.tag? t ≠ some tree.label := by
        intro t ht'
        cases ht.symm.trans ht'
        exact hlabel ▸ hl
      exact .phrase htag hp (ih (fun s q u hs => hcall s q u (.matched ht hl hc hm hs)) rfl)
    | failed | aborted => cases ho

theorem FirstRun.spansBelow {position productions trace outcome trace'}
    (h : m.FirstRun call position productions trace outcome trace')
    (hcall : ∀ s q u, m.FirstCalls call position productions trace s q u →
      ∀ tree stop u', call s q u = (.matched tree stop, u') →
        tree.label = s ∧ PhraseBelow m.lexicon m.tokens P path tree q stop)
    {trees stop} (ho : outcome = .matched trees stop) :
    SpansBelow m.lexicon m.tokens P path trees position stop := by
  induction h with
  | nil => cases ho
  | next hs _ ih => exact ih (fun s q u h => hcall s q u (.next hs h)) ho
  | here hs _ => exact hs.spansBelow (fun s q u h => hcall s q u (.here h)) ho

/-- While a symbol is matched at the first token, a call for the label of a
phrase where it starts is answered with the phrase. -/
def Answered (m : Matcher) (symbol : String) (trace : Trace) (tree : Tree) (start stop : Nat) : Prop :=
  ∃ v vs, m.CallStack symbol trace v vs ∧ v.key = (tree.label, start) ∧ (m.result v).1 = .matched tree stop

/-- The phrase is the answer to a call for its label where it starts, which
stands below the calls of a path. -/
def AnsweredBelow (m : Matcher) (symbol : String) (trace : Trace) (path : List (String × Nat)) (tree : Tree)
    (start stop : Nat) : Prop :=
  ∃ v vs, m.CallStack symbol trace v vs ∧ v.path = path ∧ v.key = (tree.label, start) ∧
    (m.result v).1 = .matched tree stop

variable {symbol : String} {trace : Trace} {v : Visit} {vs : List Visit} {tree : Tree} {stop : Nat}

theorem CallStack.phraseBelow (hs : m.CallStack symbol trace v vs) (h : (m.result v).1 = .matched tree stop) :
    tree.label = v.symbol ∧
      PhraseBelow m.lexicon m.tokens (m.AnsweredBelow symbol trace) v.path tree v.position stop := by
  -- The calls that answer with the parts of a phrase are nested in the one that
  -- answers with the phrase.
  induction hb : v.budget generalizing v vs tree stop with
  | zero =>
    obtain ⟨budget, path, s, q, u⟩ := v
    cases hb
    cases matchSymbol_eq_iff.1 (Prod.ext h rfl : m.result ⟨0, path, s, q, u⟩ = (_, _))
  | succ budget ih =>
    obtain ⟨_, path, s, q, u⟩ := v
    cases hb
    cases matchSymbol_eq_iff.1 (Prod.ext h rfl : m.result ⟨budget + 1, path, s, q, u⟩ = (_, _)) with
    | matched ha hp hf =>
      refine ⟨rfl, .node ⟨_, vs, hs, rfl, rfl, h⟩ (hf.spansBelow (fun s' q' u' hc child last u'' hm => ?_) rfl)⟩
      have hnest := hs.nest (.intro ha hp hc)
      exact ih hnest (congrArg Prod.fst hm) rfl

theorem CallStack.phraseWhere (hs : m.CallStack symbol trace v vs) (h : (m.result v).1 = .matched tree stop) :
    PhraseWhere m.lexicon m.tokens (m.Answered symbol trace) tree v.position stop := by
  refine (hs.phraseBelow h).2.phraseWhere.imp ?_
  rintro tree start stop ⟨path, w, ws, hw, -, hkey, hm⟩
  exact ⟨w, ws, hw, hkey, hm⟩

end Matcher

end PhraseStructure
