/-!
# Trees

Ordered trees of labels. In a parse tree a leaf is a token, a node above one
leaf that is a token carries its tag, and every other node is a phrase over its
parts.
-/
namespace PhraseStructure

/-- A label over a list of trees. -/
inductive Tree where
  | node (label : String) (children : List Tree)

namespace Tree

/-- The tree of one node. -/
def leaf (label : String) : Tree := node label []

/-- The node of a token: its tag over the token itself. -/
def tagged (tag token : String) : Tree := node tag [leaf token]

instance : Inhabited Tree := ⟨leaf ""⟩

/-- The label of the root. -/
def label : Tree → String
  | node label _ => label

/-- The trees below the root, from left to right. -/
def children : Tree → List Tree
  | node _ children => children

/-- Whether the root has no children. -/
def isLeaf (t : Tree) : Bool := t.children.isEmpty

/-- The tree with `child` added below the root, as the last child. -/
def addChild : Tree → Tree → Tree
  | node label children, child => node label (children ++ [child])

/-! ## Induction -/

/-- Induction over trees, with the hypothesis at every child. -/
@[induction_eliminator, elab_as_elim]
theorem induction {motive : Tree → Prop}
    (node : ∀ label children, (∀ t ∈ children, motive t) → motive (.node label children)) (t : Tree) :
    motive t :=
  @Tree.rec motive (fun ts => ∀ t ∈ ts, motive t) node (by simp)
    (fun t ts ht hts => by simpa using ⟨ht, hts⟩) t

/-! ## Equality -/

mutual

/-- Whether two trees are equal. -/
def decEq : (t u : Tree) → Decidable (t = u)
  | node l ts, node m us =>
    if h : l = m then
      match decEqAll ts us with
      | isTrue hs => isTrue (h ▸ hs ▸ rfl)
      | isFalse hs => isFalse fun he => hs (node.inj he).2
    else isFalse fun he => h (node.inj he).1

/-- Whether two lists of trees are equal. -/
def decEqAll : (ts us : List Tree) → Decidable (ts = us)
  | [], [] => isTrue rfl
  | [], _ :: _ => isFalse nofun
  | _ :: _, [] => isFalse nofun
  | t :: ts, u :: us =>
    match decEq t u, decEqAll ts us with
    | isTrue h, isTrue hs => isTrue (h ▸ hs ▸ rfl)
    | isFalse h, _ => isFalse fun he => h (List.cons.inj he).1
    | _, isFalse hs => isFalse fun he => hs (List.cons.inj he).2

end

instance : DecidableEq Tree := decEq

/-! ## Measures -/

mutual

/-- The number of nodes. -/
def size : Tree → Nat
  | node _ children => 1 + sizes children

/-- The number of nodes of a list of trees. -/
def sizes : List Tree → Nat
  | [] => 0
  | t :: ts => t.size + sizes ts

end

mutual

/-- The number of edges on the longest way from the root to a leaf. -/
def height : Tree → Nat
  | node _ children => heights children

/-- One more than the height of the highest of some trees; zero if there are
none. -/
def heights : List Tree → Nat
  | [] => 0
  | t :: ts => max (t.height + 1) (heights ts)

end

theorem size_pos (t : Tree) : 0 < t.size := by
  obtain ⟨label, children⟩ := t
  simp only [size]
  omega

theorem sizes_append (ts us : List Tree) : sizes (ts ++ us) = sizes ts + sizes us := by
  induction ts with
  | nil => simp [sizes]
  | cons t ts ih => simp [sizes, ih, Nat.add_assoc]

/-! ## Paths -/

/-- A path leaves the tree: it asks for child `index` of a node that has `count`
children. -/
structure MissingChild where
  count : Nat
  index : Nat
  deriving DecidableEq

/-- The wording of the error. -/
def MissingChild.message (e : MissingChild) : String :=
  "index out of bounds: the len is " ++ toString e.count ++ " but the index is " ++ toString e.index

/-- The subtree at the end of a path of child indices. -/
def subtree : Tree → List Nat → Except MissingChild Tree
  | t, [] => .ok t
  | t, i :: path =>
    match t.children[i]? with
    | some child => child.subtree path
    | none => .error ⟨t.children.length, i⟩

end Tree

end PhraseStructure
