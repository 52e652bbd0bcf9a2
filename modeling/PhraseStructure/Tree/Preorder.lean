import PhraseStructure.Tree
/-!
# Pre-order

The walk over a tree that meets a node before its children and children from
left to right. The walk keeps the subtrees it has still to visit on a stack;
`ofLabels?` reads a tree back from the depths and labels it was met with.
-/
namespace PhraseStructure.Tree

/-! ## Walking -/

/-- The nodes met from a stack of subtrees, each with its depth. -/
def walk : List (Nat × Tree) → List (Nat × Tree)
  | [] => []
  | (depth, t) :: stack =>
    (depth, t) :: walk (t.children.map (fun child => (depth + 1, child)) ++ stack)
termination_by stack => sizes (stack.map Prod.snd)
decreasing_by
  obtain ⟨label, children⟩ := t
  simp [sizes_append, sizes, size, Tree.children, Function.comp_def]

/-- All nodes in pre-order with their depths; the root is at depth zero. -/
def preorder (t : Tree) : List (Nat × Tree) := walk [(0, t)]

/-- The labels in pre-order, with their depths. -/
def labels (t : Tree) : List (Nat × String) := t.preorder.map fun (depth, u) => (depth, u.label)

/-- The labels of the leaves from left to right. -/
def leaves (t : Tree) : List String :=
  (t.preorder.filter fun (_, u) => u.isLeaf).map fun (_, u) => u.label

/-! ## Rebuilding -/

/-- Put a node in front of a forest whose trees have depths: the trees at its
front that are one level deeper become the children of the node. -/
def attach (entry : Nat × String) (forest : List (Nat × Tree)) : List (Nat × Tree) :=
  let (children, rest) := forest.span fun (depth, _) => depth == entry.1 + 1
  (entry.1, node entry.2 (children.map Prod.snd)) :: rest

/-- The tree with the given depths and labels in pre-order, if they describe
one. -/
def ofLabels? (labels : List (Nat × String)) : Option Tree :=
  match labels.foldr attach [] with
  | [(0, t)] => some t
  | _ => none

end PhraseStructure.Tree
