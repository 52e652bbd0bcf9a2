import PhraseStructure.Tree.Preorder
/-!
# The pre-order walk

The walk over a stack of subtrees meets them one after the other
(`walk_append`), so that the nodes of a tree are its root and then the nodes of
its children, one level deeper (`preorder_node`), and its leaves are those of
its children (`leaves_node`).
-/
namespace PhraseStructure.Tree

/-- A node one level deeper. -/
def deeper (entry : Nat × Tree) : Nat × Tree := (entry.1 + 1, entry.2)

theorem walk_append (xs ys : List (Nat × Tree)) : walk (xs ++ ys) = walk xs ++ walk ys := by
  fun_induction walk xs with
  | case1 => rfl
  | case2 depth t stack ih => rw [List.cons_append, walk, ← List.append_assoc, ih, List.cons_append]

theorem walk_map_deeper (stack : List (Nat × Tree)) : walk (stack.map deeper) = (walk stack).map deeper := by
  fun_induction walk stack with
  | case1 => simp [walk]
  | case2 depth t stack ih =>
    rw [List.map_cons, deeper, walk, List.map_cons, ← ih, List.map_append, List.map_map]
    rfl

theorem walk_map_one (ts : List Tree) :
    walk (ts.map fun child => (1, child)) = ts.flatMap fun child => child.preorder.map deeper := by
  induction ts with
  | nil => simp [walk]
  | cons t ts ih =>
    have ht : walk [(1, t)] = t.preorder.map deeper := walk_map_deeper [(0, t)]
    rw [List.map_cons, ← List.singleton_append, walk_append, ih, List.flatMap_cons, ht]

/-- The root comes first, then the children from left to right. -/
theorem preorder_node (label : String) (children : List Tree) :
    (node label children).preorder =
      (0, node label children) :: children.flatMap fun child => child.preorder.map deeper := by
  rw [preorder, walk, List.append_nil, ← walk_map_one]
  rfl

theorem leaves_eq (t : Tree) :
    t.leaves = (t.preorder.filter fun entry => entry.2.isLeaf).map fun entry => entry.2.label := rfl

/-- The leaves are the same from whatever depth the walk starts. -/
theorem leaves_eq_deeper (t : Tree) :
    t.leaves = ((t.preorder.map deeper).filter fun entry => entry.2.isLeaf).map fun entry => entry.2.label := by
  rw [leaves_eq, List.filter_map, List.map_map]
  rfl

/-- The leaves of a node are those of its children; a node without children is
itself one. -/
theorem leaves_node (label : String) (children : List Tree) :
    (node label children).leaves = if children = [] then [label] else children.flatMap leaves := by
  cases children with
  | nil => simp [leaves_eq, preorder_node, isLeaf, Tree.children, Tree.label]
  | cons t ts =>
    rw [leaves_eq, preorder_node, List.filter_cons_of_neg (by simp [isLeaf, Tree.children]), List.filter_flatMap,
      List.map_flatMap, if_neg (List.cons_ne_nil t ts)]
    simp only [← leaves_eq_deeper]

end PhraseStructure.Tree
