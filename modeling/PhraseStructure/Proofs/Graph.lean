import Mathlib.Data.List.Basic
import PhraseStructure.Proofs.Paths
import PhraseStructure.Tree.Graph
/-!
# Graphs of trees

The pre-order number of a node is the place of its path in the list of paths
(`getElem?_number`). The statements of a tree are, path after path, the edge to
the node from its parent and the node itself (`graph_eq_flatMap`), and the
statements at a path follow from the path alone (`statementsAt_concat`).

Main statement: the nodes are numbered in pre-order, the edges are those from
parents to children, each right before its child, and the colours are those of
the labels of inner nodes.
-/
namespace PhraseStructure.Tree

/-! ## Numbers of nodes -/

variable {t u v child : Tree} {i n : Nat} {path front rest : List Nat} {label : String} {colour inherited : Colour}

/-- The number of nodes that the walk meets before the node at a path. -/
def number : Tree → List Nat → Nat
  | _, [] => 0
  | t, i :: path =>
    match t.children[i]? with
    | some child => 1 + sizes (t.children.take i) + child.number path
    | none => 0

@[simp] theorem number_nil (t : Tree) : t.number [] = 0 := by rw [number]

theorem number_cons (h : t.children[i]? = some child) :
    t.number (i :: path) = 1 + sizes (t.children.take i) + child.number path := by
  rw [number, h]

theorem getElem?_pathsFrom {ts : List Tree} (h : ts[i]? = some child) (hn : child.paths[n]? = some path) (k : Nat) :
    (pathsFrom k ts)[sizes (ts.take i) + n]? = some ((k + i) :: path) := by
  induction ts generalizing i k with
  | nil => cases h
  | cons t ts ih =>
    cases i with
    | zero =>
      cases h
      obtain ⟨hlt, -⟩ := List.getElem?_eq_some_iff.1 hn
      rw [pathsFrom, List.take_zero, sizes, Nat.zero_add, List.getElem?_append_left (by rwa [List.length_map]),
        List.getElem?_map, hn]
      rfl
    | succ i =>
      have hle : (t.paths.map (k :: ·)).length ≤ t.size + sizes (ts.take i) + n := by
        rw [List.length_map, length_paths]
        omega
      rw [pathsFrom, List.take_succ_cons, sizes, List.getElem?_append_right hle, List.length_map, length_paths,
        Nat.add_assoc, Nat.add_sub_cancel_left, ih h, Nat.add_right_comm, Nat.add_assoc]

/-- The path of a node has its number as its place. -/
theorem getElem?_number (h : t.subtree path = .ok u) : t.paths[t.number path]? = some path := by
  induction path generalizing t with
  | nil =>
    cases t
    rw [number_nil, paths]
    rfl
  | cons i path ih =>
    cases hc : t.children[i]? with
    | none => cases h.symm.trans (subtree_cons_of_none hc)
    | some child =>
      rw [subtree_cons_of_some hc] at h
      have hplace := getElem?_pathsFrom hc (ih h) 0
      rw [Nat.zero_add] at hplace
      rw [number_cons hc, Nat.add_assoc, Nat.add_comm 1]
      cases t
      exact hplace

/-- The number of a path is its only place. -/
theorem getElem?_paths_iff : t.paths[n]? = some path ↔ (∃ u, t.subtree path = .ok u) ∧ t.number path = n := by
  constructor
  · intro h
    obtain ⟨u, hu⟩ := mem_paths_iff.1 (List.mem_of_getElem? h)
    obtain ⟨hlt, -⟩ := List.getElem?_eq_some_iff.1 h
    exact ⟨⟨u, hu⟩, ((List.getElem?_inj hlt (nodup_paths t)).1 (h.trans (getElem?_number hu).symm)).symm⟩
  · rintro ⟨⟨u, hu⟩, rfl⟩
    exact getElem?_number hu

/-! ## Statements at paths -/

/-- The statement of a root with number `id`. -/
def rootStatement (inherited : Colour) (id : Nat) (t : Tree) : Statement :=
  .node id t.label t.isLeaf (if t.isLeaf then inherited else .ofSymbol t.label)

/-- The statements that belong to the node at a path of a tree whose root has
number `id`: the edge to the node, and the node. -/
def statementsAt (inherited : Colour) (id : Nat) : Tree → List Nat → List Statement
  | t, [] => [t.rootStatement inherited id]
  | t, i :: path =>
    match t.children[i]? with
    | some child =>
      let colour := Colour.ofSymbol t.label
      let next := id + 1 + sizes (t.children.take i)
      (if path = [] then [.edge id next colour (!child.isLeaf)] else []) ++ statementsAt colour next child path
    | none => []

theorem statementsAt_cons (h : t.children[i]? = some child) (id : Nat) :
    statementsAt inherited id t (i :: path) =
      (if path = [] then [.edge id (id + 1 + sizes (t.children.take i)) (.ofSymbol t.label) (!child.isLeaf)]
        else []) ++
        statementsAt (.ofSymbol t.label) (id + 1 + sizes (t.children.take i)) child path := by
  rw [statementsAt, h]

/-- What is stated about a child depends on its number, that of its parent, and
the labels of both. -/
theorem statementsAt_concat (hv : t.subtree front = .ok v) (hu : v.children[i]? = some u) (inherited : Colour)
    (id : Nat) :
    statementsAt inherited id t (front ++ [i]) =
      [.edge (id + t.number front) (id + t.number (front ++ [i])) (.ofSymbol v.label) (!u.isLeaf),
        u.rootStatement (.ofSymbol v.label) (id + t.number (front ++ [i]))] := by
  induction front generalizing t inherited id with
  | nil =>
    cases (subtree_nil t).symm.trans hv
    rw [List.nil_append, statementsAt_cons hu, number_cons hu, if_pos rfl, statementsAt]
    simp only [number_nil, Nat.add_zero, Nat.add_assoc, List.singleton_append]
  | cons j front ih =>
    cases hc : t.children[j]? with
    | none => cases hv.symm.trans (subtree_cons_of_none hc)
    | some child =>
      rw [subtree_cons_of_some hc] at hv
      rw [List.cons_append, statementsAt_cons hc, if_neg (by simp), List.nil_append, ih hv, number_cons hc,
        number_cons hc]
      simp only [Nat.add_assoc]

theorem ne_nil_of_mem_pathsFrom {ts : List Tree} {k : Nat} (h : path ∈ pathsFrom k ts) : path ≠ [] := by
  obtain ⟨i, rest, child, rfl, -, -⟩ := mem_pathsFrom_iff.1 h
  exact List.cons_ne_nil _ _

/-- The statements along the paths through a child are the edge to the child and
those of the child itself. -/
theorem flatMap_statementsAt_child (inherited : Colour) (h : t.children[i]? = some child) (id : Nat) :
    (child.paths.map (i :: ·)).flatMap (statementsAt inherited id t) =
      .edge id (id + 1 + sizes (t.children.take i)) (.ofSymbol t.label) (!child.isLeaf) ::
        child.paths.flatMap (statementsAt (.ofSymbol t.label) (id + 1 + sizes (t.children.take i)) child) := by
  obtain ⟨label, children⟩ := child
  rw [paths, List.map_cons, List.flatMap_cons, statementsAt_cons h, if_pos rfl, List.flatMap_cons,
    List.singleton_append, List.cons_append, List.flatMap_map]
  refine congrArg _ (congrArg _ (List.flatMap_congr fun path hpath => ?_))
  rw [statementsAt_cons h, if_neg (ne_nil_of_mem_pathsFrom hpath), List.nil_append]

mutual

/-- The statements of a tree go along its paths, and its numbers are as many as
its nodes. -/
theorem statements_eq (inherited : Colour) (id : Nat) :
    ∀ t : Tree, statements inherited id t = (t.paths.flatMap (statementsAt inherited id t), id + t.size)
  | .node label [] => rfl
  | .node label (child :: children) => by
    rw [statements, show id + 1 = id + 1 + sizes [] from rfl,
      statementsBelow_eq inherited id label [] (child :: children), paths, List.flatMap_cons, size, ← Nat.add_assoc]
    rfl

theorem statementsBelow_eq (inherited : Colour) (id : Nat) (label : String) (before : List Tree) : ∀ ts : List Tree,
    statementsBelow (.ofSymbol label) id (id + 1 + sizes before) ts =
      ((pathsFrom before.length ts).flatMap (statementsAt inherited id (node label (before ++ ts))),
        id + 1 + sizes before + sizes ts)
  | [] => rfl
  | t :: ts => by
    -- The counter has passed the children before this one, which are kept for
    -- its index and its number.
    have hchild : (node label (before ++ t :: ts)).children[before.length]? = some t := by simp [Tree.children]
    have hnext : id + 1 + sizes before + t.size = id + 1 + sizes (before ++ [t]) := by
      rw [sizes_append, Nat.add_assoc]
      rfl
    have hrest := statementsBelow_eq inherited id label (before ++ [t]) ts
    rw [List.append_assoc, List.singleton_append, List.length_append, List.length_singleton] at hrest
    have hfirst := flatMap_statementsAt_child inherited hchild id
    rw [Tree.label, Tree.children, List.take_left] at hfirst
    rw [statementsBelow, statements_eq, hnext, pathsFrom, List.flatMap_append, hfirst]
    dsimp only
    rw [hrest, ← hnext, sizes, ← Nat.add_assoc]
    rfl

end

theorem graph_eq_flatMap (t : Tree) : t.graph = t.paths.flatMap (statementsAt .black 0 t) := by
  rw [graph, statements_eq]

/-! ## Nodes and edges -/

namespace Statement

/-- The label and the number of a node. -/
def labelled? : Statement → Option (String × Nat)
  | node id label _ _ => some (label, id)
  | edge _ _ _ _ => none

/-- Whether the statement is about an edge. -/
def isEdge : Statement → Bool
  | node _ _ _ _ => false
  | edge _ _ _ _ => true

end Statement

/-- The node with a pre-order number. -/
def nodeAt? (t : Tree) (n : Nat) : Option Tree := (t.preorder.map Prod.snd)[n]?

/-- Whether node `n` is a child of node `parent`, by their pre-order numbers. -/
def IsChild (t : Tree) (parent n : Nat) : Prop :=
  ∃ path i, t.paths[parent]? = some path ∧ t.paths[n]? = some (path ++ [i])

theorem nodeAt?_eq_some_iff : t.nodeAt? n = some u ↔ ∃ path, t.paths[n]? = some path ∧ t.subtree path = .ok u := by
  have hwalk := congrArg (fun entries => (entries[n]?).map Prod.snd) (map_preorder t)
  simp only [List.getElem?_map] at hwalk
  rw [nodeAt?, List.getElem?_map]
  cases he : t.preorder[n]? <;> cases hp : t.paths[n]? <;> simp_all [visit]
  rw [← hwalk, Except.ok.injEq]

/-- A path leads to the root, or to a child of a node. -/
theorem mem_paths_cases (h : path ∈ t.paths) :
    path = [] ∨ ∃ front i v u, path = front ++ [i] ∧ t.subtree front = .ok v ∧ v.children[i]? = some u := by
  obtain ⟨u, hu⟩ := mem_paths_iff.1 h
  rcases List.eq_nil_or_concat' path with rfl | ⟨front, i, rfl⟩
  · exact .inl rfl
  · obtain ⟨v, hv, hc⟩ := subtree_concat_iff.1 hu
    exact .inr ⟨front, i, v, u, rfl, hv, hc⟩

theorem isChild_iff {a b : Nat} : t.IsChild a b ↔ ∃ front i v u,
    t.subtree front = .ok v ∧ v.children[i]? = some u ∧ t.number front = a ∧ t.number (front ++ [i]) = b := by
  constructor
  · rintro ⟨front, i, ha, hb⟩
    obtain ⟨-, rfl⟩ := getElem?_paths_iff.1 ha
    obtain ⟨⟨u, hu⟩, rfl⟩ := getElem?_paths_iff.1 hb
    obtain ⟨v, hv, hc⟩ := subtree_concat_iff.1 hu
    exact ⟨front, i, v, u, hv, hc, rfl, rfl⟩
  · rintro ⟨front, i, v, u, hv, hc, rfl, rfl⟩
    exact ⟨front, i, getElem?_number hv, getElem?_number (subtree_concat_iff.2 ⟨v, hv, hc⟩)⟩

theorem zipIdx_paths (t : Tree) : t.paths.zipIdx = t.paths.map fun path => (path, t.number path) := by
  refine List.ext_getElem? fun n => ?_
  rw [List.getElem?_zipIdx, List.getElem?_map]
  refine Option.map_congr fun path hpath => ?_
  rw [(getElem?_paths_iff.1 hpath).2, Nat.zero_add]

/-! ## Statements of the graph -/

theorem mem_graph_iff {s : Statement} : s ∈ t.graph ↔ s = t.rootStatement .black 0 ∨
    ∃ front i v u, t.subtree front = .ok v ∧ v.children[i]? = some u ∧
      (s = .edge (t.number front) (t.number (front ++ [i])) (.ofSymbol v.label) (!u.isLeaf) ∨
        s = u.rootStatement (.ofSymbol v.label) (t.number (front ++ [i]))) := by
  rw [graph_eq_flatMap, List.mem_flatMap]
  constructor
  · rintro ⟨path, hpath, hs⟩
    rcases mem_paths_cases hpath with rfl | ⟨front, i, v, u, rfl, hv, hu⟩
    · exact .inl (List.mem_singleton.1 hs)
    · rw [statementsAt_concat hv hu, Nat.zero_add, Nat.zero_add] at hs
      exact .inr ⟨front, i, v, u, hv, hu, by simpa using hs⟩
  · rintro (rfl | ⟨front, i, v, u, hv, hu, hs⟩)
    · exact ⟨[], mem_paths_iff.2 ⟨t, subtree_nil t⟩, List.mem_singleton_self _⟩
    · refine ⟨front ++ [i], mem_paths_iff.2 ⟨u, subtree_concat_iff.2 ⟨v, hv, hu⟩⟩, ?_⟩
      rw [statementsAt_concat hv hu, Nat.zero_add, Nat.zero_add]
      simpa using hs

/-- Every edge stands right before the node to which it leads. -/
def EdgesLead (ss : List Statement) : Prop :=
  ∀ before source target colour isBold after, ss = before ++ .edge source target colour isBold :: after →
    ∃ label isBox c, after.head? = some (.node target label isBox c)

theorem EdgesLead.append {ss ss' : List Statement} (h : EdgesLead ss) (h' : EdgesLead ss') :
    EdgesLead (ss ++ ss') := by
  intro before source target colour isBold after heq
  rcases List.append_eq_append_iff.1 heq with ⟨front, rfl, hss'⟩ | ⟨back, rfl, hback⟩
  · exact h' _ _ _ _ _ _ hss'
  · cases back with
    | nil => exact h' [] _ _ _ _ _ hback.symm
    | cons s back =>
      obtain ⟨rfl, rfl⟩ := List.cons.inj hback
      obtain ⟨label, isBox, c, hhead⟩ := h _ _ _ _ _ _ rfl
      exact ⟨label, isBox, c, by rw [List.append_eq, List.head?_append, hhead, Option.some_or]⟩

theorem edgesLead_flatMap {α : Type} {f : α → List Statement} {xs : List α} (h : ∀ x ∈ xs, EdgesLead (f x)) :
    EdgesLead (xs.flatMap f) := by
  induction xs with
  | nil => rintro (_ | _) _ _ _ _ _ heq <;> cases heq
  | cons x xs ih =>
    rw [List.flatMap_cons]
    exact (h x List.mem_cons_self).append (ih fun y hy => h y (List.mem_cons_of_mem x hy))

theorem edgesLead_root : EdgesLead [t.rootStatement inherited n] := by
  intro before _ _ _ _ _ heq
  rcases before with _ | ⟨s, _ | ⟨s', before⟩⟩ <;> cases heq

theorem edgesLead_child {a : Nat} {isBold : Bool} :
    EdgesLead [.edge a n colour isBold, t.rootStatement inherited n] := by
  intro before _ _ _ _ _ heq
  rcases before with _ | ⟨s, before⟩
  · cases heq
    exact ⟨t.label, t.isLeaf, _, rfl⟩
  · exact edgesLead_root before _ _ _ _ _ (List.cons.inj heq).2

theorem edgesLead_graph (t : Tree) : EdgesLead t.graph := by
  rw [graph_eq_flatMap]
  refine edgesLead_flatMap fun path hpath => ?_
  rcases mem_paths_cases hpath with rfl | ⟨front, i, v, u, rfl, hv, hu⟩
  · exact edgesLead_root
  · rw [statementsAt_concat hv hu]
    exact edgesLead_child

/-- Every node of the tree is stated once, with its label and its pre-order
number. -/
theorem filterMap_labelled_graph (t : Tree) :
    t.graph.filterMap Statement.labelled? = t.preorder.zipIdx.map fun entry => (entry.1.2.label, entry.2) := by
  have hat : ∀ path ∈ t.paths, (statementsAt .black 0 t path).filterMap Statement.labelled? =
      ((t.subtree path).toOption.map fun u => (u.label, t.number path)).toList := by
    intro path hpath
    rcases mem_paths_cases hpath with rfl | ⟨front, i, v, u, rfl, hv, hu⟩
    · rw [subtree_nil, number_nil]
      rfl
    · rw [statementsAt_concat hv hu, subtree_concat_iff.2 ⟨v, hv, hu⟩, Nat.zero_add, Nat.zero_add]
      rfl
  let stated (entry : (Nat × Except MissingChild Tree) × Nat) : Option (String × Nat) :=
    entry.1.2.toOption.map fun u => (u.label, entry.2)
  calc t.graph.filterMap Statement.labelled?
    _ = t.paths.filterMap fun path => (t.subtree path).toOption.map fun u => (u.label, t.number path) := by
      rw [graph_eq_flatMap, List.filterMap_flatMap, List.flatMap_congr hat, ← List.filterMap_eq_flatMap_toList]
    _ = (t.paths.map t.visit).zipIdx.filterMap stated := by
      rw [List.zipIdx_map, zipIdx_paths, List.filterMap_map, List.filterMap_map]
      rfl
    _ = t.preorder.zipIdx.map fun entry => (entry.1.2.label, entry.2) := by
      rw [← map_preorder, List.zipIdx_map, List.filterMap_map, ← List.filterMap_eq_map]
      rfl

/-- A statement is a node, one for each path, or an edge, one for each path but
that of the root. -/
theorem countP_graph (t : Tree) :
    t.graph.countP (!·.isEdge) = t.size ∧ t.graph.countP Statement.isEdge = t.size - 1 := by
  have hat : ∀ path ∈ t.paths, (statementsAt .black 0 t path).countP (!·.isEdge) = 1 ∧
      (statementsAt .black 0 t path).countP Statement.isEdge = if path = [] then 0 else 1 := by
    intro path hpath
    rcases mem_paths_cases hpath with rfl | ⟨front, i, v, u, rfl, hv, hu⟩
    · exact ⟨rfl, rfl⟩
    · rw [statementsAt_concat hv hu, if_neg (by simp)]
      exact ⟨rfl, rfl⟩
  have hnodes : t.paths.map (List.countP (!·.isEdge) ∘ statementsAt .black 0 t) = t.paths.map fun _ => 1 :=
    List.map_congr_left fun path hpath => (hat path hpath).1
  have hedges : t.paths.map (List.countP Statement.isEdge ∘ statementsAt .black 0 t) =
      t.paths.map fun path => if path = [] then 0 else 1 :=
    List.map_congr_left fun path hpath => (hat path hpath).2
  rw [graph_eq_flatMap, List.countP_flatMap, List.countP_flatMap, hnodes, hedges, List.map_const',
    List.sum_replicate_nat, length_paths, Nat.mul_one]
  refine ⟨rfl, ?_⟩
  obtain ⟨label, children⟩ := t
  have hbelow : (pathsFrom 0 children).map (fun path => if path = [] then 0 else 1) =
      (pathsFrom 0 children).map fun _ => 1 :=
    List.map_congr_left fun path hpath => if_neg (ne_nil_of_mem_pathsFrom hpath)
  have hlength : (pathsFrom 0 children).length = sizes children := length_pathsFrom (fun t _ => length_paths t) 0
  rw [paths, List.map_cons, hbelow, List.map_const', hlength, List.sum_cons, List.sum_replicate_nat, size]
  simp

/-! ## Main theorem -/

/-- What a statement says about a tree: a node has its label and the colour of
an inner node is that of the label, of a leaf that of its parent's label, or
black if it is the root; an edge leads from a parent to a child, in the colour
of the parent's label, and is bold for an inner child. -/
def Statement.Holds (t : Tree) : Statement → Prop
  | .node n label isBox colour => ∃ u, t.nodeAt? n = some u ∧ label = u.label ∧ isBox = u.isLeaf ∧
      (u.isLeaf = false ∧ colour = .ofSymbol u.label ∨
        u.isLeaf = true ∧ n = 0 ∧ colour = .black ∨
        u.isLeaf = true ∧ ∃ parent v, t.IsChild parent n ∧ t.nodeAt? parent = some v ∧ colour = .ofSymbol v.label)
  | .edge parent n colour isBold => t.IsChild parent n ∧ ∃ v u,
      t.nodeAt? parent = some v ∧ t.nodeAt? n = some u ∧ colour = .ofSymbol v.label ∧ isBold = !u.isLeaf

theorem nodeAt?_number (h : t.subtree path = .ok u) : t.nodeAt? (t.number path) = some u :=
  nodeAt?_eq_some_iff.2 ⟨path, getElem?_number h, h⟩

theorem holds_of_mem_graph {s : Statement} (h : s ∈ t.graph) : s.Holds t := by
  rcases mem_graph_iff.1 h with rfl | ⟨front, i, v, u, hv, hu, rfl | rfl⟩
  · refine ⟨t, nodeAt?_number (subtree_nil t), rfl, rfl, ?_⟩
    cases hleaf : t.isLeaf
    · exact .inl ⟨rfl, rfl⟩
    · exact .inr (.inl ⟨rfl, rfl, rfl⟩)
  · have hchild : t.IsChild (t.number front) (t.number (front ++ [i])) :=
      isChild_iff.2 ⟨front, i, v, u, hv, hu, rfl, rfl⟩
    exact ⟨hchild, v, u, nodeAt?_number hv, nodeAt?_number (subtree_concat_iff.2 ⟨v, hv, hu⟩), rfl, rfl⟩
  · have hchild : t.IsChild (t.number front) (t.number (front ++ [i])) :=
      isChild_iff.2 ⟨front, i, v, u, hv, hu, rfl, rfl⟩
    refine ⟨u, nodeAt?_number (subtree_concat_iff.2 ⟨v, hv, hu⟩), rfl, rfl, ?_⟩
    cases hleaf : u.isLeaf
    · exact .inl ⟨rfl, rfl⟩
    · exact .inr (.inr ⟨rfl, _, v, hchild, nodeAt?_number hv, rfl⟩)

/-- The graph of a tree of `m` nodes has `m` nodes and `m - 1` edges. The nodes
have the numbers from zero in the order of the pre-order walk, with the labels
met there. There is an edge between two numbers exactly if they are those of a
parent and a child, and it stands right before the child. Every statement holds
of the tree. -/
theorem graph_describes_tree (t : Tree) :
    (t.preorder.length = t.size ∧ t.graph.countP (!·.isEdge) = t.size ∧
      t.graph.countP Statement.isEdge = t.size - 1) ∧
    t.graph.filterMap Statement.labelled? = (t.preorder.zipIdx.map fun entry => (entry.1.2.label, entry.2)) ∧
    (∀ a b, (∃ colour isBold, .edge a b colour isBold ∈ t.graph) ↔ t.IsChild a b) ∧
    EdgesLead t.graph ∧ ∀ s ∈ t.graph, s.Holds t := by
  refine ⟨⟨length_preorder t, countP_graph t⟩, filterMap_labelled_graph t, fun a b => ⟨?_, fun h => ?_⟩,
    edgesLead_graph t, fun s => holds_of_mem_graph⟩
  · rintro ⟨colour, isBold, hedge⟩
    exact (holds_of_mem_graph hedge).1
  · obtain ⟨front, i, v, u, hv, hu, rfl, rfl⟩ := isChild_iff.1 h
    exact ⟨_, _, mem_graph_iff.2 (.inr ⟨front, i, v, u, hv, hu, .inl rfl⟩)⟩

end PhraseStructure.Tree
