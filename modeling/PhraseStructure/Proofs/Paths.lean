import Mathlib.Data.List.Basic
import PhraseStructure.Proofs.Preorder
/-!
# Paths

The path of a node lists the child indices on the way from the root. The valid
paths of a tree, listed root first and child after child, ascend
lexicographically (`pairwise_lt_paths`) and are those that lead to a subtree
(`mem_paths_iff`); the pre-order walk follows them (`map_preorder`). A path that
leads nowhere leaves the tree at one place (`LeavesAfter.unique`), and the error
is about that place (`subtree_eq_error_iff`).

Main statement: the walk, the subtrees at paths, the height and the leaves
agree.
-/
namespace PhraseStructure.Tree

/-! ## Subtrees at paths -/

variable {t u child : Tree} {i : Nat} {path front rest : List Nat} {e : MissingChild}

@[simp] theorem subtree_nil (t : Tree) : t.subtree [] = .ok t := by rw [subtree]

theorem subtree_cons_of_some (h : t.children[i]? = some child) : t.subtree (i :: path) = child.subtree path := by
  rw [subtree, h]

theorem subtree_cons_of_none (h : t.children[i]? = none) :
    t.subtree (i :: path) = .error ⟨t.children.length, i⟩ := by
  rw [subtree, h]

theorem subtree_append (h : t.subtree front = .ok u) : t.subtree (front ++ rest) = u.subtree rest := by
  induction front generalizing t with
  | nil =>
    cases h.symm.trans (subtree_nil t)
    rfl
  | cons i front ih =>
    cases hc : t.children[i]? with
    | none => cases h.symm.trans (subtree_cons_of_none hc)
    | some child =>
      rw [subtree_cons_of_some hc] at h
      rw [List.cons_append, subtree_cons_of_some hc, ih h]

/-! ## Leaving the tree -/

/-- After `front` the path asks for a child that is missing there. -/
structure LeavesAfter (t : Tree) (path front : List Nat) (e : MissingChild) : Prop where
  prefix_path : front ++ [e.index] <+: path
  valid : ∃ u, t.subtree front = .ok u ∧ u.children.length = e.count
  count_le_index : e.count ≤ e.index

theorem LeavesAfter.subtree_eq (h : t.LeavesAfter path front e) : t.subtree path = .error e := by
  obtain ⟨⟨rest, rfl⟩, ⟨u, hu, hcount⟩, hindex⟩ := h
  rw [List.append_assoc, subtree_append hu, List.singleton_append,
    subtree_cons_of_none (List.getElem?_eq_none (hcount ▸ hindex)), hcount]

theorem exists_leavesAfter (h : t.subtree path = .error e) : ∃ front, t.LeavesAfter path front e := by
  induction path generalizing t with
  | nil => cases h.symm.trans (subtree_nil t)
  | cons i path ih =>
    cases hc : t.children[i]? with
    | none =>
      cases h.symm.trans (subtree_cons_of_none hc)
      exact ⟨[], List.prefix_append [i] path, ⟨t, subtree_nil t, rfl⟩, List.getElem?_eq_none_iff.1 hc⟩
    | some child =>
      rw [subtree_cons_of_some hc] at h
      obtain ⟨front, hprefix, ⟨u, hu, hcount⟩, hindex⟩ := ih h
      exact ⟨i :: front, (List.prefix_cons_inj i).2 hprefix, ⟨u, (subtree_cons_of_some hc).trans hu, hcount⟩, hindex⟩

theorem subtree_eq_error_iff : t.subtree path = .error e ↔ ∃ front, t.LeavesAfter path front e :=
  ⟨exists_leavesAfter, fun ⟨_, h⟩ => h.subtree_eq⟩

theorem subtree_append_of_error (h : t.subtree front = .error e) : t.subtree (front ++ rest) = .error e := by
  obtain ⟨start, hstart⟩ := exists_leavesAfter h
  exact LeavesAfter.subtree_eq
    ⟨hstart.prefix_path.trans (List.prefix_append front rest), hstart.valid, hstart.count_le_index⟩

/-- The last step of a path goes from a node to one of its children. -/
theorem subtree_concat_iff :
    t.subtree (front ++ [i]) = .ok u ↔ ∃ v, t.subtree front = .ok v ∧ v.children[i]? = some u := by
  cases hfront : t.subtree front with
  | error e => simp [subtree_append_of_error hfront]
  | ok v =>
    rw [subtree_append hfront]
    cases hc : v.children[i]? with
    | none => simp [subtree_cons_of_none hc, hc]
    | some child => simp [subtree_cons_of_some hc, hc]

/-- Once the tree is left, no longer start of the path is valid. -/
theorem LeavesAfter.unique {front' : List Nat} {e' : MissingChild} (h : t.LeavesAfter path front e)
    (h' : t.LeavesAfter path front' e') : front' = front := by
  -- If one start went on after the other, it would pass through the missing
  -- child.
  have hle : ∀ {front front' e e'}, t.LeavesAfter path front e → t.LeavesAfter path front' e' →
      front'.length ≤ front.length := by
    intro front front' e e' h h'
    refine Nat.le_of_not_lt fun hlt => ?_
    have hfront' : front' <+: path := (List.prefix_append front' _).trans h'.prefix_path
    have hleft : front ++ [e.index] <+: front' :=
      List.prefix_of_prefix_length_le h.prefix_path hfront' (by simpa using Nat.succ_le_of_lt hlt)
    have herror : t.subtree front' = .error e := LeavesAfter.subtree_eq ⟨hleft, h.valid, h.count_le_index⟩
    obtain ⟨u, hu, -⟩ := h'.valid
    cases herror.symm.trans hu
  have hlength : front'.length = front.length := Nat.le_antisymm (hle h h') (hle h' h)
  have hprefix : front' <+: front :=
    List.prefix_of_prefix_length_le ((List.prefix_append front' _).trans h'.prefix_path)
      ((List.prefix_append front _).trans h.prefix_path) (Nat.le_of_eq hlength)
  exact hprefix.eq_of_length hlength

/-! ## The valid paths -/

mutual

/-- The valid paths: that of the root, then those through the children from left
to right. -/
def paths : Tree → List (List Nat)
  | node _ children => [] :: pathsFrom 0 children

/-- The paths through children of which the first has index `i`. -/
def pathsFrom (i : Nat) : List Tree → List (List Nat)
  | [] => []
  | t :: ts => t.paths.map (i :: ·) ++ pathsFrom (i + 1) ts

end

theorem mem_pathsFrom_iff {ts : List Tree} {k : Nat} :
    path ∈ pathsFrom k ts ↔
      ∃ i rest child, path = (k + i) :: rest ∧ ts[i]? = some child ∧ rest ∈ child.paths := by
  induction ts generalizing k with
  | nil => simp [pathsFrom]
  | cons t ts ih =>
    rw [pathsFrom, List.mem_append, List.mem_map, ih]
    constructor
    · rintro (⟨rest, hrest, rfl⟩ | ⟨i, rest, child, rfl, hi, hrest⟩)
      · exact ⟨0, rest, t, rfl, rfl, hrest⟩
      · exact ⟨i + 1, rest, child, by rw [Nat.add_right_comm, Nat.add_assoc], hi, hrest⟩
    · rintro ⟨i | i, rest, child, rfl, hi, hrest⟩
      · cases hi
        exact .inl ⟨rest, hrest, rfl⟩
      · exact .inr ⟨i, rest, child, by rw [Nat.add_right_comm, Nat.add_assoc], hi, hrest⟩

/-- The listed paths are those that lead to a subtree. -/
theorem mem_paths_iff : path ∈ t.paths ↔ ∃ u, t.subtree path = .ok u := by
  induction t generalizing path with
  | node label children ih =>
    cases path with
    | nil => simp [paths]
    | cons i rest =>
      have hcons : i :: rest ∈ (node label children).paths ↔
          ∃ child, children[i]? = some child ∧ rest ∈ child.paths := by
        rw [paths, List.mem_cons, mem_pathsFrom_iff]
        constructor
        · rintro (h | ⟨j, rest', child, h, hj, hrest⟩)
          · cases h
          · obtain ⟨rfl, rfl⟩ := List.cons.inj h
            exact ⟨child, by rwa [Nat.zero_add], hrest⟩
        · rintro ⟨child, hi, hrest⟩
          exact .inr ⟨i, rest, child, by rw [Nat.zero_add], hi, hrest⟩
      rw [hcons]
      cases hc : children[i]? with
      | none => simp [subtree_cons_of_none (t := node label children) hc]
      | some child =>
        rw [subtree_cons_of_some (t := node label children) hc, ← ih child (List.mem_of_getElem? hc)]
        simp

theorem pairwise_lt_pathsFrom {ts : List Tree} (h : ∀ t ∈ ts, t.paths.Pairwise (· < ·)) (k : Nat) :
    (pathsFrom k ts).Pairwise (· < ·) := by
  induction ts generalizing k with
  | nil => exact .nil
  | cons t ts ih =>
    rw [pathsFrom, List.pairwise_append, List.pairwise_map]
    refine ⟨(h t List.mem_cons_self).imp fun hlt => List.cons_lt_cons_iff.2 (.inr ⟨rfl, hlt⟩),
      ih (fun u hu => h u (List.mem_cons_of_mem t hu)) (k + 1), ?_⟩
    rintro _ hp _ hq
    obtain ⟨rest, -, rfl⟩ := List.mem_map.1 hp
    obtain ⟨i, rest', child, rfl, -, -⟩ := mem_pathsFrom_iff.1 hq
    exact List.cons_lt_cons_iff.2 (.inl (by omega))

/-- The list ascends: a path comes before those that go on from it and before
those that turn right. -/
theorem pairwise_lt_paths (t : Tree) : t.paths.Pairwise (· < ·) := by
  induction t with
  | node label children ih =>
    rw [paths, List.pairwise_cons]
    refine ⟨fun path hpath => ?_, pairwise_lt_pathsFrom ih 0⟩
    obtain ⟨i, rest, child, rfl, -, -⟩ := mem_pathsFrom_iff.1 hpath
    exact List.nil_lt_cons _ _

theorem nodup_paths (t : Tree) : t.paths.Nodup := by
  refine (pairwise_lt_paths t).imp ?_
  rintro path _ hlt rfl
  exact List.lt_irrefl path hlt

theorem length_pathsFrom {ts : List Tree} (h : ∀ t ∈ ts, t.paths.length = t.size) (k : Nat) :
    (pathsFrom k ts).length = sizes ts := by
  induction ts generalizing k with
  | nil => rfl
  | cons t ts ih =>
    rw [pathsFrom, List.length_append, List.length_map, h t List.mem_cons_self,
      ih (fun u hu => h u (List.mem_cons_of_mem t hu)), sizes]

/-- There is one valid path to every node. -/
theorem length_paths (t : Tree) : t.paths.length = t.size := by
  induction t with
  | node label children ih => rw [paths, List.length_cons, length_pathsFrom ih, size, Nat.add_comm]

/-! ## The walk along the paths -/

/-- What the walk yields at a path: its length, and the subtree there. -/
def visit (t : Tree) (path : List Nat) : Nat × Except MissingChild Tree := (path.length, t.subtree path)

theorem map_visit_pathsFrom (label : String) (before ts : List Tree)
    (h : ∀ t ∈ ts, t.preorder.map (fun e => (e.1, .ok e.2)) = t.paths.map t.visit) :
    (pathsFrom before.length ts).map (node label (before ++ ts)).visit =
      ts.flatMap fun t => (t.preorder.map deeper).map fun e => (e.1, .ok e.2) := by
  induction ts generalizing before with
  | nil => rfl
  | cons t ts ih =>
    have hrest := ih (before ++ [t]) fun u hu => h u (List.mem_cons_of_mem t hu)
    rw [List.append_assoc, List.singleton_append, List.length_append, List.length_singleton] at hrest
    have hchild : (node label (before ++ t :: ts)).children[before.length]? = some t := by simp [Tree.children]
    have hvisit : ∀ path, (node label (before ++ t :: ts)).visit (before.length :: path) =
        ((t.visit path).1 + 1, (t.visit path).2) := by
      intro path
      rw [visit, subtree_cons_of_some hchild]
      rfl
    have hfirst : (t.paths.map (before.length :: ·)).map (node label (before ++ t :: ts)).visit =
        (t.paths.map t.visit).map fun e => (e.1 + 1, e.2) := by
      rw [List.map_map, List.map_map]
      exact List.map_congr_left fun path _ => hvisit path
    rw [pathsFrom, List.map_append, hrest, List.flatMap_cons, hfirst, ← h t List.mem_cons_self, List.map_map,
      List.map_map]
    rfl

/-- The walk goes along the valid paths, and meets at each the subtree to which
it leads. -/
theorem map_preorder (t : Tree) : t.preorder.map (fun e => (e.1, .ok e.2)) = t.paths.map t.visit := by
  induction t with
  | node label children ih =>
    have hbelow := map_visit_pathsFrom label [] children ih
    rw [List.nil_append, List.length_nil] at hbelow
    rw [preorder_node, paths, List.map_cons, List.map_cons, hbelow, List.map_flatMap]
    rfl

theorem length_preorder (t : Tree) : t.preorder.length = t.size := by
  rw [← length_paths, ← List.length_map (f := t.visit), ← map_preorder, List.length_map]

/-! ## Heights and leaves -/

theorem height_node_le_iff (label : String) (children : List Tree) (bound : Nat) :
    (node label children).height ≤ bound ↔ ∀ child ∈ children, child.height + 1 ≤ bound := by
  rw [height]
  induction children with
  | nil => simp [heights]
  | cons t ts ih => rw [heights, Nat.max_le, ih, List.forall_mem_cons]

theorem exists_height_node_eq (label : String) {children : List Tree} (h : children ≠ []) :
    ∃ child ∈ children, (node label children).height = child.height + 1 := by
  rw [height]
  induction children with
  | nil => exact absurd rfl h
  | cons t ts ih =>
    rw [heights]
    by_cases hle : heights ts ≤ t.height + 1
    · exact ⟨t, List.mem_cons_self, Nat.max_eq_left hle⟩
    · have hts : ts ≠ [] := by
        rintro rfl
        exact hle (Nat.zero_le _)
      obtain ⟨child, hchild, heq⟩ := ih hts
      exact ⟨child, List.mem_cons_of_mem t hchild, by omega⟩

theorem depth_le_height : ∀ entry ∈ t.preorder, entry.1 ≤ t.height := by
  induction t with
  | node label children ih =>
    have hchildren := (height_node_le_iff label children _).1 (Nat.le_refl _)
    rw [preorder_node, List.forall_mem_cons]
    refine ⟨Nat.zero_le _, fun entry hentry => ?_⟩
    obtain ⟨child, hchild, hentry⟩ := List.mem_flatMap.1 hentry
    obtain ⟨below, hbelow, rfl⟩ := List.mem_map.1 hentry
    exact Nat.le_trans (Nat.succ_le_succ (ih child hchild below hbelow)) (hchildren child hchild)

theorem exists_depth_eq_height (t : Tree) : ∃ entry ∈ t.preorder, entry.1 = t.height := by
  induction t with
  | node label children ih =>
    rw [preorder_node]
    by_cases hne : children = []
    · subst hne
      exact ⟨_, List.mem_cons_self, rfl⟩
    · obtain ⟨child, hchild, heq⟩ := exists_height_node_eq label hne
      obtain ⟨entry, hentry, hdepth⟩ := ih child hchild
      have hbelow : deeper entry ∈ children.flatMap fun child => child.preorder.map deeper :=
        List.mem_flatMap.2 ⟨child, hchild, List.mem_map.2 ⟨entry, hentry, rfl⟩⟩
      exact ⟨deeper entry, List.mem_cons_of_mem _ hbelow, by rw [heq, ← hdepth, deeper]⟩

/-- The label of a leaf. -/
def leafLabel? : Tree → Option String
  | node label [] => some label
  | node _ (_ :: _) => none

theorem leaves_eq_filterMap_preorder (t : Tree) : t.leaves = t.preorder.filterMap fun e => leafLabel? e.2 := by
  rw [leaves_eq, ← List.filterMap_eq_filter, List.map_filterMap]
  refine List.filterMap_congr fun ⟨_, label, children⟩ _ => ?_
  cases children <;> rfl

/-- The leaves are met along the paths. -/
theorem leaves_eq_filterMap_paths (t : Tree) :
    t.leaves = t.paths.filterMap fun path => (t.subtree path).toOption.bind leafLabel? := by
  have hwalk := congrArg (List.filterMap fun e : Nat × Except MissingChild Tree => e.2.toOption.bind leafLabel?)
    (map_preorder t)
  rw [List.filterMap_map, List.filterMap_map] at hwalk
  exact (leaves_eq_filterMap_preorder t).trans hwalk

/-! ## Main theorem -/

/-- The walk visits every valid path once, in ascending lexicographic order, and
yields for each its length and the subtree there. The height is the greatest
depth that it yields. The leaves are the labels of the childless nodes in this
order, and those of a node with children are those of its children from left to
right. Following a path fails exactly if the path goes on from a valid start to
a child that is missing there, and the error tells the number of children and
the index at the first such place. -/
theorem preorder_visits_paths (t : Tree) :
    (t.paths.Pairwise (· < ·) ∧ (∀ path, path ∈ t.paths ↔ ∃ u, t.subtree path = .ok u) ∧
      t.preorder.map (fun e => (e.1, .ok e.2)) = t.paths.map fun path => (path.length, t.subtree path)) ∧
    (t.preorder.map Prod.fst).max? = some t.height ∧
    (t.leaves = (t.paths.filterMap fun path => (t.subtree path).toOption.bind leafLabel?) ∧
      t.leaves = if t.children = [] then [t.label] else t.children.flatMap leaves) ∧
    ∀ path, ((∃ e, t.subtree path = .error e) ↔ ∃ front e, t.LeavesAfter path front e) ∧
      ∀ e, t.subtree path = .error e → ∃ front, t.LeavesAfter path front e ∧
        ∀ front' e', t.LeavesAfter path front' e' → front <+: front' := by
  refine ⟨⟨pairwise_lt_paths t, fun path => mem_paths_iff, map_preorder t⟩, ?_,
    ⟨leaves_eq_filterMap_paths t, ?_⟩, fun path => ⟨?_, fun e he => ?_⟩⟩
  · rw [List.max?_eq_some_iff]
    constructor
    · obtain ⟨entry, hentry, heq⟩ := exists_depth_eq_height t
      exact heq ▸ List.mem_map_of_mem hentry
    · intro depth hdepth
      obtain ⟨entry, hentry, rfl⟩ := List.mem_map.1 hdepth
      exact depth_le_height entry hentry
  · cases t with
    | node label children => exact leaves_node label children
  · exact (exists_congr fun e => subtree_eq_error_iff).trans exists_comm
  · obtain ⟨front, h⟩ := exists_leavesAfter he
    exact ⟨front, h, fun front' e' h' => h.unique h' ▸ List.prefix_rfl⟩

example : (node "S" [leaf "a", node "B" [leaf "c"]]).paths = [[], [0], [1], [1, 0]] := by decide

example : (node "S" [leaf "a", node "B" [leaf "c"]]).subtree [1, 2, 0] = .error ⟨1, 2⟩ := by rfl

end PhraseStructure.Tree
