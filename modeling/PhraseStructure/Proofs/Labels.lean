import Mathlib.Data.List.Basic
import Mathlib.Data.List.TakeDrop
import PhraseStructure.Proofs.Preorder
/-!
# Trees from their labels

The labels of a tree in pre-order, with their depths, are that of the root and
then those of its children, one level deeper (`labelsAt_node`). They describe
the tree: it is built again by going through them from the front and attaching
every label to the latest one that is one level up (`rebuild?_labels`), and just
as well from the back, where every label takes the trees behind it that are one
level deeper (`ofLabels?_labels`).
-/
namespace PhraseStructure.Tree

/-! ## Labels -/

/-- The labels in pre-order with their depths, where the root is at a given
depth. -/
def labelsAt (depth : Nat) (t : Tree) : List (Nat × String) :=
  t.preorder.map fun entry => (depth + entry.1, entry.2.label)

theorem labels_eq_labelsAt (t : Tree) : t.labels = t.labelsAt 0 := by
  simp only [labels, labelsAt, Nat.zero_add]

/-- The label of the root comes first, then those of the children from left to
right, one level deeper. -/
theorem labelsAt_node (depth : Nat) (label : String) (children : List Tree) :
    (node label children).labelsAt depth = (depth, label) :: children.flatMap (labelsAt (depth + 1)) := by
  rw [labelsAt, preorder_node, List.map_cons, List.map_flatMap]
  refine congrArg _ (List.flatMap_congr fun child _ => ?_)
  rw [labelsAt, List.map_map]
  refine List.map_congr_left fun entry _ => ?_
  rw [Function.comp_apply, deeper, Nat.add_assoc, Nat.add_comm 1]

/-- Every label of the tree has a property. -/
def EveryLabel (P : String → Prop) (t : Tree) : Prop := ∀ entry ∈ t.labels, P entry.2

instance (P : String → Prop) [DecidablePred P] (t : Tree) : Decidable (t.EveryLabel P) :=
  inferInstanceAs (Decidable (∀ entry ∈ t.labels, P entry.2))

theorem forall_mem_labelsAt {P : String → Prop} {t : Tree} (depth : Nat) :
    (∀ entry ∈ t.labelsAt depth, P entry.2) ↔ t.EveryLabel P := by
  rw [EveryLabel, labelsAt, labels, List.forall_mem_map, List.forall_mem_map]

theorem everyLabel_node {P : String → Prop} {label : String} {children : List Tree} :
    EveryLabel P (node label children) ↔ P label ∧ ∀ child ∈ children, child.EveryLabel P := by
  rw [← forall_mem_labelsAt 0, labelsAt_node, List.forall_mem_cons, List.forall_mem_flatMap]
  simp only [forall_mem_labelsAt]

@[simp] theorem everyLabel_leaf {P : String → Prop} {label : String} : EveryLabel P (leaf label) ↔ P label := by
  simp [leaf, everyLabel_node]

@[simp] theorem everyLabel_tagged {P : String → Prop} {tag token : String} :
    EveryLabel P (tagged tag token) ↔ P tag ∧ P token := by
  simp [tagged, everyLabel_node]

/-! ## From the front -/

mutual

/-- The tree with a child added to the latest of its nodes at a depth, if it has
a node there. -/
def attachAt (child : Tree) : Nat → Tree → Option Tree
  | 0, t => some (t.addChild child)
  | depth + 1, node label children => (attachAtLast child depth children).map (node label)

/-- Trees side by side with a child added to the latest of their nodes at a
depth. That node lies in the last tree that is deep enough. -/
def attachAtLast (child : Tree) (depth : Nat) : List Tree → Option (List Tree)
  | [] => none
  | t :: ts =>
    match attachAtLast child depth ts with
    | some ts => some (t :: ts)
    | none => (attachAt child depth t).map (· :: ts)

end

/-- The tree with a label attached to the latest node that is one level up. -/
def attachLabel (t : Tree) : Nat × String → Option Tree
  | (0, _) => none
  | (depth + 1, label) => attachAt (leaf label) depth t

/-- The tree that is built from depths and labels, the first of which is the
root and each of the others attached to the latest one that is one level up. -/
def rebuild? : List (Nat × String) → Option Tree
  | (0, label) :: entries => entries.foldlM attachLabel (leaf label)
  | _ => none

mutual

/-- There is a node at every depth up to the height of the tree, and none
below. -/
theorem attachAt_eq_none_iff (child : Tree) : ∀ {depth : Nat} {t : Tree},
    attachAt child depth t = none ↔ t.height < depth
  | 0, t => by simp [attachAt]
  | depth + 1, node label children => by
    rw [attachAt, Option.map_eq_none_iff, attachAtLast_eq_none_iff, height, Nat.lt_succ_iff]

theorem attachAtLast_eq_none_iff (child : Tree) {depth : Nat} : ∀ {ts : List Tree},
    attachAtLast child depth ts = none ↔ heights ts ≤ depth
  | [] => by simp [attachAtLast, heights]
  | t :: ts => by
    rw [attachAtLast, heights, Nat.max_le, Nat.succ_le_iff, ← attachAt_eq_none_iff child,
      ← attachAtLast_eq_none_iff child]
    cases attachAtLast child depth ts <;> simp

end

theorem attachAtLast_concat (child : Tree) (ts : List Tree) (t : Tree) :
    attachAtLast child 0 (ts ++ [t]) = some (ts ++ [t.addChild child]) := by
  induction ts with
  | nil => simp [attachAtLast, attachAt]
  | cons u ts ih => rw [List.cons_append, attachAtLast, ih, List.cons_append]

mutual

/-- A tree that has just been attached is the latest node there, so that the
next one a level deeper becomes its last child. -/
theorem attachAt_succ {child grandchild : Tree} : ∀ {depth : Nat} {t t' : Tree}, attachAt child depth t = some t' →
    attachAt grandchild (depth + 1) t' = attachAt (child.addChild grandchild) depth t
  | 0, node label children, t', h => by
    cases h
    have hlast := attachAtLast_concat grandchild children child
    exact congrArg (Option.map (node label)) hlast
  | depth + 1, node label children, t', h => by
    obtain ⟨children', hc, rfl⟩ := Option.map_eq_some_iff.1 h
    rw [attachAt, attachAtLast_succ hc, attachAt]

theorem attachAtLast_succ {child grandchild : Tree} {depth : Nat} : ∀ {ts ts' : List Tree},
    attachAtLast child depth ts = some ts' →
    attachAtLast grandchild (depth + 1) ts' = attachAtLast (child.addChild grandchild) depth ts
  | [], ts', h => by cases h
  | t :: ts, ts', h => by
    rw [attachAtLast] at h
    cases hts : attachAtLast child depth ts with
    | some us =>
      rw [hts] at h
      cases h
      have hne : attachAtLast (child.addChild grandchild) depth ts ≠ none := by
        rw [Ne, attachAtLast_eq_none_iff, ← attachAtLast_eq_none_iff child, hts]
        exact Option.some_ne_none _
      obtain ⟨vs, hvs⟩ := Option.ne_none_iff_exists'.1 hne
      rw [attachAtLast, attachAtLast_succ hts, attachAtLast, hvs]
    | none =>
      rw [hts] at h
      obtain ⟨t', ht, rfl⟩ := Option.map_eq_some_iff.1 h
      have hle := (attachAtLast_eq_none_iff child).1 hts
      rw [attachAtLast, (attachAtLast_eq_none_iff _).2 (Nat.le_succ_of_le hle), attachAt_succ ht, attachAtLast,
        (attachAtLast_eq_none_iff _).2 hle]

end

/-- A node to which children were attached is attached with more of them. -/
theorem foldlM_attachLabel_children {label : String} {depth : Nat} {t : Tree} {children : List Tree}
    (ih : ∀ child ∈ children, ∀ depth t, (child.labelsAt (depth + 1)).foldlM attachLabel t = attachAt child depth t)
    {before : List Tree} {t' : Tree} (h : attachAt (node label before) depth t = some t') :
    (children.flatMap (labelsAt (depth + 2))).foldlM attachLabel t' =
      attachAt (node label (before ++ children)) depth t := by
  induction children generalizing before t' with
  | nil => simpa using h.symm
  | cons child children ihchildren =>
    have hne : attachAt (node label (before ++ [child])) depth t ≠ none := by
      rw [Ne, attachAt_eq_none_iff, ← attachAt_eq_none_iff (node label before), h]
      exact Option.some_ne_none _
    obtain ⟨t'', ht''⟩ := Option.ne_none_iff_exists'.1 hne
    have hchild : (child.labelsAt (depth + 2)).foldlM attachLabel t' = some t'' := by
      rw [ih child List.mem_cons_self, attachAt_succ h, addChild, ht'']
    have hrest := ihchildren (fun c hc => ih c (List.mem_cons_of_mem _ hc)) ht''
    rw [List.flatMap_cons, List.foldlM_append, hchild, Option.bind_eq_bind, Option.bind_some, hrest,
      List.append_assoc, List.singleton_append]

/-- Attaching the labels of a tree one by one attaches the tree. -/
theorem foldlM_attachLabel (u : Tree) (depth : Nat) (t : Tree) :
    (u.labelsAt (depth + 1)).foldlM attachLabel t = attachAt u depth t := by
  induction u generalizing depth t with
  | node label children ih =>
    rw [labelsAt_node, List.foldlM_cons, attachLabel]
    cases h : attachAt (leaf label) depth t with
    | none => exact ((attachAt_eq_none_iff _).2 ((attachAt_eq_none_iff _).1 h)).symm
    | some t' => exact foldlM_attachLabel_children ih h

/-- A tree is built again from its labels. -/
theorem rebuild?_labels (t : Tree) : rebuild? t.labels = some t := by
  obtain ⟨label, children⟩ := t
  have hchildren : ∀ after before : List Tree,
      (after.flatMap (labelsAt 1)).foldlM attachLabel (node label before) = some (node label (before ++ after)) := by
    intro after
    induction after with
    | nil => simp
    | cons child after ih =>
      intro before
      rw [List.flatMap_cons, List.foldlM_append, foldlM_attachLabel child 0, attachAt, addChild, Option.bind_eq_bind,
        Option.bind_some, ih, List.append_assoc, List.singleton_append]
  rw [labels_eq_labelsAt, labelsAt_node, rebuild?]
  exact hchildren children []

/-! ## From the back -/

/-- A label in front of a forest takes the trees at its front that are one level
deeper, if these are followed by one that is not. -/
theorem attach_append (label : String) {depth : Nat} (children : List Tree) {forest : List (Nat × Tree)}
    (h : ∀ entry ∈ forest.head?, entry.1 ≤ depth) :
    attach (depth, label) (children.map (fun child => (depth + 1, child)) ++ forest) =
      (depth, node label children) :: forest := by
  have hfront : ∀ entry ∈ children.map fun child => (depth + 1, child), (entry.1 == depth + 1) = true := by simp
  have hend : ∀ entry ∈ forest.head?, (entry.1 == depth + 1) = false :=
    fun entry he => beq_false_of_ne (Nat.ne_of_lt (Nat.lt_succ_of_le (h entry he)))
  have hspan : (children.map (fun child => (depth + 1, child)) ++ forest).span (fun entry => entry.1 == depth + 1) =
      (children.map fun child => (depth + 1, child), forest) := by
    rw [List.span_eq_takeWhile_dropWhile, List.takeWhile_append_of_pos hfront, List.dropWhile_append_of_pos hfront]
    cases forest with
    | nil => simp
    | cons entry forest => simp [hend entry rfl]
  unfold attach
  rw [hspan]
  simp [Function.comp_def]

theorem foldr_attach_children {children : List Tree} {depth : Nat} {forest : List (Nat × Tree)}
    (ih : ∀ child ∈ children, ∀ {forest : List (Nat × Tree)}, (∀ entry ∈ forest.head?, entry.1 ≤ depth) →
      (child.labelsAt depth).foldr attach forest = (depth, child) :: forest)
    (h : ∀ entry ∈ forest.head?, entry.1 ≤ depth) :
    (children.flatMap (labelsAt depth)).foldr attach forest =
      children.map (fun child => (depth, child)) ++ forest := by
  induction children with
  | nil => rfl
  | cons child children ihchildren =>
    have hrest := ihchildren fun c hc => ih c (List.mem_cons_of_mem _ hc)
    have hhead : ∀ entry ∈ (children.map (fun child => (depth, child)) ++ forest).head?, entry.1 ≤ depth := by
      cases children with
      | nil => exact h
      | cons c children => simp
    rw [List.flatMap_cons, List.foldr_append, hrest, ih child List.mem_cons_self hhead]
    rfl

/-- Going through the labels of a tree from the back puts the tree in front. -/
theorem foldr_attach (t : Tree) {depth : Nat} {forest : List (Nat × Tree)}
    (h : ∀ entry ∈ forest.head?, entry.1 ≤ depth) : (t.labelsAt depth).foldr attach forest = (depth, t) :: forest := by
  induction t generalizing depth forest with
  | node label children ih =>
    have hchildren := foldr_attach_children (fun child hc _ => ih child hc)
      fun entry he => Nat.le_succ_of_le (h entry he)
    rw [labelsAt_node, List.foldr_cons, hchildren, attach_append label children h]

/-- A tree is read back from its labels. -/
theorem ofLabels?_labels (t : Tree) : ofLabels? t.labels = some t := by
  rw [ofLabels?, labels_eq_labelsAt, foldr_attach t (by simp)]
  rfl

end PhraseStructure.Tree
