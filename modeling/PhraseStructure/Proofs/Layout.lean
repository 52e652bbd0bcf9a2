import Mathlib.Data.List.Basic
import PhraseStructure.Proofs.Preorder
import PhraseStructure.Tree.Layout
/-!
# Sites of a drawing

A site is a subtree with the column where its block starts. The children of a
site stand side by side below it, and the sites of a level are the children of
those of the level above (`level_succ`), in pre-order (`map_tree_level`). The
rows of a drawing are the labels and the connectors of its levels (`rowAt_even`,
`rowAt_odd`).

Sites stay in the columns of the site above them (`level_within`), and those of
a level are apart (`level_apart`).
-/
namespace PhraseStructure.Tree

/-- The nodes at depth `d`, in pre-order. -/
def nodesAt (d : Nat) (t : Tree) : List Tree := (t.preorder.filter fun entry => entry.1 == d).map Prod.snd

theorem nodesAt_zero (t : Tree) : t.nodesAt 0 = [t] := by
  obtain ⟨label, children⟩ := t
  have hdeeper :
      (children.flatMap fun child => child.preorder.map deeper).filter (fun entry => entry.1 == 0) = [] := by
    refine List.filter_eq_nil_iff.2 fun entry hentry => ?_
    obtain ⟨child, -, hentry⟩ := List.mem_flatMap.1 hentry
    obtain ⟨below, -, rfl⟩ := List.mem_map.1 hentry
    simp [deeper]
  rw [nodesAt, preorder_node, List.filter_cons_of_pos (by rfl), hdeeper]
  rfl

theorem nodesAt_succ (d : Nat) (t : Tree) : t.nodesAt (d + 1) = t.children.flatMap (nodesAt d) := by
  obtain ⟨label, children⟩ := t
  rw [nodesAt, preorder_node, List.filter_cons_of_neg (by simp), List.filter_flatMap, List.map_flatMap]
  refine List.flatMap_congr fun child _ => ?_
  have hdepth : (fun entry : Nat × Tree => entry.1 == d + 1) ∘ deeper = fun entry => entry.1 == d := by
    funext entry
    simp [deeper]
  rw [List.filter_map, List.map_map, hdepth]
  rfl

/-! ## Sites -/

/-- A tree with the column where its block starts. -/
structure Site where
  column : Nat
  tree : Tree
  deriving DecidableEq

namespace Site

variable (measure : String → Nat)

/-- The block of the tree. -/
def block (s : Site) : Block := .ofTree measure s.tree

/-- The column after the block. -/
def right (s : Site) : Nat := s.column + (s.block measure).width

/-- Trees side by side from column `x` on. -/
def sideBySide (x : Nat) : List Tree → List Site
  | [] => []
  | t :: ts => ⟨x, t⟩ :: sideBySide (x + (Block.ofTree measure t).width + blockGap) ts

/-- The column where the first child stands, so that all children stand in the
middle of the block. -/
def childColumn (s : Site) : Nat :=
  s.column + ((s.block measure).width - Block.rowWidth (s.block measure).children) / 2

/-- The children. -/
def children (s : Site) : List Site := sideBySide measure (s.childColumn measure) s.tree.children

/-- The label where it is placed. -/
def label (s : Site) : Placed := ⟨(s.block measure).labelColumn s.column, s.tree.label⟩

/-- The column of the middle of the label. -/
def centre (s : Site) : Nat := (s.block measure).centre s.column

/-- The connector to the children. -/
def connector (s : Site) : Placed := Tree.connector ((s.children measure).map (centre measure))

/-- The sites `d` levels below a site. -/
def level : Nat → Site → List Site
  | 0, s => [s]
  | d + 1, s => (s.children measure).flatMap (level d)

/-- The rows of the drawing of a site. -/
def rows (s : Site) : List (List Placed) := place s.column (s.block measure)

variable {measure} {s c : Site} {x d i : Nat}

@[simp] theorem labelWidth_block (s : Site) : (s.block measure).labelWidth = measure s.tree.label := by
  obtain ⟨x, label, children⟩ := s
  rfl

@[simp] theorem children_block (s : Site) : (s.block measure).children = Block.ofTrees measure s.tree.children := by
  obtain ⟨x, label, children⟩ := s
  rfl

theorem width_block (s : Site) : (s.block measure).width =
    max (measure s.tree.label) (Block.rowWidth (Block.ofTrees measure s.tree.children)) := by
  obtain ⟨x, label, children⟩ := s
  rfl

theorem centres_eq (x : Nat) (ts : List Tree) :
    Block.centres x (Block.ofTrees measure ts) = (sideBySide measure x ts).map (centre measure) := by
  induction ts generalizing x with
  | nil => rfl
  | cons t ts ih => rw [Block.ofTrees, Block.centres, sideBySide, List.map_cons, ih]; rfl

theorem rows_of_leaf (h : s.tree.children = []) : s.rows measure = [[s.label measure]] := by
  obtain ⟨x, label, _ | ⟨t, ts⟩⟩ := s
  · rw [rows, block, Block.ofTree, Block.ofTrees, place]
    rfl
  · cases h

theorem rows_of_inner (h : s.tree.children ≠ []) : s.rows measure =
    [s.label measure] :: [s.connector measure] ::
      placeAll (s.childColumn measure) (Block.ofTrees measure s.tree.children) := by
  obtain ⟨x, label, _ | ⟨t, ts⟩⟩ := s
  · exact absurd rfl h
  · rw [connector, children, ← centres_eq, rows, block, Block.ofTree, Block.ofTrees, place]
    rfl

end Site

/-! ## Rows -/

/-- The row with a number, which is empty behind the last one. -/
def rowAt (rows : List (List Placed)) (i : Nat) : List Placed := rows.getD i []

theorem rowAt_of_getElem? {rows : List (List Placed)} {row : List Placed} {i : Nat} (h : rows[i]? = some row) :
    rowAt rows i = row := by
  rw [rowAt, List.getD_eq_getElem?_getD, h, Option.getD_some]

theorem getElem?_eq_rowAt {rows : List (List Placed)} {i : Nat} (h : i < rows.length) :
    rows[i]? = some (rowAt rows i) :=
  (List.getElem?_eq_getElem h).trans (congrArg some (rowAt_of_getElem? (List.getElem?_eq_getElem h)).symm)

theorem rowAt_besides (xs ys : List (List Placed)) (i : Nat) :
    rowAt (besides xs ys) i = rowAt xs i ++ rowAt ys i := by
  fun_induction besides xs ys generalizing i with
  | case1 => rfl
  | case2 => simp [rowAt]
  | case3 x xs y ys ih =>
    cases i with
    | zero => rfl
    | succ i => exact ih i

theorem rowAt_placeAll (measure : String → Nat) (x : Nat) (ts : List Tree) (i : Nat) :
    rowAt (placeAll x (Block.ofTrees measure ts)) i =
      (Site.sideBySide measure x ts).flatMap fun s => rowAt (s.rows measure) i := by
  induction ts generalizing x with
  | nil => simp [Block.ofTrees, placeAll, Site.sideBySide, rowAt]
  | cons t ts ih =>
    rw [Block.ofTrees, placeAll, rowAt_besides, ih]
    rfl

namespace Site

variable {measure : String → Nat} {s c : Site} {x d i : Nat}

theorem rowAt_zero (s : Site) : rowAt (s.rows measure) 0 = [s.label measure] := by
  by_cases h : s.tree.children = []
  · rw [rows_of_leaf h]
    rfl
  · rw [rows_of_inner h]
    rfl

theorem rowAt_one (s : Site) : rowAt (s.rows measure) 1 = if s.tree.isLeaf then [] else [s.connector measure] := by
  by_cases h : s.tree.children = []
  · rw [rows_of_leaf h]
    simp [rowAt, isLeaf, h]
  · rw [rows_of_inner h]
    simp [rowAt, isLeaf, h]

theorem rowAt_add_two (s : Site) (i : Nat) :
    rowAt (s.rows measure) (i + 2) = (s.children measure).flatMap fun c => rowAt (c.rows measure) i := by
  by_cases h : s.tree.children = []
  · rw [rows_of_leaf h, children, h]
    rfl
  · rw [rows_of_inner h]
    exact rowAt_placeAll measure _ _ i

/-- Every other row of a drawing holds the labels of a level. -/
theorem rowAt_even (d : Nat) (s : Site) :
    rowAt (s.rows measure) (2 * d) = (s.level measure d).map (label measure) := by
  induction d generalizing s with
  | zero => exact rowAt_zero s
  | succ d ih =>
    rw [Nat.mul_succ, rowAt_add_two, level, List.map_flatMap]
    exact List.flatMap_congr fun c _ => ih c

/-- The rows between hold the connectors of a level. -/
theorem rowAt_odd (d : Nat) (s : Site) : rowAt (s.rows measure) (2 * d + 1) =
    ((s.level measure d).filter (!·.tree.isLeaf)).map (connector measure) := by
  induction d generalizing s with
  | zero =>
    rw [Nat.mul_zero, Nat.zero_add, rowAt_one, level]
    cases h : s.tree.isLeaf <;> simp [h]
  | succ d ih =>
    rw [Nat.mul_succ, Nat.add_right_comm, rowAt_add_two, level, List.filter_flatMap, List.map_flatMap]
    exact List.flatMap_congr fun c _ => ih c

/-- What holds of the labels and of the connectors of every level holds of every
row. -/
theorem forall_mem_rows {P : List Placed → Prop} (s : Site)
    (hlabels : ∀ d, P ((s.level measure d).map (label measure)))
    (hconnectors : ∀ d, P (((s.level measure d).filter (!·.tree.isLeaf)).map (connector measure))) :
    ∀ row ∈ s.rows measure, P row := by
  intro row hrow
  obtain ⟨i, hi⟩ := List.mem_iff_getElem?.1 hrow
  rw [← rowAt_of_getElem? hi]
  obtain ⟨d, rfl | rfl⟩ : ∃ d, i = 2 * d ∨ i = 2 * d + 1 := ⟨i / 2, by omega⟩
  · rw [rowAt_even]
    exact hlabels d
  · rw [rowAt_odd]
    exact hconnectors d

/-! ## Levels -/

theorem map_tree_sideBySide (measure : String → Nat) (x : Nat) (ts : List Tree) :
    (sideBySide measure x ts).map tree = ts := by
  induction ts generalizing x with
  | nil => rfl
  | cons t ts ih => rw [sideBySide, List.map_cons, ih]

/-- The sites of a level are those of the nodes at its depth. -/
theorem map_tree_level (d : Nat) (s : Site) : (s.level measure d).map tree = s.tree.nodesAt d := by
  induction d generalizing s with
  | zero => exact (nodesAt_zero s.tree).symm
  | succ d ih =>
    rw [level, List.map_flatMap, nodesAt_succ, ← map_tree_sideBySide measure (s.childColumn measure)
      s.tree.children, List.flatMap_map]
    exact List.flatMap_congr fun c _ => ih c

/-- The next level holds the children of the sites of a level. -/
theorem level_succ (d : Nat) (s : Site) :
    s.level measure (d + 1) = (s.level measure d).flatMap (children measure) := by
  induction d generalizing s with
  | zero => simp [level]
  | succ d ih =>
    rw [level, level, List.flatMap_assoc]
    exact List.flatMap_congr fun c _ => ih c

/-! ## Columns -/

/-- A block is at least as wide as its label. -/
theorem measure_label_le (measure : String → Nat) (s : Site) : measure s.tree.label ≤ (s.block measure).width := by
  rw [width_block]
  exact Nat.le_max_left _ _

/-- A block is at least as wide as its children with the gaps between them. -/
theorem rowWidth_children_le (measure : String → Nat) (s : Site) :
    Block.rowWidth (s.block measure).children ≤ (s.block measure).width := by
  rw [width_block, children_block]
  exact Nat.le_max_right _ _

theorem label_eq (s : Site) : s.label measure =
    ⟨s.column + ((s.block measure).width - measure s.tree.label) / 2, s.tree.label⟩ := by
  rw [label, Block.labelColumn, labelWidth_block]

theorem centre_eq (s : Site) : s.centre measure = (s.label measure).column + (measure s.tree.label - 1) / 2 := by
  rw [centre, Block.centre, labelWidth_block, label]

theorem label_within (measure : String → Nat) (s : Site) :
    s.column ≤ (s.label measure).column ∧
      (s.label measure).column + measure s.tree.label ≤ s.right measure := by
  have hwidth := measure_label_le measure s
  rw [label_eq, right]
  dsimp only
  omega

theorem centre_within (measure : String → Nat) (s : Site) :
    s.column ≤ s.centre measure ∧ s.centre measure ≤ s.right measure := by
  have hlabel := label_within measure s
  rw [centre_eq]
  omega

/-- The middle of a label is one of its columns, if it has any. -/
theorem centre_within_label (s : Site) (h : 1 ≤ measure s.tree.label) :
    (s.label measure).column ≤ s.centre measure ∧
      s.centre measure < (s.label measure).column + measure s.tree.label := by
  rw [centre_eq]
  omega

theorem rowWidth_cons {bs : List Block} (b : Block) (h : bs ≠ []) :
    Block.rowWidth (b :: bs) = b.width + blockGap + Block.rowWidth bs := by
  cases bs with
  | nil => exact absurd rfl h
  | cons b' bs => rfl

theorem width_le_rowWidth (b : Block) (bs : List Block) : b.width ≤ Block.rowWidth (b :: bs) := by
  by_cases h : bs = []
  · subst h
    exact Nat.le_refl _
  · rw [rowWidth_cons b h]
    omega

theorem sideBySide_within {ts : List Tree} (h : c ∈ sideBySide measure x ts) :
    x ≤ c.column ∧ c.right measure ≤ x + Block.rowWidth (Block.ofTrees measure ts) := by
  induction ts generalizing x with
  | nil => cases h
  | cons t ts ih =>
    rw [Block.ofTrees]
    rcases List.mem_cons.1 h with rfl | h
    · exact ⟨Nat.le_refl x, Nat.add_le_add_left (width_le_rowWidth _ _) x⟩
    · have hne : Block.ofTrees measure ts ≠ [] := by
        cases ts with
        | nil => cases h
        | cons u us => exact List.cons_ne_nil _ _
      have hrest := ih h
      rw [rowWidth_cons _ hne]
      omega

/-- The second of two sites starts at least a gap behind the first. -/
def Apart (measure : String → Nat) (s c : Site) : Prop := s.right measure + blockGap ≤ c.column

theorem sideBySide_apart (x : Nat) (ts : List Tree) : (sideBySide measure x ts).Pairwise (Apart measure) := by
  induction ts generalizing x with
  | nil => exact .nil
  | cons t ts ih => exact List.pairwise_cons.2 ⟨fun c hc => (sideBySide_within hc).1, ih _⟩

theorem children_within (h : c ∈ s.children measure) :
    s.column ≤ c.column ∧ c.right measure ≤ s.right measure := by
  have hrow := sideBySide_within h
  rw [← children_block, childColumn] at hrow
  have hwidth := rowWidth_children_le measure s
  have hright : s.right measure = s.column + (s.block measure).width := rfl
  omega

theorem level_within (h : c ∈ s.level measure d) : s.column ≤ c.column ∧ c.right measure ≤ s.right measure := by
  induction d generalizing s with
  | zero =>
    obtain rfl := List.mem_singleton.1 h
    exact ⟨Nat.le_refl _, Nat.le_refl _⟩
  | succ d ih =>
    obtain ⟨child, hchild, hc⟩ := List.mem_flatMap.1 h
    have houter := children_within hchild
    have hinner := ih hc
    omega

/-- The sites of a level are apart, whatever their parents. -/
theorem level_apart (d : Nat) (s : Site) : (s.level measure d).Pairwise (Apart measure) := by
  induction d generalizing s with
  | zero => exact List.pairwise_singleton _ s
  | succ d ih =>
    -- Cousins stay in the columns of siblings, which are apart.
    refine List.pairwise_flatMap.2 ⟨fun c _ => ih c, (sideBySide_apart _ _).imp fun hapart a ha b hb => ?_⟩
    have hleft := level_within ha
    have hright := level_within hb
    rw [Apart] at hapart ⊢
    omega

/-- The labels of a level are apart. -/
theorem labels_apart (d : Nat) (s : Site) : (s.level measure d).Pairwise fun a b =>
    (a.label measure).column + measure a.tree.label + blockGap ≤ (b.label measure).column := by
  refine (level_apart d s).imp fun {a b} hapart => ?_
  have hleft := (label_within measure a).2
  have hright := (label_within measure b).1
  rw [Apart] at hapart
  omega

end Site

end PhraseStructure.Tree
