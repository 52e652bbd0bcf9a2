import PhraseStructure.Proofs.Connectors
/-!
# Painting

A drawing can be painted block by block, depth first, into rows that grow as
they are needed: a label, the blocks below it from left to right, and the
connector to them. Each row then holds what the layout puts there
(`rowAt_paint`) and is in order of columns (`Site.sorted_rows`), and the rows
that stay empty are behind the last one of the layout (`painted_eq_layout`).
-/
namespace PhraseStructure.Tree

variable {rows : List (List Placed)} {n i j : Nat} {p : Placed}

/-! ## Canvas -/

/-- The rows with empty ones added, up to `n` of them. -/
def grow (n : Nat) (rows : List (List Placed)) : List (List Placed) := rows ++ List.replicate (n - rows.length) []

/-- The rows with a text added at the end of row `i`. -/
def putAt (i : Nat) (p : Placed) (rows : List (List Placed)) : List (List Placed) := rows.modify i (· ++ [p])

/-- The rows moved down by `n`. -/
def moveDown (n : Nat) (rows : List (List Placed)) : List (List Placed) := List.replicate n [] ++ rows

theorem length_grow (n : Nat) (rows : List (List Placed)) : (grow n rows).length = max n rows.length := by
  rw [grow, List.length_append, List.length_replicate]
  omega

theorem length_putAt (i : Nat) (p : Placed) (rows : List (List Placed)) : (putAt i p rows).length = rows.length :=
  List.length_modify _ _ _

theorem rowAt_grow (n : Nat) (rows : List (List Placed)) (j : Nat) : rowAt (grow n rows) j = rowAt rows j := by
  rw [rowAt, rowAt, grow, List.getD_eq_getElem?_getD, List.getD_eq_getElem?_getD, List.getElem?_append]
  split
  · rfl
  · next hlt =>
    rw [List.getElem?_eq_none (Nat.le_of_not_lt hlt), List.getElem?_replicate]
    split <;> rfl

theorem rowAt_putAt (h : i < rows.length) (p : Placed) (j : Nat) :
    rowAt (putAt i p rows) j = rowAt rows j ++ if i = j then [p] else [] := by
  rw [rowAt, rowAt, putAt, List.getD_eq_getElem?_getD, List.getD_eq_getElem?_getD, List.getElem?_modify]
  split
  · next heq => rw [← heq, List.getElem?_eq_getElem h]; rfl
  · simp

theorem rowAt_moveDown (n : Nat) (rows : List (List Placed)) (j : Nat) :
    rowAt (moveDown n rows) j = if j < n then [] else rowAt rows (j - n) := by
  rw [rowAt, rowAt, moveDown, List.getD_eq_getElem?_getD, List.getD_eq_getElem?_getD, List.getElem?_append,
    List.length_replicate]
  split
  · next hlt => rw [List.getElem?_replicate, if_pos hlt]; rfl
  · rfl

theorem rowAt_moveDown_nil (n j : Nat) : rowAt (moveDown n []) j = [] := by
  rw [rowAt_moveDown]
  split <;> rfl

theorem rowAt_moveDown_cons (n : Nat) (row : List Placed) (rows : List (List Placed)) (j : Nat) :
    rowAt (moveDown n (row :: rows)) j = (if n = j then row else []) ++ rowAt (moveDown (n + 1) rows) j := by
  rw [rowAt_moveDown, rowAt_moveDown]
  rcases Nat.lt_trichotomy j n with hlt | rfl | hgt
  · rw [if_pos hlt, if_neg (Nat.ne_of_gt hlt), if_pos (Nat.lt_succ_of_lt hlt)]
    rfl
  · rw [if_neg (Nat.lt_irrefl j), if_pos rfl, if_pos (Nat.lt_succ_self j), Nat.sub_self, List.append_nil]
    rfl
  · rw [if_neg (Nat.not_lt_of_gt hgt), if_neg (Nat.ne_of_lt hgt), if_neg (Nat.not_lt_of_ge hgt),
      show j - n = j - (n + 1) + 1 by omega]
    rfl

/-! ## Painting a block -/

mutual

/-- The rows with a block painted that starts at column `x` and has its label in
row `row`. -/
def paint (x row : Nat) : Block → List (List Placed) → List (List Placed)
  | .mk label labelWidth width children, rows =>
    let b := Block.mk label labelWidth width children
    let rows := putAt row ⟨b.labelColumn x, label⟩ (grow (row + 2) rows)
    match children with
    | [] => rows
    | child :: rest =>
      let y := x + (width - Block.rowWidth (child :: rest)) / 2
      putAt (row + 1) (connector (Block.centres y (child :: rest))) (paintAll y (row + 2) (child :: rest) rows)

/-- The rows with blocks side by side painted from column `x` on, with their
labels in row `row`. -/
def paintAll (x row : Nat) : List Block → List (List Placed) → List (List Placed)
  | [], rows => rows
  | b :: bs, rows => paintAll (x + b.width + blockGap) row bs (paint x row b rows)

end

mutual

theorem length_paint (x row : Nat) : ∀ (b : Block) (rows : List (List Placed)),
    max (row + 2) rows.length ≤ (paint x row b rows).length
  | .mk label labelWidth width [], rows => Nat.le_of_eq (by rw [paint, length_putAt, length_grow])
  | .mk label labelWidth width (child :: rest), rows => by
    have hbelow := length_paintAll (x + (width - Block.rowWidth (child :: rest)) / 2) (row + 2) (child :: rest)
      (putAt row ⟨(Block.mk label labelWidth width (child :: rest)).labelColumn x, label⟩ (grow (row + 2) rows))
    rw [length_putAt, length_grow] at hbelow
    rw [paint, length_putAt]
    exact hbelow

theorem length_paintAll (x row : Nat) : ∀ (bs : List Block) (rows : List (List Placed)),
    rows.length ≤ (paintAll x row bs rows).length
  | [], rows => Nat.le_refl _
  | b :: bs, rows => by
    have hfirst := length_paint x row b rows
    have hrest := length_paintAll (x + b.width + blockGap) row bs (paint x row b rows)
    rw [paintAll]
    omega

end

mutual

/-- Painting a block adds to every row what the drawing of the block has
there. -/
theorem rowAt_paint (x row : Nat) : ∀ (b : Block) (rows : List (List Placed)) (j : Nat),
    rowAt (paint x row b rows) j = rowAt rows j ++ rowAt (moveDown row (place x b)) j
  | .mk label labelWidth width [], rows, j => by
    have hrow : row < (grow (row + 2) rows).length := by
      rw [length_grow]
      omega
    rw [paint, rowAt_putAt hrow, rowAt_grow, place, rowAt_moveDown_cons, rowAt_moveDown_nil, List.append_nil]
  | .mk label labelWidth width (child :: rest), rows, j => by
    have hrow : row + 1 < (grow (row + 2) rows).length := by
      rw [length_grow]
      omega
    have hbelow := length_paintAll (x + (width - Block.rowWidth (child :: rest)) / 2) (row + 2) (child :: rest)
      (putAt row ⟨(Block.mk label labelWidth width (child :: rest)).labelColumn x, label⟩ (grow (row + 2) rows))
    rw [length_putAt] at hbelow
    rw [paint, rowAt_putAt (Nat.lt_of_lt_of_le hrow hbelow), rowAt_paintAll, rowAt_putAt (Nat.lt_of_succ_lt hrow),
      rowAt_grow, place, rowAt_moveDown_cons, rowAt_moveDown_cons]
    -- The connector is put into its row last, but the children have nothing in
    -- that row.
    by_cases hj : row + 1 = j
    · have hnone : rowAt (moveDown (row + 2) (placeAll (x + (width - Block.rowWidth (child :: rest)) / 2)
          (child :: rest))) j = [] := by rw [rowAt_moveDown, if_pos (by omega)]
      rw [hnone]
      simp
    · simp [hj]

theorem rowAt_paintAll (x row : Nat) : ∀ (bs : List Block) (rows : List (List Placed)) (j : Nat),
    rowAt (paintAll x row bs rows) j = rowAt rows j ++ rowAt (moveDown row (placeAll x bs)) j
  | [], rows, j => by
    rw [paintAll, placeAll, rowAt_moveDown]
    simp [rowAt]
  | b :: bs, rows, j => by
    rw [paintAll, rowAt_paintAll, rowAt_paint, placeAll, List.append_assoc, rowAt_moveDown, rowAt_moveDown,
      rowAt_moveDown, rowAt_besides]
    split <;> rfl

end

/-! ## Painting a tree -/

theorem nil_not_mem_besides {xs ys : List (List Placed)} (hx : [] ∉ xs) (hy : [] ∉ ys) : [] ∉ besides xs ys := by
  fun_induction besides xs ys with
  | case1 => exact hy
  | case2 => exact hx
  | case3 x xs y ys ih =>
    rw [List.mem_cons, not_or] at hx hy ⊢
    exact ⟨fun h => hx.1 (List.append_eq_nil_iff.1 h.symm).1.symm, ih hx.2 hy.2⟩

mutual

/-- No row of a drawing is empty. -/
theorem nil_not_mem_place (x : Nat) : ∀ b : Block, [] ∉ place x b
  | .mk label labelWidth width [] => by simp [place]
  | .mk label labelWidth width (child :: rest) => by
    rw [place, List.mem_cons, List.mem_cons, not_or, not_or]
    exact ⟨nofun, nofun, nil_not_mem_placeAll _ (child :: rest)⟩

theorem nil_not_mem_placeAll (x : Nat) : ∀ bs : List Block, [] ∉ placeAll x bs
  | [] => by simp [placeAll]
  | b :: bs => by
    rw [placeAll]
    exact nil_not_mem_besides (nil_not_mem_place x b) (nil_not_mem_placeAll _ bs)

end

theorem filter_eq_of_rowAt {xs ys : List (List Placed)} (h : ∀ j, rowAt xs j = rowAt ys j) (hne : [] ∉ ys) :
    xs.filter (!·.isEmpty) = ys := by
  induction xs generalizing ys with
  | nil =>
    cases ys with
    | nil => rfl
    | cons y ys =>
      have hy : y = [] := (h 0).symm
      exact absurd (hy ▸ List.mem_cons_self) hne
  | cons x xs ih =>
    cases ys with
    | nil =>
      have hx : x = [] := h 0
      rw [List.filter_cons_of_neg (by simp [hx])]
      exact ih (fun j => h (j + 1)) hne
    | cons y ys =>
      obtain ⟨hy, hys⟩ := not_or.1 (mt List.mem_cons.2 hne)
      have hx : x = y := h 0
      rw [List.filter_cons_of_pos (by simpa [hx] using Ne.symm hy), ih (fun j => h (j + 1)) hys, hx]

/-- The rows of a tree as they are painted: without those that stay empty, and
each sorted by columns. -/
def painted (measure : String → Nat) (t : Tree) : List (List Placed) :=
  ((paint 0 0 (.ofTree measure t) []).filter (!·.isEmpty)).map (·.mergeSort fun p q => p.column ≤ q.column)

/-- The texts of a row stand in it from left to right. -/
theorem Site.sorted_rows (measure : String → Nat) (s : Site) :
    ∀ row ∈ s.rows measure, row.Pairwise fun p q => p.column ≤ q.column := by
  refine forall_mem_rows s (fun d => List.pairwise_map.2 ?_) (fun d => List.pairwise_map.2 ?_)
  · exact (labels_apart d s).imp fun hapart => by omega
  · exact (connectors_apart d s).imp fun hapart => by omega

/-- Painting a tree depth first gives the rows of its layout. -/
theorem painted_eq_layout (measure : String → Nat) (t : Tree) : t.painted measure = t.layout measure := by
  have hrows : (paint 0 0 (.ofTree measure t) []).filter (!·.isEmpty) = t.layout measure :=
    filter_eq_of_rowAt (fun j => (rowAt_paint 0 0 _ [] j).trans (List.nil_append _)) (nil_not_mem_place 0 _)
  have hsorted : ∀ row ∈ t.layout measure, row.mergeSort (fun p q => p.column ≤ q.column) = row := by
    intro row hrow
    exact List.mergeSort_of_pairwise ((Site.sorted_rows measure ⟨0, t⟩ row hrow).imp decide_eq_true)
  rw [painted, hrows, List.map_congr_left hsorted, List.map_id']

end PhraseStructure.Tree
