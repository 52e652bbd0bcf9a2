import Mathlib.Data.List.Nodup
import Mathlib.Data.List.Perm.Basic
import PhraseStructure.Proofs.Layout
/-!
# Connectors

A connector over increasing columns reaches from the first to the last of them,
with a cross at each (`joins_connector`). The middles of the labels below a site
increase (`pairwise_centres`), so the connector of a site joins its children
(`Site.joins_connector`) and stays in the columns of the site, or one column
behind it (`Site.connector_within`).
-/
namespace PhraseStructure.Tree

/-- A connector that reaches from the first of some columns to the last: a
single stroke if there is but one, and otherwise a bar with a cross at each of
them. -/
structure Joins (columns : List Nat) (p : Placed) : Prop where
  increasing : columns.Pairwise (· < ·)
  first : columns.head? = some p.column
  last : columns.getLast? = some (p.column + p.text.length - 1)
  single : columns.length = 1 → p.text = "|"
  strokes : columns.length ≠ 1 → ∀ i < p.text.length,
    p.text.toList[i]? = some (if p.column + i ∈ columns then '+' else '-')
  crosses : columns.length ≠ 1 → p.text.toList.count '+' = columns.length

section

variable {columns : List Nat} {first last : Nat}

theorem between_of_mem (hfirst : columns.head? = some first) (hlast : columns.getLast? = some last)
    (h : columns.Pairwise (· < ·)) {column : Nat} (hmem : column ∈ columns) : first ≤ column ∧ column ≤ last := by
  constructor
  · obtain ⟨rest, rfl⟩ := List.head?_eq_some_iff.1 hfirst
    rcases List.mem_cons.1 hmem with rfl | hmem
    · exact Nat.le_refl _
    · exact Nat.le_of_lt ((List.pairwise_cons.1 h).1 column hmem)
  · obtain ⟨start, rfl⟩ := List.getLast?_eq_some_iff.1 hlast
    rcases List.mem_append.1 hmem with hmem | hmem
    · exact Nat.le_of_lt ((List.pairwise_append.1 h).2.2 column hmem last (List.mem_singleton_self last))
    · exact Nat.le_of_eq (List.mem_singleton.1 hmem)

theorem first_eq_last_iff (hfirst : columns.head? = some first) (hlast : columns.getLast? = some last)
    (h : columns.Pairwise (· < ·)) : first = last ↔ columns.length = 1 := by
  obtain ⟨rest, rfl⟩ := List.head?_eq_some_iff.1 hfirst
  cases rest with
  | nil => simpa using hlast
  | cons c rest =>
    have hlt : first < c := (List.pairwise_cons.1 h).1 c List.mem_cons_self
    have hle : c ≤ last := (between_of_mem hfirst hlast h (List.mem_cons_of_mem _ List.mem_cons_self)).2
    simp only [List.length_cons]
    omega

/-- The strokes from the first column to the last. -/
def strokes (columns : List Nat) (first last : Nat) : List Char :=
  (List.range' first (last + 1 - first)).map fun column => if column ∈ columns then '+' else '-'

theorem connector_eq (hfirst : columns.head? = some first) (hlast : columns.getLast? = some last) :
    connector columns = if first = last then ⟨first, "|"⟩ else ⟨first, .ofList (strokes columns first last)⟩ := by
  rw [connector, List.headD_eq_head?_getD, List.getLastD_eq_getLast?, hfirst, hlast]
  rfl

theorem length_strokes (columns : List Nat) (first last : Nat) :
    (strokes columns first last).length = last + 1 - first := by
  rw [strokes, List.length_map, List.length_range']

theorem count_strokes (hfirst : columns.head? = some first) (hlast : columns.getLast? = some last)
    (h : columns.Pairwise (· < ·)) : (strokes columns first last).count '+' = columns.length := by
  have hcross : (fun c => c == '+') ∘ (fun column => if column ∈ columns then '+' else '-') =
      fun column => decide (column ∈ columns) := by
    funext column
    by_cases hmem : column ∈ columns <;> simp [hmem]
  -- The crosses stand at the columns of the range that are listed, which are
  -- all that are listed.
  have hperm :
      ((List.range' first (last + 1 - first)).filter fun column => decide (column ∈ columns)).Perm columns := by
    refine (List.perm_ext_iff_of_nodup (List.nodup_range' _ |>.filter _) (h.imp Nat.ne_of_lt)).2 fun column => ?_
    rw [List.mem_filter, List.mem_range'_1, decide_eq_true_iff]
    refine ⟨fun hmem => hmem.2, fun hmem => ⟨?_, hmem⟩⟩
    have hbetween := between_of_mem hfirst hlast h hmem
    omega
  rw [strokes, List.count_eq_countP, List.countP_map, hcross, List.countP_eq_length_filter, hperm.length_eq]

theorem joins_connector (hne : columns ≠ []) (h : columns.Pairwise (· < ·)) : Joins columns (connector columns) := by
  obtain ⟨first, hfirst⟩ := Option.ne_none_iff_exists'.1 (mt List.head?_eq_none_iff.1 hne)
  obtain ⟨last, hlast⟩ := Option.ne_none_iff_exists'.1 (mt List.getLast?_eq_none_iff.1 hne)
  have hsingle := first_eq_last_iff hfirst hlast h
  rw [connector_eq hfirst hlast]
  by_cases heq : first = last
  · rw [if_pos heq]
    have hstroke : first + "|".length - 1 = last := by rw [heq]; rfl
    exact ⟨h, hfirst, hlast.trans (congrArg some hstroke.symm), fun _ => rfl, fun hne => absurd (hsingle.1 heq) hne,
      fun hne => absurd (hsingle.1 heq) hne⟩
  · rw [if_neg heq]
    refine ⟨h, hfirst, ?_, fun hone => absurd (hsingle.2 hone) heq, fun _ i hi => ?_, fun _ => ?_⟩
    · have hle := (between_of_mem hfirst hlast h (List.mem_of_mem_getLast? hlast)).1
      have hend : first + (last + 1 - first) - 1 = last := by omega
      rw [String.length_ofList, length_strokes, hlast, hend]
    · rw [String.length_ofList, length_strokes] at hi
      rw [String.toList_ofList, strokes, List.getElem?_map, List.getElem?_range' hi, Nat.one_mul]
      rfl
    · rw [String.toList_ofList, count_strokes hfirst hlast h]

end

/-- A connector consists of strokes. -/
theorem mem_connector_text {columns : List Nat} {c : Char} (h : c ∈ (connector columns).text.toList) :
    c ∈ ['+', '-', '|'] := by
  simp only [connector] at h
  split at h
  · obtain rfl : c = '|' := by simpa using h
    decide
  · rw [String.toList_ofList] at h
    obtain ⟨column, -, rfl⟩ := List.mem_map.1 h
    split <;> decide

/-! ## Connectors of sites -/

namespace Site

variable {measure : String → Nat} {s : Site}

/-- The middles of the labels of children increase from left to right. -/
theorem pairwise_centres (s : Site) : ((s.children measure).map (centre measure)).Pairwise (· < ·) := by
  refine List.pairwise_map.2 ((sideBySide_apart _ _).imp fun {a b} hapart => ?_)
  have hleft := (centre_within measure a).2
  have hright := (centre_within measure b).1
  simp only [Apart, blockGap] at hapart
  omega

theorem children_ne_nil (h : s.tree.children ≠ []) : s.children measure ≠ [] := by
  intro hnil
  have hmap := map_tree_sideBySide measure (s.childColumn measure) s.tree.children
  rw [← children, hnil] at hmap
  exact h hmap.symm

/-- The connector of a site joins the middles of its children. -/
theorem joins_connector (h : s.tree.children ≠ []) :
    Joins ((s.children measure).map (centre measure)) (s.connector measure) :=
  Tree.joins_connector (mt List.map_eq_nil_iff.1 (children_ne_nil h)) (pairwise_centres s)

theorem centre_child_within {column : Nat} (h : column ∈ (s.children measure).map (centre measure)) :
    s.column ≤ column ∧ column ≤ s.right measure := by
  obtain ⟨c, hc, rfl⟩ := List.mem_map.1 h
  have houter := children_within hc
  have hinner := centre_within measure c
  omega

/-- The connector starts in the columns of the site and ends there, or in the
column behind. -/
theorem connector_within (measure : String → Nat) (h : s.tree.children ≠ []) :
    s.column ≤ (s.connector measure).column ∧
      (s.connector measure).column + (s.connector measure).text.length ≤ s.right measure + 1 := by
  have hjoins : Joins ((s.children measure).map (centre measure)) (s.connector measure) := joins_connector h
  have hfirst := centre_child_within (List.mem_of_mem_head? hjoins.first)
  -- The last middle may be the column behind the block, if it is that of a
  -- label without columns.
  have hlast := centre_child_within (List.mem_of_mem_getLast? hjoins.last)
  omega

/-- The connectors of a level are apart. -/
theorem connectors_apart (d : Nat) (s : Site) : ((s.level measure d).filter (!·.tree.isLeaf)).Pairwise fun a b =>
    (a.connector measure).column + (a.connector measure).text.length + 1 ≤ (b.connector measure).column := by
  have hinner : ∀ {a : Site}, a ∈ (s.level measure d).filter (!·.tree.isLeaf) → a.tree.children ≠ [] := by
    intro a ha
    simpa [isLeaf] using (List.mem_filter.1 ha).2
  refine ((level_apart d s).filter _).imp_of_mem fun {a b} ha hb hapart => ?_
  have hleft := (connector_within measure (hinner ha)).2
  have hright := (connector_within measure (hinner hb)).1
  simp only [Apart, blockGap] at hapart
  omega

end Site

end PhraseStructure.Tree
