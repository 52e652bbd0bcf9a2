import Mathlib.Data.List.Induction
import PhraseStructure.Proofs.Connectors
import PhraseStructure.Proofs.DisplayWidth
/-!
# Columns of a drawing

The texts of a row are printed one after the other, with blanks up to the column
of each. In a row whose texts are apart the printing never has passed that
column before (`cursorAfter_le`), so every text is printed at the column where
it is placed (`printedAt_of_spaced`).

Main statement: blocks have room for their labels and their children, the texts
of a row are apart, and all of them are printed at their columns.
-/
namespace PhraseStructure.Tree

open Text (Ruler)

variable {measure : String → Nat} {gap : Nat} {ps qs row : List Placed} {p : Placed}

/-! ## Spaced rows -/

/-- The texts of a row stand from left to right, with at least `gap` columns
between any two. -/
def Spaced (measure : String → Nat) (gap : Nat) (row : List Placed) : Prop :=
  row.Pairwise fun p q => p.column + measure p.text + gap ≤ q.column

theorem Spaced.mono {gap' : Nat} (h : Spaced measure gap row) (hle : gap' ≤ gap) : Spaced measure gap' row :=
  h.imp fun hpq => Nat.le_trans (Nat.add_le_add_left hle _) hpq

/-- The column where printing has come to, after the texts of a row. -/
def cursorAfter (measure : String → Nat) (cursor : Nat) (row : List Placed) : Nat :=
  row.foldl (fun cursor p => max cursor p.column + measure p.text) cursor

theorem cursorAfter_concat (ps : List Placed) (p : Placed) :
    cursorAfter measure 0 (ps ++ [p]) = max (cursorAfter measure 0 ps) p.column + measure p.text := by
  rw [cursorAfter, List.foldl_append]
  rfl

theorem rowText_append (cursor : Nat) (ps qs : List Placed) : rowText measure cursor (ps ++ qs) =
    rowText measure cursor ps ++ rowText measure (cursorAfter measure cursor ps) qs := by
  induction ps generalizing cursor with
  | nil => exact String.empty_append.symm
  | cons p ps ih =>
    rw [List.cons_append, rowText, rowText, ih, ← String.append_assoc]
    rfl

/-- Printing has not passed the column of a text before it comes to it, and
behind the first text it is a gap short of it. -/
theorem cursorAfter_le (h : Spaced measure gap (ps ++ [p])) :
    cursorAfter measure 0 ps ≤ p.column ∧ (ps ≠ [] → cursorAfter measure 0 ps + gap ≤ p.column) := by
  induction ps using List.reverseRecOn generalizing p with
  | nil => exact ⟨Nat.zero_le _, fun hne => absurd rfl hne⟩
  | append_singleton ps q ih =>
    obtain ⟨hstart, -, hlast⟩ := List.pairwise_append.1 h
    have hq := (ih hstart).1
    have hgap := hlast q (by simp) p (List.mem_singleton_self p)
    rw [cursorAfter_concat, Nat.max_eq_right hq]
    exact ⟨by omega, fun _ => hgap⟩

/-! ## Printing -/

theorem pushn_succ (n : Nat) : "".pushn ' ' (n + 1) = "".pushn ' ' n ++ " " := rfl

theorem width_pad (hm : Ruler measure) (before : String) (n : Nat) :
    measure (before ++ "".pushn ' ' n) = measure before + n := by
  induction n with
  | zero => exact congrArg measure String.append_empty
  | succ n ih =>
    have hblank := hm.blank (before ++ "".pushn ' ' n) ""
    rwa [String.append_empty, hm.empty, ih, String.append_assoc, ← pushn_succ] at hblank

/-- Blanks keep a text apart from what is printed before them; without them
there must be nothing before it. -/
theorem width_pad_append (hm : Ruler measure) {before : String} {n : Nat} (h : n ≠ 0 ∨ before = "") (text : String) :
    measure (before ++ "".pushn ' ' n ++ text) = measure before + n + measure text := by
  cases n with
  | zero =>
    obtain rfl := h.resolve_left fun hne => hne rfl
    rw [hm.empty, Nat.zero_add]
    exact congrArg measure (String.empty_append.trans String.empty_append)
  | succ n =>
    rw [pushn_succ, ← String.append_assoc, hm.blank, width_pad hm, Nat.add_assoc (measure before)]

theorem rowText_concat (ps : List Placed) (p : Placed) : rowText measure 0 (ps ++ [p]) =
    rowText measure 0 ps ++ "".pushn ' ' (p.column - cursorAfter measure 0 ps) ++ p.text := by
  rw [rowText_append, rowText, rowText, String.append_empty, String.append_assoc]

/-- The texts of a spaced row are as wide as the column where printing has come
to. -/
theorem width_rowText (hm : Ruler measure) (h : Spaced measure 1 row) :
    measure (rowText measure 0 row) = cursorAfter measure 0 row := by
  induction row using List.reverseRecOn with
  | nil => exact hm.empty
  | append_singleton ps p ih =>
    obtain ⟨hle, hgap⟩ := cursorAfter_le h
    have hpad : p.column - cursorAfter measure 0 ps ≠ 0 ∨ rowText measure 0 ps = "" := by
      by_cases hps : ps = []
      · exact .inr (by rw [hps, rowText])
      · have := hgap hps
        exact .inl (by omega)
    rw [rowText_concat, width_pad_append hm hpad, ih (List.pairwise_append.1 h).1, cursorAfter_concat,
      Nat.max_eq_right hle]
    omega

/-- In a row with `ps` before `p` and `qs` behind it, `p` is printed at its
column: printing has not passed the column before, and the text printed up to
`p` is as wide as the column says. -/
structure PrintedAt (measure : String → Nat) (ps : List Placed) (p : Placed) (qs : List Placed) : Prop where
  cursor_le : cursorAfter measure 0 ps ≤ p.column
  text_eq : rowText measure 0 (ps ++ p :: qs) =
    rowText measure 0 ps ++ "".pushn ' ' (p.column - cursorAfter measure 0 ps) ++ p.text ++
      rowText measure (p.column + measure p.text) qs
  width_eq : measure (rowText measure 0 ps ++ "".pushn ' ' (p.column - cursorAfter measure 0 ps)) = p.column

theorem printedAt_of_spaced (hm : Ruler measure) (h : Spaced measure 1 (ps ++ p :: qs)) :
    PrintedAt measure ps p qs := by
  rw [List.append_cons] at h
  have hstart : Spaced measure 1 (ps ++ [p]) := (List.pairwise_append.1 h).1
  have hle := (cursorAfter_le hstart).1
  constructor
  · exact hle
  · rw [List.append_cons, rowText_append, rowText_concat, cursorAfter_concat, Nat.max_eq_right hle]
  · rw [width_pad hm, width_rowText hm (List.pairwise_append.1 hstart).1]
    omega

/-! ## Main theorem -/

theorem Site.spaced_labels (d : Nat) (s : Site) :
    Spaced measure 2 ((s.level measure d).map (Site.label measure)) :=
  List.pairwise_map.2 (labels_apart d s)

theorem Site.spaced_connectors (hm : Ruler measure) (d : Nat) (s : Site) :
    Spaced measure 1 (((s.level measure d).filter (!·.tree.isLeaf)).map (Site.connector measure)) := by
  refine List.pairwise_map.2 ((connectors_apart d s).imp fun {a b} hapart => ?_)
  have hwidth : measure (a.connector measure).text = (a.connector measure).text.length :=
    hm.strokes _ fun c hc => mem_connector_text hc
  rwa [hwidth]

theorem Site.spaced_rows (hm : Ruler measure) (s : Site) : ∀ row ∈ s.rows measure, Spaced measure 1 row :=
  forall_mem_rows s (fun d => (spaced_labels d s).mono (by decide)) (spaced_connectors hm · s)

end PhraseStructure.Tree
