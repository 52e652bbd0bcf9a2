import Mathlib.Algebra.GroupWithZero.Nat
import PhraseStructure.Text.Columns
/-!
# Display width

A text is measured from its end, and what is behind a character can take columns
back. Main statements: no text has less than no columns, since an opening never
takes back more than it has counted (`owed_le_measure`); a blank or a stroke of
a drawing has one column and divides the texts on both sides of it
(`measure_append_cons`); so the display width is a ruler (`ruler_columns`), and
so is every sum of the widths of single characters (`ruler_sum`).
-/
namespace PhraseStructure.Text

/-! ## What is owed -/

namespace Opening

/-- The columns that the text before an opening may take back. -/
def owed : Opening → Int
  | ligature .khmer | ligature .tifinaghJoiner | joined .halfFlag | joined .flagsAndHalf => 1
  | _ => 0

theorem owed_nonneg (o : Opening) : 0 ≤ o.owed := by
  unfold owed
  split <;> decide

theorem owed_letter {l : Ligature} {c : Char} {added : Int} {rest : Option Ligature}
    (h : l.letter? c = some (added, rest)) : (rest.elim other ligature).owed ≤ (ligature l).owed + added := by
  unfold Ligature.letter? at h
  split at h <;> (repeat' split at h) <;> cases h <;> simp [owed]

theorem owed_ligature_join (l : Ligature) : (ligature l.join).owed = (ligature l).owed := by cases l <;> rfl

theorem owed_consLigature {l : Ligature} {c : Char} {added : Int} {rest : Option Ligature}
    (h : l.cons? c = some (added, rest)) : (rest.elim other ligature).owed ≤ (ligature l).owed + added := by
  unfold Ligature.cons? at h
  split at h
  · next hl =>
    subst hl
    repeat' split at h
    all_goals cases h
    all_goals decide
  · repeat' split at h
    · cases h
      exact Int.le_of_eq (by simp [owed_ligature_join])
    · cases h
      exact Int.le_of_eq (by simp)
    · exact owed_letter h

theorem owed_consJoined {j : JoinedEmoji} {c : Char} {added : Int} {o : Opening}
    (h : consJoined? j c = some (added, o)) : o.owed ≤ (joined j).owed + added := by
  unfold consJoined? at h
  split at h <;> (repeat' split at h) <;> cases h <;> simp [owed]

theorem owed_cons? {o o' : Opening} {c : Char} {added : Int} (h : o.cons? c = some (added, o')) :
    o'.owed ≤ o.owed + added := by
  cases o with
  | ligature l =>
    obtain ⟨⟨added, rest⟩, hl, heq⟩ := Option.map_eq_some_iff.1 h
    cases heq
    exact owed_consLigature hl
  | joined j => exact owed_consJoined h
  | _ =>
    simp only [cons?] at h
    repeat' split at h
    all_goals cases h
    all_goals simp [owed]

theorem owed_le_one (o : Opening) : o.owed ≤ 1 := by
  unfold owed
  split <;> decide

/-- The letters of which a subscript sign takes the column back have one. -/
theorem one_le_charColumns {c : Char} (h : khmerSubscriptRanges.contains c = true) : 1 ≤ charColumns c := by
  have hzero : zeroWidthRanges.contains c = false := CodePoints.not_contains_of_apart (by decide +kernel) h
  have hline : c ≠ '\n' := by
    rintro rfl
    exact absurd h (by decide)
  rw [charColumns, if_neg hline, if_neg (by simp [hzero] : ¬zeroWidthRanges.contains c = true)]
  repeat' split
  all_goals decide

theorem owed_ofChar? {l : Ligature} {c : Char} (h : Ligature.ofChar? c = some l) :
    (ligature l).owed ≤ charColumns c := by
  by_cases hkhmer : khmerSubscriptRanges.contains c = true
  · exact Int.le_trans (owed_le_one _) (Int.ofNat_le.2 (one_le_charColumns hkhmer))
  · unfold Ligature.ofChar? at h
    rw [if_neg hkhmer] at h
    repeat' split at h
    all_goals cases h
    all_goals exact Int.natCast_nonneg _

theorem owed_ofChar (c : Char) : (ofChar c).owed ≤ charColumns c := by
  unfold ofChar
  repeat' split
  case h_1 l hl => exact owed_ofChar? hl
  all_goals exact Int.natCast_nonneg _

theorem owed_cons (o : Opening) (c : Char) : (o.cons c).2.owed ≤ o.owed + (o.cons c).1 := by
  unfold cons
  cases h : o.cons? c with
  | some result => exact owed_cons? h
  | none =>
    have hchar := owed_ofChar c
    have ho := owed_nonneg o
    simp only [Option.getD_none]
    omega

end Opening

namespace Start

theorem owed_unstyled (s : Start) : s.unstyled.owed ≤ s.opening.owed := by
  unfold unstyled
  split
  · exact Int.le_refl _
  · next ho => exact Int.le_of_eq (congrArg Opening.owed ho.symm)
  · exact s.opening.owed_nonneg

theorem owed_select (style : Style) (o : Opening) : (select style o).opening.owed ≤ o.owed := by
  unfold select
  split
  · exact Int.le_refl _
  · exact Int.le_refl _
  · exact Int.le_refl _
  · exact o.owed_nonneg

theorem owed_cons (s : Start) (c : Char) : (s.cons c).2.opening.owed ≤ s.opening.owed + (s.cons c).1 := by
  have hs := s.opening.owed_nonneg
  have hunstyled := s.owed_unstyled
  unfold cons
  split
  · have hemoji : Opening.emoji.owed = 0 := rfl
    split <;> simp only [hemoji] <;> omega
  · split
    · have hother : Opening.other.owed = 0 := rfl
      simp only [hother]
      omega
    · split
      · next style _ =>
        have hselect := owed_select style s.unstyled
        simp only
        omega
      · have hcons := s.unstyled.owed_cons c
        simp only
        omega

end Start

/-- A text has counted all columns that may still be taken back. -/
theorem owed_le_measure (cs : List Char) : (measure cs).2.opening.owed ≤ (measure cs).1 := by
  induction cs with
  | nil => decide
  | cons c cs ih =>
    have hcons := (measure cs).2.owed_cons c
    simp only [measure]
    omega

theorem measure_nonneg (cs : List Char) : 0 ≤ (measure cs).1 :=
  Int.le_trans (Opening.owed_nonneg _) (owed_le_measure cs)

/-! ## Plain characters -/

/-- A character of one column that forms no sign with its neighbours. -/
structure Plain (c : Char) : Prop where
  toNat_le : c.toNat ≤ 0xA0
  ne_lineFeed : c ≠ '\n'
  ne_return : c ≠ '\r'
  not_styled : styledRanges.contains c = false

theorem Plain.not_contains {c : Char} (h : Plain c) (ranges : CodePoints)
    (hranges : CodePoints.apart [(0, 0xA0)] ranges = true) : ranges.contains c = false :=
  CodePoints.not_contains_of_apart hranges
    (CodePoints.contains_iff.2 ⟨_, List.mem_cons_self, Nat.zero_le _, h.toNat_le⟩)

namespace Plain

variable {c : Char} (h : Plain c)

include h

theorem ne_of_lt {n : Nat} (hn : 0xA0 < n) : c.toNat ≠ n := Nat.ne_of_lt (Nat.lt_of_le_of_lt h.toNat_le hn)

theorem not_between {first : Nat} (hfirst : 0xA0 < first) (last : Nat) :
    (decide (first ≤ c.toNat) && decide (c.toNat ≤ last)) = false := by
  have hle := h.toNat_le
  rw [decide_eq_false (by omega), Bool.false_and]

theorem ne_of_toNat {d : Char} (hd : 0xA0 < d.toNat) : c ≠ d := fun heq => h.ne_of_lt hd (congrArg Char.toNat heq)

theorem letter?_eq_none (l : Ligature) : l.letter? c = none := by
  have htifinagh := h.not_contains tifinaghRanges (by decide)
  have hlisu := h.not_contains lisuFirstToneRanges (by decide)
  unfold Ligature.letter?
  split <;> simp [h.ne_of_lt, htifinagh, hlisu]

theorem consLigature_eq_none (l : Ligature) : l.cons? c = none := by
  have hjoiner : c ≠ zeroWidthJoiner := h.ne_of_toNat (by decide)
  have hlam := h.not_contains lamRanges (by decide)
  have hzero := h.not_contains zeroWidthRanges (by decide +kernel)
  have hmark := h.not_contains ligatureMarkRanges (by decide)
  simp [Ligature.cons?, isArabicMark, hjoiner, hlam, hzero, hmark, h.letter?_eq_none]

theorem cons?_eq_none (o : Opening) : o.cons? c = none := by
  have hjoiner : c ≠ zeroWidthJoiner := h.ne_of_toNat (by decide)
  have hkeycap : c ≠ '\u20E3' := h.ne_of_toNat (by decide)
  have hregional : isRegionalIndicator c = false := h.not_between (by decide) _
  have htone : isSkinTone c = false := h.not_between (by decide) _
  have hletter : isTagLetter c = false := h.not_between (by decide) _
  have hdigit : isTagDigit c = false := h.not_between (by decide) _
  have hemoji := h.not_contains emojiRanges (by decide +kernel)
  have hbase := h.not_contains skinToneBaseRanges (by decide +kernel)
  cases o with
  | ligature l => simp [Opening.cons?, h.consLigature_eq_none]
  | joined j =>
    cases j <;> simp [Opening.cons?, Opening.consJoined?, hjoiner, hkeycap, hregional, htone, hletter, hdigit,
      hemoji, h.ne_of_lt]
  | _ => simp [Opening.cons?, h.ne_return, hjoiner, hregional, hbase]

/-- Whatever comes after a plain character, it adds its own column and starts
the text anew. -/
theorem cons_eq (s : Start) : s.cons c = (1, .empty) := by
  have htext : c ≠ '\uFE0E' := h.ne_of_toNat (by decide)
  have hemoji : c ≠ '\uFE0F' := h.ne_of_toNat (by decide)
  simp [Start.cons, narrowsAsText, Style.ofChar?, Opening.cons, charColumns, Opening.ofChar, Start.empty,
    h.not_styled, htext, hemoji, h.cons?_eq_none, h.ne_lineFeed, h.toNat_le]

end Plain

theorem measure_append {xs ys : List Char} (h : (measure ys).2 = .empty) :
    measure (xs ++ ys) = ((measure ys).1 + (measure xs).1, (measure xs).2) := by
  induction xs with
  | nil =>
    change measure ys = ((measure ys).1 + 0, .empty)
    rw [Int.add_zero, ← h]
  | cons x xs ih => simp only [List.cons_append, measure, ih, Int.add_assoc]

/-- A plain character divides the texts on both sides of it. -/
theorem measure_append_cons {c : Char} (hc : Plain c) (xs ys : List Char) :
    (measure (xs ++ c :: ys)).1 = (measure xs).1 + 1 + (measure ys).1 := by
  have hcons : measure (c :: ys) = ((measure ys).1 + 1, .empty) := by
    simp only [measure, hc.cons_eq]
  rw [measure_append (congrArg Prod.snd hcons), hcons]
  simp only
  omega

theorem measure_of_plain {cs : List Char} (h : ∀ c ∈ cs, Plain c) : (measure cs).1 = cs.length := by
  induction cs with
  | nil => rfl
  | cons c cs ih =>
    rw [List.forall_mem_cons] at h
    simp only [measure, h.1.cons_eq, ih h.2, List.length_cons, Int.natCast_add, Int.natCast_one]

/-- Blanks and the strokes of a drawing are plain. -/
theorem plain_of_mem {c : Char} (h : c ∈ [' ', '+', '-', '|']) : Plain c := by
  simp only [List.mem_cons, List.not_mem_nil, or_false] at h
  rcases h with rfl | rfl | rfl | rfl <;> exact ⟨by decide, by decide, by decide, by decide +kernel⟩

/-! ## Rulers -/

/-- What a drawing relies on in a measure of width: a blank has a column and
divides the texts on both sides of it, and strokes have a column each. -/
structure Ruler (width : String → Nat) : Prop where
  empty : width "" = 0
  blank : ∀ before after, width (before ++ " " ++ after) = width before + 1 + width after
  strokes : ∀ s : String, (∀ c ∈ s.toList, c ∈ ['+', '-', '|']) → width s = s.length

/-- The display width is a ruler. -/
theorem ruler_columns : Ruler columns where
  empty := rfl
  blank before after := by
    have hbefore := measure_nonneg before.toList
    have hafter := measure_nonneg after.toList
    have hsum := measure_append_cons (plain_of_mem List.mem_cons_self) before.toList after.toList
    have htext : (before ++ " " ++ after).toList = before.toList ++ ' ' :: after.toList := by simp
    simp only [columns, htext, hsum]
    omega
  strokes s hs := by
    have hplain : ∀ c ∈ s.toList, Plain c := fun c hc => plain_of_mem (List.mem_cons_of_mem ' ' (hs c hc))
    rw [columns, measure_of_plain hplain, Int.toNat_natCast, String.length_toList]

/-- If blanks and strokes have one column, adding up the widths of characters is
a ruler. -/
theorem ruler_sum {width : Char → Nat} (hblank : width ' ' = 1) (hstrokes : ∀ c ∈ ['+', '-', '|'], width c = 1) :
    Ruler fun s => (s.toList.map width).sum where
  empty := rfl
  blank before after := by simp [hblank, Nat.add_assoc]
  strokes s hs := by
    have hones : s.toList.map width = s.toList.map fun _ => 1 :=
      List.map_congr_left fun c hc => hstrokes c (hs c hc)
    rw [hones, List.map_const', List.sum_replicate_nat, Nat.mul_one, String.length_toList]

end PhraseStructure.Text
