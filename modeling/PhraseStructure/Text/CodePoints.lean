/-!
# Sets of characters given by code point ranges
-/
namespace PhraseStructure.Text

/-- A set of characters, as inclusive ranges of code points. -/
abbrev CodePoints := List (Nat × Nat)

/-- Whether `c` lies in one of the ranges. -/
def CodePoints.contains (ranges : CodePoints) (c : Char) : Bool :=
  ranges.any fun (first, last) => first ≤ c.toNat && c.toNat ≤ last

theorem CodePoints.contains_iff {ranges : CodePoints} {c : Char} :
    ranges.contains c = true ↔ ∃ r ∈ ranges, r.1 ≤ c.toNat ∧ c.toNat ≤ r.2 := by
  simp [CodePoints.contains]

/-- Whether no range of one set meets a range of the other. -/
def CodePoints.apart (ranges others : CodePoints) : Bool :=
  ranges.all fun r => others.all fun o => r.2.blt o.1 || o.2.blt r.1

theorem CodePoints.not_contains_of_apart {ranges others : CodePoints} (h : ranges.apart others = true) {c : Char}
    (hc : ranges.contains c = true) : others.contains c = false := by
  refine Bool.eq_false_iff.2 fun hother => ?_
  obtain ⟨r, hr, hlow, hhigh⟩ := contains_iff.1 hc
  obtain ⟨o, ho, hlow', hhigh'⟩ := contains_iff.1 hother
  have hapart := List.all_eq_true.1 (List.all_eq_true.1 h r hr) o ho
  simp only [Bool.or_eq_true, Nat.blt_eq] at hapart
  omega

end PhraseStructure.Text
