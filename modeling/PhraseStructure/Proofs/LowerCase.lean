import PhraseStructure.Proofs.DefinitionLines
import PhraseStructure.Text.LowerCase
/-!
# Lower case

What lower case does to a text that is cut up before or after. Main statements:
a lower-case text is its own lower case (`lower_lower`), lower case neither
makes nor takes away blanks, bars and line feeds (`Caseless.contains_eq`), and
the words of a lower-case form are the lower-case forms of the words
(`words_lower`), because the rule for a final sigma never looks past a blank.
-/
namespace PhraseStructure.Text

/-! ## Runs of the table -/

namespace CaseRun

/-- The lower-case form of the last code point. -/
def lastTarget (run : CaseRun) : Nat := run.target + (run.last - run.first)

/-- The lower-case form of a code point of the run. -/
def apply (run : CaseRun) (code : Nat) : Nat := run.target + (code - run.first)

theorem contains_iff {run : CaseRun} {code : Nat} :
    run.contains code = true ↔ run.first ≤ code ∧ code ≤ run.last ∧ (code - run.first) % run.step = 0 := by
  simp [contains, and_assoc]

theorem apply_bounds {run : CaseRun} {code : Nat} (h : run.contains code = true) :
    run.target ≤ run.apply code ∧ run.apply code ≤ run.lastTarget := by
  obtain ⟨hfirst, hlast, -⟩ := contains_iff.1 h
  unfold apply lastTarget
  omega

/-- The code points of the run and their lower-case forms. -/
def ranges (run : CaseRun) : CodePoints := [(run.first, run.last), (run.target, run.lastTarget)]

theorem ranges_contains {run : CaseRun} {c : Char} (h : run.contains c.toNat = true) :
    run.ranges.contains c = true := by
  obtain ⟨hfirst, hlast, -⟩ := contains_iff.1 h
  exact CodePoints.contains_iff.2 ⟨_, List.mem_cons_self, hfirst, hlast⟩

theorem ranges_contains_apply {run : CaseRun} {c d : Char} (h : run.contains c.toNat = true)
    (hd : d.toNat = run.apply c.toNat) : run.ranges.contains d = true := by
  have hbounds := apply_bounds h
  rw [← hd] at hbounds
  exact CodePoints.contains_iff.2 ⟨_, List.mem_cons_of_mem _ List.mem_cons_self, hbounds⟩

/-- Whether no lower-case form of `run` is in `other`, for one of the reasons
that there are: the two lie apart, or they alternate. -/
def misses (run other : CaseRun) : Bool :=
  -- All pairs of runs are compared, hence the functions on numbers that reduce
  -- fast.
  run.lastTarget.blt other.first || other.last.blt run.target ||
    (other.step.beq 2 && (run.step.beq 2 || run.first.beq run.last) && ((run.target + other.first) % 2).beq 1)

theorem not_contains_of_misses {run other : CaseRun} (h : run.misses other = true) {code : Nat}
    (hcode : run.contains code = true) : other.contains (run.apply code) = false := by
  by_contra hother
  rw [Bool.not_eq_false] at hother
  obtain ⟨hlow, hhigh⟩ := apply_bounds hcode
  obtain ⟨hfirst, hlast, hstep⟩ := contains_iff.1 hcode
  obtain ⟨hfirst', hlast', hstep'⟩ := contains_iff.1 hother
  simp only [misses, Bool.or_eq_true, Bool.and_eq_true, Nat.blt_eq, Nat.beq_eq] at h
  rcases h with (h | h) | ⟨⟨h2, hrun⟩, hodd⟩
  · omega
  · omega
  · have heven : (code - run.first) % 2 = 0 := by
      rcases hrun with hrun | hrun
      · rwa [hrun] at hstep
      · omega
    rw [h2] at hstep'
    unfold apply at hstep' hfirst'
    omega

/-- Whether the lower-case forms of the run are characters, and none of them is
U+0130. -/
def intoCharacters (run : CaseRun) : Bool :=
  (run.lastTarget.blt 0xD800 || Nat.blt 0xDFFF run.target && run.lastTarget.blt 0x110000) &&
    (run.lastTarget.blt 0x130 || Nat.blt 0x130 run.target)

theorem isValidChar_apply {run : CaseRun} (h : run.intoCharacters = true) {code : Nat}
    (hcode : run.contains code = true) : (run.apply code).isValidChar ∧ run.apply code ≠ 0x130 := by
  have hbounds := apply_bounds hcode
  simp only [intoCharacters, Bool.and_eq_true, Bool.or_eq_true, Nat.blt_eq] at h
  unfold Nat.isValidChar
  omega

end CaseRun

/-- No character is the lower-case form of another one and has a lower-case form
of its own. -/
theorem all_misses : (lowerCaseRuns.all fun run => lowerCaseRuns.all run.misses) = true := by decide +kernel

theorem all_intoCharacters : lowerCaseRuns.all CaseRun.intoCharacters = true := by decide +kernel

/-! ## Characters -/

theorem lowerChar_eq_self {c : Char} (hdotted : c ≠ 'İ')
    (h : ∀ run ∈ lowerCaseRuns, run.contains c.toNat = false) : lowerChar c = [c] := by
  have hfind : lowerCaseRuns.find? (·.contains c.toNat) = none := by simpa using h
  rw [lowerChar, if_neg hdotted, hfind]

theorem lowerChar_ne_nil (c : Char) : lowerChar c ≠ [] := by
  unfold lowerChar
  split
  · exact List.cons_ne_nil _ _
  · split <;> exact List.cons_ne_nil _ _

theorem lowerChar_sigma : lowerChar 'Σ' = ['σ'] := by decide +kernel

/-- `LowerForm c d` says that `d` belongs to the lower-case form that `c` has in
some text. -/
inductive LowerForm : Char → Char → Prop
  | dotted {d} : d ∈ ['i', '\u0307'] → LowerForm 'İ' d
  | ofRun {run c d} : run ∈ lowerCaseRuns → run.contains c.toNat = true → d.toNat = run.apply c.toNat →
      LowerForm c d
  | finalSigma : LowerForm 'Σ' 'ς'
  | self {c} : lowerChar c = [c] → LowerForm c c

theorem toNat_ofNat {n : Nat} (h : n.isValidChar) : (Char.ofNat n).toNat = n := by
  rw [Char.ofNat, dif_pos h]
  rfl

theorem lowerForm_of_mem_lowerChar {c d : Char} (hd : d ∈ lowerChar c) : LowerForm c d := by
  unfold lowerChar at hd
  split at hd
  · next hdotted => exact hdotted ▸ .dotted hd
  next hdotted =>
  split at hd
  · next run hfind =>
    have hrun := List.mem_of_find?_eq_some hfind
    have hcode := List.find?_some hfind
    have hchar := CaseRun.isValidChar_apply (List.all_eq_true.1 all_intoCharacters run hrun) hcode
    exact .ofRun hrun hcode (List.mem_singleton.1 hd ▸ toNat_ofNat hchar.1)
  · next hfind =>
    rw [List.mem_singleton.1 hd]
    exact .self (lowerChar_eq_self hdotted (by simpa using hfind))

/-- A character of a lower-case form has no other lower-case form. -/
theorem LowerForm.lowerChar_eq_self {c d : Char} (h : LowerForm c d) : lowerChar d = [d] := by
  cases h with
  | dotted hd => rcases List.mem_pair.1 hd with rfl | rfl <;> decide +kernel
  | ofRun hrun hcode he =>
    refine Text.lowerChar_eq_self ?_ fun other hother => ?_
    · rintro rfl
      exact (CaseRun.isValidChar_apply (List.all_eq_true.1 all_intoCharacters _ hrun) hcode).2 he.symm
    · rw [he]
      exact CaseRun.not_contains_of_misses
        (List.all_eq_true.1 (List.all_eq_true.1 all_misses _ hrun) other hother) hcode
  | finalSigma => decide +kernel
  | self hself => exact hself

/-! ## Characters that lower case does not touch -/

/-- The ranges hold no character that has another lower-case form, and none of
these forms. -/
structure Caseless (ranges : CodePoints) : Prop where
  runs : (lowerCaseRuns.all fun run => run.ranges.apart ranges) = true
  others : ['İ', 'i', '\u0307', 'Σ', 'ς'].any ranges.contains = false

namespace Caseless

variable {ranges : CodePoints} (h : Caseless ranges)
include h

theorem not_contains_run {run : CaseRun} (hrun : run ∈ lowerCaseRuns) {c : Char}
    (hc : run.ranges.contains c = true) : ranges.contains c = false :=
  CodePoints.not_contains_of_apart (List.all_eq_true.1 h.runs run hrun) hc

theorem not_contains_other {c : Char} (hc : c ∈ ['İ', 'i', '\u0307', 'Σ', 'ς']) : ranges.contains c = false :=
  Bool.eq_false_iff.2 (List.any_eq_false.1 h.others c hc)

theorem lowerChar_eq_self {c : Char} (hc : ranges.contains c = true) : lowerChar c = [c] := by
  refine Text.lowerChar_eq_self ?_ fun run hrun => ?_
  · rintro rfl
    rw [h.not_contains_other List.mem_cons_self] at hc
    cases hc
  · by_contra hcode
    rw [Bool.not_eq_false] at hcode
    rw [h.not_contains_run hrun (CaseRun.ranges_contains hcode)] at hc
    cases hc

theorem contains_eq {c d : Char} (hd : LowerForm c d) : ranges.contains d = ranges.contains c := by
  cases hd with
  | dotted hd =>
    have hforms : ['i', '\u0307'] ⊆ ['İ', 'i', '\u0307', 'Σ', 'ς'] := by decide
    rw [h.not_contains_other (hforms hd), h.not_contains_other List.mem_cons_self]
  | ofRun hrun hcode he =>
    rw [h.not_contains_run hrun (CaseRun.ranges_contains_apply hcode he),
      h.not_contains_run hrun (CaseRun.ranges_contains hcode)]
  | finalSigma =>
    have hsigma : ['Σ', 'ς'] ⊆ ['İ', 'i', '\u0307', 'Σ', 'ς'] := by decide
    rw [h.not_contains_other (hsigma (by simp)), h.not_contains_other (hsigma (by simp))]
  | self => rfl

end Caseless

theorem caseless_blank : Caseless blankRanges := by
  constructor <;> decide +kernel

/-- Bars and line feeds, which divide definitions. -/
def dividerRanges : CodePoints := [(0x0A, 0x0A), (0x7C, 0x7C)]

theorem caseless_divider : Caseless dividerRanges := by
  constructor <;> decide +kernel

/-! ## Texts -/

/-- The lower-case form of a character in a text, given the text before it,
nearest character first, and the text after it. -/
def lowerIn (before : List Char) (c : Char) (after : List Char) : List Char :=
  if c = 'Σ' then [if isFinalSigma before after then 'ς' else 'σ'] else lowerChar c

theorem lowerAfter_cons (before : List Char) (c : Char) (cs : List Char) :
    lowerAfter before (c :: cs) = lowerIn before c cs ++ lowerAfter (c :: before) cs := rfl

theorem lowerIn_ne_nil (before : List Char) (c : Char) (after : List Char) : lowerIn before c after ≠ [] := by
  unfold lowerIn
  split
  · exact List.cons_ne_nil _ _
  · exact lowerChar_ne_nil c

theorem lowerIn_eq_self {before after : List Char} {c : Char} (h : lowerChar c = [c]) :
    lowerIn before c after = [c] := by
  have hsigma : c ≠ 'Σ' := by
    rintro rfl
    rw [lowerChar_sigma] at h
    revert h
    decide
  rw [lowerIn, if_neg hsigma, h]

theorem lowerForm_of_mem_lowerIn {before after : List Char} {c d : Char} (hd : d ∈ lowerIn before c after) :
    LowerForm c d := by
  unfold lowerIn at hd
  split at hd
  · next hsigma =>
    subst hsigma
    rw [List.mem_singleton] at hd
    split at hd
    · exact hd ▸ .finalSigma
    · exact lowerForm_of_mem_lowerChar (by rw [hd, lowerChar_sigma, List.mem_singleton])
  · exact lowerForm_of_mem_lowerChar hd

theorem mem_lowerAfter {before cs : List Char} {d : Char} (hd : d ∈ lowerAfter before cs) :
    ∃ c ∈ cs, LowerForm c d := by
  induction cs generalizing before with
  | nil => cases hd
  | cons c cs ih =>
    rw [lowerAfter_cons] at hd
    rcases List.mem_append.1 hd with hd | hd
    · exact ⟨c, List.mem_cons_self, lowerForm_of_mem_lowerIn hd⟩
    · obtain ⟨c', hc', h⟩ := ih hd
      exact ⟨c', List.mem_cons_of_mem _ hc', h⟩

/-- A text whose characters have no other lower-case forms is its own lower
case. -/
theorem lowerAfter_eq_self {before cs : List Char} (h : ∀ c ∈ cs, lowerChar c = [c]) :
    lowerAfter before cs = cs := by
  induction cs generalizing before with
  | nil => rfl
  | cons c cs ih =>
    rw [lowerAfter_cons, lowerIn_eq_self (h c List.mem_cons_self), ih fun d hd => h d (List.mem_cons_of_mem _ hd)]
    rfl

/-- A lower-case text is its own lower case. -/
theorem lower_lower (cs : List Char) : lower (lower cs) = lower cs := by
  refine lowerAfter_eq_self fun d hd => ?_
  obtain ⟨c, -, hform⟩ := mem_lowerAfter hd
  exact hform.lowerChar_eq_self

theorem lowerCase_lowerCase (s : String) : lowerCase (lowerCase s) = lowerCase s := by
  simp [lowerCase, lower_lower]

theorem lower_ne_nil {cs : List Char} (h : cs ≠ []) : lower cs ≠ [] := by
  obtain ⟨c, cs, rfl⟩ := List.exists_cons_of_ne_nil h
  rw [lower, lowerAfter_cons]
  exact List.append_ne_nil_of_left_ne_nil (lowerIn_ne_nil _ _ _) _

/-- What a text does not hold its lower-case form does not hold. -/
theorem Caseless.not_contains_lower {ranges : CodePoints} (h : Caseless ranges) {cs : List Char}
    (hcs : ∀ c ∈ cs, ranges.contains c = false) : ∀ d ∈ lower cs, ranges.contains d = false := by
  intro d hd
  obtain ⟨c, hc, hform⟩ := mem_lowerAfter hd
  rw [h.contains_eq hform, hcs c hc]

theorem lowerAfter_concat (before cs : List Char) (c : Char) :
    ∃ ds, lowerAfter before (cs ++ [c]) = ds ++ lowerIn (cs.reverse ++ before) c [] := by
  induction cs generalizing before with
  | nil => exact ⟨[], by simp [lowerAfter_cons, lowerAfter]⟩
  | cons c' cs ih =>
    obtain ⟨ds, he⟩ := ih (c' :: before)
    exact ⟨lowerIn before c' (cs ++ [c]) ++ ds, by simp [lowerAfter_cons, he]⟩

/-- A text that neither begins nor ends with a blank does not in lower case. -/
theorem trimmed_lower {cs : List Char} (h : Trimmed cs) : Trimmed (lower cs) := by
  constructor
  · intro d hd
    cases cs with
    | nil => cases hd
    | cons c cs =>
      rw [lower, lowerAfter_cons, List.head?_append_of_ne_nil _ (lowerIn_ne_nil _ _ _)] at hd
      exact (caseless_blank.contains_eq (lowerForm_of_mem_lowerIn (List.mem_of_head? hd))).trans (h.1 c rfl)
  · intro d hd
    rcases List.eq_nil_or_concat' cs with rfl | ⟨cs, c, rfl⟩
    · cases hd
    · obtain ⟨ds, he⟩ := lowerAfter_concat [] cs c
      rw [lower, he, List.getLast?_append_of_ne_nil _ (lowerIn_ne_nil _ _ _)] at hd
      exact (caseless_blank.contains_eq (lowerForm_of_mem_lowerIn (List.mem_of_getLast? hd))).trans
        (h.2 c List.getLast?_concat)

/-! ## Words -/

theorem blank_apart_caseIgnorable : blankRanges.apart caseIgnorableRanges = true := by decide +kernel

theorem blank_apart_cased : blankRanges.apart casedRanges = true := by decide +kernel

theorem meetsCased_cons (c : Char) (cs : List Char) :
    meetsCased (c :: cs) =
      if caseIgnorableRanges.contains c = true then meetsCased cs else casedRanges.contains c := by
  unfold meetsCased
  rw [List.dropWhile_cons]
  by_cases hc : caseIgnorableRanges.contains c = true
  · rw [if_pos hc, if_pos hc]
  · rw [if_neg hc, if_neg hc]

section
variable {b : Char} (hb : isBlank b = true)
include hb

/-- Looking for a cased letter ends at a blank. -/
theorem meetsCased_append_blank (cs rest : List Char) : meetsCased (cs ++ b :: rest) = meetsCased cs := by
  have hignorable : caseIgnorableRanges.contains b = false :=
    CodePoints.not_contains_of_apart blank_apart_caseIgnorable hb
  have hcased : casedRanges.contains b = false := CodePoints.not_contains_of_apart blank_apart_cased hb
  induction cs with
  | nil => rw [List.nil_append, meetsCased_cons, hignorable, hcased]; rfl
  | cons c cs ih => rw [List.cons_append, meetsCased_cons, meetsCased_cons, ih]

theorem lowerIn_append_blank (before : List Char) (c : Char) (cs rest : List Char) :
    lowerIn before c (cs ++ b :: rest) = lowerIn before c cs := by
  unfold lowerIn isFinalSigma
  rw [meetsCased_append_blank hb]

theorem lowerAfter_before_blank (before rest cs : List Char) :
    lowerAfter (before ++ b :: rest) cs = lowerAfter before cs := by
  induction cs generalizing before with
  | nil => rfl
  | cons c cs ih =>
    have hc : lowerIn (before ++ b :: rest) c cs = lowerIn before c cs := by
      unfold lowerIn isFinalSigma
      rw [meetsCased_append_blank hb]
    rw [lowerAfter_cons, lowerAfter_cons, hc, ← List.cons_append, ih]

/-- The texts on the two sides of a blank are put into lower case each on its
own. -/
theorem lower_append_blank (cs rest : List Char) : lower (cs ++ b :: rest) = lower cs ++ b :: lower rest := by
  have hblank : lowerChar b = [b] := caseless_blank.lowerChar_eq_self hb
  suffices h : ∀ before, lowerAfter before (cs ++ b :: rest) = lowerAfter before cs ++ b :: lower rest from h []
  induction cs with
  | nil =>
    intro before
    rw [List.nil_append, lowerAfter_cons, lowerIn_eq_self hblank]
    exact congrArg (b :: ·) (lowerAfter_before_blank hb [] before rest)
  | cons c cs ih =>
    intro before
    rw [List.cons_append, lowerAfter_cons, lowerAfter_cons, lowerIn_append_blank hb, ih, List.append_assoc]

end

/-- The words of a lower-case form are the lower-case forms of the words. -/
theorem words_lower (cs : List Char) : words (lower cs) = (words cs).map lower := by
  by_cases hblank : ∃ b ∈ cs, isBlank b = true
  · -- Any blank will do: what stands on its two sides is shorter.
    obtain ⟨b, hmem, hb⟩ := hblank
    obtain ⟨xs, ys, hcs⟩ := List.append_of_mem hmem
    have hxs := words_lower xs
    have hys := words_lower ys
    rw [hcs, lower_append_blank hb, words_append_cons hb, words_append_cons hb, hxs, hys, List.map_append]
  · have hnot : ∀ c ∈ cs, isBlank c = false := by simpa using hblank
    by_cases hnil : cs = []
    · subst hnil
      rfl
    · rw [words_of_forall_not_blank hnil hnot,
        words_of_forall_not_blank (lower_ne_nil hnil) (caseless_blank.not_contains_lower hnot)]
      rfl
termination_by cs.length
decreasing_by
  · simp only [hcs, List.length_append, List.length_cons]
    omega
  · simp only [hcs, List.length_append, List.length_cons]
    omega

example : (words (lower "ΟΔΌΣ. ΣΑΣ".toList)).map String.ofList = ["οδός.", "σας"] := by decide +kernel

end PhraseStructure.Text
