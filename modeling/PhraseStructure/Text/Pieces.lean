/-!
# Cutting text

A text is taken apart as a list of characters: into the pieces between
separators, into lines, and at the first arrow `->`. Main statements: joining
the pieces at the separator gives the text back (`intercalate_pieces`), and no
piece holds a separator (`not_of_mem_pieces`).
-/
namespace PhraseStructure.Text

/-! ## Pieces -/

/-- The stretches of a text between the characters that satisfy `sep`; always at
least one. -/
def pieces (sep : Char → Bool) : List Char → List (List Char)
  | [] => [[]]
  | c :: cs =>
    match pieces sep cs with
    | [] => [[c]]
    | p :: ps => if sep c then [] :: p :: ps else (c :: p) :: ps

theorem pieces_ne_nil (sep : Char → Bool) (cs : List Char) : pieces sep cs ≠ [] := by
  induction cs with
  | nil => simp [pieces]
  | cons c cs ih =>
    rw [pieces]
    split
    · simp
    · split <;> simp

theorem pieces_cons_of_sep {sep : Char → Bool} {c : Char} (h : sep c = true) (cs : List Char) :
    pieces sep (c :: cs) = [] :: pieces sep cs := by
  rw [pieces]
  split
  · exact absurd ‹_› (pieces_ne_nil sep cs)
  · simp_all

theorem pieces_cons_of_not_sep {sep : Char → Bool} {c : Char} (h : sep c = false) (cs : List Char) :
    pieces sep (c :: cs) = (c :: (pieces sep cs).headD []) :: (pieces sep cs).tail := by
  rw [pieces]
  split
  · exact absurd ‹_› (pieces_ne_nil sep cs)
  · simp_all

/-- A separator divides the pieces before it from the pieces after it. -/
theorem pieces_append_cons {sep : Char → Bool} {c : Char} (h : sep c = true) (xs ys : List Char) :
    pieces sep (xs ++ c :: ys) = pieces sep xs ++ pieces sep ys := by
  induction xs with
  | nil => simp [pieces_cons_of_sep h, pieces]
  | cons x xs ih =>
    cases hx : sep x with
    | true => simp [pieces_cons_of_sep hx, ih]
    | false =>
      obtain ⟨p, ps, hp⟩ := List.exists_cons_of_ne_nil (pieces_ne_nil sep xs)
      simp [pieces_cons_of_not_sep hx, ih, hp]

/-- A text without separators is one piece. -/
theorem pieces_of_forall_not {sep : Char → Bool} {cs : List Char} (h : ∀ c ∈ cs, sep c = false) :
    pieces sep cs = [cs] := by
  induction cs with
  | nil => rfl
  | cons c cs ih => simp_all [pieces_cons_of_not_sep]

theorem pieces_of_not_mem {s : Char} {cs : List Char} (h : s ∉ cs) : pieces (· == s) cs = [cs] := by
  refine pieces_of_forall_not fun c hc => beq_false_of_ne ?_
  rintro rfl
  exact h hc

/-- No piece holds a separator. -/
theorem not_of_mem_pieces {sep : Char → Bool} {cs p : List Char} (hp : p ∈ pieces sep cs) :
    ∀ c ∈ p, sep c = false := by
  induction cs generalizing p with
  | nil => simp_all [pieces]
  | cons c cs ih =>
    obtain ⟨q, qs, hq⟩ := List.exists_cons_of_ne_nil (pieces_ne_nil sep cs)
    rw [hq] at ih
    cases hc : sep c with
    | true =>
      rw [pieces_cons_of_sep hc, hq] at hp
      rcases List.mem_cons.1 hp with rfl | hp
      · simp
      · exact ih hp
    | false =>
      rw [pieces_cons_of_not_sep hc, hq] at hp
      rcases List.mem_cons.1 hp with rfl | hp
      · simpa [hc] using ih List.mem_cons_self
      · exact ih (List.mem_cons_of_mem _ hp)

/-- The pieces hold nothing else than the text. -/
theorem subset_of_mem_pieces {sep : Char → Bool} {cs p : List Char} (hp : p ∈ pieces sep cs) : p ⊆ cs := by
  induction cs generalizing p with
  | nil => simp_all [pieces]
  | cons c cs ih =>
    obtain ⟨q, qs, hq⟩ := List.exists_cons_of_ne_nil (pieces_ne_nil sep cs)
    rw [hq] at ih
    cases hc : sep c with
    | true =>
      rw [pieces_cons_of_sep hc, hq] at hp
      rcases List.mem_cons.1 hp with rfl | hp
      · exact List.nil_subset _
      · exact List.subset_cons_of_subset c (ih hp)
    | false =>
      rw [pieces_cons_of_not_sep hc, hq] at hp
      rcases List.mem_cons.1 hp with rfl | hp
      · exact List.cons_subset_cons c (ih List.mem_cons_self)
      · exact List.subset_cons_of_subset c (ih (List.mem_cons_of_mem _ hp))

/-- Joining the pieces at their separator gives the text back. -/
theorem intercalate_pieces (s : Char) (cs : List Char) :
    [s].intercalate (pieces (· == s) cs) = cs := by
  induction cs with
  | nil => rfl
  | cons c cs ih =>
    obtain ⟨p, ps, hp⟩ := List.exists_cons_of_ne_nil (pieces_ne_nil (· == s) cs)
    rw [hp] at ih
    by_cases hc : c = s
    · subst hc
      rw [pieces_cons_of_sep (by simp), hp]
      simpa [List.intercalate, List.intersperse] using ih
    · rw [pieces_cons_of_not_sep (by simpa using hc), hp]
      cases ps <;> simpa [List.intercalate, List.intersperse] using ih

/-- Pieces that are joined at a separator that none of them holds are found
again. -/
theorem pieces_intercalate {s : Char} {ps : List (List Char)} (hne : ps ≠ []) (h : ∀ p ∈ ps, s ∉ p) :
    pieces (· == s) ([s].intercalate ps) = ps := by
  induction ps with
  | nil => exact absurd rfl hne
  | cons p ps ih =>
    have hp := pieces_of_not_mem (h p List.mem_cons_self)
    cases ps with
    | nil => simpa [List.intercalate] using hp
    | cons q ps =>
      have hrest := ih (List.cons_ne_nil q ps) fun r hr => h r (List.mem_cons_of_mem p hr)
      have hjoin : [s].intercalate (p :: q :: ps) = p ++ s :: [s].intercalate (q :: ps) := by
        simp [List.intercalate, List.intersperse]
      rw [hjoin, pieces_append_cons (by simp), hp, hrest]
      rfl

/-! ## Lines -/

/-- The lines of a text. A line ends at a line feed, and a carriage return right
before the line feed belongs to the ending; a text that ends with a line ending
has no empty line after it. -/
def lines : List Char → List (List Char)
  | [] => []
  | '\n' :: cs => [] :: lines cs
  | '\r' :: '\n' :: cs => [] :: lines cs
  | c :: cs =>
    match lines cs with
    | [] => [[c]]
    | l :: ls => (c :: l) :: ls

/-! ## The arrow -/

/-- The text before and after the first arrow `->`, if there is one. -/
def cutAtArrow : List Char → Option (List Char × List Char)
  | [] => none
  | '-' :: '>' :: cs => some ([], cs)
  | c :: cs => (cutAtArrow cs).map fun (before, after) => (c :: before, after)

theorem eq_append_of_cutAtArrow {cs before after : List Char}
    (h : cutAtArrow cs = some (before, after)) : cs = before ++ '-' :: '>' :: after := by
  fun_induction cutAtArrow cs generalizing before with
  | case1 => simp at h
  | case2 cs => simp_all
  | case3 c cs _ ih =>
    obtain ⟨⟨b, a⟩, hb, heq⟩ := Option.map_eq_some_iff.1 h
    simp only [Prod.mk.injEq] at heq
    obtain ⟨rfl, rfl⟩ := heq
    simp [ih hb]

end PhraseStructure.Text
