import Mathlib.Data.List.DropRight
import Mathlib.Data.List.Infix
import PhraseStructure.Text.Definition
/-!
# Writing definition lines

What reading makes of a text that was written as definition lines. Main
statements: a line that is no comment has the sides of its first arrow
(`sides?_eq_some_iff`); lines that are written one under the other are read back
one by one (`lines_unlines`), the arrow of a line is the one after the name if
the name holds none (`sides?_definitionLine`), and the alternatives are those
that the bars were put between (`map_alternatives_intercalate`). The blanks that
are written around a name, an arrow or a bar are lost again.
-/
namespace PhraseStructure.Text

/-! ## Lines -/

/-- Some lines as a text, each ended by a line feed. -/
def unlines (ls : List String) : String := String.join (ls.map (· ++ "\n"))

/-- The text can stand on a line: it has no line feed, and no carriage return at
its end, which would count as a part of the line ending. -/
def FitsLine (l : List Char) : Prop := '\n' ∉ l ∧ l.getLast? ≠ some '\r'

theorem lines_cons {c : Char} {cs : List Char} (hc : c ≠ '\n') (hr : c = '\r' → cs.head? ≠ some '\n') :
    lines (c :: cs) = (c :: (lines cs).headD []) :: (lines cs).tail := by
  rw [lines]
  · cases lines cs <;> rfl
  · exact hc
  · rintro cs' rfl rfl
    exact hr rfl rfl

/-- A line that is written before a text is its first line. -/
theorem lines_append_newline {l : List Char} (h : FitsLine l) (rest : List Char) :
    lines (l ++ '\n' :: rest) = l :: lines rest := by
  induction l with
  | nil => rw [List.nil_append, lines]
  | cons c l ih =>
    obtain ⟨hnl, hlast⟩ := h
    rw [List.mem_cons, not_or] at hnl
    have hl : FitsLine l := by
      refine ⟨hnl.2, fun he => hlast ?_⟩
      rw [List.getLast?_cons, he]
      rfl
    have hreturn : c = '\r' → (l ++ '\n' :: rest).head? ≠ some '\n' := by
      rintro rfl
      cases l with
      | nil => exact absurd rfl hlast
      | cons d l =>
        intro he
        cases he
        exact hnl.2 List.mem_cons_self
    rw [List.cons_append, lines_cons (Ne.symm hnl.1) hreturn, ih hl]
    rfl

/-- Lines that are written one under the other are read back. -/
theorem lines_unlines {ls : List String} (h : ∀ l ∈ ls, FitsLine l.toList) :
    lines (unlines ls).toList = ls.map String.toList := by
  induction ls with
  | nil => rfl
  | cons l ls ih =>
    have hsplit : (unlines (l :: ls)).toList = l.toList ++ '\n' :: (unlines ls).toList := by
      simp [unlines]
    rw [hsplit, lines_append_newline (h l List.mem_cons_self), List.map_cons,
      ih fun l hl => h l (List.mem_cons_of_mem _ hl)]

/-- A line holds no line feed. -/
theorem newline_not_mem_of_mem_lines {cs l : List Char} (h : l ∈ lines cs) : '\n' ∉ l := by
  fun_induction lines cs generalizing l with
  | case1 => cases h
  | case2 cs ih | case3 cs ih =>
    rcases List.mem_cons.1 h with rfl | h
    · simp
    · exact ih h
  | case4 c cs hc _ hnil _ =>
    rw [List.mem_singleton.1 h, List.mem_singleton]
    exact fun he => hc he.symm
  | case5 c cs hc _ l' ls hcons ih =>
    rw [hcons] at ih
    rcases List.mem_cons.1 h with rfl | h
    · rw [List.mem_cons, not_or]
      exact ⟨fun he => hc he.symm, ih List.mem_cons_self⟩
    · exact ih (List.mem_cons_of_mem _ h)

/-! ## The arrow -/

/-- The text holds no arrow. -/
def Arrowless (cs : List Char) : Prop := ¬ ['-', '>'] <:+: cs

theorem Arrowless.of_isInfix {cs ds : List Char} (h : Arrowless cs) (hd : ds <:+: cs) : Arrowless ds :=
  fun ha => h (ha.trans hd)

/-- A text is cut at its first arrow: before it there is none. -/
theorem arrowless_of_cutAtArrow {cs before after : List Char} (h : cutAtArrow cs = some (before, after)) :
    Arrowless before := by
  fun_induction cutAtArrow cs generalizing before with
  | case1 => cases h
  | case2 cs =>
    cases h
    simp [Arrowless]
  | case3 c cs hc ih =>
    obtain ⟨⟨b, a⟩, hb, he⟩ := Option.map_eq_some_iff.1 h
    cases he
    intro harrow
    rcases List.infix_cons_iff.1 harrow with hp | hi
    · -- An arrow that begins with `c` would have been the first one of the
      -- whole text.
      obtain ⟨rest, he⟩ := hp
      cases b with
      | nil => cases he
      | cons d b =>
        cases he
        exact hc _ rfl (by rw [eq_append_of_cutAtArrow hb]; rfl)
    · exact ih hb hi

/-- The arrow after a text without arrows is the first one. -/
theorem cutAtArrow_append {before : List Char} (h : Arrowless before) (after : List Char) :
    cutAtArrow (before ++ '-' :: '>' :: after) = some (before, after) := by
  induction before with
  | nil => simp [cutAtArrow]
  | cons c before ih =>
    have htail := ih (h.of_isInfix (List.suffix_cons c before).isInfix)
    rw [List.cons_append, cutAtArrow]
    · simp [htail]
    · rintro rest rfl hrest
      cases before with
      | nil => cases hrest
      | cons d before =>
        cases hrest
        exact h ⟨[], before, rfl⟩

/-- A text is not cut if and only if it has no arrow. -/
theorem cutAtArrow_eq_none_iff {cs : List Char} : cutAtArrow cs = none ↔ Arrowless cs := by
  constructor
  · intro h
    fun_induction cutAtArrow cs with
    | case1 => simp [Arrowless]
    | case2 => cases h
    | case3 c cs hc ih =>
      intro harrow
      rcases List.infix_cons_iff.1 harrow with hp | hi
      · obtain ⟨rest, he⟩ := hp
        cases he
        exact hc rest rfl rfl
      · exact ih (Option.map_eq_none_iff.1 h) hi
  · intro h
    cases hcut : cutAtArrow cs with
    | none => rfl
    | some sides =>
      obtain ⟨before, after⟩ := sides
      exact absurd ⟨before, after, by simp [eq_append_of_cutAtArrow hcut]⟩ h

/-- A blank does not end in an arrow. -/
theorem Arrowless.append_space {cs : List Char} (h : Arrowless cs) : Arrowless (cs ++ [' ']) := by
  intro harrow
  rcases List.infix_concat_iff.1 harrow with hs | hi
  · rcases List.suffix_concat_iff.1 hs with hnil | ⟨rest, he, -⟩
    · cases hnil
    · have hlast := congrArg List.getLast? he
      simp at hlast
  · exact h hi

/-! ## Trimming -/

theorem isBlank_space : isBlank ' ' = true := by decide

/-- The text neither begins nor ends with a blank. -/
def Trimmed (cs : List Char) : Prop :=
  (∀ c ∈ cs.head?, isBlank c = false) ∧ ∀ c ∈ cs.getLast?, isBlank c = false

theorem trim_eq_rdropWhile (cs : List Char) : trim cs = (cs.dropWhile isBlank).rdropWhile isBlank := rfl

theorem isInfix_trim (cs : List Char) : trim cs <:+: cs :=
  (List.rdropWhile_prefix isBlank _).isInfix.trans (List.dropWhile_suffix isBlank).isInfix

theorem head?_trim {cs : List Char} (h : trim cs ≠ []) : (trim cs).head? = (trimStart cs).head? := by
  obtain ⟨rest, he⟩ := List.rdropWhile_prefix isBlank (cs.dropWhile isBlank)
  rw [← trim_eq_rdropWhile] at he
  rw [trimStart, ← he, List.head?_append_of_ne_nil _ h]

theorem trimmed_trim (cs : List Char) : Trimmed (trim cs) := by
  constructor
  · intro c hc
    have hne : trim cs ≠ [] := by
      rintro hnil
      rw [hnil] at hc
      cases hc
    rw [head?_trim hne] at hc
    have hnot := List.head?_dropWhile_not isBlank cs
    rwa [show (cs.dropWhile isBlank).head? = some c from hc] at hnot
  · intro c hc
    obtain ⟨hne, rfl⟩ := List.mem_getLast?_eq_getLast hc
    exact Bool.eq_false_iff.2 (List.rdropWhile_last_not isBlank (cs.dropWhile isBlank) hne)

theorem trim_of_trimmed {cs : List Char} (h : Trimmed cs) : trim cs = cs := by
  cases cs with
  | nil => rfl
  | cons c cs =>
    have hc : isBlank c = false := h.1 c rfl
    rw [trim_eq_rdropWhile, List.dropWhile_cons_of_neg (by simp [hc]), List.rdropWhile_eq_self_iff]
    intro hne
    simpa using h.2 _ (List.getLast?_eq_some_getLast hne)

theorem trim_cons_blank {c : Char} (h : isBlank c = true) (cs : List Char) : trim (c :: cs) = trim cs := by
  rw [trim_eq_rdropWhile, List.dropWhile_cons_of_pos h, ← trim_eq_rdropWhile]

theorem trim_append_blank {c : Char} (h : isBlank c = true) (cs : List Char) :
    trim (cs ++ [c]) = trim cs := by
  rw [trim_eq_rdropWhile, trim_eq_rdropWhile, List.dropWhile_append]
  split
  · next hempty => simp [List.isEmpty_iff.1 hempty, h]
  · rw [List.rdropWhile_concat_pos _ _ _ h]

/-! ## Words -/

theorem words_cons_blank {c : Char} (h : isBlank c = true) (cs : List Char) : words (c :: cs) = words cs :=
  words_append_cons h [] cs

theorem words_append_blank {c : Char} (h : isBlank c = true) (cs : List Char) :
    words (cs ++ [c]) = words cs := by
  rw [words_append_cons h, words_nil, List.append_nil]

theorem words_trim (cs : List Char) : words (trim cs) = words cs := by
  have hstart : words (cs.dropWhile isBlank) = words cs := by
    induction cs with
    | nil => rfl
    | cons c cs ih =>
      rw [List.dropWhile_cons]
      split
      · next hc => rw [ih, words_cons_blank hc]
      · rfl
  have hend : ∀ ds : List Char, words (ds.rdropWhile isBlank) = words ds := by
    intro ds
    induction ds using List.reverseRecOn with
    | nil => rfl
    | append_singleton ds d ih =>
      rw [List.rdropWhile_concat]
      split
      · next hd => rw [ih, words_append_blank hd]
      · rfl
  rw [trim_eq_rdropWhile, hend, hstart]

/-- A text that begins with a word has a word. -/
theorem words_cons_ne_nil {c : Char} (h : isBlank c = false) (cs : List Char) : words (c :: cs) ≠ [] := by
  rw [words, pieces_cons_of_not_sep h, List.filter_cons_of_pos rfl]
  exact List.cons_ne_nil _ _

/-- A text without words is a text of blanks. -/
theorem words_eq_nil_iff {cs : List Char} : words cs = [] ↔ ∀ c ∈ cs, isBlank c = true := by
  induction cs with
  | nil => simp
  | cons c cs ih =>
    cases hc : isBlank c with
    | true => rw [words_cons_blank hc, ih, List.forall_mem_cons, and_iff_right hc]
    | false => simp [words_cons_ne_nil hc, hc]

/-- Nothing is left by trimming of a text of blanks, and only of such a text. -/
theorem trim_eq_nil_iff {cs : List Char} : trim cs = [] ↔ ∀ c ∈ cs, isBlank c = true := by
  constructor
  · intro h
    rw [← words_eq_nil_iff, ← words_trim, h, words_nil]
  · intro h
    rw [trim_eq_rdropWhile, List.dropWhile_eq_nil_iff.2 h, List.rdropWhile_nil]

theorem words_append_ne_nil {c : Char} (h : isBlank c = false) (cs : List Char) : words (cs ++ [c]) ≠ [] := by
  induction cs with
  | nil => exact words_cons_ne_nil h []
  | cons d cs ih =>
    cases hd : isBlank d with
    | true => rwa [List.cons_append, words_cons_blank hd]
    | false => exact words_cons_ne_nil hd _

/-- The only word of a text is all of the text that is left by trimming. -/
theorem trim_eq_of_words_eq_singleton {cs w : List Char} (h : words cs = [w]) : trim cs = w := by
  rw [← words_trim] at h
  have htrim := trimmed_trim cs
  generalize trim cs = t at h htrim
  have hnotBlank : ∀ c ∈ t, isBlank c = false := by
    intro b hb
    by_contra hblank
    -- A blank inside would divide two words.
    obtain ⟨xs, ys, rfl⟩ := List.append_of_mem hb
    rw [Bool.not_eq_false] at hblank
    rw [words_append_cons hblank] at h
    have hxs : words xs ≠ [] := by
      cases xs with
      | nil => simp [htrim.1 b rfl] at hblank
      | cons x xs => exact words_cons_ne_nil (htrim.1 x rfl) xs
    have hys : words ys ≠ [] := by
      rcases List.eq_nil_or_concat' ys with rfl | ⟨zs, z, rfl⟩
      · simp [htrim.2 b (by simp)] at hblank
      · refine words_append_ne_nil (htrim.2 z ?_) zs
        rw [← List.cons_append, ← List.append_assoc]
        exact List.getLast?_concat
    have hlength := congrArg List.length h
    have := List.length_pos_of_ne_nil hxs
    have := List.length_pos_of_ne_nil hys
    simp only [List.length_append, List.length_singleton] at hlength
    omega
  cases t with
  | nil => cases h
  | cons c t =>
    rw [words_of_forall_not_blank (List.cons_ne_nil c t) hnotBlank] at h
    exact List.head_eq_of_cons_eq h

/-! ## Joined texts -/

section
variable {sep : List Char}

theorem mem_intercalate {c : Char} {ls : List (List Char)} (h : c ∈ sep.intercalate ls) :
    c ∈ sep ∨ ∃ l ∈ ls, c ∈ l := by
  match ls with
  | [] => simp at h
  | [l] => exact .inr ⟨l, by simp, by simpa using h⟩
  | l :: l' :: ls =>
    rw [List.intercalate_cons_cons] at h
    rcases List.mem_append.1 h with h | h
    · rcases List.mem_append.1 h with h | h
      · exact .inr ⟨l, by simp, h⟩
      · exact .inl h
    · rcases mem_intercalate h with h | ⟨x, hx, h⟩
      · exact .inl h
      · exact .inr ⟨x, List.mem_cons_of_mem _ hx, h⟩

theorem intercalate_ne_nil {ls : List (List Char)} (hne : ls ≠ []) (h : ∀ l ∈ ls, l ≠ []) :
    sep.intercalate ls ≠ [] := by
  match ls with
  | [] => exact absurd rfl hne
  | [l] => simpa using h
  | l :: l' :: ls =>
    rw [List.intercalate_cons_cons]
    simp [h l List.mem_cons_self]

theorem trimmed_intercalate {ls : List (List Char)} (hne : ∀ l ∈ ls, l ≠ []) (h : ∀ l ∈ ls, Trimmed l) :
    Trimmed (sep.intercalate ls) := by
  match ls with
  | [] => simp [Trimmed]
  | [l] => simpa using h
  | l :: l' :: ls =>
    have htail := List.forall_mem_cons.1 hne
    have hrest := trimmed_intercalate htail.2 (List.forall_mem_cons.1 h).2
    rw [List.intercalate_cons_cons, List.append_assoc]
    constructor
    · rw [List.head?_append_of_ne_nil _ htail.1]
      exact (h l List.mem_cons_self).1
    · rw [← List.append_assoc,
        List.getLast?_append_of_ne_nil _ (intercalate_ne_nil (List.cons_ne_nil _ _) htail.2)]
      exact hrest.2

end

/-- Words that are written with blanks between them are read back. -/
theorem words_intercalate {ws : List (List Char)} (hne : ∀ w ∈ ws, w ≠ [])
    (h : ∀ w ∈ ws, ∀ c ∈ w, isBlank c = false) : words ([' '].intercalate ws) = ws := by
  match ws with
  | [] => rfl
  | [w] => simpa using words_of_forall_not_blank (hne w (by simp)) (h w (by simp))
  | w :: w' :: ws =>
    have htail := words_intercalate (List.forall_mem_cons.1 hne).2 (List.forall_mem_cons.1 h).2
    rw [List.intercalate_cons_cons, List.append_assoc, List.singleton_append, words_append_cons isBlank_space,
      words_of_forall_not_blank (hne w (by simp)) (h w (by simp)), htail]
    rfl

/-! ## Definition lines -/

/-- A text that can stand before an arrow and names something there. -/
structure IsName (name : List Char) : Prop where
  ne_nil : name ≠ []
  trimmed : Trimmed name
  arrowless : Arrowless name
  not_comment : name.head? ≠ some '#'

/-- A definition as a line: the name, indented by some blanks, an arrow, and the
alternatives with bars between them. -/
def definitionLine (indent : Nat) (name : List Char) (bodies : List (List Char)) : List Char :=
  List.replicate indent ' ' ++ (name ++ ' ' :: '-' :: '>' :: ' ' :: [' ', '|', ' '].intercalate bodies)

/-- A line whose first character after blanks is `#`. -/
def IsComment (line : List Char) : Prop :=
  ∃ blanks rest, line = blanks ++ '#' :: rest ∧ ∀ c ∈ blanks, isBlank c = true

theorem head?_trimStart_iff {line : List Char} : (trimStart line).head? = some '#' ↔ IsComment line := by
  constructor
  · intro h
    refine ⟨line.takeWhile isBlank, (trimStart line).tail, ?_, fun c hc => List.mem_takeWhile_imp hc⟩
    rw [List.cons_head?_tail h]
    exact List.takeWhile_append_dropWhile.symm
  · rintro ⟨blanks, rest, rfl, hblanks⟩
    rw [trimStart, List.dropWhile_append_of_pos hblanks, List.dropWhile_cons_of_neg (by decide), List.head?_cons]

/-- The line is no comment, and its first arrow stands between `before` and
`after`. -/
structure HasSides (line before after : List Char) : Prop where
  eq_append : line = before ++ '-' :: '>' :: after
  arrowless : Arrowless before
  not_comment : ¬ IsComment line

theorem sides?_eq_some_iff {line before after : List Char} :
    sides? line = some (before, after) ↔ HasSides line before after := by
  unfold sides?
  constructor
  · intro h
    split at h
    · cases h
    next hcomment =>
    rw [head?_trimStart_iff] at hcomment
    exact ⟨eq_append_of_cutAtArrow h, arrowless_of_cutAtArrow h, hcomment⟩
  · intro h
    rw [if_neg fun hcomment => h.not_comment (head?_trimStart_iff.1 hcomment), h.eq_append]
    exact cutAtArrow_append h.arrowless after

/-- A line defines nothing if it is a comment or has no arrow. -/
theorem sides?_eq_none_iff {line : List Char} : sides? line = none ↔ IsComment line ∨ Arrowless line := by
  rw [sides?, ← head?_trimStart_iff, ← cutAtArrow_eq_none_iff]
  split
  · next hcomment => simp [hcomment]
  · next hcomment => simp [hcomment]

theorem isComment_or_arrowless_or_hasSides (line : List Char) :
    IsComment line ∨ Arrowless line ∨ ∃ before after, HasSides line before after := by
  cases hsides : sides? line with
  | none => exact or_assoc.1 (.inl (sides?_eq_none_iff.1 hsides))
  | some sides => exact .inr (.inr ⟨sides.1, sides.2, sides?_eq_some_iff.1 hsides⟩)

/-- What stands before the arrow of a line names something, unless it is
blank. -/
theorem isName_of_sides? {line before after : List Char} (h : sides? line = some (before, after))
    (hne : trim before ≠ []) : IsName (trim before) := by
  obtain ⟨hline, harrowless, hcomment⟩ := sides?_eq_some_iff.1 h
  rw [← head?_trimStart_iff] at hcomment
  refine ⟨hne, trimmed_trim before, harrowless.of_isInfix (isInfix_trim before), ?_⟩
  -- The first character of the name is the first of the line that is not blank.
  have hstart : trimStart before ≠ [] := fun hnil => hne (by rw [trim, hnil]; rfl)
  have hkeep : trimStart line = trimStart before ++ '-' :: '>' :: after := by
    rw [hline, trimStart, List.dropWhile_append, if_neg, trimStart]
    exact fun hempty => hstart (List.isEmpty_iff.1 hempty)
  rwa [hkeep, List.head?_append_of_ne_nil _ hstart, ← head?_trim hne] at hcomment

section
variable {name : List Char} (hname : IsName name) (indent : Nat) (bodies : List (List Char))
include hname

theorem IsName.arrowless_indent : Arrowless (List.replicate indent ' ' ++ name) := by
  induction indent with
  | zero => exact hname.arrowless
  | succ n ih =>
    rw [List.replicate_succ, List.cons_append]
    intro harrow
    rcases List.infix_cons_iff.1 harrow with hp | hi
    · obtain ⟨rest, he⟩ := hp
      cases he
    · exact ih hi

theorem IsName.trimStart_indent (rest : List Char) :
    trimStart (List.replicate indent ' ' ++ (name ++ rest)) = name ++ rest := by
  induction indent with
  | zero =>
    obtain ⟨c, cs, rfl⟩ := List.exists_cons_of_ne_nil hname.ne_nil
    rw [List.replicate_zero, List.nil_append, List.cons_append, trimStart,
      List.dropWhile_cons_of_neg (by simp [hname.trimmed.1 c rfl])]
  | succ n ih => rwa [List.replicate_succ, List.cons_append, trimStart, List.dropWhile_cons_of_pos isBlank_space]

/-- A definition that was written has the name, with blanks around it, on one
side of its arrow, and the alternatives on the other. -/
theorem sides?_definitionLine :
    sides? (definitionLine indent name bodies) =
      some (List.replicate indent ' ' ++ name ++ [' '], ' ' :: [' ', '|', ' '].intercalate bodies) := by
  have hcomment : (trimStart (definitionLine indent name bodies)).head? ≠ some '#' := by
    rw [definitionLine, hname.trimStart_indent, List.head?_append_of_ne_nil _ hname.ne_nil]
    exact hname.not_comment
  have hcut := cutAtArrow_append (hname.arrowless_indent indent).append_space
    (' ' :: [' ', '|', ' '].intercalate bodies)
  rw [sides?, if_neg hcomment, ← hcut, definitionLine]
  simp

theorem trim_indented_name : trim (List.replicate indent ' ' ++ name ++ [' ']) = name := by
  rw [trim_append_blank isBlank_space]
  induction indent with
  | zero => exact trim_of_trimmed hname.trimmed
  | succ n ih => rwa [List.replicate_succ, List.cons_append, trim_cons_blank isBlank_space]

end

/-- The alternatives that a definition was written with are read back by
whatever ignores the blanks around them. -/
theorem map_alternatives_intercalate {α : Type} (read : List Char → α) (hstart : ∀ cs, read (' ' :: cs) = read cs)
    (hend : ∀ cs, read (cs ++ [' ']) = read cs) {bodies : List (List Char)} (hne : bodies ≠ [])
    (hbar : ∀ body ∈ bodies, '|' ∉ body) :
    (alternatives (' ' :: [' ', '|', ' '].intercalate bodies)).map read = bodies.map read := by
  have hpiece : ∀ cs : List Char, '|' ∉ cs → alternatives cs = [cs] := fun _ hcs => pieces_of_not_mem hcs
  match bodies with
  | [] => exact absurd rfl hne
  | [body] =>
    have hbody := hbar body List.mem_cons_self
    rw [List.intercalate_singleton, hpiece _ (by simpa using hbody)]
    simp [hstart]
  | body :: body' :: bodies =>
    have hbody := hbar body List.mem_cons_self
    have htail := map_alternatives_intercalate read hstart hend (List.cons_ne_nil body' bodies)
      fun b hb => hbar b (List.mem_cons_of_mem _ hb)
    have hcut : ' ' :: [' ', '|', ' '].intercalate (body :: body' :: bodies) =
        (' ' :: (body ++ [' '])) ++ '|' :: ' ' :: [' ', '|', ' '].intercalate (body' :: bodies) := by
      rw [List.intercalate_cons_cons]
      simp
    rw [hcut, alternatives, pieces_append_cons (by simp), List.map_append]
    change (alternatives (' ' :: (body ++ [' ']))).map read ++ (alternatives _).map read = _
    rw [htail, hpiece _ (by simpa using hbody)]
    simp [hstart, hend]

/-- A definition fits on a line if its name and its alternatives do and the last
of these does not end with a blank. -/
theorem fitsLine_definitionLine {name : List Char} (indent : Nat) {bodies : List (List Char)}
    (hname : '\n' ∉ name) (hne : bodies ≠ []) (hbodies : ∀ body ∈ bodies, body ≠ [] ∧ Trimmed body ∧ '\n' ∉ body) :
    FitsLine (definitionLine indent name bodies) := by
  have hjoined : [' ', '|', ' '].intercalate bodies ≠ [] := intercalate_ne_nil hne fun b hb => (hbodies b hb).1
  constructor
  · intro hmem
    rcases List.mem_append.1 hmem with h | h
    · cases List.eq_of_mem_replicate h
    rcases List.mem_append.1 h with h | h
    · exact hname h
    have hmem' : '\n' ∈ [' ', '|', ' '].intercalate bodies := by simpa using h
    rcases mem_intercalate hmem' with h | ⟨body, hb, h⟩
    · simp at h
    · exact (hbodies body hb).2.2 h
  · have htrimmed : Trimmed ([' ', '|', ' '].intercalate bodies) :=
      trimmed_intercalate (fun b hb => (hbodies b hb).1) fun b hb => (hbodies b hb).2.1
    have hlast : (definitionLine indent name bodies).getLast? = ([' ', '|', ' '].intercalate bodies).getLast? := by
      have hcut : definitionLine indent name bodies =
          (List.replicate indent ' ' ++ name ++ [' ', '-', '>', ' ']) ++ [' ', '|', ' '].intercalate bodies := by
        simp [definitionLine]
      rw [hcut, List.getLast?_append_of_ne_nil _ hjoined]
    rw [hlast]
    intro hreturn
    have hblank := htrimmed.2 '\r' hreturn
    revert hblank
    decide

end PhraseStructure.Text
