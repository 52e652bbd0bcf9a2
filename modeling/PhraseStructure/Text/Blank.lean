import PhraseStructure.Text.CodePoints
import PhraseStructure.Text.Pieces
/-!
# Blank characters and words

Blank characters separate words and are trimmed from both ends of a text. Main
statements: a blank divides the words before it from those after it
(`words_append_cons`), and a word is not empty and holds no blank (`mem_words`).
-/
namespace PhraseStructure.Text

/-- The property `White_Space`. -/
def blankRanges : CodePoints :=
  [(0x09, 0x0D), (0x20, 0x20), (0x85, 0x85), (0xA0, 0xA0), (0x1680, 0x1680), (0x2000, 0x200A),
   (0x2028, 0x2029), (0x202F, 0x202F), (0x205F, 0x205F), (0x3000, 0x3000)]

/-- Whether `c` is a blank character. -/
def isBlank (c : Char) : Bool := blankRanges.contains c

/-! ## Trimming -/

/-- The text without the blanks at its start. -/
def trimStart (cs : List Char) : List Char := cs.dropWhile isBlank

/-- The text without the blanks at its end. -/
def trimEnd (cs : List Char) : List Char := (cs.reverse.dropWhile isBlank).reverse

/-- The text without the blanks at either end. -/
def trim (cs : List Char) : List Char := trimEnd (trimStart cs)

/-! ## Words -/

/-- The words of a text: its longest stretches without a blank. -/
def words (cs : List Char) : List (List Char) := (pieces isBlank cs).filter (!·.isEmpty)

@[simp] theorem words_nil : words [] = [] := rfl

/-- A blank divides the words before it from the words after it. -/
theorem words_append_cons {c : Char} (h : isBlank c = true) (xs ys : List Char) :
    words (xs ++ c :: ys) = words xs ++ words ys := by
  simp [words, pieces_append_cons h]

/-- A word is not empty and holds no blank. -/
theorem mem_words {cs w : List Char} (h : w ∈ words cs) : w ≠ [] ∧ ∀ c ∈ w, isBlank c = false := by
  obtain ⟨hw, hne⟩ := List.mem_filter.1 h
  exact ⟨by simpa using hne, not_of_mem_pieces hw⟩

/-- The words hold nothing else than the text. -/
theorem subset_of_mem_words {cs w : List Char} (h : w ∈ words cs) : w ⊆ cs :=
  subset_of_mem_pieces (List.mem_filter.1 h).1

/-- A text without blanks that is not empty is one word. -/
theorem words_of_forall_not_blank {w : List Char} (hne : w ≠ []) (h : ∀ c ∈ w, isBlank c = false) :
    words w = [w] := by
  simp [words, pieces_of_forall_not h, hne]

end PhraseStructure.Text
