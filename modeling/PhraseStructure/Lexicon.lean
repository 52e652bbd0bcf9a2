import PhraseStructure.Table
import PhraseStructure.Text.LowerCase
/-!
# Lexicons

A lexicon gives words their part of speech, the *tag*. Every word has one tag;
words are kept in lower case, in the order in which they first came.
-/
namespace PhraseStructure

/-- Words and their tags. -/
structure Lexicon where
  table : Table String

namespace Lexicon

/-- The lexicon without words. -/
def empty : Lexicon := ⟨.empty⟩

instance : Inhabited Lexicon := ⟨empty⟩

/-- The number of words. -/
def size (l : Lexicon) : Nat := l.table.size

/-- Whether the lexicon has no words. -/
def isEmpty (l : Lexicon) : Bool := l.table.isEmpty

/-- The words with their tags, in order. -/
def toList (l : Lexicon) : List (String × String) := l.table.entries

/-- The tag of a word, which is looked up as it is. -/
def tag? (l : Lexicon) (word : String) : Option String := l.table.get? word

/-- Whether the word has a tag. -/
def contains (l : Lexicon) (word : String) : Bool := l.table.contains word

/-- Whether some word has the symbol as its tag. -/
def isTag (l : Lexicon) (symbol : String) : Bool := l.table.values.contains symbol

/-- The lexicon with the lower-case form of `word` tagged `tag`. -/
def insert (l : Lexicon) (word tag : String) : Lexicon := ⟨l.table.insert (Text.lowerCase word) tag⟩

/-- The tag that `insert` replaces, and the lexicon after the insertion. -/
def getThenInsert? (l : Lexicon) (word tag : String) : Option String × Lexicon :=
  (l.tag? (Text.lowerCase word), l.insert word tag)

/-- The words under each tag. Going through the table, every word is put behind
those that its tag has already. -/
def byTag (l : Lexicon) : List (String × List String) := (Table.group l.toList).entries

/-- The tokens without a tag, with their positions. -/
def uncovered (l : Lexicon) (tokens : List String) : List (Nat × String) :=
  (tokens.zipIdx.filter fun (token, _) => !l.contains token).map fun (token, position) =>
    (position, token)

/-- The tags stand in the order of their first words, and the words under each
in the order of the table. -/
theorem byTag_eq (l : Lexicon) :
    l.byTag = l.table.values.eraseDups.map fun tag =>
      (tag, (l.toList.filter fun entry => entry.2 == tag).map Prod.fst) :=
  Table.entries_group l.toList

theorem isTag_iff {l : Lexicon} {symbol : String} :
    l.isTag symbol = true ↔ ∃ word, l.tag? word = some symbol := by
  simp [isTag, tag?, Table.get?_eq_some_iff, Table.values]

theorem tag?_insert (l : Lexicon) (word tag w : String) :
    (l.insert word tag).tag? w = if w = Text.lowerCase word then some tag else l.tag? w :=
  Table.get?_insert ..

end Lexicon

end PhraseStructure
