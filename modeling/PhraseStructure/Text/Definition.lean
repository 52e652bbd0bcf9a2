import PhraseStructure.Text.Blank
/-!
# Definition lines

Grammars and lexicons are written as lines `NAME -> A | B | C`. A line without
an arrow, and a line whose first character after blanks is `#`, defines nothing.
-/
namespace PhraseStructure.Text

/-- The two sides of the first arrow of a definition line. -/
def sides? (line : List Char) : Option (List Char × List Char) :=
  if (trimStart line).head? = some '#' then none else cutAtArrow line

/-- The alternatives on the right of an arrow, which bars divide. -/
def alternatives (body : List Char) : List (List Char) := pieces (· == '|') body

end PhraseStructure.Text
