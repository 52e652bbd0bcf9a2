import PhraseStructure.Text.Columns.Opening
/-!
# Display width

How many columns of a fixed-pitch display a text takes, as release 0.1.14 of
`unicode-width` counts them, whose tables are those of Unicode 15.1. Everything
that is proved about drawings is proved for any `Ruler` in place of this one.
-/
namespace PhraseStructure.Text

/-- The columns of a text and how it starts, found from its end: what is after a
character can change the columns that it adds. -/
def measure : List Char → Int × Start
  | [] => (0, .empty)
  | c :: cs =>
    let (after, start) := measure cs
    let (added, start) := start.cons c
    (after + added, start)

/-- The columns of a string. -/
def columns (s : String) : Nat := (measure s.toList).1.toNat

end PhraseStructure.Text
