import PhraseStructure.Grammar.Error
import PhraseStructure.Lexicon
import PhraseStructure.Text.Definition
/-!
# Reading lexicons

A lexicon file has an entry `TAG -> word | word` on a line. A word keeps the tag
of its last mention.
-/
namespace PhraseStructure

/-- A tag with the words listed under it. -/
structure Entry where
  tag : String
  words : List String
  deriving DecidableEq

/-- The entry on a line, if the line defines one. Blank words are skipped; the
tag must not be blank. -/
def Entry.ofLine? (line : List Char) : Except EntryDefect (Option Entry) :=
  match Text.sides? line with
  | none => .ok none
  | some (before, after) =>
    match Text.trim before with
    | [] => .error .noTag
    | tag =>
      let words := ((Text.alternatives after).map Text.trim).filter (!·.isEmpty)
      .ok (some ⟨String.ofList tag, words.map String.ofList⟩)

namespace Lexicon

/-- The lexicon with the words of an entry tagged. -/
def addEntry (l : Lexicon) (entry : Entry) : Lexicon :=
  entry.words.foldl (fun l word => l.insert word entry.tag) l

/-- The lexicon with the entry of a numbered line added. -/
def addLine (l : Lexicon) : List Char × Nat → Except GrammarError Lexicon
  | (line, number) =>
    match Entry.ofLine? line with
    | .error defect => .error (.malformedEntry number defect)
    | .ok none => .ok l
    | .ok (some entry) => .ok (l.addEntry entry)

/-- The lexicon that a text defines. The first malformed line is an error. -/
def ofText (text : String) : Except GrammarError Lexicon :=
  ((Text.lines text.toList).zipIdx 1).foldlM addLine empty

end Lexicon

end PhraseStructure
