import PhraseStructure.Text.Blank
import PhraseStructure.Text.LowerCase
/-!
# Tokens

A sentence is parsed as the list of its words in lower case.
-/
namespace PhraseStructure

/-- The words of a sentence, in lower case. -/
def tokenize (sentence : String) : List String :=
  (Text.words (Text.lower sentence.toList)).map String.ofList

end PhraseStructure
