import PhraseStructure.Text.LowerCase
/-!
# Colours of symbols

Symbols are drawn in colours by the usual names of parts of speech: nouns green,
verbs orange, determiners grey.
-/
namespace PhraseStructure

/-- The colours in use. -/
inductive Colour where
  | black
  | grey
  | brightGreen
  | paleOrange
  | green
  | orange
  | red
  deriving DecidableEq

namespace Colour

/-- The colour as six hexadecimal digits. -/
def hex : Colour → String
  | black => "#000000"
  | grey => "#b0b0b0"
  | brightGreen => "#00dd00"
  | paleOrange => "#ff9a57"
  | green => "#00AA00"
  | orange => "#FF8B3D"
  | red => "#E3242B"

/-- The colour of a symbol whose first letter, in lower case, is `c`. -/
def ofInitial (c : Char) : Colour :=
  if c = 'n' then green else if c = 'v' then orange else if c = 'p' then red else black

/-- The colour of a symbol. Upper and lower case are not told apart. Some
symbols have a colour as a whole and pronouns are coloured like nouns; the first
letter decides about all others. -/
def ofSymbol (symbol : String) : Colour :=
  let name := Text.lowerCase symbol
  if name ∈ ["det", "dt", "cc"] then grey
  else if name ∈ ["adj", "jj"] then brightGreen
  else if name ∈ ["adv", "rb"] then paleOrange
  else match name.toList with
    | 'p' :: 'r' :: 'o' :: _ => green
    | c :: _ => ofInitial c
    | [] => black

end Colour

end PhraseStructure
