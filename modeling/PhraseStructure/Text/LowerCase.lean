import PhraseStructure.Text.LowerCase.Tables
/-!
# Lower case

The full lower-case form of a text. Every character is mapped on its own but
one: a capital sigma becomes `ς` at the end of a word and `σ` elsewhere.
-/
namespace PhraseStructure.Text

/-- Whether the run holds the code point. -/
def CaseRun.contains (run : CaseRun) (code : Nat) : Bool :=
  run.first ≤ code && code ≤ run.last && (code - run.first) % run.step == 0

/-- The lower-case form of a character, which is the character itself if it has
no other. -/
def lowerChar (c : Char) : List Char :=
  if c = 'İ' then ['i', '\u0307']
  else match lowerCaseRuns.find? (·.contains c.toNat) with
    | some run => [Char.ofNat (run.target + (c.toNat - run.first))]
    | none => [c]

/-- Whether the first character that is not case-ignorable is a cased one. -/
def meetsCased (cs : List Char) : Bool :=
  match cs.dropWhile caseIgnorableRanges.contains with
  | [] => false
  | c :: _ => casedRanges.contains c

/-- Whether a sigma ends a word, given the text before it, nearest character
first, and the text after it: a cased letter comes before, and none after,
looking past case-ignorable characters. -/
def isFinalSigma (before after : List Char) : Bool := meetsCased before && !meetsCased after

/-- The lower-case form of a text that follows `before`, nearest character
first. -/
def lowerAfter (before : List Char) : List Char → List Char
  | [] => []
  | c :: cs =>
    (if c = 'Σ' then [if isFinalSigma before cs then 'ς' else 'σ'] else lowerChar c) ++
      lowerAfter (c :: before) cs

/-- The lower-case form of a text. -/
def lower (cs : List Char) : List Char := lowerAfter [] cs

/-- The lower-case form of a string. -/
def lowerCase (s : String) : String := String.ofList (lower s.toList)

end PhraseStructure.Text
