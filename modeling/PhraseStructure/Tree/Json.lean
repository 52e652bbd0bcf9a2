import PhraseStructure.Tree
/-!
# Trees as JSON

A node is an object with the members `value` and `children`, written over
several lines and indented by two spaces for every level.
-/
namespace PhraseStructure.Tree

/-! ## Strings -/

/-- The digit of a number below sixteen, in lower case. -/
def hexDigit (n : Nat) : Char := "0123456789abcdef".toList.getD n '0'

/-- A character as it stands in a JSON string: quotes, backslashes and control
characters are escaped, control characters by their short names if they have
one. -/
def jsonChar (c : Char) : String :=
  match c with
  | '"' => "\\\""
  | '\\' => "\\\\"
  | '\n' => "\\n"
  | '\r' => "\\r"
  | '\t' => "\\t"
  | '\x08' => "\\b"
  | '\x0c' => "\\f"
  | c =>
    if c.toNat < 0x20 then
      "\\u00" ++ String.singleton (hexDigit (c.toNat / 16)) ++ String.singleton (hexDigit (c.toNat % 16))
    else String.singleton c

/-- A string in quotes. -/
def jsonString (s : String) : String := "\"" ++ String.join (s.toList.map jsonChar) ++ "\""

/-! ## Nodes -/

/-- A line of text, indented by `level` steps. -/
def jsonLine (level : Nat) (text : String) : String := "".pushn ' ' (2 * level) ++ text

/-- The member of an object at `level` that holds a label. -/
def jsonValue (level : Nat) (label : String) : String :=
  jsonLine (level + 1) ("\"value\": " ++ jsonString label ++ ",")

mutual

/-- The lines of a tree whose braces stand at `level`, with `ending` after the
closing one. -/
def jsonLines (level : Nat) (ending : String) : Tree → List String
  | node label [] =>
    [jsonLine level "\x7b", jsonValue level label, jsonLine (level + 1) "\"children\": []",
      jsonLine level ("\x7d" ++ ending)]
  | node label (child :: children) =>
    [jsonLine level "\x7b", jsonValue level label, jsonLine (level + 1) "\"children\": ["] ++
      (jsonLinesAll (level + 2) (child :: children) ++
        [jsonLine (level + 1) "]", jsonLine level ("\x7d" ++ ending)])

/-- The lines of the trees in a list, with a comma after each but the last. -/
def jsonLinesAll (level : Nat) : List Tree → List String
  | [] => []
  | t :: ts => jsonLines level (if ts.isEmpty then "" else ",") t ++ jsonLinesAll level ts

end

/-- The JSON form of a tree. -/
def json (t : Tree) : String := "\n".intercalate (jsonLines 0 "" t)

end PhraseStructure.Tree
