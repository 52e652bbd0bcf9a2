import PhraseStructure.Text.Pieces
/-!
# Paths

A path names a file by the directories on the way to it, divided by slashes.
-/
namespace PhraseStructure.CommandLine.Path

/-- Whether the path starts at the root. -/
def isAbsolute (path : String) : Bool := path.toList.head? == some '/'

/-- Whether the path ends with a slash. -/
def endsWithSlash (path : String) : Bool := path.toList.getLast? == some '/'

/-- The names on a path. A slash at the end counts as a step into the directory
itself. -/
def steps (path : String) : List String :=
  let names := (Text.pieces (· == '/') path.toList).filter (!·.isEmpty)
  names.map String.ofList ++ if endsWithSlash path then ["."] else []

/-- The names on a path without the steps that stay where they are. -/
def names (path : String) : List String := (steps path).filter (· != ".")

/-- The names on the way to the last one. -/
def parents (path : String) : List String := (names path).dropLast

/-- The part of a path before its last name, as it is written, less what stays
where it is at its end. -/
def parent (path : String) : String :=
  let stays (piece : List Char) : Bool := piece.isEmpty || piece == ['.']
  let pieces := (Text.pieces (· == '/') path.toList).reverse
  let before := ((pieces.dropWhile stays).drop 1).dropWhile stays
  String.ofList (['/'].intercalate before.reverse)

/-- The extension of the last name: what follows its last dot, if a character
stands before that dot. -/
def extension? (path : String) : Option String :=
  match (names path).getLast? with
  | none | some ".." => none
  | some name =>
    let reversed := name.toList.reverse
    match reversed.dropWhile (· != '.') with
    | [] | ['.'] => none
    | _ => some (String.ofList (reversed.takeWhile (· != '.')).reverse)

end PhraseStructure.CommandLine.Path
