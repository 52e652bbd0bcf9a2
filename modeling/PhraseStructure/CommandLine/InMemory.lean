import PhraseStructure.CommandLine.FileSystem
/-!
# A host held in memory

A host whose files, input and output are values, so that a whole command line is
a function of them. Its drawing program is a stand-in that writes the type asked
for on a line and copies the graph description.
-/
namespace PhraseStructure.CommandLine

/-! ## Input -/

/-- The lines of some bytes, less their line feeds. -/
def byteLines : List UInt8 → List (List UInt8)
  | [] => []
  | b :: bs =>
    if b = 10 then [] :: byteLines bs
    else match byteLines bs with
      | [] => [[b]]
      | l :: ls => (b :: l) :: ls

/-! ## The host -/

/-- The state of a host in memory: its files, the lines of input not yet read,
the exit status of its drawing program if it has one, what its clock shows for
every computation, and all that was printed. -/
structure Surroundings where
  files : FileSystem
  input : List (List UInt8)
  drawing : Option Nat
  clock : String
  output : String
  errors : String

namespace Surroundings

/-- The surroundings with a text printed. -/
def print (s : Surroundings) (text : String) : Surroundings := { s with output := s.output ++ text }

/-- The surroundings with a text printed to standard error. -/
def printError (s : Surroundings) (text : String) : Surroundings := { s with errors := s.errors ++ text }

/-- What the drawing program makes of a graph description. An exit status has
eight bits. -/
def draw (s : Surroundings) (fileType source : String) : Except DrawError String :=
  match s.drawing with
  | none => .error (.notStarted .notFound)
  | some status =>
    if status % 256 = 0 then .ok ("-T" ++ fileType ++ "\n" ++ source) else .error (.failed (status % 256))

/-- Hold a conversation over lines of input. -/
def converse (prompt : String) (reply : String → Option String) (s : Surroundings) :
    List (List UInt8) → Except FileError Unit × Surroundings
  | [] => (.ok (), { s.print prompt with input := [] })
  | line :: lines =>
    let s := s.print prompt
    match String.fromUTF8? ⟨line.toArray⟩ with
    | none => (.error .notText, { s with input := lines })
    | some text =>
      match reply text with
      | none => (.ok (), { s with input := lines })
      | some answer => converse prompt reply (s.print answer) lines

end Surroundings

/-- Computations that use surroundings in memory. -/
abbrev InMemory := StateM Surroundings

instance : Host InMemory where
  readFile path := return (← get).files.read path
  writeFile path text := modifyGet fun s =>
    let (result, files) := s.files.write path text.toUTF8
    (result, { s with files })
  draw fileType source := return (← get).draw fileType source
  print text := modify (·.print text)
  printError text := modify (·.printError text)
  converse prompt reply := modifyGet fun s => s.converse prompt reply s.input
  timed computation := return (computation (), (← get).clock)

end PhraseStructure.CommandLine
