import PhraseStructure.CommandLine.Commands
/-!
# The program

The command line on a real system. This host starts no other programs, so that
drawings are answered as if no drawing program were installed.
-/
namespace PhraseStructure.CommandLine

/-! ## The host -/

/-- The cause of a failed file operation. -/
def FileError.ofSystem : IO.Error → FileError
  | .noFileOrDirectory .. | .noSuchThing .. => .notFound
  | .alreadyExists .. => .alreadyExists
  | .inappropriateType _ 20 _ => .notADirectory
  | .inappropriateType .. => .isADirectory
  | e => .other (toString e)

/-- The answer of a file operation. -/
def attempt {α : Type} (operation : IO α) : IO (Except FileError α) := do
  match ← operation.toBaseIO with
  | .ok value => return .ok value
  | .error e => return .error (.ofSystem e)

/-- A number of nanoseconds in seconds. -/
def secondsText (nanoseconds : Nat) : String :=
  let fraction := toString (nanoseconds % 1000000000)
  toString (nanoseconds / 1000000000) ++ "." ++ "".pushn '0' (9 - fraction.length) ++ fraction

/-- Hold a conversation on standard input and output. -/
partial def converseOnConsole (prompt : String) (reply : String → Option String) : IO (Except FileError Unit) := do
  let output ← IO.getStdout
  output.putStr prompt
  output.flush
  match ← (← IO.getStdin).getLine.toBaseIO with
  | .error _ => return .error .notText
  | .ok line =>
    if line.isEmpty then return .ok ()
    match reply line with
    | none => return .ok ()
    | some answer =>
      output.putStr answer
      converseOnConsole prompt reply

instance : Host IO where
  readFile path := attempt (IO.FS.readBinFile path)
  writeFile path text := attempt do
    let parent := Path.parent path
    unless parent.isEmpty do IO.FS.createDirAll parent
    IO.FS.writeFile path text
  draw _ _ := return .error (.notStarted .notFound)
  print text := IO.print text
  printError text := IO.eprint text
  converse := converseOnConsole
  timed computation := do
    let start ← IO.monoNanosNow
    let value := computation ()
    let stop ← IO.monoNanosNow
    return (value, secondsText (stop - start))

end PhraseStructure.CommandLine

/-- Run the command line. -/
def main (words : List String) : IO UInt32 := PhraseStructure.CommandLine.run words
