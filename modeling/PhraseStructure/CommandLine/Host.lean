/-!
# The host of a command line

What a command line asks of the system that it runs on: files, standard input
and output, a clock, and a program that draws graphs.
-/
namespace PhraseStructure.CommandLine

/-! ## Errors -/

/-- Why a file cannot be read or written. -/
inductive FileError where
  | notFound
  | alreadyExists
  | notADirectory
  | isADirectory
  | notText
  | nulInName
  | nameTooLong
  | other (text : String)
  deriving DecidableEq

/-- The wording of an error. -/
def FileError.message : FileError → String
  | notFound => "No such file or directory (os error 2)"
  | alreadyExists => "File exists (os error 17)"
  | notADirectory => "Not a directory (os error 20)"
  | isADirectory => "Is a directory (os error 21)"
  | notText => "stream did not contain valid UTF-8"
  | nulInName => "file name contained an unexpected NUL byte"
  | nameTooLong => "File name too long (os error 36)"
  | other text => text

/-- Why a graph is not drawn. -/
inductive DrawError where
  /-- The drawing program cannot be started. -/
  | notStarted (cause : FileError)
  /-- The drawing program ended with a status other than zero. -/
  | failed (status : Nat)
  deriving DecidableEq

/-- The wording of an error. -/
def DrawError.message : DrawError → String
  | notStarted cause => cause.message
  | failed status => "dot exited with exit status: " ++ toString status

/-! ## Operations -/

/-- What a system offers to a command line. -/
class Host (m : Type → Type) where
  /-- The content of a file. -/
  readFile : String → m (Except FileError ByteArray)
  /-- Write a text to a file, making the directories above it first. -/
  writeFile : String → String → m (Except FileError Unit)
  /-- The graph description `source` drawn as a file of type `fileType`. -/
  draw : (fileType source : String) → m (Except DrawError String)
  /-- Print to standard output, as it is. -/
  print : String → m Unit
  /-- Print to standard error, as it is. -/
  printError : String → m Unit
  /-- Print the prompt, read a line, print the reply to it, and so on until the
  input ends or there is no reply. A line that is not text is an error. -/
  converse : (prompt : String) → (reply : String → Option String) → m (Except FileError Unit)
  /-- The value of a computation, and the seconds that it took. -/
  timed : {α : Type} → (Unit → α) → m (α × String)

/-- The text of a file. -/
def readText {m : Type → Type} [Monad m] [Host m] (path : String) : m (Except FileError String) := do
  match ← Host.readFile path with
  | .error e => return .error e
  | .ok bytes =>
    match String.fromUTF8? bytes with
    | some text => return .ok text
    | none => return .error .notText

end PhraseStructure.CommandLine
