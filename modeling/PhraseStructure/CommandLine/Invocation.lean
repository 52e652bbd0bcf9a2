import PhraseStructure.Report
/-!
# Invocations

What a command line asks for. Arguments are read one after the other: a bare
word first names the command and then belongs to it, a word that starts with `-`
names options, and after `--` all words are bare. A setting takes as its value
what follows it in the same word, or else the next word. The options of the
grammar may stand before the command or after it, where the later place wins; no
option may be given twice in one place.
-/
namespace PhraseStructure.CommandLine

/-! ## Vocabulary -/

/-- The names of the commands. -/
inductive CommandName where
  | parse
  | testcases
  | render
  | grammar
  | repl
  deriving DecidableEq

/-- The command of a name. -/
def CommandName.ofName? : String → Option CommandName
  | "parse" => some parse
  | "testcases" => some testcases
  | "render" => some render
  | "grammar" => some grammar
  | "repl" => some repl
  | _ => none

/-- Options that take a value. -/
inductive Setting where
  | rules
  | lexicon
  | start
  | maxDepth
  | format
  | path
  deriving DecidableEq

/-- Options that take none. -/
inductive Switch where
  | verbose
  | openBrowser
  deriving DecidableEq

/-- What a word that starts with `-` can name. -/
inductive Keyword where
  | setting (s : Setting)
  | switch (s : Switch)
  deriving DecidableEq

namespace Keyword

/-- Whether an option may stand before the command (`none`) or after the given
one. The options of the grammar may stand anywhere, the others after the
commands that have them. -/
def isAllowed (place : Option CommandName) : Keyword → Bool
  | setting .format => place ∈ [some .parse, some .testcases, some .repl]
  | setting .path => place ∈ [some .testcases, some .render]
  | switch .openBrowser => place == some .render
  | _ => true

/-- The option of a long name. -/
def ofName? : String → Option Keyword
  | "rules" => some (setting .rules)
  | "lexicon" => some (setting .lexicon)
  | "start" => some (setting .start)
  | "max-depth" => some (setting .maxDepth)
  | "format" => some (setting .format)
  | "path" => some (setting .path)
  | "verbose" => some (switch .verbose)
  | "open-browser" => some (switch .openBrowser)
  | _ => none

/-- The option of a letter. -/
def ofLetter? : Char → Option Keyword
  | 'r' => some (setting .rules)
  | 'l' => some (setting .lexicon)
  | 's' => some (setting .start)
  | 'f' => some (setting .format)
  | 'p' => some (setting .path)
  | 'v' => some (switch .verbose)
  | 'o' => some (switch .openBrowser)
  | _ => none

end Keyword

/-- Why a command line cannot be understood. -/
inductive UsageError where
  | unknownOption (word : String)
  | missingValue
  | unexpectedValue (word : String)
  | repeated
  | unknownCommand (word : String)
  | missingCommand
  | wrongWords (count : Nat)
  | notANumber (text : String)
  | notAFormat (text : String)
  deriving DecidableEq

/-- The wording of an error. -/
def UsageError.message : UsageError → String
  | unknownOption word => "unknown option '" ++ word ++ "'"
  | missingValue => "an option lacks its value"
  | unexpectedValue word => "the option in '" ++ word ++ "' takes no value"
  | repeated => "an option is given twice"
  | unknownCommand word => "unknown command '" ++ word ++ "'"
  | missingCommand => "no command is given"
  | wrongWords count => "the command does not take " ++ toString count ++ " words"
  | notANumber text => "'" ++ text ++ "' is not a depth"
  | notAFormat text => "'" ++ text ++ "' is not a format"

/-! ## Reading words -/

/-- What stands in one place of a command line. -/
structure Given where
  settings : List (Setting × String)
  switches : List Switch
  words : List String

/-- Nothing. -/
def Given.empty : Given := ⟨[], [], []⟩

/-- The value of a setting. -/
def Given.value? (g : Given) (s : Setting) : Option String := g.settings.lookup s

/-- What has been read of a command line: what stands before the command and
after it, the setting that waits for its value, and whether `--` has ended the
options. -/
structure Reading where
  command : Option CommandName
  before : Given
  after : Given
  pending : Option Setting
  isClosed : Bool

namespace Reading

/-- The start of every command line. -/
def start : Reading := ⟨none, .empty, .empty, none, false⟩

/-- What stands in the place that is being read. -/
def here (r : Reading) : Given := if r.command.isNone then r.before else r.after

/-- The reading with what stands in its place changed. -/
def setHere (r : Reading) (g : Given) : Reading :=
  if r.command.isNone then { r with before := g } else { r with after := g }

/-- Give a setting its value. -/
def set (r : Reading) (s : Setting) (value : String) : Except UsageError Reading :=
  if (r.here.value? s).isSome then .error .repeated
  else .ok (r.setHere { r.here with settings := r.here.settings ++ [(s, value)] })

/-- Turn a switch on. -/
def turnOn (r : Reading) (s : Switch) : Except UsageError Reading :=
  if s ∈ r.here.switches then .error .repeated
  else .ok (r.setHere { r.here with switches := r.here.switches ++ [s] })

/-- Read a bare word. -/
def readBare (r : Reading) (word : String) : Except UsageError Reading :=
  match r.pending, r.command with
  | some s, _ => { r with pending := none }.set s word
  | none, some _ => .ok (r.setHere { r.here with words := r.here.words ++ [word] })
  | none, none =>
    match CommandName.ofName? word with
    | some name => if r.isClosed then .error (.unknownCommand word) else .ok { r with command := some name }
    | none => .error (.unknownCommand word)

/-- Read a long option, which may have its value after an equals sign. -/
def readLong (r : Reading) (word : List Char) : Except UsageError Reading :=
  let name := String.ofList (word.takeWhile (· != '='))
  match (Keyword.ofName? name).filter (·.isAllowed r.command), word.dropWhile (· != '=') with
  | none, _ => .error (.unknownOption name)
  | some (.switch s), [] => r.turnOn s
  | some (.switch _), _ :: _ => .error (.unexpectedValue name)
  | some (.setting s), [] => .ok { r with pending := some s }
  | some (.setting s), _ :: value => r.set s (String.ofList value)

/-- Read option letters. The first setting among them takes the rest of the word
as its value, less an equals sign in front. -/
def readLetters (r : Reading) : List Char → Except UsageError Reading
  | [] => .ok r
  | c :: cs =>
    match (Keyword.ofLetter? c).filter (·.isAllowed r.command), cs with
    | none, _ => .error (.unknownOption (String.singleton c))
    | some (.switch s), _ => do (← r.turnOn s).readLetters cs
    | some (.setting s), [] => .ok { r with pending := some s }
    | some (.setting s), '=' :: value => r.set s (String.ofList value)
    | some (.setting s), value => r.set s (String.ofList value)

/-- Read one word. -/
def readWord (r : Reading) (word : String) : Except UsageError Reading :=
  match r.isClosed, word.toList with
  | false, '-' :: c :: cs =>
    if r.pending.isSome then .error .missingValue
    else if c != '-' then r.readLetters (c :: cs)
    else if cs.isEmpty then .ok { r with isClosed := true }
    else r.readLong cs
  | _, _ => r.readBare word

end Reading

/-! ## Invocations -/

/-- Where the grammar comes from and how it is used. Without a file the bundled
text is taken. -/
structure GrammarOptions where
  rulesFile : Option String
  lexiconFile : Option String
  start : String
  limit : Nat
  deriving DecidableEq

/-- A command with its arguments. -/
inductive Command where
  | parse (sentences : List String) (format : TreeFormat)
  | testcases (path : String) (format : TreeFormat)
  | render (sentence path : String) (openBrowser : Bool)
  | grammar
  | repl (format : TreeFormat)
  deriving DecidableEq

/-- A whole command line. -/
structure Invocation where
  options : GrammarOptions
  verbose : Bool
  command : Command
  deriving DecidableEq

/-- The number that a word writes in decimal digits, with or without a plus
sign, below 2⁶⁴. -/
def readNumber? (word : String) : Option Nat :=
  let digits := match word.toList with
    | '+' :: cs => cs
    | cs => cs
  if digits.isEmpty || !digits.all Char.isDigit then none
  else
    let n := digits.foldl (fun n c => 10 * n + (c.toNat - '0'.toNat)) 0
    if n < UInt64.size then some n else none

namespace Reading

/-- The depth given in one place. -/
def depth? (g : Given) : Except UsageError (Option Nat) :=
  match g.value? .maxDepth with
  | none => .ok none
  | some word =>
    match readNumber? word with
    | some n => .ok (some n)
    | none => .error (.notANumber word)

/-- The format given, or else the one that the command uses. -/
def format (g : Given) (usual : TreeFormat) : Except UsageError TreeFormat :=
  match g.value? .format with
  | none => .ok usual
  | some word =>
    match TreeFormat.ofName? word with
    | some format => .ok format
    | none => .error (.notAFormat word)

/-- The command with the arguments that stand after it. -/
def commandOf (name : CommandName) (g : Given) : Except UsageError Command :=
  match name, g.words with
  | .parse, [] => .error (.wrongWords 0)
  | .parse, sentences => return .parse sentences (← format g .bracket)
  | .testcases, [] => return .testcases ((g.value? .path).getD "data/sentences.txt") (← format g .bracket)
  | .render, [sentence] =>
    .ok (.render sentence ((g.value? .path).getD "images/parse_tree.pdf") (g.switches.contains .openBrowser))
  | .grammar, [] => .ok .grammar
  | .repl, [] => return .repl (← format g .pretty)
  | _, words => .error (.wrongWords words.length)

/-- The invocation that has been read in full. -/
def finish (r : Reading) : Except UsageError Invocation := do
  if r.pending.isSome then throw .missingValue
  let some name := r.command | throw .missingCommand
  let command ← commandOf name r.after
  let outer ← depth? r.before
  let inner ← depth? r.after
  let value? (s : Setting) := (r.after.value? s).or (r.before.value? s)
  return {
    options := {
      rulesFile := value? .rules
      lexiconFile := value? .lexicon
      start := (value? .start).getD Parser.defaultStart
      limit := (inner.or outer).getD Parser.defaultLimit }
    verbose := r.before.switches.contains .verbose || r.after.switches.contains .verbose
    command }

end Reading

/-- The invocation that a command line writes. -/
def Invocation.ofWords (words : List String) : Except UsageError Invocation := do
  (← words.foldlM Reading.readWord .start).finish

end PhraseStructure.CommandLine
