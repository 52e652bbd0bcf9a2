import PhraseStructure.CommandLine.Loading
import PhraseStructure.CommandLine.Path
import PhraseStructure.CommandLine.Session
/-!
# Commands

What every command does, and the exit status that it ends with.
-/
namespace PhraseStructure.CommandLine

variable {m : Type → Type} [Monad m] [Host m]

/-- Print a line to standard output. -/
def printLine (line : String) : Action m Unit := ExceptT.lift (Host.print (line ++ "\n"))

/-- Print a line to standard error. -/
def warn (line : String) : Action m Unit := ExceptT.lift (Host.printError (line ++ "\n"))

/-- Print the verdict on every sentence; the result counts them. -/
def parseSentences (p : Parser) (sentences : List String) (format : TreeFormat) (verbose : Bool) :
    Action m Summary := do
  let reports := sentences.map (p.report format verbose)
  reports.forM fun (_, text) => printLine text
  return .ofJudgements (reports.map Prod.fst)

/-- Print the verdicts on the sentences in a file, the counts, and the time
taken by parsing. -/
def runTestcases (p : Parser) (path : String) (format : TreeFormat) (verbose : Bool) : Action m Unit := do
  let sentences ← readSentences path
  let (reports, seconds) ← ExceptT.lift (Host.timed fun _ => sentences.map (p.report format verbose))
  reports.forM fun (_, text) => printLine text
  printLine ("".pushn '=' 80)
  printLine (Summary.ofJudgements (reports.map Prod.fst)).text
  printLine ("      Time elapsed: " ++ seconds)

/-- Draw the parse tree of a sentence into a file, whose extension names the
type of drawing. -/
def renderSentence (p : Parser) (sentence path : String) : Action m Unit := do
  match (p.parseSentence sentence .empty).1 with
  | .error rejection => throw (.rejected sentence rejection)
  | .ok derivation =>
    let fileType := (Path.extension? path).getD "pdf"
    let drawing ← Action.ofHost (fun e => .notRendered path (.draw e))
      (Host.draw fileType derivation.tree.dot)
    Action.ofHost (fun e => .notRendered path (.file e)) (Host.writeFile path drawing)
    printLine ("Wrote parse tree to " ++ path)

/-- Carry out a command; the result is its exit status. No host opens a browser,
so asking for one changes nothing. -/
def Command.execute (p : Parser) (verbose : Bool) : Command → Action m UInt32
  | .parse sentences format => do
    let summary ← parseSentences p sentences format verbose
    return if summary.rejected = 0 then 0 else 1
  | .testcases path format => do
    runTestcases p path format verbose
    return 0
  | .render sentence path _ => do
    renderSentence p sentence path
    return 0
  | .grammar => do
    p.listing.forM printLine
    return 0
  | .repl format => do
    printLine Session.greeting
    Action.ofHost .badInput (Host.converse Session.prompt (Session.reply p format verbose))
    return 0

/-- Carry out an invocation; the result is its exit status. -/
def Invocation.execute (i : Invocation) : Action m UInt32 := do
  let loaded ← i.options.load
  loaded.warnings.forM fun warning => warn ("warning: " ++ warning)
  let p ← MonadExcept.ofExcept (loaded.parser i.options)
  i.command.execute p i.verbose

/-- The exit status of a command line that cannot be understood. -/
def usageStatus : UInt32 := 2

/-- Run a command line; the result is its exit status. -/
def run (words : List String) : m UInt32 := do
  match Invocation.ofWords words with
  | .error e =>
    Host.printError ("error: " ++ e.message ++ "\n")
    return usageStatus
  | .ok invocation =>
    match ← (invocation.execute : Action m UInt32).run with
    | .ok status => return status
    | .error failure =>
      Host.printError failure.report
      return 1

end PhraseStructure.CommandLine
