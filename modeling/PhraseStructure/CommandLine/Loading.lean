import PhraseStructure.Bundled
import PhraseStructure.CommandLine.Failure
import PhraseStructure.CommandLine.Invocation
import PhraseStructure.Lexicon.Reader
/-!
# Loading grammars

A command takes its grammar and lexicon from files or from the bundled texts,
warns about symbols that nothing defines, and builds its parser.
-/
namespace PhraseStructure.CommandLine

variable {m : Type → Type} [Monad m] [Host m]

/-- Commands talk to the host and may fail. -/
abbrev Action (m : Type → Type) := ExceptT Failure m

/-- An action from an answer of the host and the failure that an error is. -/
def Action.ofHost {ε α : Type} (fail : ε → Failure) (answer : m (Except ε α)) : Action m α :=
  ExceptT.mk do
    match ← answer with
    | .ok value => return .ok value
    | .error e => return .error (fail e)

/-- The text of a file, or the bundled text if no file is named. -/
def textOf (file : Option String) (bundled : String) : Action m String :=
  match file with
  | none => return bundled
  | some path => Action.ofHost (.unreadable path) (readText path)

/-- A grammar with its lexicon. -/
structure Loaded where
  grammar : Grammar
  lexicon : Lexicon

/-- Load the grammar, then the lexicon. -/
def GrammarOptions.load (options : GrammarOptions) : Action m Loaded := do
  let rules ← textOf options.rulesFile Bundled.rules
  let grammar ← MonadExcept.ofExcept ((Grammar.ofText rules).mapError (.invalidRules options.rulesFile))
  let words ← textOf options.lexiconFile Bundled.lexicon
  let lexicon ← MonadExcept.ofExcept ((Lexicon.ofText words).mapError (.invalidLexicon options.lexiconFile))
  return ⟨grammar, lexicon⟩

namespace Loaded

/-- Warnings about the symbols that nothing defines. -/
def warnings (l : Loaded) : List String :=
  (l.grammar.undefinedSymbols l.lexicon).map fun symbol =>
    "symbol `" ++ symbol ++ "` has no rule and tags no word"

/-- The parser for what was loaded. -/
def parser (l : Loaded) (options : GrammarOptions) : Except Failure Parser :=
  (Parser.make l.grammar l.lexicon options.start options.limit).mapError .unusableGrammar

end Loaded

/-- The sentences in a text: its lines without blanks around them, less empty
lines and comments. -/
def sentencesOf (text : String) : List String :=
  (((Text.lines text.toList).map Text.trim).filter fun line =>
    !line.isEmpty && line.head? != some '#').map String.ofList

/-- The sentences in a file. -/
def readSentences (path : String) : Action m (List String) := do
  return sentencesOf (← Action.ofHost (.unreadable path) (readText path))

end PhraseStructure.CommandLine
