import PhraseStructure.CommandLine.Host
import PhraseStructure.Parser
import PhraseStructure.Text.Pieces
/-!
# Failures

Why a command ends before its work is done, and how that is reported.
-/
namespace PhraseStructure.CommandLine

/-- Why a drawing is not made. -/
inductive RenderError where
  | draw (e : DrawError)
  | file (e : FileError)
  deriving DecidableEq

/-- The wording of an error. -/
def RenderError.message : RenderError → String
  | draw e => e.message
  | file e => e.message

/-- Why a command fails. A grammar or lexicon without a file is the bundled
one. -/
inductive Failure where
  | unreadable (path : String) (cause : FileError)
  | invalidRules (file : Option String) (cause : GrammarError)
  | invalidLexicon (file : Option String) (cause : GrammarError)
  | unusableGrammar (cause : GrammarError)
  | rejected (sentence : String) (rejection : Rejection)
  | notRendered (path : String) (cause : RenderError)
  | badInput (cause : FileError)
  deriving DecidableEq

namespace Failure

/-- What failed. -/
def headline : Failure → String
  | unreadable path _ => "could not read " ++ path
  | invalidRules (some path) _ => "invalid rules in " ++ path
  | invalidRules none _ => "invalid bundled rules"
  | invalidLexicon (some path) _ => "invalid lexicon in " ++ path
  | invalidLexicon none _ => "invalid bundled lexicon"
  | unusableGrammar _ => "grammar cannot be used for parsing"
  | rejected sentence rejection => "Rejected: " ++ sentence ++ ": " ++ rejection.message
  | notRendered path _ => "could not render " ++ path ++ " with graphviz"
  | badInput cause => cause.message

/-- Why it failed, where that is a matter of its own. -/
def cause? : Failure → Option String
  | unreadable _ cause => some cause.message
  | invalidRules _ cause | invalidLexicon _ cause | unusableGrammar cause => some cause.message
  | notRendered _ cause => some cause.message
  | rejected _ _ | badInput _ => none

/-- The failure on one line. -/
def message (f : Failure) : String :=
  match f.cause? with
  | none => f.headline
  | some cause => f.headline ++ ": " ++ cause

/-- A text with every line indented by four spaces. -/
def indented (text : String) : String :=
  "\n".intercalate ((Text.pieces (· == '\n') text.toList).map fun line => "    " ++ String.ofList line)

/-- The failure as it is reported at the end of a command. -/
def report (f : Failure) : String :=
  match f.cause? with
  | none => "Error: " ++ f.headline ++ "\n"
  | some cause => "Error: " ++ f.headline ++ "\n\nCaused by:\n" ++ indented cause ++ "\n"

end Failure

end PhraseStructure.CommandLine
