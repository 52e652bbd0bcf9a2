import PhraseStructure.Report
/-!
# Interactive sessions

A session answers every line with the tokens of the sentence, the words that the
lexicon does not know, and the verdict.
-/
namespace PhraseStructure.CommandLine.Session

/-- What a session says first. -/
def greeting : String := "Running sentence_parser REPL. Type \"exit\" or \"quit\" to terminate the REPL."

/-- What stands before every line of input. -/
def prompt : String := ">>> "

/-- What is said about the tokens of a sentence. -/
def tokenLines (lexicon : Lexicon) (tokens : List String) : List String :=
  let unknown := (lexicon.uncovered tokens).map fun (position, word) =>
    word ++ " (index: " ++ toString position ++ ")"
  ("Tokens: " ++ " ".intercalate tokens) ::
    if unknown.isEmpty then [] else ["Unknown words: " ++ ", ".intercalate unknown]

/-- The reply to a line: none if it ends the session, and nothing to an empty
line. -/
def reply (p : Parser) (format : TreeFormat) (verbose : Bool) (line : String) : Option String :=
  let sentence := String.ofList (Text.trim line.toList)
  if sentence ∈ ["exit", "quit"] then none
  else if sentence.isEmpty then some ""
  else
    let (_, text) := p.report format verbose sentence
    some (String.join ((tokenLines p.lexicon (tokenize sentence) ++ [text]).map (· ++ "\n")))

end PhraseStructure.CommandLine.Session
