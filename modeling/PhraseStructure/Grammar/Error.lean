/-!
# Errors in grammars and lexicons

What can be wrong with a rule text, a lexicon text or a start symbol, and how it
is reported.
-/
namespace PhraseStructure

/-- What is wrong with a rule line. -/
inductive RuleDefect where
  | noSymbol
  | severalSymbols
  | emptyAlternative
  deriving DecidableEq

/-- The wording of a defect. -/
def RuleDefect.message : RuleDefect → String
  | noSymbol => "no symbol before the arrow"
  | severalSymbols => "more than one symbol before the arrow"
  | emptyAlternative => "empty alternative"

/-- What is wrong with a lexicon line. -/
inductive EntryDefect where
  | noTag
  deriving DecidableEq

/-- The wording of a defect. -/
def EntryDefect.message : EntryDefect → String
  | noTag => "no tag before the arrow"

/-- Why a grammar or lexicon cannot be used. Lines count from one. -/
inductive GrammarError where
  | empty
  | missingStart (symbol : String)
  | malformedRule (line : Nat) (defect : RuleDefect)
  | malformedEntry (line : Nat) (defect : EntryDefect)
  deriving DecidableEq

/-- The wording of an error. -/
def GrammarError.message : GrammarError → String
  | empty => "grammar has no rules"
  | missingStart symbol => "no rule found for start symbol `" ++ symbol ++ "`"
  | malformedRule line defect => "malformed rule on line " ++ toString line ++ ": " ++ defect.message
  | malformedEntry line defect =>
    "malformed lexicon entry on line " ++ toString line ++ ": " ++ defect.message

end PhraseStructure
