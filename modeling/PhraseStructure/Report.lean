import PhraseStructure.Parser
import PhraseStructure.Tree.Bracket
import PhraseStructure.Tree.Graph
import PhraseStructure.Tree.Json
import PhraseStructure.Tree.Layout
import PhraseStructure.Tree.Outline
/-!
# Reports

What is printed about parsed sentences: trees in one of five formats, a verdict
for each sentence, and counts for several sentences.
-/
namespace PhraseStructure

/-! ## Formats -/

/-- How a tree is printed. -/
inductive TreeFormat where
  | bracket
  | indent
  | pretty
  | json
  | dot
  deriving DecidableEq

/-- The format of a name. -/
def TreeFormat.ofName? : String → Option TreeFormat
  | "bracket" => some bracket
  | "indent" => some indent
  | "pretty" => some pretty
  | "json" => some json
  | "dot" => some dot
  | _ => none

/-- A tree in a format. -/
def Tree.render (t : Tree) : TreeFormat → String
  | .bracket => t.bracket
  | .indent => t.outline
  | .pretty => t.pretty
  | .json => t.json
  | .dot => t.dot

/-! ## Verdicts -/

/-- The result of parsing a sentence. -/
abbrev Judgement := Except Rejection Derivation

/-- What is printed about the result itself. -/
def judgementLines (sentence : String) (format : TreeFormat) : Judgement → List String
  | .ok derivation => ["Accepted: " ++ sentence, derivation.tree.render format]
  | .error rejection =>
    ["Rejected: " ++ sentence ++ rejection.whereabouts, "  " ++ rejection.reason.message] ++
      if rejection.expected.isEmpty then [] else ["  expected: " ++ " | ".intercalate rejection.expected]

/-- What is printed about a trace. -/
def traceLines (trace : Trace) : List String :=
  if trace.diagnostics.isEmpty then []
  else "  diagnostics:" :: trace.diagnostics.map fun d => "    " ++ d.message

/-- The verdict on a sentence: the result, and all diagnostics if `verbose`. -/
def verdict (sentence : String) (judgement : Judgement) (trace : Trace) (format : TreeFormat)
    (verbose : Bool) : String :=
  "\n".intercalate (judgementLines sentence format judgement ++ if verbose then traceLines trace else [])

/-- Parse a sentence on its own: the result, and its verdict. -/
def Parser.report (p : Parser) (format : TreeFormat) (verbose : Bool) (sentence : String) :
    Judgement × String :=
  let (judgement, trace) := p.parseSentence sentence .empty
  (judgement, verdict sentence judgement trace format verbose)

/-! ## Counts -/

/-- How many sentences were accepted, rejected, and among the latter rejected
for tokens left over. -/
structure Summary where
  accepted : Nat
  rejected : Nat
  incomplete : Nat
  deriving DecidableEq

namespace Summary

/-- The counts of no sentences. -/
def empty : Summary := ⟨0, 0, 0⟩

/-- The counts with one more result. -/
def record (s : Summary) : Judgement → Summary
  | .ok _ => { s with accepted := s.accepted + 1 }
  | .error rejection =>
    { s with rejected := s.rejected + 1,
             incomplete := if rejection.isIncomplete then s.incomplete + 1 else s.incomplete }

/-- The counts of some results. -/
def ofJudgements (judgements : List Judgement) : Summary := judgements.foldl record empty

/-- The number of sentences. -/
def sentences (s : Summary) : Nat := s.accepted + s.rejected

/-- The counts as they are printed. -/
def text (s : Summary) : String :=
  "\n".intercalate
    ["         Sentences: " ++ toString s.sentences,
      "          Accepted: " ++ toString s.accepted,
      "          Rejected: " ++ toString s.rejected,
      "Tokens left unread: " ++ toString s.incomplete]

end Summary

/-! ## Listings -/

/-- The rules of a grammar, one alternative on a line. -/
def Grammar.listing (g : Grammar) : List String := g.productions.map fun production => "  " ++ production.text

/-- The entries of a lexicon, one tag on a line. -/
def Lexicon.listing (l : Lexicon) : List String :=
  l.byTag.map fun (tag, words) => "  " ++ tag ++ " -> " ++ " | ".intercalate words

/-- The grammar and the lexicon of a parser, as they are printed. -/
def Parser.listing (p : Parser) : List String :=
  ["Start: " ++ p.start, "Non-terminals: " ++ " ".intercalate p.grammar.nonterminals, "Rules:"] ++
    p.grammar.listing ++ ["Lexicon:"] ++ p.lexicon.listing

end PhraseStructure
