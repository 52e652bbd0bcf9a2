import PhraseStructure.Grammar.Reader
import PhraseStructure.Matching
import PhraseStructure.Tokens
/-!
# Parsers

A parser accepts a sentence if the start symbol matches at the first token and
the match covers every token; otherwise it says why not and how far matching
came.
-/
namespace PhraseStructure

/-! ## Verdicts -/

/-- An accepted sentence: its parse tree, and the number of tokens that the tree
covers. -/
structure Derivation where
  tree : Tree
  consumed : Nat
  deriving DecidableEq

/-- Why a sentence is rejected. -/
inductive RejectReason where
  | unknownSymbol (symbol : String)
  | noMatch (symbol : String)
  | incomplete
  | cycle (symbol : String) (position : Nat)
  | recursionLimit (symbol : String) (limit : Nat)
  deriving DecidableEq

/-- The wording of a reason. -/
def RejectReason.message : RejectReason → String
  | unknownSymbol symbol => "no rule found for `" ++ symbol ++ "`"
  | noMatch symbol => "failed to match rule `" ++ symbol ++ "`"
  | incomplete => "tokens left after a complete match"
  | cycle symbol position =>
    "grammar recursion limit exceeded: `" ++ symbol ++ "` re-entered at index " ++ toString position ++
      " without consuming a token"
  | recursionLimit symbol limit =>
    "grammar recursion limit of " ++ toString limit ++ " exceeded while matching `" ++ symbol ++ "`"

/-- A rejected sentence: how far it could be matched, which symbols were
expected there, how many tokens the match of the whole symbol covers (none if it
failed), and how many tokens there are. -/
structure Rejection where
  reason : RejectReason
  position : Nat
  expected : List String
  consumed : Nat
  tokenCount : Nat
  deriving DecidableEq

namespace Rejection

/-- Whether the symbol matched and left tokens over. -/
def isIncomplete (r : Rejection) : Bool := r.reason == .incomplete

/-- The rejection after `consumed` of `tokenCount` tokens were matched. Its
position is the furthest that matching reached, and the symbols expected are
those of the frontier if it lies there. -/
def ofFrontier (frontier : Frontier) (reason : RejectReason) (consumed tokenCount : Nat) : Rejection where
  reason
  position := max frontier.position consumed
  expected := if frontier.position < consumed then [] else frontier.expected
  consumed
  tokenCount

/-- The position of a rejection and the number of tokens, as both are
printed. -/
def whereabouts (r : Rejection) : String :=
  " (index: " ++ toString r.position ++ ", token length: " ++ toString r.tokenCount ++ ")"

/-- The wording of a rejection. -/
def message (r : Rejection) : String := r.reason.message ++ r.whereabouts

end Rejection

/-! ## Parsers -/

/-- A grammar and a lexicon, the symbol that sentences are derived from, and the
number of nested calls allowed. -/
structure Parser where
  grammar : Grammar
  lexicon : Lexicon
  start : String
  limit : Nat
  start_mem : grammar.contains start = true

namespace Parser

/-- The start symbol unless another is given. -/
def defaultStart : String := "S"

/-- The limit on nested calls unless another is given. -/
def defaultLimit : Nat := 512

/-- The parser for a grammar, if sentences can be derived from `start`. -/
def make (grammar : Grammar) (lexicon : Lexicon) (start : String) (limit : Nat) : Except GrammarError Parser :=
  match h : grammar.checkStart start with
  | .error e => .error e
  | .ok () => .ok ⟨grammar, lexicon, start, limit, Grammar.contains_of_checkStart h⟩

variable (p : Parser)

/-- What the outcome of matching `symbol` says about a sentence of `tokenCount`
tokens. -/
def judge (symbol : String) (tokenCount : Nat) (frontier : Frontier) :
    Outcome Tree → Except Rejection Derivation
  | .matched tree stop =>
    if stop = tokenCount then .ok ⟨tree, stop⟩
    else .error (.ofFrontier frontier .incomplete stop tokenCount)
  | .failed =>
    let reason := if p.grammar.contains symbol then .noMatch symbol else .unknownSymbol symbol
    .error (.ofFrontier frontier reason 0 tokenCount)
  | .aborted (.cycle s position) => .error (.ofFrontier frontier (.cycle s position) 0 tokenCount)
  | .aborted (.tooDeep s limit) => .error (.ofFrontier frontier (.recursionLimit s limit) 0 tokenCount)

/-- Parse tokens as a whole `symbol`, which need not be the start symbol. -/
def parseFrom (tokens : List String) (symbol : String) (trace : Trace) :
    Except Rejection Derivation × Trace :=
  let (outcome, trace) := Matcher.run ⟨p.grammar, p.lexicon, tokens, p.limit⟩ symbol trace
  (p.judge symbol tokens.length trace.frontier outcome, trace)

/-- Parse tokens as a sentence. -/
def parse (tokens : List String) (trace : Trace) : Except Rejection Derivation × Trace :=
  p.parseFrom tokens p.start trace

/-- Parse the words of a sentence. -/
def parseSentence (sentence : String) (trace : Trace) : Except Rejection Derivation × Trace :=
  p.parse (tokenize sentence) trace

end Parser

end PhraseStructure
