import PhraseStructure.Grammar
import PhraseStructure.Trace
import PhraseStructure.Tree
/-!
# Matching symbols against tokens

Recursive descent with ordered choice. To match a symbol at a position its
alternatives are tried in order and the first that matches is kept, whatever
comes after it: there is no search for other splits. An alternative is matched
symbol by symbol; a token that the lexicon tags with the symbol is taken before
any rule for the symbol is tried.

Two guards stop a match for good. A symbol that is entered again at the same
position, while it is still being matched there, would loop without consuming a
token. A call nested deeper than the limit is refused; the calls still allowed
below are the budget on which `matchSymbol` recurses, so the limit may be any
number.
-/
namespace PhraseStructure

/-! ## Outcomes -/

/-- Why a match was stopped for good. -/
inductive Abort where
  /-- The symbol was entered again at the position where it is being matched. -/
  | cycle (symbol : String) (position : Nat)
  /-- The symbol lies deeper than `limit` nested calls. -/
  | tooDeep (symbol : String) (limit : Nat)
  deriving DecidableEq

/-- How a match ends. -/
inductive Outcome (α : Type) where
  /-- It covers the tokens up to `stop`. -/
  | matched (value : α) (stop : Nat)
  /-- It covers nothing; other alternatives may be tried. -/
  | failed
  /-- It ends the whole parse. -/
  | aborted (reason : Abort)
  deriving DecidableEq

/-- The outcome with its value mapped. -/
def Outcome.map {α β : Type} (f : α → β) : Outcome α → Outcome β
  | matched value stop => matched (f value) stop
  | failed => failed
  | aborted reason => aborted reason

/-! ## One level of matching -/

/-- What matching depends on and never changes. -/
structure Matcher where
  grammar : Grammar
  lexicon : Lexicon
  tokens : List String
  limit : Nat

namespace Matcher

/-- A way to match a symbol at a position, given the trace so far. -/
abbrev Call := String → Nat → Trace → Outcome Tree × Trace

variable (m : Matcher)

/-- Match the symbols of one alternative from `cursor` on, nonterminals by
`call`. A token is needed for every symbol, even for one that could match
nothing. A failed call has recorded what it expected. -/
def matchSequence (call : Call) : List String → Nat → Trace → Outcome (List Tree) × Trace
  | [], cursor, trace => (.matched [] cursor, trace)
  | symbol :: symbols, cursor, trace =>
    match m.tokens[cursor]? with
    | none => (.failed, trace.expect symbol cursor)
    | some token =>
      if m.lexicon.tag? token = some symbol then
        let (outcome, trace) := matchSequence call symbols (cursor + 1) trace
        (outcome.map (Tree.tagged symbol token :: ·), trace)
      else if m.grammar.contains symbol then
        match call symbol cursor trace with
        | (.matched tree stop, trace) =>
          let (outcome, trace) := matchSequence call symbols stop trace
          (outcome.map (tree :: ·), trace)
        | (.failed, trace) => (.failed, trace)
        | (.aborted reason, trace) => (.aborted reason, trace)
      else
        let trace := if m.lexicon.isTag symbol then trace else trace.reportUnknown symbol cursor
        (.failed, trace.expect symbol cursor)

/-- Match the first alternative that matches at `position`. -/
def matchFirst (call : Call) (position : Nat) : List Production → Trace → Outcome (List Tree) × Trace
  | [], trace => (.failed, trace)
  | production :: productions, trace =>
    match m.matchSequence call production.rhs position trace with
    | (.failed, trace) => matchFirst call position productions trace
    | result => result

/-! ## Nested matching -/

/-- Match `symbol` at a position, with at most `budget` further nested calls
below the symbols on `path`, each of which is being matched at its position. -/
def matchSymbol (budget : Nat) (path : List (String × Nat)) : Call := fun symbol position trace =>
  match m.grammar.alternatives? symbol with
  | none => (.failed, trace.reportUnknown symbol position)
  | some alternatives =>
    if (symbol, position) ∈ path then
      (.aborted (.cycle symbol position), trace.report (.cycle symbol position))
    else
      match budget with
      | 0 => (.aborted (.tooDeep symbol m.limit), trace.report (.recursionLimit symbol position m.limit))
      | budget + 1 =>
        match m.matchFirst (matchSymbol budget ((symbol, position) :: path)) position alternatives trace with
        | (.matched children stop, trace) => (.matched (.node symbol children) stop, trace)
        | (.failed, trace) => (.failed, trace.report (.noMatch symbol position))
        | (.aborted reason, trace) => (.aborted reason, trace)

/-- Match a symbol at the first token. -/
def run (symbol : String) (trace : Trace) : Outcome Tree × Trace := m.matchSymbol m.limit [] symbol 0 trace

end Matcher

end PhraseStructure
