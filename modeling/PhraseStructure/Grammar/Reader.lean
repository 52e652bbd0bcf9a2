import PhraseStructure.Grammar
import PhraseStructure.Grammar.Error
import PhraseStructure.Text.Definition
/-!
# Reading grammars

A rule file has a rule `LHS -> A B | C` on a line. A later rule for a symbol
replaces the earlier one and keeps its place.
-/
namespace PhraseStructure

/-- A nonterminal with its alternatives, as one line gives them. -/
structure Rule where
  symbol : String
  alternatives : List Production
  deriving DecidableEq

/-- The rule on a line, if the line defines one. Exactly one symbol must stand
before the arrow, and at least one in every alternative, so that each use of a
rule read from a file covers a token. -/
def Rule.ofLine? (line : List Char) : Except RuleDefect (Option Rule) :=
  match Text.sides? line with
  | none => .ok none
  | some (before, after) =>
    match Text.words before with
    | [] => .error .noSymbol
    | _ :: _ :: _ => .error .severalSymbols
    | [name] =>
      let symbol := String.ofList name
      let bodies := (Text.alternatives after).map Text.words
      if bodies.any List.isEmpty then .error .emptyAlternative
      else .ok (some ⟨symbol, bodies.map fun body => ⟨symbol, body.map String.ofList⟩⟩)

namespace Grammar

/-- The grammar with the rule of a numbered line added. -/
def addLine (g : Grammar) : List Char × Nat → Except GrammarError Grammar
  | (line, number) =>
    match Rule.ofLine? line with
    | .error defect => .error (.malformedRule number defect)
    | .ok none => .ok g
    | .ok (some rule) => .ok (g.insert rule.symbol rule.alternatives)

/-- The grammar that a rule text defines. The first malformed line is an error,
and so is a text without rules. -/
def ofText (text : String) : Except GrammarError Grammar := do
  let g ← ((Text.lines text.toList).zipIdx 1).foldlM addLine empty
  if g.isEmpty then throw .empty else return g

/-- Whether sentences can be derived from `start`: an error says why not. -/
def checkStart (g : Grammar) (start : String) : Except GrammarError Unit :=
  if g.isEmpty then .error .empty
  else if g.contains start then .ok ()
  else .error (.missingStart start)

theorem contains_of_checkStart {g : Grammar} {start : String} (h : g.checkStart start = .ok ()) :
    g.contains start = true := by
  unfold checkStart at h
  split at h
  · simp at h
  · split at h
    · assumption
    · simp at h

end Grammar

end PhraseStructure
