import PhraseStructure.Lexicon
/-!
# Grammars

A grammar gives each of its nonterminals the list of its alternatives, in the
order in which they are tried. Symbols are bare names: whether one stands for a
tag or a phrase is decided by the lexicon and the grammar together.
-/
namespace PhraseStructure

/-! ## Productions -/

/-- One alternative of a rule, `lhs -> rhs₁ rhs₂ …`. -/
structure Production where
  lhs : String
  rhs : List String
  deriving DecidableEq

/-- A production as it is written in a rule file. -/
def Production.text (p : Production) : String := p.lhs ++ " -> " ++ " ".intercalate p.rhs

/-! ## Rule tables -/

/-- The nonterminals with their alternatives. -/
structure Grammar where
  table : Table (List Production)

namespace Grammar

/-- The grammar without rules. -/
def empty : Grammar := ⟨.empty⟩

instance : Inhabited Grammar := ⟨empty⟩

/-- The number of nonterminals. -/
def size (g : Grammar) : Nat := g.table.size

/-- Whether the grammar has no rules. -/
def isEmpty (g : Grammar) : Bool := g.table.isEmpty

/-- The alternatives of a symbol, if it has a rule. -/
def alternatives? (g : Grammar) (symbol : String) : Option (List Production) := g.table.get? symbol

/-- Whether the symbol has a rule. -/
def contains (g : Grammar) (symbol : String) : Bool := g.table.contains symbol

/-- The nonterminals, in table order. -/
def nonterminals (g : Grammar) : List String := g.table.keys

/-- All alternatives, in table order. -/
def productions (g : Grammar) : List Production := g.table.values.flatten

/-- The grammar with the alternatives of `symbol` set; an earlier rule for it is
replaced. -/
def insert (g : Grammar) (symbol : String) (alternatives : List Production) : Grammar :=
  ⟨g.table.insert symbol alternatives⟩

/-- The symbols that some alternative uses although they have no rule and tag no
word of `lexicon`, each once, in order of first use. -/
def undefinedSymbols (g : Grammar) (lexicon : Lexicon) : List String :=
  ((g.productions.flatMap Production.rhs).filter fun symbol =>
    !g.contains symbol && !lexicon.isTag symbol).eraseDups

/-- Two grammars are equal if they have the same nonterminals, in any order, and
every nonterminal has the same alternatives in the same order. -/
instance : BEq Grammar where
  beq g h := g.size == h.size &&
    g.table.entries.all fun (symbol, alternatives) => h.alternatives? symbol == some alternatives

theorem alternatives?_insert (g : Grammar) (symbol : String) (alternatives : List Production) (s : String) :
    (g.insert symbol alternatives).alternatives? s =
      if s = symbol then some alternatives else g.alternatives? s :=
  Table.get?_insert ..

end Grammar

end PhraseStructure
