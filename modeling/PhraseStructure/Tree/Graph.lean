import PhraseStructure.Tree
import PhraseStructure.Tree.Colour
/-!
# Trees as graphs

A tree as the statements of a graph description: nodes numbered in pre-order,
and an edge to every child right before the child's own statement. Leaves are
boxes in the colour of their parent.
-/
namespace PhraseStructure.Tree

/-! ## Statements -/

/-- A statement of a graph description. -/
inductive Statement where
  | node (id : Nat) (label : String) (isBox : Bool) (colour : Colour)
  | edge (source target : Nat) (colour : Colour) (isBold : Bool)
  deriving DecidableEq

mutual

/-- The statements of a tree whose root has number `id`, and the first number
after the tree. A leaf has the colour `inherited` from its parent. -/
def statements (inherited : Colour) (id : Nat) : Tree → List Statement × Nat
  | .node label [] => ([.node id label true inherited], id + 1)
  | .node label (child :: children) =>
    let colour := Colour.ofSymbol label
    let (below, next) := statementsBelow colour id (id + 1) (child :: children)
    (.node id label false colour :: below, next)

/-- The statements of the children of node `parent`, numbered from `id`: for
each child the edge to it and its own statements. -/
def statementsBelow (colour : Colour) (parent id : Nat) : List Tree → List Statement × Nat
  | [] => ([], id)
  | t :: ts =>
    let (first, next) := statements colour id t
    let (rest, last) := statementsBelow colour parent next ts
    (.edge parent id colour (!t.isLeaf) :: (first ++ rest), last)

end

/-- The statements of a whole tree. -/
def graph (t : Tree) : List Statement := (t.statements .black 0).1

/-! ## Text -/

/-- A character as it stands in a quoted label. -/
def labelChar (c : Char) : String :=
  if c = '\\' then "\\\\" else if c = '"' then "\\\"" else String.singleton c

/-- A label as it stands between quotes: backslashes and quotes have a backslash
before them. -/
def escapeLabel (label : String) : String := String.join (label.toList.map labelChar)

/-- An attribute with its value in quotes. -/
def quotedAttribute (name value : String) : String := name ++ "=\"" ++ value ++ "\""

/-- The text of a statement. -/
def Statement.text : Statement → String
  | node id label isBox colour =>
    toString id ++ " [" ++ " ".intercalate
      [quotedAttribute "label" (escapeLabel label), quotedAttribute "shape" (if isBox then "box" else "none"),
        quotedAttribute "color" colour.hex, quotedAttribute "fontcolor" colour.hex] ++ "]"
  | edge source target colour isBold =>
    toString source ++ " -> " ++ toString target ++ " [" ++ " ".intercalate
      ([quotedAttribute "color" colour.hex, quotedAttribute "arrowhead" "none"] ++
        if isBold then [quotedAttribute "style" "bold"] else []) ++ "]"

/-- The graph description of a tree, one statement on a line. -/
def dot (t : Tree) : String :=
  "digraph \x7b\n" ++ "\n".intercalate (t.graph.map Statement.text) ++ "\n\x7d\n"

end PhraseStructure.Tree
