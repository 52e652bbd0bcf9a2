import PhraseStructure.Text.Columns
import PhraseStructure.Tree
/-!
# Drawn trees

A tree drawn top-down with every label centred over its subtree. A subtree gets
a block of columns wide enough for its label and for the blocks of its children
side by side; labels stand on every other row and, below each label that has
children, the connector to them on the row between.

The layout is computed for any function that measures the width of a text.
-/
namespace PhraseStructure.Tree

/-! ## Blocks -/

/-- The columns between neighbouring blocks. -/
def blockGap : Nat := 2

/-- A subtree with the width of its label and the columns that it takes. -/
inductive Block where
  | mk (label : String) (labelWidth width : Nat) (children : List Block)

namespace Block

/-- The label of the root. -/
def label : Block → String
  | mk label _ _ _ => label

/-- The columns of the label. -/
def labelWidth : Block → Nat
  | mk _ labelWidth _ _ => labelWidth

/-- The columns of the whole block. -/
def width : Block → Nat
  | mk _ _ width _ => width

/-- The blocks below the label. -/
def children : Block → List Block
  | mk _ _ _ children => children

/-- The columns of blocks side by side, with gaps between them. -/
def rowWidth : List Block → Nat
  | [] => 0
  | [b] => b.width
  | b :: bs => b.width + blockGap + rowWidth bs

mutual

/-- The block of a tree. -/
def ofTree (measure : String → Nat) : Tree → Block
  | node label children =>
    let blocks := ofTrees measure children
    mk label (measure label) (max (measure label) (rowWidth blocks)) blocks

/-- The blocks of trees. -/
def ofTrees (measure : String → Nat) : List Tree → List Block
  | [] => []
  | t :: ts => ofTree measure t :: ofTrees measure ts

end

/-- The column where the label starts, if the block starts at column `x`. -/
def labelColumn (b : Block) (x : Nat) : Nat := x + (b.width - b.labelWidth) / 2

/-- The column of the middle of the label, if the block starts at column `x`. -/
def centre (b : Block) (x : Nat) : Nat := b.labelColumn x + (b.labelWidth - 1) / 2

/-- The middle columns of the labels of blocks side by side from column `x`
on. -/
def centres (x : Nat) : List Block → List Nat
  | [] => []
  | b :: bs => b.centre x :: centres (x + b.width + blockGap) bs

end Block

/-! ## Placing -/

/-- A text at a column. -/
structure Placed where
  column : Nat
  text : String
  deriving DecidableEq

/-- The line that joins a label to the centres of its children: a single stroke
to an only child, and otherwise a bar with a cross at every centre. -/
def connector (centres : List Nat) : Placed :=
  let first := centres.headD 0
  let last := centres.getLastD 0
  if first = last then ⟨first, "|"⟩
  else ⟨first, String.ofList ((List.range' first (last + 1 - first)).map fun column =>
    if column ∈ centres then '+' else '-')⟩

/-- Rows side by side: each row of the first drawing continued by that of the
second. -/
def besides : List (List Placed) → List (List Placed) → List (List Placed)
  | [], rows => rows
  | rows, [] => rows
  | row :: rows, row' :: rows' => (row ++ row') :: besides rows rows'

mutual

/-- The rows of a block that starts at column `x`: its label, then the connector
and the rows of its children, which stand in the middle of the block. -/
def place (x : Nat) : Block → List (List Placed)
  | .mk label labelWidth width children =>
    let b := Block.mk label labelWidth width children
    match children with
    | [] => [[⟨b.labelColumn x, label⟩]]
    | child :: rest =>
      let y := x + (width - Block.rowWidth (child :: rest)) / 2
      [⟨b.labelColumn x, label⟩] :: [connector (Block.centres y (child :: rest))] ::
        placeAll y (child :: rest)

/-- The rows of blocks side by side from column `x` on. -/
def placeAll (x : Nat) : List Block → List (List Placed)
  | [] => []
  | b :: bs => besides (place x b) (placeAll (x + b.width + blockGap) bs)

end

/-! ## Text -/

/-- The text of a row from column `cursor` on, with spaces up to the column of
each part. -/
def rowText (measure : String → Nat) (cursor : Nat) : List Placed → String
  | [] => ""
  | p :: ps =>
    "".pushn ' ' (p.column - cursor) ++ p.text ++
      rowText measure (max cursor p.column + measure p.text) ps

/-- The rows of a tree, for a measure of text width. -/
def layout (measure : String → Nat) (t : Tree) : List (List Placed) := place 0 (.ofTree measure t)

/-- The drawing of a tree. -/
def pretty (t : Tree) : String :=
  "\n".intercalate ((t.layout Text.columns).map (rowText Text.columns 0))

end PhraseStructure.Tree
