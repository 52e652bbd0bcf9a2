import PhraseStructure.Tree.Preorder
/-!
# Outlined trees

One label on a line, indented by two spaces for every level.
-/
namespace PhraseStructure.Tree

/-- A label with the indentation of its depth. -/
def outlineLine : Nat × String → String
  | (depth, label) => "".pushn ' ' (2 * depth) ++ label

/-- The outline of a tree. -/
def outline (t : Tree) : String := "\n".intercalate (t.labels.map outlineLine)

end PhraseStructure.Tree
