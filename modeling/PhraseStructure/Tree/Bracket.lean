import PhraseStructure.Tree
/-!
# Bracketed trees

A tree on one line: `(S (NP (det the) (n dog)) (VP (v barks)))`. A leaf is
written as its label.
-/
namespace PhraseStructure.Tree

mutual

/-- The bracketed form of a tree. -/
def bracket : Tree → String
  | node label [] => label
  | node label (child :: children) =>
    "(" ++ label ++ " " ++ child.bracket ++ bracketRest children ++ ")"

/-- The bracketed forms of trees, each after a space. -/
def bracketRest : List Tree → String
  | [] => ""
  | t :: ts => " " ++ t.bracket ++ bracketRest ts

end

end PhraseStructure.Tree
