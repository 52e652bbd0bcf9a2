/-!
# The bundled grammar

The rules and the lexicon that are used unless others are given.
-/
namespace PhraseStructure.Bundled

/-- The bundled rules. -/
def rules : String :=
  "# Sentences agree in number between the subject and the verb.\n" ++
  "S -> NP_SG VP_SG | NP_PL VP_PL\n" ++
  "\n" ++
  "NP_SG -> det n_sg | det adj n_sg\n" ++
  "NP_PL -> det n_pl | det adj n_pl\n" ++
  "NP -> NP_SG | NP_PL\n" ++
  "\n" ++
  "VP_SG -> v_sg NP\n" ++
  "VP_PL -> v_pl NP\n"

/-- The bundled lexicon. -/
def lexicon : String :=
  "det -> the | a\n" ++
  "adj -> white | black | old | small\n" ++
  "n_sg -> person | dog | cat | child\n" ++
  "n_pl -> people | dogs | cats | children\n" ++
  "v_sg -> likes | dislikes | sees\n" ++
  "v_pl -> like | dislike | see\n"

end PhraseStructure.Bundled
