import PhraseStructure.Proofs.DefinitionLines
import PhraseStructure.Proofs.LexiconText
/-!
# What a lexicon text defines

How a line of a lexicon text is read, said without the reader: `Entry.ReadAs` is
a classification of lines by comments, first arrows and blanks. It reads every
line in one way, which is the one that the reader takes (`readAs_iff`).

Main statement: the lexicon of a text has the lower-case forms of the words that
the text mentions, in the order in which they are first mentioned, each with the
tag of its last mention; the first malformed line of a text is reported instead.
-/
namespace PhraseStructure

open Text

/-! ## Entry lines -/

namespace Entry

/-- How a line is read. A comment and a line without an arrow define nothing;
any other line is malformed if there are only blanks before its first arrow, and
otherwise lists what the bars divide, without what is blank. -/
inductive ReadAs : List Char → Except EntryDefect (Option Entry) → Prop
  | comment {line : List Char} : IsComment line → ReadAs line (.ok none)
  | arrowless {line : List Char} : Arrowless line → ReadAs line (.ok none)
  | malformed {line before after : List Char} : HasSides line before after →
      (∀ c ∈ before, isBlank c = true) → ReadAs line (.error .noTag)
  | entry {line before after : List Char} : HasSides line before after →
      ¬ (∀ c ∈ before, isBlank c = true) →
      ReadAs line (.ok (some ⟨String.ofList (trim before),
        (((pieces (· == '|') after).map trim).filter (!·.isEmpty)).map String.ofList⟩))

variable {line : List Char}

theorem ofLine?_of_readAs {reading : Except EntryDefect (Option Entry)} (h : ReadAs line reading) :
    Entry.ofLine? line = reading := by
  cases h with
  | comment h => rw [Entry.ofLine?, sides?_eq_none_iff.2 (.inl h)]
  | arrowless h => rw [Entry.ofLine?, sides?_eq_none_iff.2 (.inr h)]
  | malformed hsides hblank =>
    rw [Entry.ofLine?, sides?_eq_some_iff.2 hsides]
    dsimp only
    rw [trim_eq_nil_iff.2 hblank]
  | entry hsides hblank =>
    rw [← trim_eq_nil_iff] at hblank
    exact Entry.ofLine?_eq_some_iff.2 ⟨_, _, sides?_eq_some_iff.2 hsides, hblank, rfl⟩

/-- Every line is read in some way. -/
theorem exists_readAs (line : List Char) : ∃ reading, ReadAs line reading := by
  rcases isComment_or_arrowless_or_hasSides line with h | h | ⟨before, after, hsides⟩
  · exact ⟨_, .comment h⟩
  · exact ⟨_, .arrowless h⟩
  · by_cases hblank : ∀ c ∈ before, isBlank c = true
    · exact ⟨_, .malformed hsides hblank⟩
    · exact ⟨_, .entry hsides hblank⟩

/-- The reader reads every line in the only way in which it can be read. -/
theorem readAs_iff :
    ∀ (line : List Char) (reading : Except EntryDefect (Option Entry)), ReadAs line reading ↔ Entry.ofLine? line = reading :=
  readAs_iff_of_total (fun _ _ => ofLine?_of_readAs) exists_readAs

end Entry

/-! ## Main theorem -/

namespace Lexicon

/-- The lines of a text are read in one way each. If some line is malformed, the
first such line is reported with its number. Otherwise the words are the
lower-case forms of all words that the lines list, each once, in the order in
which they are first listed, and each has the tag under which it is listed last;
the tags of these words are the only tags. -/
theorem ofText_last_tags (text : String) :
    ∃ readings : List (Except EntryDefect (Option Entry)),
      (∀ readings', List.Forall₂ Entry.ReadAs (lines text.toList) readings' ↔ readings' = readings) ∧
      ((∃ i, FirstDefect readings i .noTag ∧ ofText text = .error (.malformedEntry (i + 1) .noTag)) ∨
        (NoDefect readings ∧ ∃ l mentions, ofText text = .ok l ∧
          mentions = (definitions readings).flatMap Entry.mentions ∧
          l.toList.map Prod.fst = (mentions.map fun mention => lowerCase mention.1).eraseDups ∧
          (∀ word, l.tag? word = lastTag? mentions word) ∧
          ∀ tag, l.isTag tag = true ↔ ∃ word, lastTag? mentions word = some tag)) := by
  refine ⟨readings text, fun readings' => forall₂_iff_eq_map Entry.readAs_iff, ?_⟩
  rcases noDefect_or_firstDefect (readings text) with h | ⟨i, defect, h⟩
  · have hl : ofText text = .ok (empty.insertAll (mentions text)) := ofText_eq_ok_iff.2 ⟨noDefect_map_iff.1 h, rfl⟩
    have htag := tag?_of_ofText hl
    refine .inr ⟨h, _, mentions text, hl, mentions_eq text, words_insertAll _, htag, fun tag => ?_⟩
    rw [isTag_iff]
    exact exists_congr fun word => by rw [htag]
  · cases defect
    exact .inl ⟨i, h, ofText_of_firstDefect h⟩

/-- A word that comes again in another case keeps its place and changes its
tag. -/
example : (ofText "N -> Ab | c\n# ->\nV -> aB").map toList = .ok [("ab", "V"), ("c", "N")] := by rfl

end Lexicon

end PhraseStructure
