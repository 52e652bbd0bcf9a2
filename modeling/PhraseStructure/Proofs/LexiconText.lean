import PhraseStructure.Lexicon.Reader
import PhraseStructure.Proofs.LineReadings
import PhraseStructure.Proofs.LowerCase
import PhraseStructure.Tokens
/-!
# Lexicons read from texts

What a lexicon text says is the list of its mentions: every word that a line
lists, with the tag of the line. A text is accepted if no line is malformed, and
its lexicon gives to every lower-case form the tag of the last word that has it
(`tag?_of_ofText`).

Main statement: the words of sentences meet the words of lexicon texts, because
a sentence that is put into lower case and then divided has the tokens that its
words have each by itself.
-/
namespace PhraseStructure

open Text

/-- A line defines an entry if it has an arrow and the text before the first
arrow is not blank. -/
theorem Entry.ofLine?_eq_some_iff {line : List Char} {entry : Entry} :
    Entry.ofLine? line = .ok (some entry) ↔
      ∃ before after, sides? line = some (before, after) ∧ trim before ≠ [] ∧
        entry = ⟨String.ofList (trim before),
          (((alternatives after).map trim).filter (!·.isEmpty)).map String.ofList⟩ := by
  unfold Entry.ofLine?
  constructor
  · intro h
    split at h
    · cases h
    next before after hsides =>
    split at h
    · cases h
    next hne =>
    cases h
    exact ⟨before, after, hsides, hne, rfl⟩
  · rintro ⟨before, after, hsides, hne, rfl⟩
    rw [hsides]
    dsimp only
    split
    · exact absurd ‹_› hne
    · rfl

/-- The words of an entry, with its tag. -/
def Entry.mentions (entry : Entry) : List (String × String) := entry.words.map (·, entry.tag)

namespace Lexicon

/-! ## Mentions -/

/-- The words that a line lists, with their tag. -/
def mentionsOn (line : List Char) : List (String × String) :=
  match Entry.ofLine? line with
  | .ok (some entry) => entry.mentions
  | _ => []

/-- The words that a text lists, with the tags that they are listed under. -/
def mentions (text : String) : List (String × String) := (lines text.toList).flatMap mentionsOn

/-- The tag under which a word with the lower-case form `key` is listed last. -/
def lastTag? (mentions : List (String × String)) (key : String) : Option String :=
  (mentions.reverse.find? fun mention => lowerCase mention.1 == key).map Prod.snd

/-- The lexicon with some words tagged one after the other. -/
def insertAll (l : Lexicon) (mentions : List (String × String)) : Lexicon :=
  mentions.foldl (fun l (word, tag) => l.insert word tag) l

theorem insertAll_eq (l : Lexicon) (ms : List (String × String)) :
    l.insertAll ms = ⟨l.table.insertAll (ms.map fun mention => (lowerCase mention.1, mention.2))⟩ := by
  induction ms generalizing l with
  | nil => rfl
  | cons mention ms ih => exact ih (l.insert mention.1 mention.2)

/-- The words stand in lower case in the order in which they were first
mentioned. -/
theorem words_insertAll (ms : List (String × String)) :
    (empty.insertAll ms).toList.map Prod.fst = (ms.map fun mention => lowerCase mention.1).eraseDups := by
  rw [insertAll_eq, toList]
  exact (Table.keys_insertAll _ _).trans (by rw [List.map_map]; rfl)

/-- A word has the tag of its last mention, or the one that it had before if it
is not mentioned. -/
theorem tag?_insertAll (l : Lexicon) (ms : List (String × String)) (key : String) :
    (l.insertAll ms).tag? key = (lastTag? ms key).or (l.tag? key) := by
  rw [insertAll_eq, tag?, Table.get?_insertAll, ← List.map_reverse, lookup_map_eq_find?]
  rfl

/-! ## Reading -/

theorem lineStep_addLine : LineStep addLine Entry.ofLine? .malformedEntry addEntry where
  error l line number defect h := by rw [addLine, h]
  skip l line number h := by rw [addLine, h]
  define l line number entry h := by rw [addLine, h]

/-- What the lines of a text are read as. -/
def readings (text : String) : List (Except EntryDefect (Option Entry)) := (lines text.toList).map Entry.ofLine?

theorem mentions_eq (text : String) : mentions text = (definitions (readings text)).flatMap Entry.mentions := by
  rw [mentions, readings]
  induction lines text.toList with
  | nil => rfl
  | cons line ls ih =>
    rw [List.flatMap_cons, ih, mentionsOn, List.map_cons]
    cases Entry.ofLine? line with
    | error defect => rfl
    | ok entry? => cases entry? <;> rfl

theorem foldl_addEntry (l : Lexicon) (entries : List Entry) :
    entries.foldl addEntry l = l.insertAll (entries.flatMap Entry.mentions) := by
  rw [insertAll, List.foldl_flatMap]
  refine List.foldl_ext _ _ _ fun l entry _ => ?_
  rw [addEntry, Entry.mentions, List.foldl_map]

/-- The first malformed line is an error. -/
theorem ofText_of_firstDefect {text : String} {i : Nat} {defect : EntryDefect}
    (h : FirstDefect (readings text) i defect) : ofText text = .error (.malformedEntry (i + 1) defect) := by
  rw [ofText, lineStep_addLine.foldlM_of_firstDefect h, Nat.add_comm 1 i]

/-- A text is accepted if no line of it is malformed, and defines the lexicon of
its mentions. -/
theorem ofText_eq_ok_iff {text : String} {l : Lexicon} :
    ofText text = .ok l ↔
      (∀ line ∈ lines text.toList, (Entry.ofLine? line).isOk = true) ∧
        l = empty.insertAll (mentions text) := by
  rw [ofText, lineStep_addLine.foldlM_eq_ok_iff, noDefect_map_iff, foldl_addEntry, mentions_eq]
  rfl

theorem tag?_of_ofText {text : String} {l : Lexicon} (h : ofText text = .ok l) (key : String) :
    l.tag? key = lastTag? (mentions text) key := by
  rw [(ofText_eq_ok_iff.1 h).2, tag?_insertAll]
  exact Option.or_none

end Lexicon

/-! ## Tokens -/

/-- A sentence may as well be divided into words before they are put into lower
case. -/
theorem tokenize_eq_map_lowerCase (sentence : String) :
    tokenize sentence = (words sentence.toList).map fun word => lowerCase (String.ofList word) := by
  rw [tokenize, words_lower, List.map_map]
  refine List.map_congr_left fun word _ => ?_
  simp [lowerCase]

/-! ## Main theorem -/

/-- The tokens of a sentence are the lower-case forms of its words. So a word of
a sentence that has the same lower-case form as a word of a lexicon text has the
tag under which the text lists the latter last, whatever stands next to it. -/
theorem tokenize_meets_lexicon :
    (∀ sentence, tokenize sentence = (words sentence.toList).map fun word => lowerCase (String.ofList word)) ∧
    ∀ text l, Lexicon.ofText text = .ok l →
      ∀ word tag, Lexicon.lastTag? (Lexicon.mentions text) (lowerCase word) = some tag →
      ∀ (sentence : String) (i : Nat) (piece : List Char), (words sentence.toList)[i]? = some piece →
        lowerCase (String.ofList piece) = lowerCase word →
        ∃ token, (tokenize sentence)[i]? = some token ∧ l.tag? token = some tag := by
  refine ⟨tokenize_eq_map_lowerCase, fun text l hl word tag htag sentence i piece hpiece hlower => ?_⟩
  refine ⟨lowerCase word, ?_, ?_⟩
  · rw [tokenize_eq_map_lowerCase, List.getElem?_map, hpiece, Option.map_some, hlower]
  · rw [Lexicon.tag?_of_ofText hl, htag]

/-- A capital sigma at the end of words, which the text lists with and without a
mark after it. -/
def sigmaText : String := "N -> ΣΟΦΟΣ | Ship\nV -> σοφός | SHIP | ΣΟΦΟΣ.ή\n"

theorem tokenize_meets_lexicon_sigma :
    ∃ l, Lexicon.ofText sigmaText = .ok l ∧
    (∃ token, (tokenize "Ο σοφοΣ ΣΟΦΌΣ ship")[1]? = some token ∧ l.tag? token = some "N") ∧
    (∃ token, (tokenize "Ο σοφοΣ ΣΟΦΌΣ ship")[2]? = some token ∧ l.tag? token = some "V") ∧
    ∃ token, (tokenize "Ο σοφοΣ ΣΟΦΌΣ ship")[3]? = some token ∧ l.tag? token = some "V" := by
  have hl : Lexicon.ofText sigmaText = .ok (Lexicon.empty.insertAll (Lexicon.mentions sigmaText)) :=
    Lexicon.ofText_eq_ok_iff.2 ⟨by decide +kernel, rfl⟩
  have htag := tokenize_meets_lexicon.2 sigmaText _ hl
  refine ⟨_, hl, ?_, ?_, ?_⟩
  · exact htag "ΣΟΦΟΣ" "N" (by decide +kernel) _ 1 "σοφοΣ".toList (by decide +kernel) (by decide +kernel)
  · exact htag "σοφός" "V" (by decide +kernel) _ 2 "ΣΟΦΌΣ".toList (by decide +kernel) (by decide +kernel)
  · exact htag "Ship" "V" (by decide +kernel) _ 3 "ship".toList (by decide +kernel) (by decide +kernel)

end PhraseStructure
