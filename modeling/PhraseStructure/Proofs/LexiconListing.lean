import Mathlib.Data.List.Nodup
import PhraseStructure.Proofs.FirstOccurrences
import PhraseStructure.Proofs.LexiconText
import PhraseStructure.Report
/-!
# Printed lexicons

A lexicon is printed with one line for each tag. What can be read back is what
reading gives in the first place: `Lexicon.Legible` says which words and tags a
line can list, and the words and tags of a lexicon that was read from a text are
legible (`legible_of_ofText`).

Main statement: a lexicon that was read from a text is printed as a text that
defines the same tags, and the same words under each tag.
-/
namespace PhraseStructure

open Text

/-! ## Words and tags that can be read -/

/-- A text that can stand between the bars of a line and lists a word there. -/
structure IsListed (word : List Char) : Prop where
  ne_nil : word ≠ []
  trimmed : Trimmed word
  not_divider : ∀ c ∈ word, dividerRanges.contains c = false

theorem IsListed.lower {word : List Char} (h : IsListed word) : IsListed (lower word) where
  ne_nil := lower_ne_nil h.ne_nil
  trimmed := trimmed_lower h.trimmed
  not_divider := caseless_divider.not_contains_lower h.not_divider

theorem not_divider {c : Char} (hnewline : c ≠ '\n') (hbar : c ≠ '|') : dividerRanges.contains c = false := by
  refine Bool.eq_false_iff.2 fun hc => ?_
  obtain ⟨r, hr, hlow, hhigh⟩ := CodePoints.contains_iff.1 hc
  rcases List.mem_pair.1 hr with rfl | rfl
  · exact hnewline (Char.toNat_inj.1 (Nat.le_antisymm hhigh hlow))
  · exact hbar (Char.toNat_inj.1 (Nat.le_antisymm hhigh hlow))

/-- A tag with words that a line can define. -/
structure Entry.Legible (entry : Entry) : Prop where
  tag : IsName entry.tag.toList
  tag_line : '\n' ∉ entry.tag.toList
  words : ∀ word ∈ entry.words, IsListed word.toList

/-- The entry on a line of a text is legible. -/
theorem Entry.legible_of_ofLine? {line : List Char} (hline : '\n' ∉ line) {entry : Entry}
    (h : Entry.ofLine? line = .ok (some entry)) : entry.Legible := by
  obtain ⟨before, after, hsides, hne, rfl⟩ := Entry.ofLine?_eq_some_iff.1 h
  have hcut := (sides?_eq_some_iff.1 hsides).eq_append
  constructor
  · simpa using isName_of_sides? hsides hne
  · rw [String.toList_ofList]
    intro hmem
    exact hline (by rw [hcut]; exact List.mem_append_left _ ((isInfix_trim before).subset hmem))
  · intro word hword
    obtain ⟨w, hw, rfl⟩ := List.mem_map.1 hword
    obtain ⟨hw, hwne⟩ := List.mem_filter.1 hw
    obtain ⟨body, hbody, rfl⟩ := List.mem_map.1 hw
    rw [String.toList_ofList]
    refine ⟨by simpa using hwne, trimmed_trim body, fun c hc => not_divider ?_ ?_⟩
    · rintro rfl
      have hafter : '\n' ∈ after := subset_of_mem_pieces hbody ((isInfix_trim body).subset hc)
      exact hline (by rw [hcut]; simp [hafter])
    · rintro rfl
      have hbar := not_of_mem_pieces hbody '|' ((isInfix_trim body).subset hc)
      simp at hbar

/-! ## Entries -/

namespace Entry

/-- An entry as it is printed on a line. -/
def text (entry : Entry) : String := "  " ++ entry.tag ++ " -> " ++ " | ".intercalate entry.words

theorem toList_text (entry : Entry) :
    entry.text.toList = definitionLine 2 entry.tag.toList (entry.words.map String.toList) := by
  simp [text, definitionLine, List.replicate]

variable {entry : Entry}

/-- An entry that a line can define is read from the line that it is printed
as. -/
theorem Legible.ofLine?_text (h : entry.Legible) (hne : entry.words ≠ []) :
    Entry.ofLine? entry.text.toList = .ok (some entry) := by
  have hlisted : ∀ w ∈ entry.words.map String.toList, IsListed w := by simpa using h.words
  have hread : (alternatives (' ' :: [' ', '|', ' '].intercalate (entry.words.map String.toList))).map trim =
      entry.words.map String.toList := by
    rw [map_alternatives_intercalate trim (trim_cons_blank isBlank_space) (trim_append_blank isBlank_space)]
    · exact List.map_congr_left (fun w hw => trim_of_trimmed (hlisted w hw).trimmed) |>.trans (List.map_id _)
    · simpa using hne
    · intro w hw hbar
      exact absurd ((hlisted w hw).not_divider '|' hbar) (by decide)
  have hwords : (entry.words.map String.toList).filter (!·.isEmpty) = entry.words.map String.toList := by
    refine List.filter_eq_self.2 fun w hw => ?_
    simpa using (hlisted w hw).ne_nil
  rw [toList_text]
  refine Entry.ofLine?_eq_some_iff.2 ⟨_, _, sides?_definitionLine h.tag 2 _, ?_, ?_⟩
  · rw [trim_indented_name h.tag]
    exact h.tag.ne_nil
  · rw [trim_indented_name h.tag, hread, hwords, List.map_map]
    simp [Function.comp_def]

theorem Legible.fitsLine_text (h : entry.Legible) (hne : entry.words ≠ []) : FitsLine entry.text.toList := by
  rw [toList_text]
  refine fitsLine_definitionLine 2 h.tag_line (by simpa using hne) fun w hw => ?_
  obtain ⟨word, hword, rfl⟩ := List.mem_map.1 hw
  have hlisted := h.words word hword
  exact ⟨hlisted.ne_nil, hlisted.trimmed, fun hc => absurd (hlisted.not_divider _ hc) (by decide)⟩

end Entry

namespace Lexicon

/-! ## Grouping by tags -/

section
variable {l : Lexicon}

/-- The words with their tags, in the order in which they are grouped by the
tags. -/
def regrouped (l : Lexicon) : List (String × String) := grouped l.table.values.eraseDups l.toList

theorem perm_regrouped (l : Lexicon) : l.regrouped.Perm l.toList := by
  refine perm_grouped (nodup_eraseDups _) fun entry he => ?_
  rw [List.mem_eraseDups]
  exact List.mem_map_of_mem he

theorem nodup_words_regrouped (l : Lexicon) : (l.regrouped.map Prod.fst).Nodup :=
  (l.perm_regrouped.map Prod.fst).nodup_iff.2 l.table.nodup_keys

theorem mem_regrouped {word tag : String} : (word, tag) ∈ l.regrouped ↔ l.tag? word = some tag := by
  rw [l.perm_regrouped.mem_iff, tag?, Table.get?_eq_some_iff, toList]

theorem flatMap_byTag (l : Lexicon) : l.byTag.flatMap (fun (tag, words) => words.map (·, tag)) = l.regrouped := by
  rw [byTag_eq, regrouped, grouped, List.flatMap_map]
  refine List.flatMap_congr fun tag _ => ?_
  dsimp only
  rw [List.map_map]
  refine (List.map_congr_left fun entry he => ?_).trans (List.map_id _)
  obtain ⟨-, htag⟩ := List.mem_filter.1 he
  rw [beq_iff_eq] at htag
  rw [← htag]
  rfl

theorem words_byTag (l : Lexicon) : l.byTag.flatMap Prod.snd = l.regrouped.map Prod.fst := by
  rw [← flatMap_byTag, List.map_flatMap]
  refine List.flatMap_congr fun group _ => ?_
  rw [List.map_map]
  exact (List.map_id _).symm

theorem tag?_eq_some_iff_byTag {word tag : String} :
    l.tag? word = some tag ↔ ∃ words, (tag, words) ∈ l.byTag ∧ word ∈ words := by
  rw [← mem_regrouped, ← flatMap_byTag, List.mem_flatMap]
  constructor
  · rintro ⟨⟨tag', words⟩, hgroup, hmem⟩
    obtain ⟨word', hword, he⟩ := List.mem_map.1 hmem
    cases he
    exact ⟨words, hgroup, hword⟩
  · rintro ⟨words, hgroup, hword⟩
    exact ⟨_, hgroup, List.mem_map_of_mem hword⟩

/-- A lexicon that lists the words of another one as they are grouped there has
the same groups. -/
theorem byTag_eq_of_regrouped {m : Lexicon} (h : m.toList = l.regrouped) : m.byTag = l.byTag := by
  have hvalues : m.table.values.eraseDups = l.table.values.eraseDups := by
    have hcover : ∀ tag ∈ l.table.values.eraseDups, ∃ entry ∈ l.toList, entry.2 = tag := by
      intro tag htag
      rw [List.mem_eraseDups] at htag
      exact List.mem_map.1 htag
    change (m.toList.map Prod.snd).eraseDups = _
    rw [h, regrouped, eraseDups_grouped (nodup_eraseDups _) hcover]
  rw [byTag_eq, byTag_eq, hvalues, h]
  refine List.map_congr_left fun tag htag => ?_
  rw [regrouped, filter_grouped (nodup_eraseDups _) htag]

end

/-! ## Reading back -/

/-- Every word and every tag can be read from a line, and the words are in lower
case. -/
structure Legible (l : Lexicon) : Prop where
  word : ∀ word tag, l.tag? word = some tag → IsListed word.toList ∧ lowerCase word = word
  tag : ∀ word tag, l.tag? word = some tag → IsName tag.toList ∧ '\n' ∉ tag.toList

theorem mem_mentionsOn {line : List Char} {word tag : String} (h : (word, tag) ∈ mentionsOn line) :
    ∃ entry, Entry.ofLine? line = .ok (some entry) ∧ word ∈ entry.words ∧ tag = entry.tag := by
  unfold mentionsOn at h
  split at h
  · next entry he =>
    obtain ⟨w, hw, heq⟩ := List.mem_map.1 h
    cases heq
    exact ⟨entry, he, hw, rfl⟩
  · cases h

/-- A lexicon that was read from a text is legible. -/
theorem legible_of_ofText {text : String} {l : Lexicon} (h : ofText text = .ok l) : l.Legible := by
  have hmention : ∀ word tag, l.tag? word = some tag →
      ∃ w, IsListed w.toList ∧ word = lowerCase w ∧ IsName tag.toList ∧ '\n' ∉ tag.toList := by
    intro word tag htag
    rw [tag?_of_ofText h, lastTag?, Option.map_eq_some_iff] at htag
    obtain ⟨⟨w, tag⟩, hfind, rfl⟩ := htag
    have hlower : lowerCase w = word := by simpa using List.find?_some hfind
    obtain ⟨line, hline, hmem⟩ := List.mem_flatMap.1 (List.mem_reverse.1 (List.mem_of_find?_eq_some hfind))
    obtain ⟨entry, hread, hw, rfl⟩ := mem_mentionsOn hmem
    have hentry := Entry.legible_of_ofLine? (newline_not_mem_of_mem_lines hline) hread
    exact ⟨w, hentry.words w hw, hlower.symm, hentry.tag, hentry.tag_line⟩
  constructor
  · intro word tag htag
    obtain ⟨w, hw, rfl, -⟩ := hmention word tag htag
    exact ⟨by simpa [lowerCase] using hw.lower, lowerCase_lowerCase w⟩
  · intro word tag htag
    obtain ⟨w, -, -, hname⟩ := hmention word tag htag
    exact hname

/-- The entries that a lexicon is printed as. -/
def entries (l : Lexicon) : List Entry := l.byTag.map fun (tag, words) => ⟨tag, words⟩

theorem listing_eq_map_text (l : Lexicon) : l.listing = l.entries.map Entry.text := by
  rw [listing, entries, List.map_map]
  rfl

theorem insertAll_of_lowerCase {l : Lexicon} {ms : List (String × String)}
    (h : ∀ mention ∈ ms, lowerCase mention.1 = mention.1) : l.insertAll ms = ⟨l.table.insertAll ms⟩ := by
  have hmap : (ms.map fun mention => (lowerCase mention.1, mention.2)) = ms := by
    refine (List.map_congr_left fun mention hm => ?_).trans (List.map_id ms)
    rw [h mention hm]
    rfl
  rw [insertAll_eq, hmap]

namespace Legible

variable {l : Lexicon} (h : l.Legible)
include h

theorem legible_entries : ∀ entry ∈ l.entries, entry.Legible ∧ entry.words ≠ [] := by
  intro entry hentry
  obtain ⟨⟨tag, words⟩, hgroup, rfl⟩ := List.mem_map.1 hentry
  have htag : ∀ word ∈ words, l.tag? word = some tag :=
    fun word hword => tag?_eq_some_iff_byTag.2 ⟨words, hgroup, hword⟩
  have hne : words ≠ [] := by
    rw [byTag_eq] at hgroup
    obtain ⟨t, ht, he⟩ := List.mem_map.1 hgroup
    cases he
    rw [List.mem_eraseDups] at ht
    obtain ⟨e, hmem, rfl⟩ := List.mem_map.1 ht
    exact List.ne_nil_of_mem (List.mem_map_of_mem (List.mem_filter.2 ⟨hmem, beq_self_eq_true _⟩))
  obtain ⟨word, hword⟩ := List.exists_mem_of_ne_nil words hne
  obtain ⟨hname, hline⟩ := h.tag word tag (htag word hword)
  exact ⟨⟨hname, hline, fun w hw => (h.word w tag (htag w hw)).1⟩, hne⟩

theorem lines_listing : lines (unlines l.listing).toList = l.entries.map fun entry => entry.text.toList := by
  rw [listing_eq_map_text, lines_unlines, List.map_map]
  · rfl
  · intro line hline
    obtain ⟨entry, hentry, rfl⟩ := List.mem_map.1 hline
    obtain ⟨hlegible, hne⟩ := h.legible_entries entry hentry
    exact hlegible.fitsLine_text hne

theorem mentions_listing : mentions (unlines l.listing) = l.regrouped := by
  rw [mentions, h.lines_listing, List.flatMap_map, ← flatMap_byTag, entries, List.flatMap_map]
  refine List.flatMap_congr fun group hgroup => ?_
  obtain ⟨hlegible, hne⟩ := h.legible_entries _ (List.mem_map_of_mem hgroup)
  rw [mentionsOn, hlegible.ofLine?_text hne]
  rfl

/-- A legible lexicon is printed as a text that lists its words as they are
grouped. -/
theorem ofText_listing_eq : ∃ m, ofText (unlines l.listing) = .ok m ∧ m.toList = l.regrouped := by
  have hread : ∀ line ∈ lines (unlines l.listing).toList, (Entry.ofLine? line).isOk = true := by
    intro line hline
    rw [h.lines_listing] at hline
    obtain ⟨entry, hentry, rfl⟩ := List.mem_map.1 hline
    obtain ⟨hlegible, hne⟩ := h.legible_entries entry hentry
    rw [hlegible.ofLine?_text hne]
    rfl
  have hlower : ∀ mention ∈ l.regrouped, lowerCase mention.1 = mention.1 :=
    fun mention hm => (h.word _ _ (mem_regrouped.1 hm)).2
  refine ⟨_, ofText_eq_ok_iff.2 ⟨hread, rfl⟩, ?_⟩
  rw [h.mentions_listing, insertAll_of_lowerCase hlower]
  exact Table.entries_insertAll l.nodup_words_regrouped

end Legible

/-! ## Main theorem -/

/-- A lexicon that was read from a text is printed, one line for each tag, as a
text that is read again, and what is read gives to every string the same tag and
has the same words under the same tags, all in their order. Every word stands
exactly once in the groups, under its own tag, and no others do. -/
theorem ofText_listing (text : String) (l : Lexicon) (h : ofText text = .ok l) :
    (∃ m, ofText (unlines l.listing) = .ok m ∧ (∀ word, m.tag? word = l.tag? word) ∧ m.byTag = l.byTag) ∧
    (∀ word tag, l.tag? word = some tag ↔ ∃ words, (tag, words) ∈ l.byTag ∧ word ∈ words) ∧
    ∀ word tag, l.tag? word = some tag → (l.byTag.flatMap Prod.snd).count word = 1 := by
  refine ⟨?_, fun word tag => tag?_eq_some_iff_byTag, fun word tag htag => ?_⟩
  · obtain ⟨m, hm, hlist⟩ := (legible_of_ofText h).ofText_listing_eq
    have hperm : m.toList.Perm l.toList := hlist ▸ l.perm_regrouped
    exact ⟨m, hm, Table.get?_eq_of_perm hperm, byTag_eq_of_regrouped hlist⟩
  · rw [words_byTag]
    exact List.count_eq_one_of_mem l.nodup_words_regrouped (List.mem_map_of_mem (mem_regrouped.2 htag))

/-- A text with words that hold blanks, arrows and capital sigmas, tags that
hold bars and parts of arrows, a comment, and a word that gets another tag. -/
def oddText : String := "N--> ΣΟΦΟΣ | Big \tShip->x |\r\n#x -> y\nA|B -> a | | σοφοΣ\nN- -> c\rΣ d"

theorem ofText_listing_oddText : ∃ l, ofText oddText = .ok l ∧
    l.byTag = [("A|B", ["σοφος", "a"]), ("N-", ["big \tship->x", "c\rσ d"])] ∧
    l.listing = ["  A|B -> σοφος | a", "  N- -> big \tship->x | c\rσ d"] ∧
    (∃ m, ofText (unlines l.listing) = .ok m ∧ (∀ word, m.tag? word = l.tag? word) ∧ m.byTag = l.byTag) ∧
    (l.byTag.flatMap Prod.snd).count "σοφος" = 1 := by
  have h : ofText oddText = .ok (empty.insertAll (mentions oddText)) :=
    ofText_eq_ok_iff.2 ⟨by decide +kernel, rfl⟩
  obtain ⟨hread, -, hcount⟩ := ofText_listing oddText _ h
  exact ⟨_, h, by decide +kernel, by decide +kernel, hread, hcount "σοφος" "A|B" (by decide +kernel)⟩

end Lexicon

end PhraseStructure
