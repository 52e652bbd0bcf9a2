import PhraseStructure.Proofs.Derivation
import PhraseStructure.Proofs.GrammarSource
import PhraseStructure.Proofs.Labels
import PhraseStructure.Tree.Outline
/-!
# Reading outlines

A label that is a single word cannot be taken for the indentation of its line,
nor for the end of the line, so that the lines of an outline give the labels of
the tree back with their depths (`map_outlineEntry_lines`). The labels of a tree
that a parser accepts are such words: they are symbols of its grammar and words
of the sentence (`Phrase.everyLabel`).

Main statement: a tree is determined by its labels in pre-order, and by its
outline if its labels are single words.
-/
namespace PhraseStructure

open Text

/-! ## Words -/

/-- The text is a single word: it is not empty and holds no blank. -/
structure IsWord (s : String) : Prop where
  ne_empty : s ≠ ""
  not_blank : ∀ c ∈ s.toList, isBlank c = false

instance (s : String) : Decidable (IsWord s) :=
  decidable_of_iff (s ≠ "" ∧ s.toList.all (!isBlank ·) = true)
    ⟨fun h => ⟨h.1, by simpa using h.2⟩, fun h => ⟨h.ne_empty, by simpa using h.not_blank⟩⟩

namespace IsWord

variable {s : String}

theorem not_mem (h : IsWord s) {c : Char} (hc : isBlank c = true) : c ∉ s.toList := by
  intro hmem
  rw [h.not_blank c hmem] at hc
  cases hc

theorem ofList {w : List Char} {cs : List Char} (h : w ∈ words cs) : IsWord (String.ofList w) := by
  obtain ⟨hne, hblank⟩ := mem_words h
  exact ⟨by simpa using hne, by simpa using hblank⟩

end IsWord

/-! ## Lines of an outline -/

namespace Tree

theorem toList_spaces (n : Nat) : ("".pushn ' ' n).toList = List.replicate n ' ' := by
  induction n with
  | zero => rfl
  | succ n ih =>
    have hsucc : "".pushn ' ' (n + 1) = ("".pushn ' ' n).push ' ' := rfl
    rw [hsucc, String.toList_push, ih, List.replicate_succ']

/-- The depth and the label on a line of an outline. -/
def outlineEntry (line : List Char) : Nat × String :=
  ((line.takeWhile (· == ' ')).length / 2, String.ofList (line.dropWhile (· == ' ')))

/-- The tree that an outline shows, if it shows one. -/
def ofOutline? (s : String) : Option Tree := rebuild? ((pieces (· == '\n') s.toList).map outlineEntry)

theorem outlineEntry_outlineLine {entry : Nat × String} (h : IsWord entry.2) :
    outlineEntry (outlineLine entry).toList = entry := by
  obtain ⟨depth, label⟩ := entry
  have hspaces : ∀ c ∈ List.replicate (2 * depth) ' ', (c == ' ') = true := by simp
  have hlabel : ∀ c ∈ label.toList, (c == ' ') = false := by
    refine fun c hc => beq_false_of_ne ?_
    rintro rfl
    exact h.not_mem isBlank_space hc
  have htake : label.toList.takeWhile (· == ' ') = [] := by
    cases hcs : label.toList with
    | nil => rfl
    | cons c cs => rw [List.takeWhile_cons_of_neg (by simp [hlabel c (hcs ▸ List.mem_cons_self)])]
  have hdrop : label.toList.dropWhile (· == ' ') = label.toList := by
    have := List.takeWhile_append_dropWhile (p := (· == ' ')) (l := label.toList)
    rwa [htake] at this
  rw [outlineEntry, outlineLine, String.toList_append, toList_spaces, List.takeWhile_append_of_pos hspaces,
    List.dropWhile_append_of_pos hspaces, htake, hdrop]
  simp

/-- The lines of an outline give the labels with their depths. -/
theorem map_outlineEntry_lines {t : Tree} (h : t.EveryLabel IsWord) :
    (pieces (· == '\n') t.outline.toList).map outlineEntry = t.labels := by
  have hlines : t.outline.toList = ['\n'].intercalate (t.labels.map fun entry => (outlineLine entry).toList) := by
    simp [outline, Function.comp_def]
  have hne : t.labels ≠ [] := by
    rw [labels_eq_labelsAt]
    obtain ⟨label, children⟩ := t
    simp [labelsAt_node]
  have hbreak : ∀ entry ∈ t.labels, '\n' ∉ (outlineLine entry).toList := by
    rintro ⟨depth, label⟩ he
    simpa [outlineLine, toList_spaces] using (h _ he).not_mem (c := '\n') (by decide)
  rw [hlines, pieces_intercalate (by simpa using hne) (List.forall_mem_map.2 hbreak), List.map_map]
  exact (List.map_congr_left fun entry he => outlineEntry_outlineLine (h entry he)).trans (List.map_id _)

theorem ofOutline?_outline {t : Tree} (h : t.EveryLabel IsWord) : ofOutline? t.outline = some t := by
  rw [ofOutline?, map_outlineEntry_lines h, rebuild?_labels]

end Tree

/-! ## Labels of accepted trees -/

/-- The symbols that the rules of the grammar define and use are single
words. -/
def Grammar.SymbolsAreWords (g : Grammar) : Prop := ∀ symbol alternatives, g.alternatives? symbol = some alternatives →
  IsWord symbol ∧ ∀ production ∈ alternatives, ∀ s ∈ production.rhs, IsWord s

theorem Grammar.symbolsAreWords_of_ofText {g : Grammar} {text : String} (h : ofText text = .ok g) :
    g.SymbolsAreWords := by
  intro symbol alternatives ha
  have hlegible := legible_of_ofText h symbol alternatives ha
  refine ⟨⟨hlegible.symbol.ne_empty, hlegible.symbol.not_blank⟩, fun production hp s hs => ?_⟩
  have hsymbol := hlegible.body production hp s hs
  exact ⟨hsymbol.ne_empty, hsymbol.not_blank⟩

theorem isWord_of_mem_tokenize {sentence token : String} (h : token ∈ tokenize sentence) : IsWord token := by
  obtain ⟨w, hw, rfl⟩ := List.mem_map.1 h
  exact .ofList hw

section
variable {g : Grammar} {l : Lexicon} {tokens : List String}

mutual

/-- Where symbols and tokens are words, so are the labels of a tree whose root
is labelled with a word. -/
theorem Spans.everyLabel (hg : g.SymbolsAreWords) (htokens : ∀ token ∈ tokens, IsWord token) {tree start stop} :
    Spans g l tokens tree start stop → IsWord tree.label → tree.EveryLabel IsWord
  | .tagged ht _, hword => Tree.everyLabel_tagged.2 ⟨hword, htokens _ (List.mem_of_getElem? ht)⟩
  | .phrase h, _ => h.everyLabel hg htokens

theorem Phrase.everyLabel (hg : g.SymbolsAreWords) (htokens : ∀ token ∈ tokens, IsWord token) {tree start stop} :
    Phrase g l tokens tree start stop → tree.EveryLabel IsWord
  | .node ha hp hl hs => by
    obtain ⟨hsymbol, hbodies⟩ := hg _ _ ha
    refine Tree.everyLabel_node.2 ⟨hsymbol, hs.everyLabel hg htokens fun tree ht => ?_⟩
    exact hbodies _ hp _ (hl ▸ List.mem_map_of_mem ht)

theorem SpansAll.everyLabel (hg : g.SymbolsAreWords) (htokens : ∀ token ∈ tokens, IsWord token) {trees start stop} :
    SpansAll g l tokens trees start stop → (∀ tree ∈ trees, IsWord tree.label) →
      ∀ tree ∈ trees, tree.EveryLabel IsWord
  | .nil, _ => by simp
  | .cons h hs, hwords => by
    obtain ⟨hword, hwords⟩ := List.forall_mem_cons.1 hwords
    exact List.forall_mem_cons.2 ⟨h.everyLabel hg htokens hword, hs.everyLabel hg htokens hwords⟩

end

end

theorem Parser.everyLabel_of_parseSentence {p : Parser} {text sentence : String} {trace : Trace} {d : Derivation}
    (hg : Grammar.ofText text = .ok p.grammar) (h : (p.parseSentence sentence trace).1 = .ok d) :
    d.tree.EveryLabel IsWord := by
  obtain ⟨ho, -⟩ := judge_eq_ok_iff.1 h
  obtain ⟨-, hphrase⟩ := (Matcher.reads_of_matched ho).phrase rfl
  exact hphrase.everyLabel (Grammar.symbolsAreWords_of_ofText hg) fun token ht => isWord_of_mem_tokenize ht

/-! ## Main theorem -/

/-- A tree is built again from its labels in pre-order by attaching every label
to the latest one that is one level up, or by reading the labels from the back.
Trees whose labels are single words are equal if their outlines are, and the
trees that a parser with a grammar from a text accepts are such trees. -/
theorem Tree.determined_by_outline :
    (∀ t : Tree, rebuild? t.labels = some t ∧ ofLabels? t.labels = some t) ∧
    (∀ t u : Tree, t.EveryLabel IsWord → u.EveryLabel IsWord → t.outline = u.outline → t = u) ∧
    ∀ (p : Parser) (text sentence : String) (trace : Trace) (d : Derivation), Grammar.ofText text = .ok p.grammar →
      (p.parseSentence sentence trace).1 = .ok d → d.tree.EveryLabel IsWord := by
  refine ⟨fun t => ⟨rebuild?_labels t, ofLabels?_labels t⟩, fun t u ht hu h => ?_, ?_⟩
  · have hread := ofOutline?_outline ht
    rw [h, ofOutline?_outline hu] at hread
    exact (Option.some.inj hread).symm
  · exact fun p text sentence trace d hg h => Parser.everyLabel_of_parseSentence hg h

/-- A node of a parse tree that is moved one level up shows in the outline. -/
theorem Tree.determined_by_outline_nounPhrases :
    let p : Parser := ⟨Matcher.nounPhrases, Matcher.nouns, "S", 6, by decide⟩
    let t := node "S" [node "NP" [tagged "n" "dog", tagged "n" "cat"], node "VP" [tagged "n" "dog"]]
    let u := node "S" [node "NP" [tagged "n" "dog"], tagged "n" "cat", node "VP" [tagged "n" "dog"]]
    (p.parseSentence " Dog cat\tDOG" .empty).1 = .ok ⟨t, 3⟩ ∧ t.EveryLabel IsWord ∧
    rebuild? t.labels = some t ∧ u.EveryLabel IsWord ∧ t.outline ≠ u.outline := by
  intro p t u
  obtain ⟨hlabels, houtline, haccepted⟩ := determined_by_outline
  have h : (p.parseSentence " Dog cat\tDOG" .empty).1 = .ok ⟨t, 3⟩ := by rfl
  have ht : t.EveryLabel IsWord := haccepted p "S -> NP VP\nNP -> n n | n\nVP -> n" _ _ _ (by rfl) h
  have hu : u.EveryLabel IsWord := by decide +kernel
  refine ⟨h, ht, (hlabels t).1, hu, fun heq => ?_⟩
  have : t ≠ u := by decide
  exact this (houtline t u ht hu heq)

end PhraseStructure
