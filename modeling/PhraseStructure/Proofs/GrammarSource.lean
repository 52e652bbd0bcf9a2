import PhraseStructure.Proofs.DefinitionLines
import PhraseStructure.Proofs.GrammarText
/-!
# Writing grammars

A grammar is written as a rule text with one line for each nonterminal, in table
order. What can be read back is what reading gives in the first place:
`Rule.Legible` says which rules a line can define, and the rules of a grammar
that was read from a text are legible (`legible_of_ofText`).

Main statement: a grammar that was read from a text is read again from the text
that it is written as, and so is every single alternative from its own line.
-/
namespace PhraseStructure

open Text

/-! ## Symbols that can be read -/

/-- A symbol that a line can define: not empty, without blanks and arrows, and
not the start of a comment. -/
structure IsNonterminal (symbol : String) : Prop where
  ne_empty : symbol ≠ ""
  not_blank : ∀ c ∈ symbol.toList, isBlank c = false
  arrowless : Arrowless symbol.toList
  not_comment : symbol.toList.head? ≠ some '#'

/-- A symbol that an alternative can use: not empty, and without blanks and
bars. -/
structure IsBodySymbol (symbol : String) : Prop where
  ne_empty : symbol ≠ ""
  not_blank : ∀ c ∈ symbol.toList, isBlank c = false
  not_bar : '|' ∉ symbol.toList

/-- A rule that a line can define. -/
structure Rule.Legible (rule : Rule) : Prop where
  symbol : IsNonterminal rule.symbol
  ne_nil : rule.alternatives ≠ []
  lhs_eq : ∀ production ∈ rule.alternatives, production.lhs = rule.symbol
  rhs_ne_nil : ∀ production ∈ rule.alternatives, production.rhs ≠ []
  body : ∀ production ∈ rule.alternatives, ∀ s ∈ production.rhs, IsBodySymbol s

theorem toList_ne_nil {s : String} (h : s ≠ "") : s.toList ≠ [] := by
  simpa using h

theorem trimmed_of_forall_not_blank {cs : List Char} (h : ∀ c ∈ cs, isBlank c = false) : Trimmed cs :=
  ⟨fun c hc => h c (List.mem_of_head? hc), fun c hc => h c (List.mem_of_getLast? hc)⟩

theorem IsNonterminal.isName {symbol : String} (h : IsNonterminal symbol) : IsName symbol.toList where
  ne_nil := toList_ne_nil h.ne_empty
  trimmed := trimmed_of_forall_not_blank h.not_blank
  arrowless := h.arrowless
  not_comment := h.not_comment

/-- The rule on a line is legible. -/
theorem Rule.legible_of_ofLine? {line : List Char} {rule : Rule} (h : Rule.ofLine? line = .ok (some rule)) :
    rule.Legible := by
  obtain ⟨before, after, name, hsides, hname, hbody, rfl⟩ := Rule.ofLine?_eq_some_iff.1 h
  have htrim : trim before = name := trim_eq_of_words_eq_singleton hname
  obtain ⟨hne, hblank⟩ := mem_words (hname ▸ List.mem_singleton_self name)
  have hisName : IsName name := htrim ▸ isName_of_sides? hsides (htrim.symm ▸ hne)
  constructor
  · constructor
    · simpa using hne
    · simpa using hblank
    · simpa using hisName.arrowless
    · simpa using hisName.not_comment
  · exact fun hnil => pieces_ne_nil _ after (List.map_eq_nil_iff.1 hnil)
  · rintro production hp
    obtain ⟨body, -, rfl⟩ := List.mem_map.1 hp
    rfl
  · rintro production hp
    obtain ⟨body, hb, rfl⟩ := List.mem_map.1 hp
    simpa using hbody body hb
  · rintro production hp s hs
    obtain ⟨body, hb, rfl⟩ := List.mem_map.1 hp
    obtain ⟨w, hw, rfl⟩ := List.mem_map.1 hs
    obtain ⟨hwne, hwblank⟩ := mem_words hw
    refine ⟨by simpa using hwne, by simpa using hwblank, ?_⟩
    rw [String.toList_ofList]
    intro hbar
    have hpiece := not_of_mem_pieces hb '|' (subset_of_mem_words hw hbar)
    simp at hpiece

/-! ## Rules -/

namespace Rule

/-- A rule as it is written on a line. -/
def text (rule : Rule) : String :=
  rule.symbol ++ " -> " ++ " | ".intercalate (rule.alternatives.map fun production =>
    " ".intercalate production.rhs)

/-- What is written on the right of the arrow, between the bars. -/
def bodies (rule : Rule) : List (List Char) :=
  rule.alternatives.map fun production => [' '].intercalate (production.rhs.map String.toList)

theorem toList_text (rule : Rule) : rule.text.toList = definitionLine 0 rule.symbol.toList rule.bodies := by
  simp [text, bodies, definitionLine, Function.comp_def]

/-- An alternative by itself is written as a rule with no other. -/
theorem text_production (production : Production) :
    (Rule.mk production.lhs [production]).text = production.text := by
  simp [text, Production.text]

variable {rule : Rule}

namespace Legible

theorem mem_bodies (h : rule.Legible) {body : List Char} (hb : body ∈ rule.bodies) :
    body ≠ [] ∧ Trimmed body ∧ ∀ c ∈ body, c = ' ' ∨ isBlank c = false ∧ c ≠ '|' := by
  obtain ⟨production, hp, rfl⟩ := List.mem_map.1 hb
  have hsymbols : ∀ w ∈ production.rhs.map String.toList, w ≠ [] ∧ ∀ c ∈ w, isBlank c = false ∧ c ≠ '|' := by
    intro w hw
    obtain ⟨s, hs, rfl⟩ := List.mem_map.1 hw
    have hsymbol := h.body production hp s hs
    refine ⟨toList_ne_nil hsymbol.ne_empty, fun c hc => ⟨hsymbol.not_blank c hc, ?_⟩⟩
    rintro rfl
    exact hsymbol.not_bar hc
  refine ⟨?_, ?_, ?_⟩
  · exact intercalate_ne_nil (by simpa using h.rhs_ne_nil production hp) fun w hw => (hsymbols w hw).1
  · exact trimmed_intercalate (fun w hw => (hsymbols w hw).1) fun w hw =>
      trimmed_of_forall_not_blank fun c hc => ((hsymbols w hw).2 c hc).1
  · intro c hc
    rcases mem_intercalate hc with hc | ⟨w, hw, hc⟩
    · exact .inl (List.mem_singleton.1 hc)
    · exact .inr ((hsymbols w hw).2 c hc)

theorem words_bodies (h : rule.Legible) :
    rule.bodies.map words = rule.alternatives.map fun production => production.rhs.map String.toList := by
  rw [bodies, List.map_map]
  refine List.map_congr_left fun production hp => words_intercalate ?_ ?_
  · intro w hw
    obtain ⟨s, hs, rfl⟩ := List.mem_map.1 hw
    exact toList_ne_nil (h.body production hp s hs).ne_empty
  · intro w hw
    obtain ⟨s, hs, rfl⟩ := List.mem_map.1 hw
    exact (h.body production hp s hs).not_blank

/-- A rule that a line can define is read from the line that it is written
as. -/
theorem ofLine?_text (h : rule.Legible) : Rule.ofLine? rule.text.toList = .ok (some rule) := by
  have hread : (Text.alternatives (' ' :: [' ', '|', ' '].intercalate rule.bodies)).map words =
      rule.alternatives.map fun production => production.rhs.map String.toList := by
    rw [map_alternatives_intercalate words (words_cons_blank isBlank_space) (words_append_blank isBlank_space),
      h.words_bodies]
    · simpa [bodies] using h.ne_nil
    · intro body hb hbar
      rcases (h.mem_bodies hb).2.2 '|' hbar with hc | ⟨-, hc⟩
      · cases hc
      · exact hc rfl
  rw [toList_text]
  refine Rule.ofLine?_eq_some_iff.2
    ⟨_, _, rule.symbol.toList, sides?_definitionLine h.symbol.isName 0 rule.bodies, ?_, ?_, ?_⟩
  · rw [← words_trim, trim_indented_name h.symbol.isName]
    exact words_of_forall_not_blank (toList_ne_nil h.symbol.ne_empty) h.symbol.not_blank
  · intro body hb
    have hwords := List.mem_map_of_mem (f := words) hb
    rw [hread] at hwords
    obtain ⟨production, hp, he⟩ := List.mem_map.1 hwords
    rw [← he]
    simpa using h.rhs_ne_nil production hp
  · have hself : ∀ production ∈ rule.alternatives, Production.mk rule.symbol production.rhs = production :=
      fun production hp => by rw [← h.lhs_eq production hp]
    have halternatives := congrArg (List.map fun ws => Production.mk rule.symbol (ws.map String.ofList)) hread
    simp only [List.map_map, Function.comp_def, String.ofList_toList, List.map_id'] at halternatives
    rw [List.map_congr_left hself, List.map_id'] at halternatives
    rw [String.ofList_toList, halternatives]

theorem fitsLine_text (h : rule.Legible) : FitsLine rule.text.toList := by
  rw [toList_text]
  refine fitsLine_definitionLine 0 ?_ ?_ fun body hb => ?_
  · intro hc
    exact absurd (h.symbol.not_blank _ hc) (by decide)
  · simpa [bodies] using h.ne_nil
  · obtain ⟨hne, htrimmed, hmem⟩ := h.mem_bodies hb
    refine ⟨hne, htrimmed, fun hc => ?_⟩
    rcases hmem _ hc with hc | ⟨hc, -⟩
    · cases hc
    · exact absurd hc (by decide)

end Legible

end Rule

/-! ## Grammars -/

namespace Grammar

/-- The rules of a grammar, in table order. -/
def rules (g : Grammar) : List Rule := g.table.entries.map fun (symbol, alternatives) => ⟨symbol, alternatives⟩

/-- A grammar as a rule text, one rule on a line. -/
def source (g : Grammar) : String := unlines (g.rules.map Rule.text)

variable {g : Grammar}

/-- The rules of a grammar that was read from a text are legible. -/
theorem legible_of_ofText {text : String} (h : ofText text = .ok g) :
    ∀ symbol alternatives, g.alternatives? symbol = some alternatives → (Rule.mk symbol alternatives).Legible := by
  refine ofText_induction (P := fun g => ∀ symbol alternatives, g.alternatives? symbol = some alternatives →
    (Rule.mk symbol alternatives).Legible) (fun _ _ ha => by cases ha) ?_ h
  intro g line rule hg hl symbol alternatives ha
  rw [alternatives?_insert] at ha
  split at ha
  · next hsymbol =>
    cases ha
    rw [hsymbol]
    exact Rule.legible_of_ofLine? hl
  · exact hg symbol alternatives ha

theorem mem_rules {rule : Rule} : rule ∈ g.rules ↔ g.alternatives? rule.symbol = some rule.alternatives := by
  rw [rules, alternatives?, Table.get?_eq_some_iff, List.mem_map]
  constructor
  · rintro ⟨entry, he, rfl⟩
    exact he
  · exact fun he => ⟨_, he, rfl⟩

theorem mem_productions {production : Production} :
    production ∈ g.productions ↔ ∃ rule ∈ g.rules, production ∈ rule.alternatives := by
  simp only [productions, rules, Table.values, List.mem_flatten, List.mem_map]
  constructor
  · rintro ⟨_, ⟨entry, he, rfl⟩, hp⟩
    exact ⟨_, ⟨entry, he, rfl⟩, hp⟩
  · rintro ⟨_, ⟨entry, he, rfl⟩, hp⟩
    exact ⟨_, ⟨entry, he, rfl⟩, hp⟩

theorem insertAll_rules (g : Grammar) : empty.insertAll g.rules = g := by
  have hentries : (g.rules.map fun rule => (rule.symbol, rule.alternatives)) = g.table.entries := by
    rw [rules, List.map_map]
    exact List.map_id _
  rw [insertAll_eq, hentries]
  exact congrArg Grammar.mk (Table.eq_of_entries_eq (Table.entries_insertAll g.table.nodup_keys))

/-- Every line of the text that a grammar of legible rules is written as is read
as one of the rules. -/
theorem readings_source (h : ∀ rule ∈ g.rules, rule.Legible) :
    readings g.source = g.rules.map fun rule => .ok (some rule) := by
  rw [readings, source, lines_unlines, List.map_map, List.map_map]
  · exact List.map_congr_left fun rule hr => (h rule hr).ofLine?_text
  · intro l hl
    obtain ⟨rule, hr, rfl⟩ := List.mem_map.1 hl
    exact (h rule hr).fitsLine_text

/-- A grammar of legible rules is read from the text that it is written as. -/
theorem ofText_source (hne : g.isEmpty = false) (h : ∀ rule ∈ g.rules, rule.Legible) :
    ofText g.source = .ok g := by
  have hrules : g.rules ≠ [] := by simpa [rules, isEmpty, Table.isEmpty] using hne
  rw [ofText_eq_ok_iff, readings_source h, definitions_map_some, insertAll_rules]
  exact ⟨by simp [NoDefect], hrules, rfl⟩

/-! ## Main theorem -/

/-- Every rule of a grammar that was read from a text has an alternative, and
every alternative has a symbol and carries the name of its rule; the symbols are
such as the text can give. Every alternative is read from the line that it is
printed as, and the whole grammar, with its rules and alternatives in their
order, from the text with one line for each rule. -/
theorem ofText_written (text : String) (g : Grammar) (h : ofText text = .ok g) :
    (∀ symbol alternatives, g.alternatives? symbol = some alternatives →
      IsNonterminal symbol ∧ alternatives ≠ [] ∧
      ∀ production ∈ alternatives, production.lhs = symbol ∧ production.rhs ≠ [] ∧
        ∀ s ∈ production.rhs, IsBodySymbol s) ∧
    (∀ production ∈ g.productions,
      Rule.ofLine? production.text.toList = .ok (some ⟨production.lhs, [production]⟩)) ∧
    ofText g.source = .ok g := by
  have hlegible := legible_of_ofText h
  have hrules : ∀ rule ∈ g.rules, rule.Legible := fun rule hr => hlegible _ _ (mem_rules.1 hr)
  refine ⟨fun symbol alternatives ha => ?_, fun production hp => ?_, ?_⟩
  · have hrule := hlegible symbol alternatives ha
    exact ⟨hrule.symbol, hrule.ne_nil, fun production hp =>
      ⟨hrule.lhs_eq production hp, hrule.rhs_ne_nil production hp, hrule.body production hp⟩⟩
  · obtain ⟨rule, hr, hp⟩ := mem_productions.1 hp
    have hrule := hrules rule hr
    have hsingle : (Rule.mk production.lhs [production]).Legible := by
      constructor
      · exact (hrule.lhs_eq production hp).symm ▸ hrule.symbol
      · exact List.cons_ne_nil _ _
      · simp
      · simpa using hrule.rhs_ne_nil production hp
      · simpa using hrule.body production hp
    rw [← Rule.text_production]
    exact hsingle.ofLine?_text
  · exact ofText_source (isEmpty_of_ofText h) hrules

/-- A text with names that hold bars and parts of arrows, a comment, blanks of
several kinds, line endings of two kinds and a rule that is replaced. -/
def oddText : String := "# S -> n\r\nS-->NP|VP  a->b | \tn\nA|B -> n\n > -> -\r\n\nA|B ->> | #\nS- -> A|B\u3000n"

/-- The grammar that the text defines. -/
def oddGrammar : Grammar :=
  ((empty.insert "S-" [⟨"S-", ["A"]⟩, ⟨"S-", ["B", "n"]⟩]).insert "A|B" [⟨"A|B", [">"]⟩, ⟨"A|B", ["#"]⟩]).insert
    ">" [⟨">", ["-"]⟩]

theorem ofText_written_oddText :
    ofText oddText = .ok oddGrammar ∧ IsNonterminal "A|B" ∧ IsBodySymbol "#" ∧
    Rule.ofLine? "S- -> B n".toList = .ok (some ⟨"S-", [⟨"S-", ["B", "n"]⟩]⟩) ∧
    oddGrammar.source = "S- -> A | B n\nA|B -> > | #\n> -> -\n" ∧ ofText oddGrammar.source = .ok oddGrammar := by
  have h : ofText oddText = .ok oddGrammar := by rfl
  obtain ⟨hrules, hlines, hsource⟩ := ofText_written oddText oddGrammar h
  have hrule := hrules "A|B" [⟨"A|B", [">"]⟩, ⟨"A|B", ["#"]⟩] (by decide)
  exact ⟨h, hrule.1, (hrule.2.2 ⟨"A|B", ["#"]⟩ (by decide)).2.2 "#" (by decide),
    hlines ⟨"S-", ["B", "n"]⟩ (by decide), by rfl, hsource⟩

end Grammar

end PhraseStructure
