import PhraseStructure.Proofs.DefinitionLines
import PhraseStructure.Proofs.GrammarText
/-!
# What a rule text defines

How a line of a rule text is read, said without the reader: `Rule.ReadAs` is a
classification of lines by comments, first arrows, blanks and bars. It reads
every line in one way, which is the one that the reader takes (`readAs_iff`).

Main statement: the grammar of a text has the symbols of its rules, in the order
of their first rules, each with the alternatives of its last rule; the first
malformed line of a text is reported instead, with the first defect that it has.
-/
namespace PhraseStructure

open Text

/-! ## Rule lines -/

/-- The line with these sides has the defect. -/
def RuleDefect.Affects (before after : List Char) : RuleDefect → Prop
  | noSymbol => ∀ c ∈ before, isBlank c = true
  | severalSymbols => 2 ≤ (words before).length
  | emptyAlternative => ∃ body ∈ pieces (· == '|') after, ∀ c ∈ body, isBlank c = true

/-- The place of a defect among those that are looked for one after the
other. -/
def RuleDefect.rank : RuleDefect → Nat
  | noSymbol => 0
  | severalSymbols => 1
  | emptyAlternative => 2

namespace Rule

/-- How a line is read. A comment and a line without an arrow define nothing;
any other line is malformed, and then the first of its defects counts, or
defines a rule. -/
inductive ReadAs : List Char → Except RuleDefect (Option Rule) → Prop
  | comment {line : List Char} : IsComment line → ReadAs line (.ok none)
  | arrowless {line : List Char} : Arrowless line → ReadAs line (.ok none)
  | malformed {line before after : List Char} {defect : RuleDefect} : HasSides line before after →
      defect.Affects before after → (∀ other : RuleDefect, other.rank < defect.rank → ¬ other.Affects before after) →
      ReadAs line (.error defect)
  | rule {line before after name : List Char} : HasSides line before after →
      (∀ defect : RuleDefect, ¬ defect.Affects before after) → words before = [name] →
      ReadAs line (.ok (some ⟨String.ofList name, (pieces (· == '|') after).map fun body =>
        ⟨String.ofList name, (words body).map String.ofList⟩⟩))

section
variable {line before after : List Char}

theorem noSymbol_affects_iff : RuleDefect.noSymbol.Affects before after ↔ words before = [] :=
  words_eq_nil_iff.symm

theorem emptyAlternative_affects_iff :
    RuleDefect.emptyAlternative.Affects before after ↔ ∃ body ∈ Text.alternatives after, words body = [] :=
  exists_congr fun _ => and_congr_right fun _ => words_eq_nil_iff.symm

/-- Without the defects on the left of the arrow there is one symbol. -/
theorem exists_words_eq_singleton (hsome : ¬ RuleDefect.noSymbol.Affects before after)
    (hone : ¬ RuleDefect.severalSymbols.Affects before after) : ∃ name, words before = [name] := by
  rw [noSymbol_affects_iff] at hsome
  have hpos := List.length_pos_of_ne_nil hsome
  have hlt : (words before).length < 2 := Nat.lt_of_not_le hone
  exact List.length_eq_one_iff.1 (by omega)

theorem ofLine?_of_affects {defect : RuleDefect} (hsides : HasSides line before after)
    (h : defect.Affects before after)
    (hfirst : ∀ other : RuleDefect, other.rank < defect.rank → ¬ other.Affects before after) :
    Rule.ofLine? line = .error defect := by
  rw [Rule.ofLine?, sides?_eq_some_iff.2 hsides]
  dsimp only
  cases defect with
  | noSymbol => rw [noSymbol_affects_iff.1 h]
  | severalSymbols =>
    have hlength : 2 ≤ (words before).length := h
    cases hwords : words before with
    | nil => simp [hwords] at hlength
    | cons first rest =>
      cases rest with
      | nil => simp [hwords] at hlength
      | cons second rest => rfl
  | emptyAlternative =>
    obtain ⟨name, hname⟩ :=
      exists_words_eq_singleton (hfirst .noSymbol (by decide)) (hfirst .severalSymbols (by decide))
    obtain ⟨body, hbody, hnil⟩ := emptyAlternative_affects_iff.1 h
    have hany : ((Text.alternatives after).map words).any List.isEmpty = true :=
      List.any_eq_true.2 ⟨_, List.mem_map_of_mem hbody, by rw [hnil]; rfl⟩
    rw [hname]
    dsimp only
    rw [if_pos hany]

theorem ofLine?_of_readAs {reading : Except RuleDefect (Option Rule)} (h : ReadAs line reading) :
    Rule.ofLine? line = reading := by
  cases h with
  | comment h => rw [Rule.ofLine?, sides?_eq_none_iff.2 (.inl h)]
  | arrowless h => rw [Rule.ofLine?, sides?_eq_none_iff.2 (.inr h)]
  | malformed hsides h hfirst => exact ofLine?_of_affects hsides h hfirst
  | rule hsides hnone hname =>
    refine Rule.ofLine?_eq_some_iff.2 ⟨_, _, _, sides?_eq_some_iff.2 hsides, hname, fun body hbody hnil => ?_, rfl⟩
    exact hnone .emptyAlternative (emptyAlternative_affects_iff.2 ⟨body, hbody, hnil⟩)

/-- Every line is read in some way. -/
theorem exists_readAs (line : List Char) : ∃ reading, ReadAs line reading := by
  rcases isComment_or_arrowless_or_hasSides line with h | h | ⟨before, after, hsides⟩
  · exact ⟨_, .comment h⟩
  · exact ⟨_, .arrowless h⟩
  · -- The defects are tried in their order, so that those before the one that
    -- is found are excluded.
    by_cases hnone : RuleDefect.noSymbol.Affects before after
    · exact ⟨_, .malformed hsides hnone fun other h => nomatch h⟩
    by_cases hseveral : RuleDefect.severalSymbols.Affects before after
    · refine ⟨_, .malformed hsides hseveral fun other h => ?_⟩
      cases other with
      | noSymbol => exact hnone
      | severalSymbols | emptyAlternative => simp [RuleDefect.rank] at h
    by_cases hempty : RuleDefect.emptyAlternative.Affects before after
    · refine ⟨_, .malformed hsides hempty fun other h => ?_⟩
      cases other with
      | noSymbol => exact hnone
      | severalSymbols => exact hseveral
      | emptyAlternative => simp [RuleDefect.rank] at h
    · obtain ⟨name, hname⟩ := exists_words_eq_singleton hnone hseveral
      refine ⟨_, .rule hsides (fun defect => ?_) hname⟩
      cases defect <;> assumption

end

/-- The reader reads every line in the only way in which it can be read. -/
theorem readAs_iff :
    ∀ (line : List Char) (reading : Except RuleDefect (Option Rule)), ReadAs line reading ↔ Rule.ofLine? line = reading :=
  readAs_iff_of_total (fun _ _ => ofLine?_of_readAs) exists_readAs

end Rule

/-! ## Main theorem -/

namespace Grammar

/-- The lines of a text are read in one way each. If some line is malformed, the
first such line is reported with its number, and if no line has a rule, this is
reported. Otherwise the nonterminals are the symbols of the rules, each once, in
the order of their first rules, and each has the alternatives of its last
rule. -/
theorem ofText_last_rules (text : String) :
    ∃ readings : List (Except RuleDefect (Option Rule)),
      (∀ readings', List.Forall₂ Rule.ReadAs (lines text.toList) readings' ↔ readings' = readings) ∧
      ((∃ i defect, FirstDefect readings i defect ∧ ofText text = .error (.malformedRule (i + 1) defect)) ∨
        (NoDefect readings ∧ definitions readings = [] ∧ ofText text = .error .empty) ∨
        (NoDefect readings ∧ definitions readings ≠ [] ∧ ∃ g, ofText text = .ok g ∧
          g.nonterminals = ((definitions readings).map Rule.symbol).eraseDups ∧
          ∀ symbol, g.alternatives? symbol =
            ((definitions readings).reverse.find? fun rule => rule.symbol == symbol).map Rule.alternatives)) := by
  refine ⟨readings text, fun readings' => forall₂_iff_eq_map Rule.readAs_iff, ?_⟩
  rcases noDefect_or_firstDefect (readings text) with h | ⟨i, defect, h⟩
  · right
    by_cases hnil : definitions (readings text) = []
    · exact .inl ⟨h, hnil, by rw [ofText_of_noDefect h, if_pos hnil]⟩
    · exact .inr ⟨h, hnil, _, by rw [ofText_of_noDefect h, if_neg hnil], nonterminals_insertAll _,
        alternatives?_insertAll _⟩
  · exact .inl ⟨i, defect, h, ofText_of_firstDefect h⟩

/-- The first malformed line counts, and on it the first defect. -/
example : ofText "# ->\nA B -> |\n-> x" = .error (.malformedRule 2 .severalSymbols) := by rfl

end Grammar

end PhraseStructure
