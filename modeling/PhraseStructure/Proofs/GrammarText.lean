import PhraseStructure.Grammar.Reader
import PhraseStructure.Proofs.LineReadings
/-!
# Grammars read from texts

A rule text is accepted if no line of it is malformed and some line has a rule,
and its grammar is made of the rules one after the other (`ofText_eq_ok_iff`).
What holds of every grammar that a text defines is proved by induction on these
rules (`ofText_induction`). Main statements: every nonterminal of such a grammar
has an alternative (`noEmptyRule_of_ofText`), and every alternative has a symbol
(`noEmptyAlternative_of_ofText`).
-/
namespace PhraseStructure

/-- A line defines a rule if it has an arrow, one word before the first arrow,
and words between all bars after it. -/
theorem Rule.ofLine?_eq_some_iff {line : List Char} {rule : Rule} :
    Rule.ofLine? line = .ok (some rule) ↔
      ∃ before after name, Text.sides? line = some (before, after) ∧ Text.words before = [name] ∧
        (∀ body ∈ Text.alternatives after, Text.words body ≠ []) ∧
        rule = ⟨String.ofList name, (Text.alternatives after).map fun body =>
          ⟨String.ofList name, (Text.words body).map String.ofList⟩⟩ := by
  unfold Rule.ofLine?
  constructor
  · intro h
    split at h
    · cases h
    next before after hsides =>
    split at h
    · cases h
    · cases h
    next name hname =>
    dsimp only at h
    split at h
    · cases h
    next hany =>
    cases h
    refine ⟨before, after, name, hsides, hname, fun body hb hnil => hany ?_, by rw [List.map_map]; rfl⟩
    exact List.any_eq_true.2 ⟨_, List.mem_map_of_mem hb, by simpa using hnil⟩
  · rintro ⟨before, after, name, hsides, hname, hbody, rfl⟩
    have hany : ((Text.alternatives after).map Text.words).any List.isEmpty = false := by
      simpa using hbody
    simp only [hsides, hname, hany, List.map_map]
    rfl

namespace Grammar

/-! ## Reading -/

/-- The grammar with some rules set one after the other. -/
def insertAll (g : Grammar) (rules : List Rule) : Grammar :=
  rules.foldl (fun g rule => g.insert rule.symbol rule.alternatives) g

theorem insertAll_eq (g : Grammar) (rules : List Rule) :
    g.insertAll rules = ⟨g.table.insertAll (rules.map fun rule => (rule.symbol, rule.alternatives))⟩ := by
  induction rules generalizing g with
  | nil => rfl
  | cons rule rules ih => exact ih (g.insert rule.symbol rule.alternatives)

/-- The nonterminals stand in the order of their first rules. -/
theorem nonterminals_insertAll (rules : List Rule) :
    (empty.insertAll rules).nonterminals = (rules.map Rule.symbol).eraseDups := by
  rw [insertAll_eq, nonterminals, Table.keys_insertAll, List.map_map]
  rfl

/-- A nonterminal has the alternatives of its last rule. -/
theorem alternatives?_insertAll (rules : List Rule) (symbol : String) :
    (empty.insertAll rules).alternatives? symbol =
      (rules.reverse.find? fun rule => rule.symbol == symbol).map Rule.alternatives := by
  rw [insertAll_eq, alternatives?, Table.get?_insertAll, ← List.map_reverse, lookup_map_eq_find?]
  exact Option.or_none

theorem isEmpty_insertAll (rules : List Rule) : (empty.insertAll rules).isEmpty = rules.isEmpty := by
  have hkeys : (empty.insertAll rules).isEmpty = (empty.insertAll rules).nonterminals.isEmpty :=
    List.isEmpty_map.symm
  rw [hkeys, nonterminals_insertAll]
  cases rules with
  | nil => rfl
  | cons rule rules => rw [List.map_cons, List.eraseDups_cons, List.isEmpty_cons, List.isEmpty_cons]

theorem lineStep_addLine :
    LineStep addLine Rule.ofLine? .malformedRule fun g rule => g.insert rule.symbol rule.alternatives where
  error g line number defect h := by rw [addLine, h]
  skip g line number h := by rw [addLine, h]
  define g line number rule h := by rw [addLine, h]

/-- What the lines of a text are read as. -/
def readings (text : String) : List (Except RuleDefect (Option Rule)) := (Text.lines text.toList).map Rule.ofLine?

variable {text : String} {g : Grammar}

/-- The first malformed line is an error. -/
theorem ofText_of_firstDefect {i : Nat} {defect : RuleDefect} (h : FirstDefect (readings text) i defect) :
    ofText text = .error (.malformedRule (i + 1) defect) := by
  rw [ofText, lineStep_addLine.foldlM_of_firstDefect h, Nat.add_comm 1 i]
  rfl

/-- Without malformed lines the rules are set one after the other, if there is
any. -/
theorem ofText_of_noDefect (h : NoDefect (readings text)) :
    ofText text =
      if definitions (readings text) = [] then .error .empty
      else .ok (empty.insertAll (definitions (readings text))) := by
  have hfold : ((Text.lines text.toList).zipIdx 1).foldlM addLine empty =
      .ok (empty.insertAll (definitions (readings text))) := lineStep_addLine.foldlM_eq_ok_iff.2 ⟨h, rfl⟩
  rw [ofText, hfold]
  change (if (empty.insertAll (definitions (readings text))).isEmpty then _ else _) = _
  simp only [isEmpty_insertAll, List.isEmpty_iff]
  rfl

/-- A text is accepted if no line of it is malformed and some line has a rule,
and defines the grammar of its rules. -/
theorem ofText_eq_ok_iff :
    ofText text = .ok g ↔
      NoDefect (readings text) ∧ definitions (readings text) ≠ [] ∧
        g = empty.insertAll (definitions (readings text)) := by
  rcases noDefect_or_firstDefect (readings text) with h | ⟨i, defect, h⟩
  · rw [ofText_of_noDefect h, and_iff_right h]
    split
    · next hnil => simp [hnil]
    · next hne => rw [and_iff_right hne, Except.ok.injEq, eq_comm]
  · simp [ofText_of_firstDefect h, h.not_noDefect]

theorem isEmpty_of_ofText (h : ofText text = .ok g) : g.isEmpty = false := by
  obtain ⟨-, hne, rfl⟩ := ofText_eq_ok_iff.1 h
  rwa [isEmpty_insertAll, List.isEmpty_eq_false_iff]

/-- What holds of the empty grammar, and still holds when the rule of a line is
set, holds of every grammar read from a text. -/
theorem ofText_induction {P : Grammar → Prop} (hempty : P empty)
    (hinsert : ∀ g line rule, P g → Rule.ofLine? line = .ok (some rule) →
      P (g.insert rule.symbol rule.alternatives))
    (h : ofText text = .ok g) : P g := by
  obtain ⟨-, -, rfl⟩ := ofText_eq_ok_iff.1 h
  refine List.foldlRecOn _ _ hempty fun g hg rule hrule => ?_
  obtain ⟨line, -, hread⟩ := mem_definitions_map.1 hrule
  exact hinsert g line rule hg hread

/-- What holds of the rule of every line holds of the rules of a grammar read
from a text. -/
theorem forall_rule_of_ofText {P : List Production → Prop}
    (hline : ∀ line rule, Rule.ofLine? line = .ok (some rule) → P rule.alternatives)
    (h : ofText text = .ok g) :
    ∀ symbol alternatives, g.alternatives? symbol = some alternatives → P alternatives := by
  refine ofText_induction (P := fun g => ∀ symbol alternatives, g.alternatives? symbol = some alternatives →
    P alternatives) (fun _ _ ha => by cases ha) ?_ h
  intro g line rule hg hl symbol alternatives ha
  rw [alternatives?_insert] at ha
  split at ha
  · cases ha
    exact hline line rule hl
  · exact hg symbol alternatives ha

/-! ## No empty rules -/

/-- Every alternative has a symbol. -/
def NoEmptyAlternative (g : Grammar) : Prop :=
  ∀ symbol alternatives, g.alternatives? symbol = some alternatives →
    ∀ production ∈ alternatives, production.rhs ≠ []

/-- Every nonterminal has an alternative. -/
def NoEmptyRule (g : Grammar) : Prop :=
  ∀ symbol alternatives, g.alternatives? symbol = some alternatives → alternatives ≠ []

/-- The alternatives of a line are what stands between the bars, and none of
them is blank. -/
theorem alternatives_of_ofLine? {line : List Char} {rule : Rule} (h : Rule.ofLine? line = .ok (some rule)) :
    ∃ after, (∀ body ∈ Text.alternatives after, Text.words body ≠ []) ∧
      rule.alternatives = (Text.alternatives after).map fun body =>
        ⟨rule.symbol, (Text.words body).map String.ofList⟩ := by
  obtain ⟨_, after, _, -, -, hbody, rfl⟩ := Rule.ofLine?_eq_some_iff.1 h
  exact ⟨after, hbody, rfl⟩

/-- A rule text has no empty alternatives. -/
theorem noEmptyAlternative_of_ofText (h : ofText text = .ok g) : g.NoEmptyAlternative := by
  refine forall_rule_of_ofText
    (P := fun alternatives => ∀ production ∈ alternatives, production.rhs ≠ []) ?_ h
  intro line rule hl production hp
  obtain ⟨after, hbody, he⟩ := alternatives_of_ofLine? hl
  rw [he] at hp
  obtain ⟨body, hb, rfl⟩ := List.mem_map.1 hp
  simpa using hbody body hb

/-- A rule text has no rules without alternatives. -/
theorem noEmptyRule_of_ofText (h : ofText text = .ok g) : g.NoEmptyRule := by
  refine forall_rule_of_ofText (P := fun alternatives => alternatives ≠ []) ?_ h
  intro line rule hl
  obtain ⟨after, -, he⟩ := alternatives_of_ofLine? hl
  rw [he]
  exact fun hnil => Text.pieces_ne_nil _ after (List.map_eq_nil_iff.1 hnil)

end Grammar

end PhraseStructure
