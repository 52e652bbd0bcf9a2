import Mathlib.Data.List.Nodup
import Mathlib.Data.List.Perm.Subperm
import Mathlib.Logic.Relation
import PhraseStructure.Proofs.Log
import PhraseStructure.Proofs.OrderedChoice
import PhraseStructure.Proofs.Verdicts
/-!
# What a parse depends on

A symbol reaches the symbols that its alternatives use, and what those reach in
turn. Matching a symbol looks up nothing but the bodies of what it reaches, the
tags of the tokens, and whether what it reaches is a tag. A matcher that does
not differ there has the same logs (`SymbolLog.withRules`).

Main statement: such a parser comes to the same verdict and leaves the same
trace. So the order of the rules and of the lexicon entries, rules out of reach
and the names inside productions make no difference, and equal grammars parse
alike.
-/
namespace PhraseStructure

open Relation

/-! ## Reachable symbols -/

namespace Grammar

/-- An alternative of the first symbol uses the second. -/
inductive Uses (g : Grammar) : String → String → Prop
  | intro {symbol alternatives production s} :
    g.alternatives? symbol = some alternatives → production ∈ alternatives → s ∈ production.rhs →
    Uses g symbol s

/-- The second symbol is the first, or the alternatives of the first lead to
it. -/
abbrev Reaches (g : Grammar) : String → String → Prop := ReflTransGen g.Uses

/-- The bodies of the alternatives of a symbol, if it has a rule. -/
def bodies? (g : Grammar) (symbol : String) : Option (List (List String)) :=
  (g.alternatives? symbol).map (·.map Production.rhs)

variable {g g' : Grammar} {symbol s : String}

/-- Some symbols that use no others hold all that one of them reaches. -/
theorem Reaches.mem_of_closed {symbols : List String} (h : g.Reaches symbol s) (hs : symbol ∈ symbols)
    (hclosed : ∀ x ∈ symbols, ∀ body ∈ (g.bodies? x).getD [], ∀ y ∈ body, y ∈ symbols) : s ∈ symbols := by
  induction h with
  | refl => exact hs
  | tail _ huse ih =>
    obtain ⟨ha, hp, hy⟩ := huse
    refine hclosed _ ih _ ?_ _ hy
    simpa [bodies?, ha] using ⟨_, hp, rfl⟩

/-! ## Equal grammars -/

/-- Equal grammars have the same rules, perhaps in another order. -/
theorem perm_of_beq (h : (g == g') = true) : g'.table.entries.Perm g.table.entries := by
  -- The test looks up the entries of one grammar in the other. As keys are
  -- distinct, the sizes do the rest.
  obtain ⟨hsize, hall⟩ := Bool.and_eq_true_iff.1 h
  have hsub : g.table.entries ⊆ g'.table.entries := by
    intro entry he
    have hget := List.all_eq_true.1 hall entry he
    exact Table.get?_eq_some_iff.1 (eq_of_beq hget)
  have hlength : g'.table.entries.length ≤ g.table.entries.length := Nat.le_of_eq (eq_of_beq hsize).symm
  have hnodup : g.table.entries.Nodup := List.Nodup.of_map _ g.table.nodup_keys
  exact ((hnodup.subperm hsub).perm_of_length_le hlength).symm

end Grammar

/-! ## Matching with other rules -/

/-- Two grammars and two lexicons do not differ in what matching a symbol
against some tokens looks up. -/
structure AlikeFrom (g g' : Grammar) (l l' : Lexicon) (tokens : List String) (symbol : String) : Prop where
  bodies?_eq : ∀ s, g.Reaches symbol s → g'.bodies? s = g.bodies? s
  tag?_eq : ∀ token ∈ tokens, l'.tag? token = l.tag? token
  isTag_eq : ∀ s, g.Reaches symbol s → l'.isTag s = l.isTag s

namespace AlikeFrom

variable {g g' : Grammar} {l l' : Lexicon} {tokens : List String} {symbol s : String}

theorem contains_eq (h : AlikeFrom g g' l l' tokens symbol) (hs : g.Reaches symbol s) :
    g'.contains s = g.contains s := by
  have hsome : ∀ g : Grammar, g.contains s = (g.bodies? s).isSome := fun _ => Option.isSome_map.symm
  rw [hsome, hsome, h.bodies?_eq s hs]

theorem exists_alternatives (h : AlikeFrom g g' l l' tokens symbol) (hs : g.Reaches symbol s)
    {alternatives : List Production} (ha : g.alternatives? s = some alternatives) :
    ∃ alternatives', g'.alternatives? s = some alternatives' ∧
      alternatives'.map Production.rhs = alternatives.map Production.rhs := by
  simpa [Grammar.bodies?, ha] using h.bodies?_eq s hs

theorem tag?_getElem? (h : AlikeFrom g g' l l' tokens symbol) {position : Nat} {token : String}
    (ht : tokens[position]? = some token) : l'.tag? token = l.tag? token :=
  h.tag?_eq token (List.mem_of_getElem? ht)

/-- With the same lexicon only the rules count. -/
theorem of_bodies?_eq (h : ∀ s, g.Reaches symbol s → g'.bodies? s = g.bodies? s) :
    AlikeFrom g g' l l tokens symbol :=
  ⟨h, fun _ _ => rfl, fun _ _ => rfl⟩

/-- The order of the rules and of the entries does not count. -/
theorem of_perm (hg : g'.table.entries.Perm g.table.entries) (hl : l'.table.entries.Perm l.table.entries) :
    AlikeFrom g g' l l' tokens symbol where
  bodies?_eq s _ := congrArg (Option.map _) (Table.get?_eq_of_perm hg s)
  tag?_eq token _ := Table.get?_eq_of_perm hl token
  isTag_eq s _ := by
    have htag : ∀ word, l'.tag? word = l.tag? word := Table.get?_eq_of_perm hl
    rw [Bool.eq_iff_iff, Lexicon.isTag_iff, Lexicon.isTag_iff]
    simp only [htag]

end AlikeFrom

namespace Matcher

/-- The matcher with another grammar and another lexicon. -/
def withRules (m : Matcher) (g : Grammar) (l : Lexicon) : Matcher := { m with grammar := g, lexicon := l }

section
variable {m : Matcher} {g : Grammar} {l : Lexicon} {start : String}

theorem mismatch_withRules (h : AlikeFrom m.grammar g m.lexicon l m.tokens start) {symbol : String}
    (hs : m.grammar.Reaches start symbol) (position : Nat) :
    (m.withRules g l).mismatch symbol position = m.mismatch symbol position := by
  unfold mismatch
  rw [show (m.withRules g l).lexicon.isTag symbol = m.lexicon.isTag symbol from h.isTag_eq symbol hs]

mutual

/-- Where nothing that is looked up differs, a match comes to the same end and
records the same. -/
theorem SymbolLog.withRules (h : AlikeFrom m.grammar g m.lexicon l m.tokens start)
    {budget path symbol position outcome log} :
    m.SymbolLog budget path symbol position outcome log → m.grammar.Reaches start symbol →
    (m.withRules g l).SymbolLog budget path symbol position outcome log
  | .unknown ha, hs =>
    have hc := (h.contains_eq hs).trans (Grammar.alternatives?_eq_none.1 ha)
    .unknown (Grammar.alternatives?_eq_none.2 hc)
  | .repeated hc hp, hs => .repeated ((h.contains_eq hs).trans hc) hp
  | .tooDeep hc hp, hs => .tooDeep ((h.contains_eq hs).trans hc) hp
  | .matched ha hp hf, hs => by
    obtain ⟨_, ha', he⟩ := h.exists_alternatives hs ha
    exact .matched ha' hp (hf.withRules h he fun _ hp _ hx => hs.tail (.intro ha hp hx))
  | .failed ha hp hf, hs => by
    obtain ⟨_, ha', he⟩ := h.exists_alternatives hs ha
    exact .failed ha' hp (hf.withRules h he fun _ hp _ hx => hs.tail (.intro ha hp hx))
  | .aborted ha hp hf, hs => by
    obtain ⟨_, ha', he⟩ := h.exists_alternatives hs ha
    exact .aborted ha' hp (hf.withRules h he fun _ hp _ hx => hs.tail (.intro ha hp hx))

/-- Of the alternatives only the bodies count, so the others may carry other
names. -/
theorem FirstLog.withRules (h : AlikeFrom m.grammar g m.lexicon l m.tokens start)
    {budget path position productions outcome log} :
    m.FirstLog budget path position productions outcome log →
    ∀ {productions'}, List.map Production.rhs productions' = productions.map Production.rhs →
      (∀ production ∈ productions, ∀ s ∈ production.rhs, m.grammar.Reaches start s) →
      (m.withRules g l).FirstLog budget path position productions' outcome log
  | .nil, productions', he, _ => by
    cases List.map_eq_nil_iff.1 he
    exact .nil
  | .next hs hf, productions', he, hr => by
    obtain ⟨production', productions', rfl, hhead, htail⟩ := List.map_eq_cons_iff.1 he
    refine .next ?_ (hf.withRules h htail fun production hp => hr production (List.mem_cons_of_mem _ hp))
    rw [hhead]
    exact hs.withRules h (hr _ List.mem_cons_self)
  | .here hs hne, productions', he, hr => by
    obtain ⟨production', productions', rfl, hhead, -⟩ := List.map_eq_cons_iff.1 he
    refine .here ?_ hne
    rw [hhead]
    exact hs.withRules h (hr _ List.mem_cons_self)

theorem SequenceLog.withRules (h : AlikeFrom m.grammar g m.lexicon l m.tokens start)
    {budget path symbols cursor outcome log} :
    m.SequenceLog budget path symbols cursor outcome log → (∀ s ∈ symbols, m.grammar.Reaches start s) →
    (m.withRules g l).SequenceLog budget path symbols cursor outcome log
  | .nil, _ => .nil
  | .exhausted ht, _ => .exhausted ht
  | .token ht hl hs, hr => by
    have htail := hs.withRules h fun s hx => hr s (List.mem_cons_of_mem _ hx)
    exact .token ht ((h.tag?_getElem? ht).trans hl) htail
  | .matched ht hl hc hm hs, hr => by
    have hsymbol := hr _ List.mem_cons_self
    have htail := hs.withRules h fun s hx => hr s (List.mem_cons_of_mem _ hx)
    exact .matched ht ((h.tag?_getElem? ht).trans_ne hl) ((h.contains_eq hsymbol).trans hc)
      (hm.withRules h hsymbol) htail
  | .failed ht hl hc hf, hr => by
    have hsymbol := hr _ List.mem_cons_self
    exact .failed ht ((h.tag?_getElem? ht).trans_ne hl) ((h.contains_eq hsymbol).trans hc)
      (hf.withRules h hsymbol)
  | .aborted ht hl hc ha, hr => by
    have hsymbol := hr _ List.mem_cons_self
    exact .aborted ht ((h.tag?_getElem? ht).trans_ne hl) ((h.contains_eq hsymbol).trans hc)
      (ha.withRules h hsymbol)
  | .unknown ht hl hc, hr => by
    have hsymbol := hr _ List.mem_cons_self
    rw [← mismatch_withRules h hsymbol]
    exact .unknown ht ((h.tag?_getElem? ht).trans_ne hl) ((h.contains_eq hsymbol).trans hc)

end

end

end Matcher

/-! ## Main theorem -/

namespace Parser

theorem judge_congr {p p' : Parser} {symbol : String} (h : p'.grammar.contains symbol = p.grammar.contains symbol)
    (n : Nat) (f : Frontier) (o : Outcome Tree) : p'.judge symbol n f o = p.judge symbol n f o := by
  cases o with
  | matched tree stop => rfl
  | failed => simp only [judge, h]
  | aborted reason => cases reason <;> rfl

theorem parseFrom_congr {p p' : Parser} {tokens : List String} {symbol : String} (hlimit : p'.limit = p.limit)
    (h : AlikeFrom p.grammar p'.grammar p.lexicon p'.lexicon tokens symbol) (trace : Trace) :
    p'.parseFrom tokens symbol trace = p.parseFrom tokens symbol trace := by
  obtain ⟨outcome, log, hlog, hrun⟩ := Matcher.exists_runLog (p.matcher tokens) symbol
  have hmatcher : p'.matcher tokens = (p.matcher tokens).withRules p'.grammar p'.lexicon := by
    rw [matcher, hlimit]
    rfl
  have hrun' : (p'.matcher tokens).run symbol trace = (outcome, trace.recordAll log) := by
    rw [hmatcher]
    exact (Matcher.SymbolLog.withRules h hlog .refl).eq trace
  rw [parseFrom_eq, parseFrom_eq, hrun', hrun, judge_congr (h.contains_eq .refl)]

/-- Parsers with the same limit whose grammars and lexicons do not differ in
what the symbol reaches and in the tags of the tokens come to the same verdict
and leave the same trace. So it is with rules and entries in another order; with
the same lexicon and the same bodies for what the symbol reaches, whatever other
rules there are and whatever names the productions carry; and with the same
lexicon and an equal grammar. -/
theorem parseFrom_eq_of_alikeFrom (p p' : Parser) (hlimit : p'.limit = p.limit) (tokens : List String)
    (symbol : String) (trace : Trace) :
    (AlikeFrom p.grammar p'.grammar p.lexicon p'.lexicon tokens symbol →
      p'.parseFrom tokens symbol trace = p.parseFrom tokens symbol trace) ∧
    (p'.grammar.table.entries.Perm p.grammar.table.entries →
      p'.lexicon.table.entries.Perm p.lexicon.table.entries →
      p'.parseFrom tokens symbol trace = p.parseFrom tokens symbol trace) ∧
    (p'.lexicon = p.lexicon →
      (∀ s, p.grammar.Reaches symbol s → p'.grammar.bodies? s = p.grammar.bodies? s) →
      p'.parseFrom tokens symbol trace = p.parseFrom tokens symbol trace) ∧
    (p'.lexicon = p.lexicon → (p.grammar == p'.grammar) = true →
      p'.parseFrom tokens symbol trace = p.parseFrom tokens symbol trace) := by
  refine ⟨fun h => ?_, fun hg hl => ?_, fun hl hg => ?_, fun hl hg => ?_⟩
  · exact parseFrom_congr hlimit h trace
  · exact parseFrom_congr hlimit (.of_perm hg hl) trace
  · exact parseFrom_congr hlimit (hl ▸ .of_bodies?_eq hg) trace
  · exact parseFrom_congr hlimit (.of_perm (Grammar.perm_of_beq hg) (by rw [hl])) trace

/-- Noun phrases with the rules in another order. -/
def reorderedPhrases : Grammar :=
  ((Grammar.empty.insert "VP" [⟨"VP", ["n"]⟩]).insert "S" [⟨"S", ["NP", "VP"]⟩]).insert "NP"
    [⟨"NP", ["n", "n"]⟩, ⟨"NP", ["n"]⟩]

/-- Noun phrases with a rule that nothing leads to and no names in the
productions. -/
def anonymousPhrases : Grammar :=
  (((Grammar.empty.insert "VP" [⟨"", ["n"]⟩]).insert "PP" [⟨"", ["prep", "PP"]⟩]).insert
    "NP" [⟨"", ["n", "n"]⟩, ⟨"", ["n"]⟩]).insert "S" [⟨"", ["NP", "VP"]⟩]

theorem parseFrom_nounPhrases_congr :
    let p : Parser := ⟨Matcher.nounPhrases, Matcher.nouns, "S", 6, by decide⟩
    let p₁ : Parser := ⟨anonymousPhrases, ⟨⟨[("cat", "n"), ("with", "prep"), ("dog", "n")], by decide⟩⟩, "S", 6,
      by decide⟩
    let p₂ : Parser := ⟨anonymousPhrases, Matcher.nouns, "PP", 6, by decide⟩
    let p₃ : Parser := ⟨reorderedPhrases, Matcher.nouns, "S", 6, by decide⟩
    AlikeFrom p.grammar p₁.grammar p.lexicon p₁.lexicon ["dog", "cat", "dog"] "S" ∧
    p₁.parseFrom ["dog", "cat", "dog"] "S" .empty = p.parseFrom ["dog", "cat", "dog"] "S" .empty ∧
    p₂.parseFrom ["dog", "cat", "dog"] "S" .empty = p.parseFrom ["dog", "cat", "dog"] "S" .empty ∧
    p₃.grammar.table.entries.Perm p.grammar.table.entries ∧
    p₃.parseFrom ["dog", "cat", "dog"] "S" .empty = p.parseFrom ["dog", "cat", "dog"] "S" .empty ∧
    (p.grammar == p₃.grammar) = true ∧
    p₃.parseFrom ["dog", "cat"] "S" .empty = p.parseFrom ["dog", "cat"] "S" .empty := by
  intro p p₁ p₂ p₃
  have hmem : ∀ s, p.grammar.Reaches "S" s → s ∈ ["S", "NP", "VP", "n"] :=
    fun s h => h.mem_of_closed (by decide) (by decide)
  have hbodies : ∀ s, p.grammar.Reaches "S" s → anonymousPhrases.bodies? s = p.grammar.bodies? s :=
    fun s hs => (by decide : ∀ s ∈ ["S", "NP", "VP", "n"], anonymousPhrases.bodies? s = p.grammar.bodies? s) s
      (hmem s hs)
  have hisTag : ∀ s, p.grammar.Reaches "S" s → p₁.lexicon.isTag s = p.lexicon.isTag s :=
    fun s hs => (by decide : ∀ s ∈ ["S", "NP", "VP", "n"], p₁.lexicon.isTag s = p.lexicon.isTag s) s (hmem s hs)
  have halike : AlikeFrom p.grammar p₁.grammar p.lexicon p₁.lexicon ["dog", "cat", "dog"] "S" :=
    ⟨hbodies, by decide, hisTag⟩
  have hequal : (p.grammar == p₃.grammar) = true := by decide
  have hperm : p₃.grammar.table.entries.Perm p.grammar.table.entries := by decide
  exact ⟨halike, (parseFrom_eq_of_alikeFrom p p₁ rfl ["dog", "cat", "dog"] "S" .empty).1 halike,
    (parseFrom_eq_of_alikeFrom p p₂ rfl ["dog", "cat", "dog"] "S" .empty).2.2.1 rfl hbodies,
    hperm, (parseFrom_eq_of_alikeFrom p p₃ rfl ["dog", "cat", "dog"] "S" .empty).2.1 hperm (.refl _),
    hequal, (parseFrom_eq_of_alikeFrom p p₃ rfl ["dog", "cat"] "S" .empty).2.2.2 rfl hequal⟩

end Parser

end PhraseStructure
