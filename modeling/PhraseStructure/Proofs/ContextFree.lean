import PhraseStructure.Proofs.Derivation
/-!
# Context-free derivations

The ordinary reading of a grammar, in which every alternative counts: a symbol
derives a token that is tagged with it, and whatever one of its alternatives
derives. Matching finds derivations only (`Phrase.derives`). Where every symbol
has at most one end at a position, matching misses none: an alternative that is
tried in vain derives nothing (`EvaluatesFirst.not_derives`). That is so, for
one, where every symbol has a fixed width (`HasWidths.unambiguous`).

Main statement: on such sentences the verdict tells what the alternatives of the
symbol derive.
-/
namespace PhraseStructure

section
variable (g : Grammar) (l : Lexicon) (tokens : List String)

mutual

/-- A symbol derives the tokens from one position up to another. -/
inductive Derives : String → Nat → Nat → Prop
  | tag {symbol token position} : tokens[position]? = some token → l.tag? token = some symbol →
    Derives symbol position (position + 1)
  | rule {symbol start stop} : DerivesByRule symbol start stop → Derives symbol start stop

/-- A symbol derives tokens through one of its alternatives. -/
inductive DerivesByRule : String → Nat → Nat → Prop
  | intro {symbol start stop alternatives production} :
    g.alternatives? symbol = some alternatives → production ∈ alternatives →
    DerivesAll production.rhs start stop → DerivesByRule symbol start stop

/-- Symbols derive tokens one after the other. -/
inductive DerivesAll : List String → Nat → Nat → Prop
  | nil {position} : DerivesAll [] position position
  | cons {symbol symbols start middle stop} :
    Derives symbol start middle → DerivesAll symbols middle stop → DerivesAll (symbol :: symbols) start stop

end

/-- Every symbol derives at most one stretch of tokens from a position on. -/
def Unambiguous : Prop :=
  ∀ symbol start stop stop', Derives g l tokens symbol start stop → Derives g l tokens symbol start stop' →
    stop = stop'

end

variable {g : Grammar} {l : Lexicon} {tokens : List String}

/-! ## Trees are derivations -/

mutual

theorem Spans.derives {tree start stop} : Spans g l tokens tree start stop →
    Derives g l tokens tree.label start stop
  | .tagged ht hl => .tag ht hl
  | .phrase h => .rule h.derives

theorem Phrase.derives {tree start stop} : Phrase g l tokens tree start stop →
    DerivesByRule g l tokens tree.label start stop
  | .node ha hp hl hs => .intro ha hp (hl ▸ hs.derives)

theorem SpansAll.derives {trees start stop} : SpansAll g l tokens trees start stop →
    DerivesAll g l tokens (trees.map Tree.label) start stop
  | .nil => .nil
  | .cons h hs => .cons h.derives hs.derives

end

/-! ## No empty derivations -/

mutual

/-- Where no alternative is empty, what is derived starts with a token. -/
theorem Derives.lt_length (hg : g.NoEmptyAlternative) {symbol start stop} :
    Derives g l tokens symbol start stop → start < tokens.length
  | .tag ht _ => (List.getElem?_eq_some_iff.1 ht).1
  | .rule h => h.lt_length hg

theorem DerivesByRule.lt_length (hg : g.NoEmptyAlternative) {symbol start stop} :
    DerivesByRule g l tokens symbol start stop → start < tokens.length
  | .intro ha hp hs => hs.lt_length hg (hg _ _ ha _ hp)

theorem DerivesAll.lt_length (hg : g.NoEmptyAlternative) {symbols start stop} :
    DerivesAll g l tokens symbols start stop → symbols ≠ [] → start < tokens.length
  | .nil, hne => absurd rfl hne
  | .cons h _, _ => h.lt_length hg

end

mutual

/-- Where no alternative is empty, a symbol derives a token at least. -/
theorem Derives.lt (hg : g.NoEmptyAlternative) {symbol start stop} :
    Derives g l tokens symbol start stop → start < stop
  | .tag _ _ => Nat.lt_succ_self _
  | .rule h => h.lt hg

theorem DerivesByRule.lt (hg : g.NoEmptyAlternative) {symbol start stop} :
    DerivesByRule g l tokens symbol start stop → start < stop
  | .intro ha hp hs => by
    have hlength := List.length_pos_iff.2 (hg _ _ ha _ hp)
    have hle := hs.add_length_le hg
    omega

theorem DerivesAll.add_length_le (hg : g.NoEmptyAlternative) {symbols start stop} :
    DerivesAll g l tokens symbols start stop → start + symbols.length ≤ stop
  | .nil => Nat.le_refl _
  | .cons h hs => by
    have hlt := h.lt hg
    have hle := hs.add_length_le hg
    rw [List.length_cons]
    omega

end

/-! ## Failure means no derivation -/

mutual

theorem Evaluates.not_derives (hg : g.NoEmptyAlternative) (hu : Unambiguous g l tokens) {symbol position r} :
    Evaluates g l tokens symbol position r → r = none →
    ∀ stop, ¬ DerivesByRule g l tokens symbol position stop
  | .rule ha hf, hr, _, .intro ha' hp hs => by
    have hfirst := hf.not_derives hg hu (Option.map_eq_none_iff.1 hr)
    cases ha.symm.trans ha'
    exact hfirst _ hp _ hs

/-- Alternatives that fail derive nothing. -/
theorem EvaluatesFirst.not_derives (hg : g.NoEmptyAlternative) (hu : Unambiguous g l tokens)
    {productions position r} : EvaluatesFirst g l tokens productions position r → r = none →
    ∀ production ∈ productions, ∀ stop, ¬ DerivesAll g l tokens production.rhs position stop
  | .nil, _, _, hp, _ => by cases hp
  | .next hs hf, hr, production, hp, stop => by
    have hhead := hs.not_derives hg hu rfl
    have htail := hf.not_derives hg hu hr
    rcases List.mem_cons.1 hp with rfl | hp
    · exact hhead stop
    · exact htail production hp stop

theorem EvaluatesSequence.not_derives (hg : g.NoEmptyAlternative) (hu : Unambiguous g l tokens)
    {symbols cursor r} : EvaluatesSequence g l tokens symbols cursor r → r = none →
    ∀ stop, ¬ DerivesAll g l tokens symbols cursor stop
  | .exhausted ht, _, _, .cons h _ => absurd (h.lt_length hg) (by simpa using ht)
  | .token ht hl h, hr, _, .cons hd hs => by
    have htail := h.not_derives hg hu (Option.map_eq_none_iff.1 hr)
    -- The symbol has one end only, and that is where matching went on.
    cases hu _ _ _ _ hd (.tag ht hl)
    exact htail _ hs
  | .matched _ _ he h, hr, _, .cons hd hs => by
    have htail := h.not_derives hg hu (Option.map_eq_none_iff.1 hr)
    obtain ⟨hlabel, hphrase⟩ := he.phrase rfl
    cases hu _ _ _ _ hd (.rule (hlabel ▸ hphrase.derives))
    exact htail _ hs
  | .failed ht hl he, _, _, .cons hd _ => by
    have hrule := he.not_derives hg hu rfl
    cases hd with
    | tag ht' hl' => cases ht.symm.trans ht'; exact hl hl'
    | rule hd => exact hrule _ hd
  | .unknown ht hl hc, _, _, .cons hd _ => by
    cases hd with
    | tag ht' hl' => cases ht.symm.trans ht'; exact hl hl'
    | rule hd =>
      obtain ⟨ha, _, _⟩ := hd
      simp [Grammar.contains_iff.2 ⟨_, ha⟩] at hc

end

namespace Matcher

variable {m : Matcher} {symbol : String} {trace : Trace}

/-- What a call matches is derived, wherever the call stands. -/
theorem derivesByRule_of_matched {budget path position tree stop}
    (h : (m.matchSymbol budget path symbol position trace).1 = .matched tree stop) :
    DerivesByRule m.grammar m.lexicon m.tokens symbol position stop := by
  obtain ⟨hlabel, hphrase⟩ := (reads_of_matched h).phrase rfl
  exact hlabel ▸ hphrase.derives

theorem not_derivesByRule_of_failed (hg : m.grammar.NoEmptyAlternative)
    (hu : Unambiguous m.grammar m.lexicon m.tokens) (hc : m.grammar.contains symbol = true)
    (h : (m.run symbol trace).1 = .failed) (stop : Nat) :
    ¬ DerivesByRule m.grammar m.lexicon m.tokens symbol 0 stop :=
  (reads_of_failed hc h).not_derives hg hu rfl stop

end Matcher

/-! ## Symbols of fixed width -/

/-- The width of symbols one after the other. -/
def totalWidth (width : String → Nat) : List String → Nat
  | [] => 0
  | symbol :: symbols => width symbol + totalWidth width symbols

/-- A width for every symbol such that tags have width one and the widths along
an alternative add up to that of its symbol. -/
structure HasWidths (g : Grammar) (l : Lexicon) (width : String → Nat) : Prop where
  tag : ∀ entry ∈ l.table.entries, width entry.2 = 1
  rule : ∀ entry ∈ g.table.entries, ∀ production ∈ entry.2, totalWidth width production.rhs = width entry.1

variable {width : String → Nat}

mutual

theorem Derives.stop_eq (hw : HasWidths g l width) {symbol start stop} :
    Derives g l tokens symbol start stop → stop = start + width symbol
  | .tag _ hl => by rw [hw.tag _ (Table.get?_eq_some_iff.1 hl)]
  | .rule h => h.stop_eq hw

theorem DerivesByRule.stop_eq (hw : HasWidths g l width) {symbol start stop} :
    DerivesByRule g l tokens symbol start stop → stop = start + width symbol
  | .intro ha hp hs => by
    have hsum := hs.stop_eq hw
    rw [hsum, hw.rule _ (Table.get?_eq_some_iff.1 ha) _ hp]

theorem DerivesAll.stop_eq (hw : HasWidths g l width) {symbols start stop} :
    DerivesAll g l tokens symbols start stop → stop = start + totalWidth width symbols
  | .nil => rfl
  | .cons h hs => by
    have hhead := h.stop_eq hw
    have htail := hs.stop_eq hw
    rw [htail, hhead, totalWidth, Nat.add_assoc]

end

theorem HasWidths.unambiguous (hw : HasWidths g l width) (tokens : List String) : Unambiguous g l tokens :=
  fun _ _ _ _ h h' => (h.stop_eq hw).trans (h'.stop_eq hw).symm

/-! ## Main theorem -/

namespace Parser

/-- Suppose that the grammar was read from a text, that every symbol derives at
most one stretch of tokens from a position on, and that the parse ends neither
in a cycle nor at the limit. Then the sentence is accepted exactly if an
alternative of the symbol derives all of it, the symbol is reported as not
matched exactly if no alternative derives anything from the first token on, and
where an alternative derives a part of the sentence the rejection says how
much. -/
theorem parseFrom_iff_derives_of_unambiguous (p : Parser) (text : String)
    (hg : Grammar.ofText text = .ok p.grammar) (tokens : List String)
    (hu : Unambiguous p.grammar p.lexicon tokens) (symbol : String) (hc : p.grammar.contains symbol = true)
    (trace : Trace) (hcycle : ∀ s q, ¬ RejectedFor (.cycle s q) (p.parseFrom tokens symbol trace).1)
    (hlimit : ¬ CutShort (p.parseFrom tokens symbol trace).1) :
    ((∃ d, (p.parseFrom tokens symbol trace).1 = .ok d) ↔
      DerivesByRule p.grammar p.lexicon tokens symbol 0 tokens.length) ∧
    (RejectedFor (.noMatch symbol) (p.parseFrom tokens symbol trace).1 ↔
      ∀ stop, ¬ DerivesByRule p.grammar p.lexicon tokens symbol 0 stop) ∧
    (∀ stop, DerivesByRule p.grammar p.lexicon tokens symbol 0 stop → stop < tokens.length →
      ∃ r, (p.parseFrom tokens symbol trace).1 = .error r ∧ r.reason = .incomplete ∧ r.consumed = stop) := by
  simp only [CutShort, parseFrom_eq, judge_recursionLimit_iff, judge_cycle_iff, judge_eq_ok_iff,
    judge_noMatch_iff, judge_incomplete_iff] at hcycle hlimit ⊢
  cases ho : ((p.matcher tokens).run symbol trace).1 with
  | matched tree last =>
    have hd : DerivesByRule p.grammar p.lexicon tokens symbol 0 last := Matcher.derivesByRule_of_matched ho
    -- The end of the match is the only one there is, so whatever is derived
    -- ends there.
    have hend : ∀ stop, DerivesByRule p.grammar p.lexicon tokens symbol 0 stop → stop = last :=
      fun stop h => hu _ _ _ _ (.rule h) (.rule hd)
    refine ⟨⟨?_, fun h => ?_⟩, ⟨fun h => ?_, fun h => absurd hd (h _)⟩, fun stop h hlt => ?_⟩
    · rintro ⟨d, hm, -⟩
      cases hm
      exact hd
    · cases hend _ h
      exact ⟨⟨tree, _⟩, rfl, rfl⟩
    · simp at h
    · cases hend _ h
      exact ⟨Nat.ne_of_lt hlt, tree, rfl⟩
  | failed =>
    have hnot : ∀ stop, ¬ DerivesByRule p.grammar p.lexicon tokens symbol 0 stop :=
      Matcher.not_derivesByRule_of_failed (m := p.matcher tokens) (Grammar.noEmptyAlternative_of_ofText hg) hu hc ho
    refine ⟨⟨fun h => ?_, fun h => absurd h (hnot _)⟩, ⟨fun _ => hnot, fun _ => ?_⟩, fun stop h _ => ?_⟩
    · simp at h
    · exact ⟨rfl, hc, trivial⟩
    · exact absurd h (hnot stop)
  | aborted reason =>
    cases reason with
    | cycle s q => exact absurd ho (hcycle s q)
    | tooDeep s limit => exact absurd ⟨s, limit, ho⟩ hlimit

/-- Two verbs, or a noun and a verb. -/
def clauses : Parser where
  grammar := Grammar.empty.insert "S" [⟨"S", ["v", "v"]⟩, ⟨"S", ["n", "v"]⟩]
  lexicon := ⟨⟨[("dog", "n"), ("barks", "v")], by decide⟩⟩
  start := "S"
  limit := 2
  start_mem := by decide

theorem derives_clauses :
    Unambiguous clauses.grammar clauses.lexicon ["dog", "barks"] ∧
    (∃ d, (clauses.parseFrom ["dog", "barks"] "S" .empty).1 = .ok d) ∧
    DerivesByRule clauses.grammar clauses.lexicon ["dog", "barks"] "S" 0 2 := by
  have hw : HasWidths clauses.grammar clauses.lexicon fun symbol => if symbol = "S" then 2 else 1 :=
    ⟨by decide, by decide⟩
  have hok : (clauses.parseFrom ["dog", "barks"] "S" .empty).1 =
      .ok ⟨.node "S" [.tagged "n" "dog", .tagged "v" "barks"], 2⟩ := by decide
  have haccept := (parseFrom_iff_derives_of_unambiguous clauses "S -> v v | n v" (by rfl) ["dog", "barks"]
    (hw.unambiguous _) "S" (by decide) .empty (by simp [hok]) (by simp [hok, CutShort])).1
  exact ⟨hw.unambiguous _, ⟨_, hok⟩, haccept.1 ⟨_, hok⟩⟩

/-- A symbol that is the tag of one word and has a rule for another. -/
def homonym : Parser where
  grammar := Grammar.empty.insert "X" [⟨"X", ["n"]⟩]
  lexicon := ⟨⟨[("dog", "X"), ("cat", "n")], by decide⟩⟩
  start := "X"
  limit := 512
  start_mem := by decide

/-- The first symbol is matched by its rule only, so that a first token with the
symbol as its tag is derived and still not matched. -/
theorem noMatch_homonym :
    Grammar.ofText "X -> n" = .ok homonym.grammar ∧
    Unambiguous homonym.grammar homonym.lexicon ["dog", "dog"] ∧
    homonym.grammar.contains "X" = true ∧
    RejectedFor (.noMatch "X") (homonym.parseFrom ["dog", "dog"] "X" .empty).1 ∧
    Derives homonym.grammar homonym.lexicon ["dog", "dog"] "X" 0 1 ∧
    ¬ (RejectedFor (.noMatch "X") (homonym.parseFrom ["dog", "dog"] "X" .empty).1 ↔
      ∀ stop, ¬ Derives homonym.grammar homonym.lexicon ["dog", "dog"] "X" 0 stop) := by
  have hw : HasWidths homonym.grammar homonym.lexicon fun _ => 1 := ⟨by decide, by decide⟩
  have hd : Derives homonym.grammar homonym.lexicon ["dog", "dog"] "X" 0 1 := .tag rfl (by decide)
  have hr : RejectedFor (.noMatch "X") (homonym.parseFrom ["dog", "dog"] "X" .empty).1 := ⟨_, rfl, rfl⟩
  exact ⟨by rfl, hw.unambiguous _, by decide, hr, hd, fun h => h.1 hr 1 hd⟩

end Parser

end PhraseStructure
