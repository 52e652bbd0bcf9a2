import Mathlib.Logic.Relation
import PhraseStructure.Proofs.ContextFree
import PhraseStructure.Proofs.Log
/-!
# Expected symbols

A rejection names the symbols that were expected where it lies. Each of them
could have stood there: the tags of the tokens before that position, followed by
the symbol, begin a form that the rules rewrite the parsed symbol to
(`Foreseen`). While an alternative is matched, what is left of it is foreseen at
the cursor; that passes to the alternatives of a nonterminal (`Foreseen.enter`)
and, when the first symbol is matched, to those behind it (`Foreseen.skip`).

Main statement: the symbols that a rejection names are foreseen there and do not
fit the token there.
-/
namespace PhraseStructure

open Relation

/-! ## Rewriting -/

/-- A nonterminal among some symbols is replaced by one of its alternatives. -/
inductive Grammar.Rewrites (g : Grammar) : List String → List String → Prop
  | intro {symbol alternatives production} (before after : List String) :
    g.alternatives? symbol = some alternatives → production ∈ alternatives →
    Rewrites g (before ++ symbol :: after) (before ++ (production.rhs ++ after))

section
variable {g : Grammar} {l : Lexicon} {tokens : List String} {symbols symbols' : List String}

theorem Grammar.Rewrites.within (h : g.Rewrites symbols symbols') (before after : List String) :
    g.Rewrites (before ++ (symbols ++ after)) (before ++ (symbols' ++ after)) := by
  obtain ⟨left, right, ha, hp⟩ := h
  simpa using Grammar.Rewrites.intro (before ++ left) (right ++ after) ha hp

theorem rewrites_within (h : ReflTransGen g.Rewrites symbols symbols') (before after : List String) :
    ReflTransGen g.Rewrites (before ++ (symbols ++ after)) (before ++ (symbols' ++ after)) :=
  h.lift (fun s => before ++ (s ++ after)) fun _ _ hstep => hstep.within before after

/-- The tokens before a position have these tags. -/
structure TagsUpTo (l : Lexicon) (tokens : List String) (position : Nat) (tags : List String) : Prop where
  le : position ≤ tokens.length
  eq : (tokens.take position).map l.tag? = tags.map some

theorem TagsUpTo.token {position : Nat} {tags : List String} {token symbol : String}
    (h : TagsUpTo l tokens position tags) (ht : tokens[position]? = some token)
    (hl : l.tag? token = some symbol) : TagsUpTo l tokens (position + 1) (tags ++ [symbol]) where
  le := (List.getElem?_eq_some_iff.1 ht).1
  eq := by simp [List.take_add_one, ht, h.eq, hl]

mutual

/-- A symbol is rewritten to the tags of the tokens that it derives. -/
theorem Derives.rewrites {symbol start stop} : Derives g l tokens symbol start stop →
    ∀ {tags}, TagsUpTo l tokens start tags →
      ∃ more, TagsUpTo l tokens stop (tags ++ more) ∧ ReflTransGen g.Rewrites [symbol] more
  | .tag ht hl, _, htags => ⟨_, htags.token ht hl, .refl⟩
  | .rule h, _, htags => h.rewrites htags

theorem DerivesByRule.rewrites {symbol start stop} : DerivesByRule g l tokens symbol start stop →
    ∀ {tags}, TagsUpTo l tokens start tags →
      ∃ more, TagsUpTo l tokens stop (tags ++ more) ∧ ReflTransGen g.Rewrites [symbol] more
  | .intro ha hp hs, _, htags => by
    obtain ⟨more, hmore, hr⟩ := hs.rewrites htags
    have hstep : g.Rewrites [symbol] _ := .intro [] [] ha hp
    rw [List.append_nil] at hstep
    exact ⟨more, hmore, .head hstep hr⟩

theorem DerivesAll.rewrites {symbols start stop} : DerivesAll g l tokens symbols start stop →
    ∀ {tags}, TagsUpTo l tokens start tags →
      ∃ more, TagsUpTo l tokens stop (tags ++ more) ∧ ReflTransGen g.Rewrites symbols more
  | .nil, _, htags => ⟨[], by simpa using htags, .refl⟩
  | .cons h hs, _, htags => by
    obtain ⟨more, hmore, hr⟩ := h.rewrites htags
    obtain ⟨more', hmore', hr'⟩ := hs.rewrites hmore
    refine ⟨more ++ more', by simpa using hmore', ?_⟩
    have htail := rewrites_within hr' more []
    simp only [List.append_nil] at htail
    exact (rewrites_within hr [] _).trans htail

end

end

namespace Matcher

variable {m : Matcher}

/-! ## What may follow -/

/-- The symbols may follow the tokens before the cursor, in a form that `start`
is rewritten to. -/
def Foreseen (m : Matcher) (start : String) (symbols : List String) (cursor : Nat) : Prop :=
  ∃ tags rest, TagsUpTo m.lexicon m.tokens cursor tags ∧
    TransGen m.grammar.Rewrites [start] (tags ++ (symbols ++ rest))

section
variable {start symbol : String} {symbols : List String} {cursor : Nat} {alternatives : List Production}
  {production : Production}

theorem foreseen_start (ha : m.grammar.alternatives? start = some alternatives)
    (hp : production ∈ alternatives) : m.Foreseen start production.rhs 0 :=
  ⟨[], [], ⟨Nat.zero_le _, by simp⟩, .single (.intro [] [] ha hp)⟩

/-- The alternatives of a nonterminal may stand in its place. -/
theorem Foreseen.enter (h : m.Foreseen start (symbol :: symbols) cursor)
    (ha : m.grammar.alternatives? symbol = some alternatives) (hp : production ∈ alternatives) :
    m.Foreseen start production.rhs cursor := by
  obtain ⟨tags, rest, htags, hr⟩ := h
  exact ⟨tags, symbols ++ rest, htags, hr.tail (.intro tags (symbols ++ rest) ha hp)⟩

/-- Behind what the first symbol derives, the others may stand. -/
theorem Foreseen.skip {stop : Nat} (h : m.Foreseen start (symbol :: symbols) cursor)
    (hd : Derives m.grammar m.lexicon m.tokens symbol cursor stop) : m.Foreseen start symbols stop := by
  obtain ⟨tags, rest, htags, hr⟩ := h
  obtain ⟨more, hmore, hr'⟩ := hd.rewrites htags
  have hin := rewrites_within hr' tags (symbols ++ rest)
  refine ⟨tags ++ more, rest, hmore, ?_⟩
  rw [List.append_assoc]
  exact hr.trans_left hin

theorem Foreseen.first (h : m.Foreseen start (symbol :: symbols) cursor) : m.Foreseen start [symbol] cursor := by
  obtain ⟨tags, rest, htags, hr⟩ := h
  exact ⟨tags, symbols ++ rest, htags, hr⟩

end

/-! ## What is expected -/

/-- A symbol may stand at a position and does not: there is no token there, or
the symbol has no rule and does not tag the token. -/
structure Missing (m : Matcher) (start symbol : String) (position : Nat) : Prop where
  foreseen : m.Foreseen start [symbol] position
  absent : position = m.tokens.length ∨ ∃ token, m.tokens[position]? = some token ∧
    m.grammar.contains symbol = false ∧ m.lexicon.tag? token ≠ some symbol

theorem SymbolLog.derivesByRule {budget path symbol position tree stop log}
    (h : m.SymbolLog budget path symbol position (.matched tree stop) log) :
    DerivesByRule m.grammar m.lexicon m.tokens symbol position stop :=
  derivesByRule_of_matched (congrArg Prod.fst (h.eq .empty))

mutual

theorem SymbolLog.missing {start budget path symbol position outcome log} :
    m.SymbolLog budget path symbol position outcome log →
    (∀ alternatives, m.grammar.alternatives? symbol = some alternatives →
      ∀ production ∈ alternatives, m.Foreseen start production.rhs position) →
    ∀ s q, .expectation s q ∈ log → m.Missing start s q
  | .unknown _, _, _, _, he => by simp at he
  | .repeated _ _, _, _, _, he => by simp at he
  | .tooDeep _ _, _, _, _, he => by simp at he
  | .matched ha _ hf, hs, _, _, he => hf.missing (hs _ ha) _ _ he
  | .failed ha _ hf, hs, _, _, he => hf.missing (hs _ ha) _ _ (by simpa using he)
  | .aborted ha _ hf, hs, _, _, he => hf.missing (hs _ ha) _ _ he

theorem FirstLog.missing {start budget path position productions outcome log} :
    m.FirstLog budget path position productions outcome log →
    (∀ production ∈ productions, m.Foreseen start production.rhs position) →
    ∀ s q, .expectation s q ∈ log → m.Missing start s q
  | .nil, _, _, _, he => by cases he
  | .next hs hf, h, _, _, he => by
    rcases List.mem_append.1 he with he | he
    · exact hs.missing (h _ List.mem_cons_self) _ _ he
    · exact hf.missing (fun production hp => h production (List.mem_cons_of_mem _ hp)) _ _ he
  | .here hs _, h, _, _, he => hs.missing (h _ List.mem_cons_self) _ _ he

/-- What is left of an alternative is foreseen at the cursor, so every symbol
expected on the way is missing. -/
theorem SequenceLog.missing {start budget path symbols cursor outcome log} :
    m.SequenceLog budget path symbols cursor outcome log → m.Foreseen start symbols cursor →
    ∀ s q, .expectation s q ∈ log → m.Missing start s q
  | .nil, _, _, _, he => by cases he
  | .exhausted ht, h, _, _, he => by
    cases List.mem_singleton.1 he
    obtain ⟨tags, rest, htags, hr⟩ := h.first
    exact ⟨h.first, .inl (Nat.le_antisymm htags.le (List.getElem?_eq_none_iff.1 ht))⟩
  | .token ht hl hs, h, _, _, he => hs.missing (h.skip (.tag ht hl)) _ _ he
  | .matched _ _ _ hm hs, h, _, _, he => by
    rcases List.mem_append.1 he with he | he
    · exact hm.missing (fun _ ha _ hp => h.enter ha hp) _ _ he
    · exact hs.missing (h.skip (.rule hm.derivesByRule)) _ _ he
  | .failed _ _ _ hf, h, _, _, he => hf.missing (fun _ ha _ hp => h.enter ha hp) _ _ he
  | .aborted _ _ _ ha, h, _, _, he => ha.missing (fun _ ha _ hp => h.enter ha hp) _ _ he
  | .unknown ht hl hc, h, _, _, he => by
    obtain ⟨rfl, rfl⟩ := expectation_mem_mismatch.1 he
    exact ⟨h.first, .inr ⟨_, ht, hc, hl⟩⟩

end

end Matcher

/-! ## Main theorem -/

/-- Every symbol that a rejection names could have stood where the rejection
lies: the tokens before it all have tags, and the rules rewrite the parsed
symbol, in one or more steps, to these tags followed by the symbol and more.
Either there is no token there, or the symbol has no rule and does not tag the
token. -/
theorem Parser.expected_continues (p : Parser) (tokens : List String) (symbol : String) (r : Rejection)
    (h : (p.parseFrom tokens symbol .empty).1 = .error r) (s : String) (hs : s ∈ r.expected) :
    (∃ tags rest, (tokens.take r.position).map p.lexicon.tag? = tags.map some ∧
      TransGen p.grammar.Rewrites [symbol] (tags ++ s :: rest)) ∧
    (r.position = tokens.length ∨ ∃ token, tokens[r.position]? = some token ∧
      p.grammar.contains s = false ∧ p.lexicon.tag? token ≠ some s) := by
  obtain ⟨outcome, log, hlog, hrun⟩ := Matcher.exists_runLog (p.matcher tokens) symbol
  simp only [parseFrom_eq, hrun] at h
  rw [judge_expected h] at hs
  split at hs
  · rename_i hp
    have he := Trace.expectation_mem_of_mem_expected hs
    rw [hp] at he
    obtain ⟨⟨tags, rest, htags, hr⟩, habsent⟩ :=
      hlog.missing (fun _ ha _ hp => Matcher.foreseen_start ha hp) _ _ he
    exact ⟨⟨tags, rest, htags.eq, hr⟩, habsent⟩
  · cases hs

theorem Parser.expected_continues_nounPhrases :
    let p : Parser := ⟨Matcher.nounPhrases, Matcher.nouns, "S", 6, by decide⟩
    (p.parseFrom ["dog", "cat"] "S" .empty).1 = .error ⟨.noMatch "S", 2, ["VP"], 0, 2⟩ ∧ "VP" ∈ ["VP"] ∧
    ∃ rest, TransGen p.grammar.Rewrites ["S"] (["n", "n"] ++ "VP" :: rest) := by
  intro p
  have h : (p.parseFrom ["dog", "cat"] "S" .empty).1 = .error ⟨.noMatch "S", 2, ["VP"], 0, 2⟩ := by decide
  obtain ⟨⟨tags, rest, htags, hr⟩, -⟩ := expected_continues p _ _ _ h "VP" (by decide)
  have htags : tags.map some = ["n", "n"].map some := htags.symm
  rw [List.map_inj_right (fun _ _ => Option.some.inj) |>.1 htags] at hr
  exact ⟨h, by decide, rest, hr⟩

end PhraseStructure
