import PhraseStructure.Proofs.Reachability
/-!
# Shadowed alternatives

An alternative is shadowed if it begins with all the symbols of an earlier one.
Where it is tried the earlier one has failed, so it fails too, after the same
calls (`SequenceLog.append_of_failed`). What it expects has been expected
before, and a frontier takes no notice of it (`Frontier.HasMet`), although it
may have moved on since.

Main statement: without a shadowed alternative the verdict is the same, the
position of a rejection and the symbols expected there included. The induction
is over all calls, because the rule may be entered again inside itself
(`SymbolLog.thinned`).
-/
namespace PhraseStructure

/-! ## Expectations that change nothing -/

namespace Frontier

/-- The frontier after an event. Diagnostics do not move it. -/
def record (f : Frontier) : Event → Frontier
  | .diagnostic _ => f
  | .expectation symbol position => f.expect symbol position

/-- The frontier after some events. -/
def recordAll (f : Frontier) (log : List Event) : Frontier := log.foldl record f

/-- All that a log expects is known to the frontier: expecting it again changes
nothing. -/
def HasMet (f : Frontier) (log : List Event) : Prop :=
  ∀ symbol position, .expectation symbol position ∈ log → f.expect symbol position = f

variable {f : Frontier} {symbol s : String} {position q : Nat} {log log' : List Event}

@[simp] theorem recordAll_append (f : Frontier) (log log' : List Event) :
    f.recordAll (log ++ log') = (f.recordAll log).recordAll log' :=
  List.foldl_append

theorem expect_eq_self_iff :
    f.expect symbol position = f ↔ position < f.position ∨ position = f.position ∧ symbol ∈ f.expected := by
  obtain ⟨p, xs⟩ := f
  rcases Nat.lt_trichotomy position p with hlt | rfl | hgt
  · simp [expect_of_lt (f := ⟨p, xs⟩) hlt, hlt]
  · simp [expect_of_eq]
  · have hne : ¬ (position < p ∨ position = p ∧ symbol ∈ xs) := by omega
    simp only [expect_of_gt (f := ⟨p, xs⟩) hgt, mk.injEq, hne, iff_false]
    omega

theorem expect_expect_self (f : Frontier) (symbol : String) (position : Nat) :
    (f.expect symbol position).expect symbol position = f.expect symbol position := by
  obtain ⟨p, xs⟩ := f
  rcases Nat.lt_trichotomy position p with hlt | rfl | hgt
  · rw [expect_of_lt (f := ⟨p, xs⟩) hlt, expect_of_lt (f := ⟨p, xs⟩) hlt]
  · rw [expect_of_eq, expect_eq_self_iff]
    by_cases hs : symbol ∈ xs <;> simp [hs]
  · rw [expect_of_gt (f := ⟨p, xs⟩) hgt, expect_eq_self_iff]
    simp

/-- What is known stays known. -/
theorem expect_expect_of_eq_self (h : f.expect s q = f) (symbol : String) (position : Nat) :
    (f.expect symbol position).expect s q = f.expect symbol position := by
  obtain ⟨p, xs⟩ := f
  rw [expect_eq_self_iff] at h ⊢
  rcases Nat.lt_trichotomy position p with hlt | rfl | hgt
  · rwa [expect_of_lt (f := ⟨p, xs⟩) hlt]
  · rw [expect_of_eq]
    exact h.imp_right (And.imp_right (List.mem_append_left _))
  · rw [expect_of_gt (f := ⟨p, xs⟩) hgt]
    left
    rcases h with h | ⟨rfl, -⟩
    · exact Nat.lt_trans h hgt
    · exact hgt

theorem HasMet.record (h : f.HasMet log) (e : Event) : (f.record e).HasMet log := by
  cases e with
  | diagnostic d => exact h
  | expectation symbol position => exact fun s q he => expect_expect_of_eq_self (h s q he) symbol position

theorem HasMet.recordAll (h : f.HasMet log) (log' : List Event) : (f.recordAll log').HasMet log := by
  induction log' generalizing f with
  | nil => exact h
  | cons e log' ih => exact ih (h.record e)

/-- A log is known to the frontier that it leads to. -/
theorem hasMet_recordAll (f : Frontier) (log : List Event) : (f.recordAll log).HasMet log := by
  induction log generalizing f with
  | nil => exact fun _ _ he => by cases he
  | cons e log ih =>
    intro s q he
    rcases List.mem_cons.1 he with rfl | he
    · have hmet : (f.expect s q).HasMet [.expectation s q] := by
        intro s' q' he
        cases List.mem_singleton.1 he
        exact expect_expect_self f s q
      exact hmet.recordAll log s q (List.mem_singleton_self _)
    · exact ih (f.record e) s q he

theorem HasMet.recordAll_eq (h : f.HasMet log) : f.recordAll log = f := by
  induction log with
  | nil => rfl
  | cons e log ih =>
    have he : f.record e = f := by
      cases e with
      | diagnostic d => rfl
      | expectation symbol position => exact h symbol position List.mem_cons_self
    change (f.record e).recordAll log = f
    rw [he]
    exact ih fun s q hs => h s q (List.mem_cons_of_mem _ hs)

end Frontier

theorem Trace.frontier_recordAll (t : Trace) (log : List Event) :
    (t.recordAll log).frontier = t.frontier.recordAll log := by
  induction log generalizing t with
  | nil => rfl
  | cons e log ih =>
    have he : (t.record e).frontier = t.frontier.record e := by
      cases e with
      | diagnostic d => exact frontier_record_diagnostic t d
      | expectation symbol position => rfl
    rw [recordAll_cons, ih, he]
    rfl

/-! ## Fewer alternatives -/

/-- The second list of alternatives is the first one without some that begin
with all the symbols of an earlier one, in the list or among those seen before
it. -/
inductive Thinned : List (List String) → List Production → List Production → Prop
  | nil {seen} : Thinned seen [] []
  | keep {seen production productions productions'} :
    Thinned (production.rhs :: seen) productions productions' →
    Thinned seen (production :: productions) (production :: productions')
  | drop {seen production productions productions' body} :
    body ∈ seen → body <+: production.rhs → Thinned seen productions productions' →
    Thinned seen (production :: productions) productions'

namespace Thinned

variable {seen : List (List String)} {productions : List Production} {i j : Nat} {a b : Production}

theorem refl (seen : List (List String)) (productions : List Production) :
    Thinned seen productions productions := by
  induction productions generalizing seen with
  | nil => exact .nil
  | cons production productions ih => exact .keep (ih _)

theorem eraseIdx_of_mem {body : List String} (hb : body ∈ seen) (hj : productions[j]? = some b)
    (hbegins : body <+: b.rhs) : Thinned seen productions (productions.eraseIdx j) := by
  induction productions generalizing seen j with
  | nil => simp at hj
  | cons production productions ih =>
    cases j with
    | zero =>
      cases hj
      exact .drop hb hbegins (refl _ _)
    | succ j => exact .keep (ih (List.mem_cons_of_mem _ hb) hj)

theorem eraseIdx (hi : productions[i]? = some a) (hj : productions[j]? = some b) (hij : i < j)
    (hbegins : a.rhs <+: b.rhs) : Thinned seen productions (productions.eraseIdx j) := by
  induction productions generalizing seen i j with
  | nil => simp at hj
  | cons production productions ih =>
    obtain ⟨j, rfl⟩ := Nat.exists_eq_succ_of_ne_zero (Nat.ne_zero_of_lt hij)
    cases i with
    | zero =>
      cases hi
      exact .keep (eraseIdx_of_mem List.mem_cons_self hj hbegins)
    | succ i => exact .keep (ih hi hj (Nat.lt_of_succ_lt_succ hij))

end Thinned

namespace Grammar

/-- The two grammars have the same nonterminals, and the second one lacks only
shadowed alternatives. -/
structure ThinnedTo (g g' : Grammar) : Prop where
  contains_eq : ∀ symbol, g'.contains symbol = g.contains symbol
  thinned : ∀ symbol alternatives, g.alternatives? symbol = some alternatives →
    ∃ alternatives', g'.alternatives? symbol = some alternatives' ∧ Thinned [] alternatives alternatives'

/-- The grammar without the alternative of a symbol that stands at an index. -/
def withoutAlternative (g : Grammar) (symbol : String) (index : Nat) : Grammar :=
  match g.alternatives? symbol with
  | some alternatives => g.insert symbol (alternatives.eraseIdx index)
  | none => g

variable {g : Grammar} {symbol : String} {index : Nat} {alternatives : List Production}

theorem alternatives?_withoutAlternative (h : g.alternatives? symbol = some alternatives) (s : String) :
    (g.withoutAlternative symbol index).alternatives? s =
      if s = symbol then some (alternatives.eraseIdx index) else g.alternatives? s := by
  rw [withoutAlternative, h]
  exact alternatives?_insert ..

@[simp] theorem contains_withoutAlternative (g : Grammar) (symbol : String) (index : Nat) (s : String) :
    (g.withoutAlternative symbol index).contains s = g.contains s := by
  cases ha : g.alternatives? symbol with
  | none => rw [withoutAlternative, ha]
  | some alternatives =>
    rw [contains_eq_isSome, contains_eq_isSome, alternatives?_withoutAlternative ha]
    split
    · next hs => simp [hs, ha]
    · rfl

theorem thinnedTo_withoutAlternative {i j : Nat} {a b : Production} (h : g.alternatives? symbol = some alternatives)
    (hi : alternatives[i]? = some a) (hj : alternatives[j]? = some b) (hij : i < j) (hbegins : a.rhs <+: b.rhs) :
    g.ThinnedTo (g.withoutAlternative symbol j) where
  contains_eq := contains_withoutAlternative g symbol j
  thinned s alternatives' hs := by
    rw [alternatives?_withoutAlternative h]
    split
    · next he =>
      subst he
      cases hs.symm.trans h
      exact ⟨_, rfl, .eraseIdx hi hj hij hbegins⟩
    · exact ⟨_, hs, .refl _ _⟩

end Grammar

/-! ## Matching without shadowed alternatives -/

theorem Outcome.map_eq_failed {α β : Type} {f : α → β} {o : Outcome α} : o.map f = failed ↔ o = failed := by
  cases o <;> simp [map]

namespace Matcher

variable {m : Matcher}

/-- Symbols that fail do so whatever comes behind them. -/
theorem SequenceLog.append_of_failed (more : List String) {budget path symbols cursor outcome log} :
    m.SequenceLog budget path symbols cursor outcome log → outcome = .failed →
    m.SequenceLog budget path (symbols ++ more) cursor outcome log
  | .nil, ho | .aborted _ _ _ _, ho => by cases ho
  | .exhausted ht, _ => .exhausted ht
  | .token ht hl hs, ho => .token ht hl (hs.append_of_failed more (Outcome.map_eq_failed.1 ho))
  | .matched ht hl hc hm hs, ho =>
    .matched ht hl hc hm (hs.append_of_failed more (Outcome.map_eq_failed.1 ho))
  | .failed ht hl hc hf, _ => .failed ht hl hc hf
  | .unknown ht hl hc, _ => .unknown ht hl hc

/-- Two logs of the same match have the same outcome and lead to the same
frontier. -/
theorem SequenceLog.same {budget path symbols cursor outcome outcome' log log'}
    (h : m.SequenceLog budget path symbols cursor outcome log)
    (h' : m.SequenceLog budget path symbols cursor outcome' log') :
    outcome = outcome' ∧ ∀ f : Frontier, f.recordAll log = f.recordAll log' := by
  have heq : ∀ t : Trace, (outcome, t.recordAll log) = (outcome', t.recordAll log') :=
    fun t => (h.run t).eq.symm.trans (h'.run t).eq
  refine ⟨congrArg Prod.fst (heq .empty), fun f => ?_⟩
  have hfrontier := congrArg (fun result => result.2.frontier) (heq ⟨[], f⟩)
  simpa only [Trace.frontier_recordAll] using hfrontier

variable {g : Grammar}

mutual

/-- Without shadowed alternatives a match comes to the same end, whatever that
is, and to the same frontier. -/
theorem SymbolLog.thinned (hg : m.grammar.ThinnedTo g) {budget path symbol position outcome log} :
    m.SymbolLog budget path symbol position outcome log → ∀ f : Frontier,
    ∃ log', (m.withRules g m.lexicon).SymbolLog budget path symbol position outcome log' ∧
      f.recordAll log' = f.recordAll log
  | .unknown ha, _ => by
    have hc := (hg.contains_eq symbol).trans (Grammar.alternatives?_eq_none.1 ha)
    exact ⟨_, .unknown (Grammar.alternatives?_eq_none.2 hc), rfl⟩
  | .repeated hc hp, _ => ⟨_, .repeated ((hg.contains_eq symbol).trans hc) hp, rfl⟩
  | .tooDeep hc hp, _ => ⟨_, .tooDeep ((hg.contains_eq symbol).trans hc) hp, rfl⟩
  | .matched ha hp hf, f => by
    obtain ⟨_, ha', ht⟩ := hg.thinned _ _ ha
    obtain ⟨log', hf', he⟩ := hf.thinned hg ht f nofun
    exact ⟨log', .matched ha' hp hf', he⟩
  | .failed ha hp hf, f => by
    obtain ⟨_, ha', ht⟩ := hg.thinned _ _ ha
    obtain ⟨log', hf', he⟩ := hf.thinned hg ht f nofun
    exact ⟨_, .failed ha' hp hf', by rw [Frontier.recordAll_append, Frontier.recordAll_append, he]⟩
  | .aborted ha hp hf, f => by
    obtain ⟨_, ha', ht⟩ := hg.thinned _ _ ha
    obtain ⟨log', hf', he⟩ := hf.thinned hg ht f nofun
    exact ⟨log', .aborted ha' hp hf', he⟩

/-- The bodies seen are those of alternatives that have failed before, with what
they expected known. -/
theorem FirstLog.thinned (hg : m.grammar.ThinnedTo g) {budget path position productions outcome log} :
    m.FirstLog budget path position productions outcome log →
    ∀ {seen productions'}, Thinned seen productions productions' → ∀ f : Frontier,
    (∀ body ∈ seen, ∃ before, m.SequenceLog budget path body position .failed before ∧ f.HasMet before) →
    ∃ log', (m.withRules g m.lexicon).FirstLog budget path position productions' outcome log' ∧
      f.recordAll log' = f.recordAll log
  | .nil, _, _, .nil, _, _ => ⟨_, .nil, rfl⟩
  | @FirstLog.next _ _ _ _ _ _ log _ _ hs hf, _, _, .keep ht, f, hseen => by
    obtain ⟨log₁, hs', he⟩ := hs.thinned hg f
    obtain ⟨log₂, hf', he'⟩ := hf.thinned hg ht (f.recordAll log) fun body hb => by
      rcases List.mem_cons.1 hb with rfl | hb
      · exact ⟨log, hs, f.hasMet_recordAll log⟩
      · obtain ⟨before, hbody, hmet⟩ := hseen body hb
        exact ⟨before, hbody, hmet.recordAll log⟩
    exact ⟨_, .next hs' hf', by rw [Frontier.recordAll_append, Frontier.recordAll_append, he, he']⟩
  | .next hs hf, _, _, .drop hb ⟨more, hrhs⟩ ht, f, hseen => by
    obtain ⟨before, hbody, hmet⟩ := hseen _ hb
    have hsame := (hs.same (hrhs ▸ hbody.append_of_failed more rfl)).2 f
    obtain ⟨log', hf', he⟩ := hf.thinned hg ht f hseen
    exact ⟨log', hf', by rw [Frontier.recordAll_append, hsame, hmet.recordAll_eq, he]⟩
  | .here hs hne, _, _, .keep _, f, _ => by
    obtain ⟨log', hs', he⟩ := hs.thinned hg f
    exact ⟨log', .here hs' hne, he⟩
  | .here hs hne, _, _, .drop hb ⟨more, hrhs⟩ _, _, hseen => by
    obtain ⟨before, hbody, -⟩ := hseen _ hb
    exact absurd (hs.same (hrhs ▸ hbody.append_of_failed more rfl)).1 hne

theorem SequenceLog.thinned (hg : m.grammar.ThinnedTo g) {budget path symbols cursor outcome log} :
    m.SequenceLog budget path symbols cursor outcome log → ∀ f : Frontier,
    ∃ log', (m.withRules g m.lexicon).SequenceLog budget path symbols cursor outcome log' ∧
      f.recordAll log' = f.recordAll log
  | .nil, _ => ⟨_, .nil, rfl⟩
  | .exhausted ht, _ => ⟨_, .exhausted ht, rfl⟩
  | .token ht hl hs, f => by
    obtain ⟨log', hs', he⟩ := hs.thinned hg f
    exact ⟨log', .token ht hl hs', he⟩
  | @SequenceLog.matched _ _ _ _ _ _ _ _ _ log _ _ ht hl hc hm hs, f => by
    obtain ⟨log₁, hm', he⟩ := hm.thinned hg f
    obtain ⟨log₂, hs', he'⟩ := hs.thinned hg (f.recordAll log)
    exact ⟨_, .matched ht hl ((hg.contains_eq _).trans hc) hm' hs',
      by rw [Frontier.recordAll_append, Frontier.recordAll_append, he, he']⟩
  | .failed ht hl hc hf, f => by
    obtain ⟨log', hf', he⟩ := hf.thinned hg f
    exact ⟨log', .failed ht hl ((hg.contains_eq _).trans hc) hf', he⟩
  | .aborted ht hl hc ha, f => by
    obtain ⟨log', ha', he⟩ := ha.thinned hg f
    exact ⟨log', .aborted ht hl ((hg.contains_eq _).trans hc) ha', he⟩
  | .unknown ht hl hc, _ => ⟨_, .unknown ht hl ((hg.contains_eq _).trans hc), rfl⟩

end

end Matcher

/-! ## Main theorem -/

namespace Parser

/-- The parser without the alternative of a symbol that stands at an index. -/
def withoutAlternative (p : Parser) (rule : String) (index : Nat) : Parser where
  grammar := p.grammar.withoutAlternative rule index
  lexicon := p.lexicon
  start := p.start
  limit := p.limit
  start_mem := (Grammar.contains_withoutAlternative ..).trans p.start_mem

/-- Let an alternative of a rule begin with all the symbols of an earlier one.
Without it the parser comes to the same verdict, whatever the tokens, the symbol
and the trace: to the same tree, or to a rejection that is the same in all its
parts. -/
theorem parseFrom_withoutAlternative (p : Parser) (rule : String) (alternatives : List Production) (i j : Nat)
    (a b : Production) (h : p.grammar.alternatives? rule = some alternatives) (hi : alternatives[i]? = some a)
    (hj : alternatives[j]? = some b) (hij : i < j) (hbegins : a.rhs <+: b.rhs) (tokens : List String)
    (symbol : String) (trace : Trace) :
    ((p.withoutAlternative rule j).parseFrom tokens symbol trace).1 = (p.parseFrom tokens symbol trace).1 := by
  obtain ⟨outcome, log, hlog, hrun⟩ := Matcher.exists_runLog (p.matcher tokens) symbol
  have hthinned : p.grammar.ThinnedTo (p.withoutAlternative rule j).grammar :=
    Grammar.thinnedTo_withoutAlternative h hi hj hij hbegins
  obtain ⟨log', hlog', he⟩ := hlog.thinned hthinned trace.frontier
  have hrun' : ((p.withoutAlternative rule j).matcher tokens).run symbol trace =
      (outcome, trace.recordAll log') := hlog'.eq trace
  rw [parseFrom_eq, parseFrom_eq, hrun, hrun', judge_congr (hthinned.contains_eq symbol)]
  simp only [Trace.frontier_recordAll, he]

/-- Noun phrases with the shorter alternative first, so that the longer one is
never taken. -/
def hastyPhrases : Grammar :=
  ((Grammar.empty.insert "S" [⟨"S", ["NP", "VP"]⟩]).insert "NP"
    [⟨"NP", ["n", "PP"]⟩, ⟨"NP", ["n"]⟩, ⟨"NP", ["n", "n"]⟩]).insert "VP" [⟨"VP", ["n"]⟩]

theorem parseFrom_withoutAlternative_hastyPhrases :
    let p : Parser := ⟨hastyPhrases, Matcher.nouns, "S", 6, by decide⟩
    p.grammar.alternatives? "NP" = some [⟨"NP", ["n", "PP"]⟩, ⟨"NP", ["n"]⟩, ⟨"NP", ["n", "n"]⟩] ∧
    ["n"] <+: ["n", "n"] ∧
    (p.withoutAlternative "NP" 2).grammar.alternatives? "NP" = some [⟨"NP", ["n", "PP"]⟩, ⟨"NP", ["n"]⟩] ∧
    ((p.withoutAlternative "NP" 2).parseFrom ["dog", "cat", "dog"] "S" .empty).1 =
      .error ⟨.incomplete, 2, [], 2, 3⟩ := by
  intro p
  have h : (p.parseFrom ["dog", "cat", "dog"] "S" .empty).1 = .error ⟨.incomplete, 2, [], 2, 3⟩ := by decide
  have hbegins : ["n"] <+: ["n", "n"] := by decide
  have heq := parseFrom_withoutAlternative p "NP" _ 1 2 ⟨"NP", ["n"]⟩ ⟨"NP", ["n", "n"]⟩ rfl rfl rfl (by decide)
    hbegins ["dog", "cat", "dog"] "S" .empty
  exact ⟨rfl, hbegins, rfl, heq.trans h⟩

end Parser

end PhraseStructure
