import PhraseStructure.Proofs.ContextFree
import PhraseStructure.Proofs.Diagnostics
/-!
# Left recursion

A grammar is left-recursive in a nonterminal that begins with itself, through
the first symbols of alternatives. Where no alternative is empty, a call lies at
the position of the call around it only if it is for the first symbol of an
alternative, and further on otherwise (`Nests.beginsWith_or_lt`). A cycle is a
call for a symbol at the position of a call for the same symbol around it, so
every call between the two is for a first symbol.

Main statement: a cycle is reported for left-recursive nonterminals only.
-/
namespace PhraseStructure

open Relation

/-- An alternative of the first symbol begins with the second, which is a
nonterminal. -/
inductive Grammar.BeginsWith (g : Grammar) : String → String → Prop
  | intro {symbol alternatives production s rest} :
    g.alternatives? symbol = some alternatives → production ∈ alternatives → production.rhs = s :: rest →
    g.contains s = true → BeginsWith g symbol s

namespace Matcher

variable {m : Matcher} {call : Call}

/-! ## First symbols -/

/-- Answers cover a token at least. -/
def Consumes (call : Call) : Prop :=
  ∀ s q u tree stop u', call s q u = (.matched tree stop, u') → q < stop

theorem consumes_matchSymbol (hg : m.grammar.NoEmptyAlternative) (budget : Nat) (path : List (String × Nat)) :
    Consumes (m.matchSymbol budget path) := by
  intro s q u tree stop u' hm
  have hd : DerivesByRule m.grammar m.lexicon m.tokens s q stop :=
    derivesByRule_of_matched (congrArg Prod.fst hm)
  exact hd.lt hg

theorem SequenceCalls.first_or_lt (hcall : Consumes call) {symbols cursor trace s q u}
    (h : m.SequenceCalls call symbols cursor trace s q u) :
    q = cursor ∧ (∃ rest, symbols = s :: rest) ∨ cursor < q := by
  induction h with
  | here => exact .inl ⟨rfl, _, rfl⟩
  | token _ _ _ ih => exact .inr (by omega)
  | matched _ _ _ hm _ ih =>
    have hlt := hcall _ _ _ _ _ _ hm
    exact .inr (by omega)

theorem FirstCalls.exists_sequenceCalls {position productions trace s q u}
    (h : m.FirstCalls call position productions trace s q u) :
    ∃ production ∈ productions, ∃ trace', m.SequenceCalls call production.rhs position trace' s q u := by
  induction h with
  | here hs => exact ⟨_, List.mem_cons_self, _, hs⟩
  | next _ _ ih =>
    obtain ⟨production, hp, hs⟩ := ih
    exact ⟨production, List.mem_cons_of_mem _ hp, hs⟩

theorem SequenceCalls.mem {symbols cursor trace s q u} (h : m.SequenceCalls call symbols cursor trace s q u) :
    s ∈ symbols := by
  induction h with
  | here => exact List.mem_cons_self
  | token _ _ _ ih => exact List.mem_cons_of_mem _ ih
  | matched _ _ _ _ _ ih => exact List.mem_cons_of_mem _ ih

/-! ## Nested calls -/

/-- A nested call is for a symbol of an alternative. -/
theorem Nests.uses {v w : Visit} (h : m.Nests v w) : m.grammar.Uses v.symbol w.symbol := by
  obtain ⟨ha, -, hf⟩ := h
  obtain ⟨production, hp, trace', hs⟩ := hf.exists_sequenceCalls
  exact .intro ha hp hs.mem

/-- A nested call is for the first symbol of an alternative, or it lies further
on. -/
theorem Nests.beginsWith_or_lt (hg : m.grammar.NoEmptyAlternative) {v w : Visit} (h : m.Nests v w) :
    w.position = v.position ∧ m.grammar.BeginsWith v.symbol w.symbol ∨ v.position < w.position := by
  obtain ⟨ha, -, hf⟩ := h
  obtain ⟨production, hp, trace', hs⟩ := hf.exists_sequenceCalls
  rcases hs.first_or_lt (consumes_matchSymbol hg _ _) with ⟨hq, rest, hr⟩ | hlt
  · exact .inl ⟨hq, .intro ha hp hr hs.bounds.1⟩
  · exact .inr hlt

variable {symbol : String} {trace : Trace} {v : Visit} {vs : List Visit}

theorem CallStack.reaches (h : m.CallStack symbol trace v vs) : m.grammar.Reaches symbol v.symbol := by
  induction h with
  | start => exact .refl
  | nest _ hn ih => exact ih.tail hn.uses

/-- A call does not lie before those around it, and one at the position of a
call around it begins an alternative of that call's symbol. -/
theorem CallStack.beginsWith_or_lt (hg : m.grammar.NoEmptyAlternative) (h : m.CallStack symbol trace v vs) :
    ∀ w ∈ vs, v.position = w.position ∧ TransGen m.grammar.BeginsWith w.symbol v.symbol ∨
      w.position < v.position := by
  induction h with
  | start => simp
  | @nest u v us _ hn ih =>
    -- One step of the stack begins an alternative or goes on, and once gone on
    -- nothing comes back.
    have hstep := hn.beginsWith_or_lt hg
    intro w hw
    rcases List.mem_cons.1 hw with rfl | hw
    · exact hstep.imp_left (And.imp_right .single)
    · rcases ih w hw with ⟨hp, ht⟩ | hlt
      · rcases hstep with ⟨hq, hb⟩ | hlt
        · exact .inl ⟨hq.trans hp, ht.tail hb⟩
        · exact .inr (by omega)
      · exact .inr (by omega)

/-- A run that ends in a cycle has come back to the nonterminal through first
symbols. -/
theorem leftRecursive_of_run_cycle (hg : m.grammar.NoEmptyAlternative) {s : String} {q : Nat}
    (h : (m.run symbol trace).1 = .aborted (.cycle s q)) :
    TransGen m.grammar.BeginsWith s s ∧ m.grammar.Reaches symbol s := by
  obtain ⟨v, vs, hs, hr⟩ := exists_refused_of_aborted h
  cases hr with
  | repeated _ hp =>
    refine ⟨?_, hs.reaches⟩
    rw [hs.path_eq] at hp
    obtain ⟨w, hw, hk⟩ := List.mem_map.1 hp
    obtain ⟨hsymbol, hposition⟩ := Prod.mk.inj hk
    rcases hs.beginsWith_or_lt hg w hw with ⟨-, ht⟩ | hlt
    · rwa [hsymbol] at ht
    · omega

end Matcher

/-! ## Main theorem -/

namespace Parser

/-- Suppose that the grammar was read from a text. A sentence is rejected for a
cycle in a nonterminal only if the nonterminal comes back to itself through the
first symbols of alternatives and the parsed symbol leads to it; and so it is
with every cycle that the parse adds to the diagnostics. Where no nonterminal
comes back to itself in this way, there is no such rejection and no such
diagnostic. -/
theorem leftRecursive_of_cycle (p : Parser) (text : String) (hg : Grammar.ofText text = .ok p.grammar)
    (tokens : List String) (symbol : String) (t : Trace) :
    ∃ added, (p.parseFrom tokens symbol t).2.diagnostics = t.diagnostics ++ added ∧
      (∀ s q, RejectedFor (.cycle s q) (p.parseFrom tokens symbol t).1 ∨ .cycle s q ∈ added →
        TransGen p.grammar.BeginsWith s s ∧ p.grammar.Reaches symbol s) ∧
      ((∀ s, ¬ TransGen p.grammar.BeginsWith s s) →
        ∀ s q, ¬ RejectedFor (.cycle s q) (p.parseFrom tokens symbol t).1 ∧ .cycle s q ∉ added) := by
  obtain ⟨outcome, log, hlog, hrun⟩ := Matcher.exists_runLog (p.matcher tokens) symbol
  simp only [parseFrom_eq, hrun]
  have hcycle : ∀ s q, RejectedFor (.cycle s q) (p.judge symbol tokens.length (t.recordAll log).frontier outcome) ∨
      .cycle s q ∈ t.added log → TransGen p.grammar.BeginsWith s s ∧ p.grammar.Reaches symbol s := by
    intro s q h
    have ho : outcome = .aborted (.cycle s q) := by
      rcases h with h | h
      · exact judge_cycle_iff.1 h
      · obtain ⟨reason, rfl, hr⟩ := hlog.concludes.exists_aborted (Trace.mem_log_of_mem_added h) rfl
        cases reason with
        | cycle s' q' => cases hr; rfl
        | tooDeep s' limit => obtain ⟨q', hr⟩ := hr; cases hr
    have hrun : ((p.matcher tokens).run symbol t).1 = .aborted (.cycle s q) := ho ▸ congrArg Prod.fst (hrun t)
    exact Matcher.leftRecursive_of_run_cycle (Grammar.noEmptyAlternative_of_ofText hg) hrun
  refine ⟨t.added log, t.diagnostics_recordAll log, hcycle, fun hno s q => ⟨fun h => ?_, fun h => ?_⟩⟩
  · exact hno s (hcycle s q (.inl h)).1
  · exact hno s (hcycle s q (.inr h)).1

/-- Two symbols that begin with each other, behind a determiner. -/
theorem leftRecursive_loopingPhrases :
    Grammar.ofText "S -> det A\nA -> B n\nB -> A" = .ok loopingPhrases.grammar ∧
    (loopingPhrases.parseFrom ["the", "dog"] "S" .empty).1 = .error ⟨.cycle "A" 1, 0, [], 0, 2⟩ ∧
    TransGen loopingPhrases.grammar.BeginsWith "A" "A" ∧ loopingPhrases.grammar.Reaches "S" "A" := by
  have hg : Grammar.ofText "S -> det A\nA -> B n\nB -> A" = .ok loopingPhrases.grammar := by rfl
  have h : (loopingPhrases.parseFrom ["the", "dog"] "S" .empty).1 = .error ⟨.cycle "A" 1, 0, [], 0, 2⟩ := by
    decide
  obtain ⟨_, -, hcycle, -⟩ := leftRecursive_of_cycle loopingPhrases _ hg ["the", "dog"] "S" .empty
  exact ⟨hg, h, hcycle "A" 1 (.inl ⟨_, h, rfl⟩)⟩

end Parser

end PhraseStructure
