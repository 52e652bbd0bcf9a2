import Mathlib.Data.Finset.Basic
import PhraseStructure.Proofs.Subtrees
/-!
# The active set

A call is told which calls it is nested in by the path that it is given. A
matcher can as well keep one set of symbols with their positions and change it
on the way: a pair is put in before the alternatives of its symbol are tried and
taken out as soon as they have been, whatever has come of them. `trackSymbol`
matches like that and puts every call on record where it is entered and where it
is left, so that the record alone tells which calls are unfinished at any moment
(`unfinished`).

Main statement: tracked matching comes to the same as matching. The set that it
keeps is that of the unfinished calls wherever a symbol is entered, and every
call leaves it as it was, also one that is aborted.
-/
namespace PhraseStructure.Matcher

/-! ## Tracked matching -/

/-- A call of tracked matching begins, with what it is given and the set as it
is then, or the innermost one ends. -/
inductive CallEvent where
  | enter (symbol : String) (position depth : Nat) (active : Finset (String × Nat))
  | leave
  deriving DecidableEq

/-- What tracked matching changes: the trace, the set of the symbols that are
being matched with their positions, and the record of its calls, the oldest
first. -/
structure Tracking where
  trace : Trace
  active : Finset (String × Nat)
  history : List CallEvent

namespace Tracking

variable (state : Tracking)

/-- The state with something done to its trace. -/
def mapTrace (f : Trace → Trace) : Tracking := { state with trace := f state.trace }

/-- The state after a symbol is entered at a position. -/
def enter (symbol : String) (position depth : Nat) : Tracking :=
  { state with history := state.history ++ [.enter symbol position depth state.active] }

/-- The state after the innermost call is left. -/
def leave : Tracking := { state with history := state.history ++ [.leave] }

/-- The state with a pair put into the set. -/
def activate (key : String × Nat) : Tracking := { state with active := insert key state.active }

/-- The state with a pair taken out of the set. -/
def deactivate (key : String × Nat) : Tracking := { state with active := state.active.erase key }

end Tracking

/-- A way to match a symbol at a position that changes the state so far. -/
abbrev TrackedCall := String → Nat → Tracking → Outcome Tree × Tracking

variable (m : Matcher)

/-- Match the symbols of one alternative from `cursor` on, nonterminals by
`call`. -/
def trackSequence (call : TrackedCall) : List String → Nat → Tracking → Outcome (List Tree) × Tracking
  | [], cursor, state => (.matched [] cursor, state)
  | symbol :: symbols, cursor, state =>
    match m.tokens[cursor]? with
    | none => (.failed, state.mapTrace (·.expect symbol cursor))
    | some token =>
      if m.lexicon.tag? token = some symbol then
        let (outcome, state) := trackSequence call symbols (cursor + 1) state
        (outcome.map (Tree.tagged symbol token :: ·), state)
      else if m.grammar.contains symbol then
        match call symbol cursor state with
        | (.matched tree stop, state) =>
          let (outcome, state) := trackSequence call symbols stop state
          (outcome.map (tree :: ·), state)
        | (.failed, state) => (.failed, state)
        | (.aborted reason, state) => (.aborted reason, state)
      else
        let state := if m.lexicon.isTag symbol then state else state.mapTrace (·.reportUnknown symbol cursor)
        (.failed, state.mapTrace (·.expect symbol cursor))

/-- Match the first alternative that matches at `position`. -/
def trackFirst (call : TrackedCall) (position : Nat) :
    List Production → Tracking → Outcome (List Tree) × Tracking
  | [], state => (.failed, state)
  | production :: productions, state =>
    match m.trackSequence call production.rhs position state with
    | (.failed, state) => trackFirst call position productions state
    | result => result

/-- Match `symbol` at a position inside `depth` other calls. The pair is taken
out of the set before the outcome of the alternatives is looked at. -/
def trackSymbol (depth : Nat) : TrackedCall := fun symbol position state =>
  let state := state.enter symbol position depth
  let result : Outcome Tree × Tracking :=
    match m.grammar.alternatives? symbol with
    | none => (.failed, state.mapTrace (·.reportUnknown symbol position))
    | some alternatives =>
      if (symbol, position) ∈ state.active then
        (.aborted (.cycle symbol position), state.mapTrace (·.report (.cycle symbol position)))
      else if _ : m.limit ≤ depth then
        (.aborted (.tooDeep symbol m.limit), state.mapTrace (·.report (.recursionLimit symbol position m.limit)))
      else
        let (outcome, state) :=
          m.trackFirst (trackSymbol (depth + 1)) position alternatives (state.activate (symbol, position))
        let state := state.deactivate (symbol, position)
        match outcome with
        | .matched children stop => (.matched (.node symbol children) stop, state)
        | .failed => (.failed, state.mapTrace (·.report (.noMatch symbol position)))
        | .aborted reason => (.aborted reason, state)
  (result.1, result.2.leave)
termination_by m.limit - depth

/-- Match a symbol at the first token, with nothing active and no call on
record. -/
def trackRun (symbol : String) (trace : Trace) : Outcome Tree × Tracking :=
  m.trackSymbol 0 symbol 0 ⟨trace, ∅, []⟩

/-! ## Unfinished calls -/

/-- The unfinished calls after an event, the innermost first. -/
def CallEvent.after (calls : List (String × Nat)) : CallEvent → List (String × Nat)
  | enter symbol position _ _ => (symbol, position) :: calls
  | leave => calls.tail

/-- The calls that are unfinished after some events, below those of a path. -/
def unfinishedBelow (path : List (String × Nat)) (history : List CallEvent) : List (String × Nat) :=
  history.foldl CallEvent.after path

/-- The calls that a record leaves unfinished, the innermost first. -/
def unfinished (history : List CallEvent) : List (String × Nat) := unfinishedBelow [] history

@[simp] theorem unfinishedBelow_nil (path : List (String × Nat)) : unfinishedBelow path [] = path := rfl

@[simp] theorem unfinishedBelow_cons (path : List (String × Nat)) (e : CallEvent) (history : List CallEvent) :
    unfinishedBelow path (e :: history) = unfinishedBelow (e.after path) history := rfl

@[simp] theorem unfinishedBelow_append (path : List (String × Nat)) (history history' : List CallEvent) :
    unfinishedBelow path (history ++ history') = unfinishedBelow (unfinishedBelow path history) history' :=
  List.foldl_append

/-- What calls put on record that are made one after the other, as many calls
deep as told, below a path and not before a position. Only a call that is not on
the path yet makes calls itself. -/
inductive Recorded : Nat → List (String × Nat) → Nat → List CallEvent → Prop
  | nil {depth path start} : Recorded depth path start []
  | refused {depth path start symbol position later} :
    start ≤ position → Recorded depth path start later →
    Recorded depth path start (.enter symbol position depth path.toFinset :: .leave :: later)
  | call {depth path start symbol position nested later} :
    start ≤ position → (symbol, position) ∉ path →
    Recorded (depth + 1) ((symbol, position) :: path) position nested → Recorded depth path start later →
    Recorded depth path start
      (.enter symbol position depth path.toFinset :: (nested ++ .leave :: later))

namespace Recorded

variable {depth start : Nat} {path : List (String × Nat)} {events events' : List CallEvent}

theorem append (h : Recorded depth path start events) (h' : Recorded depth path start events') :
    Recorded depth path start (events ++ events') := by
  induction h with
  | nil => exact h'
  | refused hs _ ih => exact .refused hs (ih h')
  | call hs hp hn _ _ ih => simpa using .call hs hp hn (ih h')

/-- Calls that are made from a position on are made from any position before it
on. -/
theorem mono (h : Recorded depth path start events) {start' : Nat} (hle : start' ≤ start) :
    Recorded depth path start' events := by
  induction h with
  | nil => exact .nil
  | refused hs _ ih => exact .refused (Nat.le_trans hle hs) (ih hle)
  | call hs hp hn _ _ ih => exact .call (Nat.le_trans hle hs) hp hn (ih hle)

/-- Calls that have been made are finished. -/
theorem unfinishedBelow_eq (h : Recorded depth path start events) : unfinishedBelow path events = path := by
  induction h with
  | nil => rfl
  | refused _ _ ih => exact ih
  | call _ _ _ _ ihn ih => simp [CallEvent.after, ihn, ih]

end Recorded

/-! ## Tracked matching is matching -/

/-- Tracked matching ends like matching, leaves the set as it was, and has put
calls on record. -/
inductive Tracks {α : Type} (depth : Nat) (path : List (String × Nat)) (start : Nat) (state : Tracking) :
    Outcome α × Trace → Outcome α × Tracking → Prop
  | intro {outcome trace events} : Recorded depth path start events →
    Tracks depth path start state (outcome, trace) (outcome, ⟨trace, state.active, state.history ++ events⟩)

section
variable {α β : Type} {depth start : Nat} {path : List (String × Nat)} {state : Tracking}

namespace Tracks

theorem of_eq {events : List CallEvent} (he : Recorded depth path start events) (outcome : Outcome α)
    {trace : Trace} {state' : Tracking} (h : state' = ⟨trace, state.active, state.history ++ events⟩) :
    Tracks depth path start state (outcome, trace) (outcome, state') :=
  h ▸ .intro he

/-- Where no call is made nothing is put on record. -/
theorem of_mapTrace (outcome : Outcome α) (f : Trace → Trace) :
    Tracks depth path start state (outcome, f state.trace) (outcome, state.mapTrace f) :=
  .of_eq .nil outcome (by simp [Tracking.mapTrace])

variable {result : Outcome α × Trace} {result' : Outcome α × Tracking}

theorem outcome_eq (h : Tracks depth path start state result result') : result'.1 = result.1 := by
  cases h with
  | intro => rfl

theorem active_eq (h : Tracks depth path start state result result') : result'.2.active = state.active := by
  cases h with
  | intro => rfl

theorem mono (h : Tracks depth path start state result result') {start' : Nat} (hle : start' ≤ start) :
    Tracks depth path start' state result result' := by
  cases h with
  | intro he => exact .intro (he.mono hle)

theorem map (h : Tracks depth path start state result result') (f : α → β) :
    Tracks depth path start state (result.1.map f, result.2) (result'.1.map f, result'.2) := by
  cases h with
  | intro he => exact .intro he

/-- What is put on record after some calls comes behind them. -/
theorem behind {trace : Trace} {events : List CallEvent} (he : Recorded depth path start events)
    (h : Tracks depth path start ⟨trace, state.active, state.history ++ events⟩ result result') :
    Tracks depth path start state result result' := by
  cases h with
  | intro he' =>
    rw [List.append_assoc]
    exact .intro (he.append he')

end Tracks

/-- Tracked calls below a path do what plain calls do. -/
def TracksCalls (depth : Nat) (path : List (String × Nat)) (call : Call) (tracked : TrackedCall) : Prop :=
  ∀ symbol position state, state.active = path.toFinset →
    Tracks depth path position state (call symbol position state.trace) (tracked symbol position state)

/-- A call does not stop before it starts. -/
def NeverBack (call : Call) : Prop := ∀ s q u tree stop u', call s q u = (.matched tree stop, u') → q ≤ stop

theorem neverBack_matchSymbol (budget : Nat) (path : List (String × Nat)) :
    NeverBack (m.matchSymbol budget path) := by
  intro s q u tree stop u' h
  obtain ⟨log, hlog⟩ := exists_symbolLog m budget path s q u
  rw [h] at hlog
  -- The match is found on the tokens from its start on, too, and there it stops
  -- somewhere.
  obtain ⟨_, _, hshift, -⟩ :=
    hlog.relocate Outcome.completes_matched (Nat.zero_add q).symm (nofun : MovedInto q [] path)
  obtain ⟨first, -, rfl⟩ := hshift.exists_stop
  exact Nat.le_add_left _ _

variable {call : Call} {tracked : TrackedCall}

theorem tracks_trackSequence (hcall : TracksCalls depth path call tracked) (hle : NeverBack call)
    (symbols : List String) (cursor : Nat) (state : Tracking) (h : state.active = path.toFinset) :
    Tracks depth path cursor state (m.matchSequence call symbols cursor state.trace)
      (m.trackSequence tracked symbols cursor state) := by
  induction symbols generalizing cursor state with
  | nil => exact .of_mapTrace (.matched [] cursor) id
  | cons symbol symbols ih =>
    rw [matchSequence, trackSequence]
    cases ht : m.tokens[cursor]? with
    | none => exact .of_mapTrace _ (·.expect symbol cursor)
    | some token =>
      by_cases hl : m.lexicon.tag? token = some symbol
      · simp only [hl, if_true]
        exact ((ih _ _ h).mono (Nat.le_succ _)).map _
      · simp only [hl, if_false]
        cases hc : m.grammar.contains symbol with
        | false =>
          simp only [Bool.false_eq_true, if_false]
          split
          · exact .of_mapTrace _ (·.expect symbol cursor)
          · exact .of_mapTrace _ fun t => (t.reportUnknown symbol cursor).expect symbol cursor
        | true =>
          simp only [if_true]
          have htracks := hcall symbol cursor state h
          generalize hr : call symbol cursor state.trace = result at htracks ⊢
          generalize tracked symbol cursor state = result' at htracks ⊢
          cases htracks with
          | @intro outcome trace events he =>
            cases outcome with
            | matched tree stop =>
              have htail := ih stop ⟨trace, state.active, state.history ++ events⟩ h
              exact .behind he ((htail.mono (hle _ _ _ _ _ _ hr)).map _)
            | failed => exact .intro he
            | aborted reason => exact .intro he

theorem tracks_trackFirst (hcall : TracksCalls depth path call tracked) (hle : NeverBack call) (position : Nat)
    (productions : List Production) (state : Tracking) (h : state.active = path.toFinset) :
    Tracks depth path position state (m.matchFirst call position productions state.trace)
      (m.trackFirst tracked position productions state) := by
  induction productions generalizing state with
  | nil => exact .of_mapTrace .failed id
  | cons production productions ih =>
    rw [matchFirst, trackFirst]
    have htracks := tracks_trackSequence m hcall hle production.rhs position state h
    generalize m.matchSequence call production.rhs position state.trace = result at htracks ⊢
    generalize m.trackSequence tracked production.rhs position state = result' at htracks ⊢
    cases htracks with
    | @intro outcome trace events he =>
      cases outcome with
      | failed => exact .behind he (ih ⟨trace, state.active, state.history ++ events⟩ h)
      | matched trees stop => exact .intro he
      | aborted reason => exact .intro he

/-- A call that is refused is on record without any call inside it. -/
theorem Tracks.refused (h : state.active = path.toFinset) (outcome : Outcome Tree) (f : Trace → Trace)
    (symbol : String) (position : Nat) :
    Tracks depth path position state (outcome, f state.trace)
      (outcome, ((state.enter symbol position depth).mapTrace f).leave) := by
  have he : Recorded depth path position [.enter symbol position depth path.toFinset, .leave] :=
    .refused (Nat.le_refl _) .nil
  exact .of_eq he outcome (by simp [Tracking.enter, Tracking.mapTrace, Tracking.leave, h])

/-- A call that is not on the path yet is on record with the calls that its
alternatives make, and what it has put into the set it takes out again. -/
theorem Tracks.entered (h : state.active = path.toFinset) {symbol : String} {position : Nat}
    (hp : (symbol, position) ∉ path) {result : Outcome (List Tree) × Trace}
    {result' : Outcome (List Tree) × Tracking}
    (hf : Tracks (depth + 1) ((symbol, position) :: path) position
      ((state.enter symbol position depth).activate (symbol, position)) result result')
    (outcome : Outcome Tree) (f : Trace → Trace) :
    Tracks depth path position state (outcome, f result.2)
      (outcome, ((result'.2.deactivate (symbol, position)).mapTrace f).leave) := by
  cases hf with
  | @intro _ trace nested he =>
    have hrestored : path.toFinset.erase (symbol, position) = path.toFinset :=
      Finset.erase_eq_of_notMem (by simpa using hp)
    refine .of_eq (.call (Nat.le_refl _) hp he .nil) outcome ?_
    simp [Tracking.enter, Tracking.activate, Tracking.deactivate, Tracking.mapTrace, Tracking.leave, h, hrestored]

/-- What a call of tracked matching does, with any set to start with and any
number of calls around it. -/
theorem tracks_trackSymbol (depth : Nat) (path : List (String × Nat)) :
    TracksCalls depth path (m.matchSymbol (m.limit - depth) path) (m.trackSymbol depth) := by
  intro symbol position state h
  rw [matchSymbol.eq_def, trackSymbol]
  cases ha : m.grammar.alternatives? symbol with
  | none => exact .refused h .failed (·.reportUnknown symbol position) symbol position
  | some alternatives =>
    have hactive : (symbol, position) ∈ (state.enter symbol position depth).active ↔ (symbol, position) ∈ path := by
      simp [Tracking.enter, h]
    simp only [hactive]
    by_cases hp : (symbol, position) ∈ path
    · simp only [hp, if_true]
      exact .refused h _ (·.report (.cycle symbol position)) symbol position
    · simp only [hp, if_false]
      by_cases hlimit : m.limit ≤ depth
      · simp only [hlimit, Nat.sub_eq_zero_of_le, dif_pos]
        exact .refused h _ (·.report (.recursionLimit symbol position m.limit)) symbol position
      · -- The budget is what the depth leaves of the limit.
        obtain ⟨budget, hb⟩ : ∃ budget, m.limit - depth = budget + 1 := ⟨m.limit - depth - 1, by omega⟩
        have hbelow : m.limit - (depth + 1) = budget := by omega
        have htracks := tracks_trackFirst m (tracks_trackSymbol (depth + 1) ((symbol, position) :: path))
          (neverBack_matchSymbol m _ _) position alternatives
          ((state.enter symbol position depth).activate (symbol, position))
          (by simp [Tracking.enter, Tracking.activate, h])
        rw [hbelow] at htracks
        simp only [hb, hlimit, dif_neg, not_false_eq_true]
        change Tracks _ _ _ _ (m.matchFirst _ _ _ state.trace) _ at htracks
        generalize m.matchFirst (m.matchSymbol budget ((symbol, position) :: path)) position alternatives
          state.trace = result at htracks ⊢
        generalize m.trackFirst _ _ _ _ = result' at htracks ⊢
        obtain ⟨outcome, trace⟩ := result
        obtain ⟨outcome', state'⟩ := result'
        obtain rfl : outcome' = outcome := htracks.outcome_eq
        cases outcome' with
        | matched children stop => exact htracks.entered h hp _ id
        | failed => exact htracks.entered h hp _ (·.report (.noMatch symbol position))
        | aborted reason => exact htracks.entered h hp _ id
termination_by m.limit - depth

end

/-! ## The calls around a call -/

/-- A path of as many calls as told: no pair is on it twice, no call on it lies
before one around it, and a call at the position does not lie before any of
them. -/
structure IsPath (depth : Nat) (path : List (String × Nat)) (position : Nat) : Prop where
  nodup : path.Nodup
  length_eq : path.length = depth
  descends : (position :: path.map Prod.snd).Pairwise (· ≥ ·)

section
variable {depth start : Nat} {path : List (String × Nat)} {events : List CallEvent}

theorem IsPath.mono (h : IsPath depth path start) {position : Nat} (hle : start ≤ position) :
    IsPath depth path position where
  nodup := h.nodup
  length_eq := h.length_eq
  descends := by
    obtain ⟨hbelow, hd⟩ := List.pairwise_cons.1 h.descends
    exact List.pairwise_cons.2 ⟨fun q hq => Nat.le_trans (hbelow q hq) hle, hd⟩

theorem IsPath.push (h : IsPath depth path start) {symbol : String} {position : Nat} (hle : start ≤ position)
    (hp : (symbol, position) ∉ path) : IsPath (depth + 1) ((symbol, position) :: path) position where
  nodup := List.nodup_cons.2 ⟨hp, h.nodup⟩
  length_eq := congrArg (· + 1) h.length_eq
  descends := by
    have hd := (h.mono hle).descends
    refine List.pairwise_cons.2 ⟨fun q hq => ?_, hd⟩
    rcases List.mem_cons.1 hq with rfl | hq
    · exact Nat.le_refl _
    · exact List.rel_of_pairwise_cons hd hq

/-- Wherever a symbol is entered the set is that of the unfinished calls, which
are as many as told. -/
def EveryEntry (path : List (String × Nat)) (events : List CallEvent) : Prop :=
  ∀ before symbol position depth active later,
    events = before ++ .enter symbol position depth active :: later →
      active = (unfinishedBelow path before).toFinset ∧ IsPath depth (unfinishedBelow path before) position

theorem everyEntry_nil : EveryEntry path [] := by
  intro before symbol position depth active later h
  simp at h

theorem everyEntry_cons {e : CallEvent} :
    EveryEntry path (e :: events) ↔
      (∀ s q d a, e = .enter s q d a → a = path.toFinset ∧ IsPath d path q) ∧ EveryEntry (e.after path) events := by
  constructor
  · intro h
    refine ⟨fun s q d a he => h [] s q d a events (by rw [he]; rfl), fun before s q d a later he => ?_⟩
    exact h (e :: before) s q d a later (by rw [he]; rfl)
  · rintro ⟨hhead, htail⟩ before s q d a later he
    cases before with
    | nil => exact hhead s q d a (List.cons.inj he).1
    | cons e' before =>
      obtain ⟨rfl, htl⟩ := List.cons.inj he
      exact htail before s q d a later htl

theorem everyEntry_append {events' : List CallEvent} :
    EveryEntry path (events ++ events') ↔
      EveryEntry path events ∧ EveryEntry (unfinishedBelow path events) events' := by
  induction events generalizing path with
  | nil => simp [everyEntry_nil]
  | cons e events ih => simp [everyEntry_cons, ih, and_assoc]

theorem everyEntry_enter {symbol : String} {position : Nat} :
    EveryEntry path (.enter symbol position depth path.toFinset :: events) ↔
      IsPath depth path position ∧ EveryEntry ((symbol, position) :: path) events := by
  rw [everyEntry_cons]
  refine and_congr_left fun _ => ⟨fun h => (h _ _ _ _ rfl).2, fun h s q d a he => ?_⟩
  cases he
  exact ⟨rfl, h⟩

theorem everyEntry_leave : EveryEntry path (.leave :: events) ↔ EveryEntry path.tail events := by
  simp [everyEntry_cons, CallEvent.after]

theorem Recorded.everyEntry (h : Recorded depth path start events) (hpath : IsPath depth path start) :
    EveryEntry path events := by
  induction h with
  | nil => exact everyEntry_nil
  | refused hs _ ih => exact everyEntry_enter.2 ⟨hpath.mono hs, everyEntry_leave.2 (ih hpath)⟩
  | call hs hp hn _ ihn ih =>
    refine everyEntry_enter.2 ⟨hpath.mono hs, everyEntry_append.2 ⟨ihn (hpath.push hs hp), ?_⟩⟩
    rw [hn.unfinishedBelow_eq]
    exact everyEntry_leave.2 (ih hpath)

end

/-! ## Main theorem -/

/-- A run that keeps one set for all calls comes to the same as a run. Wherever
it enters a symbol, the set is that of the calls that have been entered and not
left: no two of them are for one symbol at one position, they are as many as the
depth, and no call lies before one around it. At the end no call is left
unfinished. Matching a symbol, the first of some alternatives or the symbols of
one leaves the set as it was, whatever it ends in, from any state and at any
depth. -/
theorem active_eq_unfinished (m : Matcher) (symbol : String) (trace : Trace) :
    ((m.trackRun symbol trace).1, (m.trackRun symbol trace).2.trace) = m.run symbol trace ∧
    (∀ before s q depth active later,
      (m.trackRun symbol trace).2.history = before ++ .enter s q depth active :: later →
        active = (unfinished before).toFinset ∧ (unfinished before).Nodup ∧ (unfinished before).length = depth ∧
        (q :: (unfinished before).map Prod.snd).Pairwise (· ≥ ·)) ∧
    unfinished (m.trackRun symbol trace).2.history = [] ∧
    ∀ depth q state,
      (∀ s, (m.trackSymbol depth s q state).2.active = state.active) ∧
      (∀ productions,
        (m.trackFirst (m.trackSymbol depth) q productions state).2.active = state.active) ∧
      ∀ symbols, (m.trackSequence (m.trackSymbol depth) symbols q state).2.active = state.active := by
  have hrun : Tracks 0 [] 0 ⟨trace, ∅, []⟩ (m.run symbol trace) (m.trackRun symbol trace) :=
    tracks_trackSymbol m 0 [] symbol 0 ⟨trace, ∅, []⟩ rfl
  generalize m.run symbol trace = result at hrun ⊢
  generalize m.trackRun symbol trace = result' at hrun ⊢
  cases hrun with
  | @intro outcome trace' events he =>
    refine ⟨rfl, fun before s q depth active later hsplit => ?_, he.unfinishedBelow_eq, fun depth q state => ?_⟩
    · have hpath : IsPath 0 [] 0 := ⟨List.nodup_nil, rfl, List.pairwise_singleton _ _⟩
      obtain ⟨hactive, hbefore⟩ := he.everyEntry hpath before s q depth active later hsplit
      exact ⟨hactive, hbefore.nodup, hbefore.length_eq, hbefore.descends⟩
    · -- Whatever the set is, it is that of some path.
      have hset : state.active = state.active.toList.toFinset := (Finset.toList_toFinset _).symm
      have hcalls := tracks_trackSymbol m depth state.active.toList
      have hback := neverBack_matchSymbol m (m.limit - depth) state.active.toList
      exact ⟨fun s => (hcalls s q state hset).active_eq,
        fun productions => (tracks_trackFirst m hcalls hback q productions state hset).active_eq,
        fun symbols => (tracks_trackSequence m hcalls hback symbols q state hset).active_eq⟩

/-- Two symbols that begin with each other are entered at one position, each
inside the other, until the first of them comes again and the run is aborted. -/
theorem active_eq_unfinished_loopingPhrases :
    let m := Parser.loopingPhrases.matcher ["the", "dog"]
    let before : List CallEvent :=
      [.enter "S" 0 0 ∅, .enter "A" 1 1 {("S", 0)}, .enter "B" 1 2 {("A", 1), ("S", 0)}]
    let active : Finset (String × Nat) := {("B", 1), ("A", 1), ("S", 0)}
    (m.trackRun "S" .empty).1 = .aborted (.cycle "A" 1) ∧
    (m.trackRun "S" .empty).2.history = before ++ .enter "A" 1 3 active :: [.leave, .leave, .leave, .leave] ∧
    unfinished before = [("B", 1), ("A", 1), ("S", 0)] ∧ active = (unfinished before).toFinset ∧
    (unfinished before).length = 3 ∧ (m.trackRun "S" .empty).2.active = ∅ := by
  intro m before active
  have h : (m.trackRun "S" .empty).2.history =
      before ++ .enter "A" 1 3 active :: [.leave, .leave, .leave, .leave] := by
    decide +kernel
  obtain ⟨-, hentries, -, hkept⟩ := active_eq_unfinished m "S" .empty
  obtain ⟨hactive, -, hlength, -⟩ := hentries _ _ _ _ _ _ h
  exact ⟨by decide +kernel, h, rfl, hactive, hlength, (hkept 0 0 _).1 "S"⟩

end PhraseStructure.Matcher
