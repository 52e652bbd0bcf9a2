import Mathlib.Data.List.Forall2
/-!
# Reading a text line by line

Grammars and lexicons are read in one way: a line is malformed, or it defines
something, or it defines nothing. What the lines define is taken up one after
the other, and the first malformed line ends the reading with an error that has
its number (`LineStep`).

Main statements: without malformed lines the definitions are taken up in their
order (`LineStep.foldlM_eq_ok_iff`), and otherwise it is the first malformed
line that is reported (`LineStep.foldlM_of_firstDefect`).
-/
namespace PhraseStructure

variable {σ α δ ε : Type}

/-! ## Readings -/

/-- What some lines define, in their order. -/
def definitions (readings : List (Except δ (Option α))) : List α :=
  readings.filterMap fun
    | .ok definition? => definition?
    | .error _ => none

@[simp] theorem definitions_nil : definitions ([] : List (Except δ (Option α))) = [] := rfl

@[simp] theorem definitions_cons_none (readings : List (Except δ (Option α))) :
    definitions (.ok none :: readings) = definitions readings := rfl

@[simp] theorem definitions_cons_some (a : α) (readings : List (Except δ (Option α))) :
    definitions (.ok (some a) :: readings) = a :: definitions readings := rfl

theorem definitions_map_some (as : List α) :
    definitions (as.map fun a => (.ok (some a) : Except δ (Option α))) = as := by
  rw [definitions, List.filterMap_map]
  exact List.filterMap_some

theorem mem_definitions_map {lines : List (List Char)} {read : List Char → Except δ (Option α)} {a : α} :
    a ∈ definitions (lines.map read) ↔ ∃ line ∈ lines, read line = .ok (some a) := by
  rw [definitions, List.filterMap_map, List.mem_filterMap]
  refine exists_congr fun line => and_congr_right fun _ => ?_
  dsimp only [Function.comp_apply]
  cases read line <;> simp

/-- No line is malformed. -/
def NoDefect (readings : List (Except δ (Option α))) : Prop := ∀ defect, .error defect ∉ readings

@[simp] theorem noDefect_nil : NoDefect ([] : List (Except δ (Option α))) := fun _ h => nomatch h

@[simp] theorem noDefect_cons_error {defect : δ} {readings : List (Except δ (Option α))} :
    ¬ NoDefect (.error defect :: readings) :=
  fun h => h defect List.mem_cons_self

@[simp] theorem noDefect_cons_ok {definition? : Option α} {readings : List (Except δ (Option α))} :
    NoDefect (.ok definition? :: readings) ↔ NoDefect readings := by
  simp [NoDefect]

theorem noDefect_map_iff {lines : List (List Char)} {read : List Char → Except δ (Option α)} :
    NoDefect (lines.map read) ↔ ∀ line ∈ lines, (read line).isOk = true := by
  induction lines with
  | nil => simp
  | cons line lines ih =>
    rw [List.map_cons, List.forall_mem_cons, ← ih]
    cases read line <;> simp [Except.isOk, Except.toBool]

/-- The line at the index has the defect, and no line before it has any. -/
structure FirstDefect (readings : List (Except δ (Option α))) (i : Nat) (defect : δ) : Prop where
  here : readings[i]? = some (.error defect)
  before : NoDefect (readings.take i)

theorem noDefect_or_firstDefect (readings : List (Except δ (Option α))) :
    NoDefect readings ∨ ∃ i defect, FirstDefect readings i defect := by
  induction readings with
  | nil => exact .inl noDefect_nil
  | cons reading readings ih =>
    cases reading with
    | error defect => exact .inr ⟨0, defect, rfl, noDefect_nil⟩
    | ok definition? =>
      rcases ih with h | ⟨i, defect, h⟩
      · exact .inl (noDefect_cons_ok.2 h)
      · exact .inr ⟨i + 1, defect, h.here, noDefect_cons_ok.2 h.before⟩

theorem FirstDefect.not_noDefect {readings : List (Except δ (Option α))} {i : Nat} {defect : δ}
    (h : FirstDefect readings i defect) : ¬ NoDefect readings :=
  fun hnone => hnone defect (List.mem_of_getElem? h.here)

/-! ## The reading step -/

/-- A step of reading numbered lines: `read` says what a line defines, `fail`
how a defect is reported, and `define` how a definition is taken up. -/
structure LineStep (step : σ → List Char × Nat → Except ε σ) (read : List Char → Except δ (Option α))
    (fail : Nat → δ → ε) (define : σ → α → σ) : Prop where
  error : ∀ s line number defect, read line = .error defect → step s (line, number) = .error (fail number defect)
  skip : ∀ s line number, read line = .ok none → step s (line, number) = .ok s
  define : ∀ s line number a, read line = .ok (some a) → step s (line, number) = .ok (define s a)

namespace LineStep

variable {step : σ → List Char × Nat → Except ε σ} {read : List Char → Except δ (Option α)}
  {fail : Nat → δ → ε} {define : σ → α → σ}

/-- Without malformed lines the definitions are taken up in their order; a
malformed line does not let the reading succeed. -/
theorem foldlM_eq_ok_iff (h : LineStep step read fail define) {lines : List (List Char)} {number : Nat} {s s' : σ} :
    (lines.zipIdx number).foldlM step s = .ok s' ↔
      NoDefect (lines.map read) ∧ s' = (definitions (lines.map read)).foldl define s := by
  induction lines generalizing number s with
  | nil => simp [pure, Except.pure, eq_comm]
  | cons line lines ih =>
    rw [List.zipIdx_cons, List.foldlM_cons, List.map_cons]
    cases hread : read line with
    | error defect => simp [h.error s line number defect hread, bind, Except.bind]
    | ok definition? =>
      cases definition? with
      | none => simpa [h.skip s line number hread, bind, Except.bind] using ih
      | some a => simpa [h.define s line number a hread, bind, Except.bind] using ih

/-- The first malformed line ends the reading. -/
theorem foldlM_of_firstDefect (h : LineStep step read fail define) {lines : List (List Char)} {number i : Nat}
    {defect : δ} (hfirst : FirstDefect (lines.map read) i defect) (s : σ) :
    (lines.zipIdx number).foldlM step s = .error (fail (number + i) defect) := by
  induction lines generalizing number i s with
  | nil => cases hfirst.here
  | cons line lines ih =>
    rw [List.zipIdx_cons, List.foldlM_cons]
    obtain ⟨hhere, hbefore⟩ := hfirst
    rw [List.map_cons] at hhere hbefore
    cases i with
    | zero =>
      have hread : read line = .error defect := Option.some.inj hhere
      rw [h.error s line number defect hread]
      rfl
    | succ i =>
      cases hread : read line with
      | error d => simp [hread] at hbefore
      | ok definition? =>
        rw [hread, List.take_succ_cons, noDefect_cons_ok] at hbefore
        have hrest : FirstDefect (lines.map read) i defect := ⟨hhere, hbefore⟩
        have hnumber : number + (i + 1) = number + 1 + i := by omega
        rw [hnumber]
        cases definition? with
        | none =>
          rw [h.skip s line number hread]
          exact ih hrest s
        | some a =>
          rw [h.define s line number a hread]
          exact ih hrest (define s a)

end LineStep

/-! ## Ways to read lines -/

section
variable {β : Type} {ReadAs : List Char → β → Prop} {read : List Char → β}

/-- Where a reader is right in every way to read a line, and there is a way for
every line, it is the only one. -/
theorem readAs_iff_of_total (hsound : ∀ line reading, ReadAs line reading → read line = reading)
    (htotal : ∀ line, ∃ reading, ReadAs line reading) (line : List Char) (reading : β) :
    ReadAs line reading ↔ read line = reading := by
  refine ⟨hsound line reading, ?_⟩
  rintro rfl
  obtain ⟨reading, h⟩ := htotal line
  rwa [hsound line reading h]

/-- A reader that takes the only way at every line takes it at all lines of a
text. -/
theorem forall₂_iff_eq_map (h : ∀ line reading, ReadAs line reading ↔ read line = reading)
    {lines : List (List Char)} {readings : List β} :
    List.Forall₂ ReadAs lines readings ↔ readings = lines.map read := by
  induction lines generalizing readings with
  | nil => simp
  | cons line lines ih =>
    cases readings with
    | nil => simp
    | cons reading readings => simp [h, ih, eq_comm]

end

end PhraseStructure
