/-!
# Traces

A trace records what happens while sentences are matched: diagnostics in the
order in which they occur, and the *frontier*, the furthest position at which a
symbol was expected in vain. A trace can be kept over several parses; the
frontier then never moves back.
-/
namespace PhraseStructure

/-! ## Diagnostics -/

/-- Something noteworthy that happened while matching a symbol at a position. -/
inductive Diagnostic where
  /-- The symbol has no rule and tags no word. -/
  | unknownSymbol (symbol : String) (position : Nat)
  /-- No alternative of the symbol matched. -/
  | noMatch (symbol : String) (position : Nat)
  /-- The symbol was entered again before a token was consumed. -/
  | cycle (symbol : String) (position : Nat)
  /-- The symbol would have been matched deeper than the limit allows. -/
  | recursionLimit (symbol : String) (position limit : Nat)
  deriving DecidableEq

namespace Diagnostic

/-- The symbol that a diagnostic is about. -/
def symbol : Diagnostic → String
  | unknownSymbol s _ | noMatch s _ | cycle s _ | recursionLimit s _ _ => s

/-- The position that a diagnostic is about. -/
def position : Diagnostic → Nat
  | unknownSymbol _ p | noMatch _ p | cycle _ p | recursionLimit _ p _ => p

/-- Whether the diagnostic reports `s` as unknown. -/
def reportsUnknown (s : String) : Diagnostic → Bool
  | unknownSymbol t _ => t == s
  | _ => false

/-- The wording of a diagnostic. -/
def message : Diagnostic → String
  | unknownSymbol s p => "No rule found for: " ++ s ++ " (index: " ++ toString p ++ ")"
  | noMatch s p => "Failed to match rule: '" ++ s ++ "' (index: " ++ toString p ++ ")"
  | cycle s p =>
    "Recursion limit exceeded: '" ++ s ++ "' re-entered without consuming a token (index: " ++
      toString p ++ ")"
  | recursionLimit s p limit =>
    "Recursion limit " ++ toString limit ++ " exceeded at '" ++ s ++ "' (index: " ++ toString p ++ ")"

end Diagnostic

/-! ## The frontier -/

/-- The furthest position at which a symbol was expected and not found, and the
symbols expected there, each once, in the order in which they were expected. -/
structure Frontier where
  position : Nat
  expected : List String
  deriving DecidableEq

namespace Frontier

/-- The frontier before anything is expected. -/
def start : Frontier := ⟨0, []⟩

/-- The frontier after `symbol` was expected at `position`: a position further
on takes over, the same position gains the symbol, and an earlier one changes
nothing. -/
def expect (f : Frontier) (symbol : String) (position : Nat) : Frontier :=
  if position < f.position then f
  else if position = f.position then
    if symbol ∈ f.expected then f else ⟨f.position, f.expected ++ [symbol]⟩
  else ⟨position, [symbol]⟩

section
variable {f : Frontier} {symbol : String} {position : Nat}

theorem expect_of_lt (h : position < f.position) : f.expect symbol position = f := if_pos h

theorem expect_of_gt (h : f.position < position) : f.expect symbol position = ⟨position, [symbol]⟩ := by
  rw [expect, if_neg (by omega), if_neg (by omega)]

theorem expect_of_eq (p : Nat) (xs : List String) (symbol : String) :
    expect ⟨p, xs⟩ symbol p = ⟨p, xs ++ if symbol ∈ xs then [] else [symbol]⟩ := by
  rw [expect, if_neg (Nat.lt_irrefl p), if_pos rfl]
  split <;> simp

@[simp] theorem position_expect (f : Frontier) (symbol : String) (position : Nat) :
    (f.expect symbol position).position = max f.position position := by
  rcases Nat.lt_trichotomy position f.position with h | rfl | h
  · rw [expect_of_lt h, Nat.max_eq_left (Nat.le_of_lt h)]
  · rw [expect_of_eq, Nat.max_self]
  · rw [expect_of_gt h, Nat.max_eq_right (Nat.le_of_lt h)]

/-- A symbol expected at the frontier was expected there before, or it is the
symbol expected last. -/
theorem mem_expected_expect {s : String} (h : s ∈ (f.expect symbol position).expected) :
    s ∈ f.expected ∧ (f.expect symbol position).position = f.position ∨
      s = symbol ∧ (f.expect symbol position).position = position := by
  rcases Nat.lt_trichotomy position f.position with hlt | rfl | hgt
  · rw [expect_of_lt hlt] at h ⊢
    exact .inl ⟨h, rfl⟩
  · rw [expect_of_eq] at h ⊢
    rcases List.mem_append.1 h with h | h
    · exact .inl ⟨h, rfl⟩
    · split at h
      · cases h
      · exact .inr ⟨List.mem_singleton.1 h, rfl⟩
  · rw [expect_of_gt hgt] at h ⊢
    exact .inr ⟨List.mem_singleton.1 h, rfl⟩

end

end Frontier

/-! ## Traces -/

/-- The diagnostics so far, newest first, and the frontier. -/
structure Trace where
  newestFirst : List Diagnostic
  frontier : Frontier
  deriving DecidableEq

namespace Trace

/-- The trace of nothing. -/
def empty : Trace := ⟨[], .start⟩

/-- The diagnostics so far, in the order in which they occurred. -/
def diagnostics (t : Trace) : List Diagnostic := t.newestFirst.reverse

/-- The trace with a diagnostic added. -/
def report (t : Trace) (d : Diagnostic) : Trace := { t with newestFirst := d :: t.newestFirst }

/-- The trace with `symbol` reported as unknown, unless it has been already. -/
def reportUnknown (t : Trace) (symbol : String) (position : Nat) : Trace :=
  if t.newestFirst.any (·.reportsUnknown symbol) then t else t.report (.unknownSymbol symbol position)

/-- The trace after `symbol` was expected in vain at `position`. -/
def expect (t : Trace) (symbol : String) (position : Nat) : Trace :=
  { t with frontier := t.frontier.expect symbol position }

@[simp] theorem diagnostics_empty : empty.diagnostics = [] := rfl

@[simp] theorem diagnostics_report (t : Trace) (d : Diagnostic) :
    (t.report d).diagnostics = t.diagnostics ++ [d] := by
  simp [report, diagnostics]

@[simp] theorem frontier_report (t : Trace) (d : Diagnostic) : (t.report d).frontier = t.frontier := rfl

@[simp] theorem diagnostics_expect (t : Trace) (symbol : String) (position : Nat) :
    (t.expect symbol position).diagnostics = t.diagnostics := rfl

@[simp] theorem frontier_expect (t : Trace) (symbol : String) (position : Nat) :
    (t.expect symbol position).frontier = t.frontier.expect symbol position := rfl

theorem diagnostics_reportUnknown (t : Trace) (symbol : String) (position : Nat) :
    (t.reportUnknown symbol position).diagnostics =
      if t.diagnostics.any (·.reportsUnknown symbol) then t.diagnostics
      else t.diagnostics ++ [.unknownSymbol symbol position] := by
  unfold reportUnknown
  simp only [diagnostics, List.any_reverse]
  split <;> simp [report]

@[simp] theorem frontier_reportUnknown (t : Trace) (symbol : String) (position : Nat) :
    (t.reportUnknown symbol position).frontier = t.frontier := by
  unfold reportUnknown
  split <;> rfl

end Trace

end PhraseStructure
