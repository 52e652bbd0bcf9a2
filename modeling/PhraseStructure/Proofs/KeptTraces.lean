import PhraseStructure.Proofs.Log
import PhraseStructure.Proofs.Verdicts
/-!
# Traces kept over several parses

A parse may start with the trace of earlier ones. What it records does not
depend on that trace, so it leaves the earlier trace followed by what it records
by itself (`recordAll_eq_followedBy`).

Main statement: with a kept trace the verdict is the same as with an empty one,
but for where a rejection lies and what was expected there, which is read off
the joint frontier.
-/
namespace PhraseStructure

/-- The frontier of a match after that of another one: the one further on, or
both at one position. -/
def Frontier.join (f g : Frontier) : Frontier :=
  if g.position < f.position then f
  else if f.position < g.position then g
  else ⟨f.position, f.expected ++ g.expected.filter (· ∉ f.expected)⟩

namespace Frontier

variable {f g : Frontier}

theorem join_of_lt (h : g.position < f.position) : f.join g = f := if_pos h

theorem join_of_gt (h : f.position < g.position) : f.join g = g := by
  rw [join, if_neg (Nat.not_lt_of_gt h), if_pos h]

theorem join_of_eq (p : Nat) (xs ys : List String) :
    join ⟨p, xs⟩ ⟨p, ys⟩ = ⟨p, xs ++ ys.filter (· ∉ xs)⟩ := by
  rw [join, if_neg (Nat.lt_irrefl p), if_neg (Nat.lt_irrefl p)]

theorem join_start (f : Frontier) : f.join start = f := by
  obtain ⟨p, xs⟩ := f
  rcases Nat.eq_zero_or_pos p with rfl | h
  · simp [start, join_of_eq]
  · exact join_of_lt h

/-- What the second of two frontiers gains, both together gain. -/
theorem join_expect (f g : Frontier) (symbol : String) (position : Nat) :
    (f.join g).expect symbol position = f.join (g.expect symbol position) := by
  obtain ⟨p, xs⟩ := f
  obtain ⟨q, ys⟩ := g
  rcases Nat.lt_trichotomy q p with hlt | rfl | hgt
  · rw [join_of_lt hlt]
    rcases Nat.lt_trichotomy position p with h | rfl | h
    · have hlt' : (expect ⟨q, ys⟩ symbol position).position < p := by
        rw [position_expect]
        exact Nat.max_lt.2 ⟨hlt, h⟩
      rw [expect_of_lt h, join_of_lt hlt']
    · rw [expect_of_eq, expect_of_gt hlt, join_of_eq]
      simp [List.filter_cons]
    · rw [expect_of_gt h, expect_of_gt (Nat.lt_trans hlt h), join_of_gt h]
  · rw [join_of_eq]
    rcases Nat.lt_trichotomy position q with h | rfl | h
    · rw [expect_of_lt h, expect_of_lt h, join_of_eq]
    · rw [expect_of_eq, expect_of_eq, join_of_eq]
      by_cases hx : symbol ∈ xs <;> by_cases hy : symbol ∈ ys <;> simp [hx, hy]
    · rw [expect_of_gt h, expect_of_gt h, join_of_gt h]
  · have hgt' : p < (expect ⟨q, ys⟩ symbol position).position := by
      rw [position_expect]
      exact Nat.lt_of_lt_of_le hgt (Nat.le_max_left q position)
    rw [join_of_gt hgt, join_of_gt hgt']

end Frontier

namespace Trace

/-- Whether the diagnostic reports a symbol as unknown that the trace has
already reported. -/
def hasReported (t : Trace) : Diagnostic → Bool
  | .unknownSymbol symbol _ => t.diagnostics.any (·.reportsUnknown symbol)
  | _ => false

/-- The trace of a match that another one goes before: what is reported again as
unknown is left out. -/
def followedBy (t u : Trace) : Trace where
  newestFirst := u.newestFirst.filter (!t.hasReported ·) ++ t.newestFirst
  frontier := t.frontier.join u.frontier

@[simp] theorem diagnostics_followedBy (t u : Trace) :
    (t.followedBy u).diagnostics = t.diagnostics ++ u.diagnostics.filter (!t.hasReported ·) := by
  simp [followedBy, diagnostics, List.filter_reverse]

@[simp] theorem frontier_followedBy (t u : Trace) : (t.followedBy u).frontier = t.frontier.join u.frontier := rfl

@[simp] theorem followedBy_empty (t : Trace) : t.followedBy .empty = t := by
  simp [followedBy, empty, Frontier.join_start]

theorem followedBy_report (t u : Trace) {d : Diagnostic} (h : t.hasReported d = false) :
    (t.followedBy u).report d = t.followedBy (u.report d) := by
  simp [followedBy, report, h]

theorem hasReported_unknownSymbol (t : Trace) (symbol : String) (position : Nat) :
    t.hasReported (.unknownSymbol symbol position) = t.newestFirst.any (·.reportsUnknown symbol) :=
  List.any_reverse

/-- What either of two traces reports as unknown, both together report. -/
theorem any_reportsUnknown_followedBy (t u : Trace) (symbol : String) :
    (t.followedBy u).newestFirst.any (·.reportsUnknown symbol) =
      (t.newestFirst.any (·.reportsUnknown symbol) || u.newestFirst.any (·.reportsUnknown symbol)) := by
  cases ht : t.newestFirst.any (·.reportsUnknown symbol) with
  | true => simp [followedBy, ht]
  | false =>
    -- The earlier trace does not report the symbol, so no report of it is left
    -- out of the later one.
    have hkeep : ∀ d, (!t.hasReported d && d.reportsUnknown symbol) = d.reportsUnknown symbol := by
      intro d
      cases d with
      | unknownSymbol s q =>
        by_cases hs : s = symbol
        · rw [hasReported_unknownSymbol, hs, ht]
          rfl
        · simp [Diagnostic.reportsUnknown, hs]
      | noMatch | cycle | recursionLimit => simp [Diagnostic.reportsUnknown]
    simp [followedBy, List.any_filter, hkeep, ht]

theorem followedBy_reportUnknown (t u : Trace) (symbol : String) (position : Nat) :
    (t.followedBy u).reportUnknown symbol position = t.followedBy (u.reportUnknown symbol position) := by
  rw [reportUnknown, reportUnknown, any_reportsUnknown_followedBy]
  cases ht : t.newestFirst.any (·.reportsUnknown symbol) with
  | true =>
    rw [Bool.true_or, if_pos rfl]
    split
    · rfl
    · simp [followedBy, report, hasReported_unknownSymbol, ht]
  | false =>
    rw [Bool.false_or]
    split
    · rfl
    · exact followedBy_report t u ((hasReported_unknownSymbol t symbol position).trans ht)

theorem followedBy_record (t u : Trace) (e : Event) :
    (t.followedBy u).record e = t.followedBy (u.record e) := by
  cases e with
  | expectation symbol position => simp [record, followedBy, expect, Frontier.join_expect]
  | diagnostic d =>
    cases d with
    | unknownSymbol symbol position => exact followedBy_reportUnknown t u symbol position
    | noMatch | cycle | recursionLimit => exact followedBy_report t u rfl

theorem followedBy_recordAll (t u : Trace) (log : List Event) :
    (t.followedBy u).recordAll log = t.followedBy (u.recordAll log) := by
  induction log generalizing u with
  | nil => rfl
  | cons e log ih => rw [recordAll_cons, recordAll_cons, followedBy_record, ih]

/-- A log adds to a trace what it records by itself. -/
theorem recordAll_eq_followedBy (t : Trace) (log : List Event) :
    t.recordAll log = t.followedBy (empty.recordAll log) := by
  rw [← followedBy_recordAll, followedBy_empty]

end Trace

/-! ## Main theorem -/

/-- Parsing with the trace of earlier parses, against parsing with an empty one.
The verdict is the same: the same tree, or a rejection for the same reason with
as many tokens matched. The diagnostics come after those kept, less the symbols
already reported as unknown, and the frontier is the joint one. A rejection lies
at that frontier or at the end of the match, whichever is further, and the
symbols expected are those of the frontier if it lies there. -/
theorem Parser.parseFrom_kept_trace (p : Parser) (tokens : List String) (symbol : String) (t : Trace) :
    SameVerdict (p.parseFrom tokens symbol t).1 (p.parseFrom tokens symbol .empty).1 ∧
    (p.parseFrom tokens symbol t).2.diagnostics =
      t.diagnostics ++ (p.parseFrom tokens symbol .empty).2.diagnostics.filter (!t.hasReported ·) ∧
    (p.parseFrom tokens symbol t).2.frontier =
      t.frontier.join (p.parseFrom tokens symbol .empty).2.frontier ∧
    ∀ r, (p.parseFrom tokens symbol t).1 = .error r →
      r.position = max (p.parseFrom tokens symbol t).2.frontier.position r.consumed ∧
      r.expected = if (p.parseFrom tokens symbol t).2.frontier.position = r.position then
        (p.parseFrom tokens symbol t).2.frontier.expected else [] := by
  obtain ⟨outcome, log, -, hrun⟩ := Matcher.exists_runLog (p.matcher tokens) symbol
  simp only [parseFrom_eq, hrun, t.recordAll_eq_followedBy]
  refine ⟨sameVerdict_judge _ _, ?_, ?_, fun r hr => ?_⟩
  · exact t.diagnostics_followedBy _
  · exact t.frontier_followedBy _
  · exact ⟨judge_position hr, judge_expected hr⟩

end PhraseStructure
