import Mathlib.Data.List.Basic
/-!
# First occurrences and groups

A list without its repetitions has its members in the order in which they first
occur (`pairwise_idxOf_eraseDups_filter`). Entries with labels are grouped by
the labels: this moves entries, but loses none (`perm_grouped`), and groups that
stand one after the other are found again (`filter_grouped`,
`eraseDups_grouped`).
-/
namespace PhraseStructure

/-! ## First occurrences -/

theorem pairwise_idxOf_cons {x : String} {xs ys : List String}
    (h : ys.Pairwise fun y z => xs.idxOf y < xs.idxOf z) (hx : x ∉ ys) :
    ys.Pairwise fun y z => (x :: xs).idxOf y < (x :: xs).idxOf z := by
  refine h.imp_of_mem fun {y z} hy hz hlt => ?_
  have hne : ∀ {y}, y ∈ ys → x ≠ y := fun hy he => hx (he ▸ hy)
  rw [List.idxOf_cons_ne _ (hne hy), List.idxOf_cons_ne _ (hne hz)]
  exact Nat.succ_lt_succ hlt

/-- Without repetitions a list keeps the order in which its members first
occur. -/
theorem pairwise_idxOf_eraseDups_filter (xs : List String) (keep : String → Bool) :
    (xs.filter keep).eraseDups.Pairwise fun y z => xs.idxOf y < xs.idxOf z := by
  induction xs generalizing keep with
  | nil => simp
  | cons x xs ih =>
    cases hx : keep x with
    | false =>
      rw [List.filter_cons_of_neg (by simp [hx])]
      exact pairwise_idxOf_cons (ih keep) (by simp [hx])
    | true =>
      -- What is left of the list behind `x` is again a filter of it, which
      -- drops `x` too.
      rw [List.filter_cons_of_pos hx, List.eraseDups_cons, List.filter_filter]
      refine List.pairwise_cons.2 ⟨fun y hy => ?_, pairwise_idxOf_cons (ih _) (by simp)⟩
      have hne : x ≠ y := by
        rintro rfl
        simp at hy
      rw [List.idxOf_cons_self, List.idxOf_cons_ne _ hne]
      exact Nat.succ_pos _

theorem nodup_eraseDups (xs : List String) : xs.eraseDups.Nodup := by
  have h := pairwise_idxOf_eraseDups_filter xs fun _ => true
  rw [List.filter_true] at h
  refine h.imp ?_
  rintro y _ hlt rfl
  exact Nat.lt_irrefl _ hlt

/-! ## Groups -/

/-- The entries with the first label, then those with the second one, and so
on. -/
def grouped (labels : List String) (entries : List (String × String)) : List (String × String) :=
  labels.flatMap fun label => entries.filter fun entry => entry.2 == label

section
variable {labels : List String} {entries : List (String × String)}

theorem mem_grouped {entry : String × String} :
    entry ∈ grouped labels entries ↔ entry ∈ entries ∧ entry.2 ∈ labels := by
  simp only [grouped, List.mem_flatMap, List.mem_filter, beq_iff_eq]
  constructor
  · rintro ⟨label, hlabel, he, rfl⟩
    exact ⟨he, hlabel⟩
  · rintro ⟨he, hlabel⟩
    exact ⟨entry.2, hlabel, he, rfl⟩

/-- The entries with one label are together and in their order. -/
theorem filter_grouped (hn : labels.Nodup) {label : String} (hlabel : label ∈ labels) :
    (grouped labels entries).filter (fun entry => entry.2 == label) =
      entries.filter fun entry => entry.2 == label := by
  induction labels with
  | nil => cases hlabel
  | cons first rest ih =>
    rw [List.nodup_cons] at hn
    rw [grouped, List.flatMap_cons, List.filter_append]
    change _ ++ (grouped rest entries).filter _ = _
    by_cases he : label = first
    · subst he
      have hrest : (grouped rest entries).filter (fun entry => entry.2 == label) = [] := by
        refine List.filter_eq_nil_iff.2 fun entry hmem heq => ?_
        rw [beq_iff_eq] at heq
        exact hn.1 (heq ▸ (mem_grouped.1 hmem).2)
      rw [hrest, List.append_nil, List.filter_filter]
      simp
    · have hfirst : (entries.filter fun entry => entry.2 == first).filter (fun entry => entry.2 == label) =
          [] := by
        refine List.filter_eq_nil_iff.2 fun entry hmem heq => ?_
        rw [beq_iff_eq] at heq
        have := (List.mem_filter.1 hmem).2
        rw [beq_iff_eq] at this
        exact he (heq.symm.trans this)
      rw [hfirst, List.nil_append, ih hn.2 ((List.mem_cons.1 hlabel).resolve_left he)]

/-- Nothing is lost if every entry has one of the labels. -/
theorem perm_grouped (hn : labels.Nodup) (h : ∀ entry ∈ entries, entry.2 ∈ labels) :
    (grouped labels entries).Perm entries := by
  refine List.perm_iff_count.2 fun entry => ?_
  by_cases hlabel : entry.2 ∈ labels
  · have hcount : ∀ es : List (String × String),
        (es.filter fun e => e.2 == entry.2).count entry = es.count entry :=
      fun es => List.count_filter (by simp)
    rw [← hcount, filter_grouped hn hlabel, hcount]
  · rw [List.count_eq_zero.2 fun hmem => hlabel (mem_grouped.1 hmem).2,
      List.count_eq_zero.2 fun hmem => hlabel (h entry hmem)]

/-- The labels come again in the order in which they were grouped. -/
theorem eraseDups_grouped (hn : labels.Nodup) (h : ∀ label ∈ labels, ∃ entry ∈ entries, entry.2 = label) :
    ((grouped labels entries).map Prod.snd).eraseDups = labels := by
  induction labels with
  | nil => rfl
  | cons first rest ih =>
    rw [List.nodup_cons] at hn
    obtain ⟨entry, hmem, hentry⟩ := h first List.mem_cons_self
    have hne : (entries.filter fun entry => entry.2 == first) ≠ [] :=
      List.ne_nil_of_mem (List.mem_filter.2 ⟨hmem, beq_iff_eq.2 hentry⟩)
    obtain ⟨e, es, he⟩ := List.exists_cons_of_ne_nil hne
    have hgroup : ∀ entry ∈ e :: es, entry.2 = first := by
      intro entry hentry
      rw [← he] at hentry
      exact beq_iff_eq.1 (List.mem_filter.1 hentry).2
    have hnone : (es.map Prod.snd).filter (fun label => !label == first) = [] := by
      simpa using fun label word hword => hgroup (word, label) (List.mem_cons_of_mem _ hword)
    have hall : ((grouped rest entries).map Prod.snd).filter (fun label => !label == first) =
        (grouped rest entries).map Prod.snd := by
      refine List.filter_eq_self.2 fun label hlabel => ?_
      obtain ⟨entry, hmem, rfl⟩ := List.mem_map.1 hlabel
      have : entry.2 ≠ first := fun heq => hn.1 (heq ▸ (mem_grouped.1 hmem).2)
      simpa using this
    rw [grouped, List.flatMap_cons, he]
    change (((e :: es) ++ grouped rest entries).map Prod.snd).eraseDups = _
    rw [List.cons_append, List.map_cons, List.eraseDups_cons, hgroup e List.mem_cons_self, List.map_append,
      List.filter_append, hnone, List.nil_append, hall, ih hn.2 fun l hl => h l (List.mem_cons_of_mem _ hl)]

end

end PhraseStructure
