/-!
# Tables in order of first insertion

A table gives values to names and remembers the order in which the names first
came. Setting a name again replaces its value and keeps its place. Main
statements: what a table holds after an insertion (`get?_insert`,
`get?_insertAll`) and where (`keys_insert`, `keys_insertAll`), and what it is to
group values by names (`entries_group`).
-/
namespace PhraseStructure

/-! ## Entries -/

/-- Replace the value of `key` where it stands, or append it. -/
def setEntry {α : Type} (key : String) (value : α) : List (String × α) → List (String × α)
  | [] => [(key, value)]
  | (k, v) :: rest => if k = key then (k, value) :: rest else (k, v) :: setEntry key value rest

theorem keys_setEntry {α : Type} (key : String) (value : α) (entries : List (String × α)) :
    (setEntry key value entries).map Prod.fst =
      if key ∈ entries.map Prod.fst then entries.map Prod.fst else entries.map Prod.fst ++ [key] := by
  induction entries with
  | nil => simp [setEntry]
  | cons e rest ih =>
    obtain ⟨k, v⟩ := e
    by_cases hk : k = key
    · simp [setEntry, hk]
    · have hk' : key ≠ k := fun h => hk h.symm
      simp only [setEntry, hk, if_false, List.map_cons, ih, List.mem_cons, hk', false_or]
      split <;> simp

theorem setEntry_of_not_mem {α : Type} {key : String} (value : α) {entries : List (String × α)}
    (h : key ∉ entries.map Prod.fst) : setEntry key value entries = entries ++ [(key, value)] := by
  induction entries with
  | nil => rfl
  | cons e rest ih =>
    obtain ⟨k, v⟩ := e
    rw [List.map_cons, List.mem_cons, not_or] at h
    rw [setEntry, if_neg (Ne.symm h.1), ih h.2, List.cons_append]

theorem lookup_cons_eq_ite {α : Type} (k l : String) (v : α) (rest : List (String × α)) :
    ((l, v) :: rest).lookup k = if k = l then some v else rest.lookup k := by
  by_cases h : k = l
  · simp [h]
  · have : (k == l) = false := by simpa using h
    simp [List.lookup_cons, this, h]

theorem lookup_setEntry {α : Type} (key : String) (value : α) (entries : List (String × α)) (k : String) :
    (setEntry key value entries).lookup k = if k = key then some value else entries.lookup k := by
  induction entries with
  | nil => rw [setEntry, lookup_cons_eq_ite]
  | cons e rest ih =>
    obtain ⟨l, v⟩ := e
    rw [setEntry]
    split
    · subst l
      simp only [lookup_cons_eq_ite]
      split <;> rfl
    · simp only [lookup_cons_eq_ite, ih]
      split <;> split <;> simp_all

theorem lookup_map_values {α β : Type} (f : α → β) (key : String) (entries : List (String × α)) :
    (entries.map fun (k, v) => (k, f v)).lookup key = (entries.lookup key).map f := by
  induction entries with
  | nil => rfl
  | cons e rest ih =>
    obtain ⟨k, v⟩ := e
    simp only [List.map_cons, lookup_cons_eq_ite, ih]
    split <;> rfl

/-- In a list of pairs that is made of another list, the value of a name comes
from the first that has it. -/
theorem lookup_map_eq_find? {α β : Type} (name : β → String) (value : β → α) (key : String) (xs : List β) :
    (xs.map fun x => (name x, value x)).lookup key = (xs.find? fun x => name x == key).map value := by
  induction xs with
  | nil => rfl
  | cons x xs ih =>
    rw [List.map_cons, lookup_cons_eq_ite, ih, List.find?_cons]
    by_cases h : name x = key
    · simp [h]
    · rw [if_neg (Ne.symm h), beq_false_of_ne h]

/-- Where every name is listed once, its value is the one it is listed with. -/
theorem lookup_eq_some_iff_mem {α : Type} {entries : List (String × α)} (hn : (entries.map Prod.fst).Nodup)
    {k : String} {value : α} : entries.lookup k = some value ↔ (k, value) ∈ entries := by
  induction entries with
  | nil => simp
  | cons e rest ih =>
    obtain ⟨l, v⟩ := e
    rw [List.map_cons, List.nodup_cons] at hn
    rw [lookup_cons_eq_ite, List.mem_cons]
    by_cases hk : k = l
    · subst hk
      have hrest : (k, value) ∉ rest := fun h => hn.1 (List.mem_map.2 ⟨_, h, rfl⟩)
      simp [hrest, eq_comm]
    · rw [if_neg hk, ih hn.2]
      simp [hk]

/-! ## Names without repetitions -/

theorem eraseDups_of_nodup {xs : List String} (h : xs.Nodup) : xs.eraseDups = xs := by
  induction xs with
  | nil => rfl
  | cons x xs ih =>
    obtain ⟨hx, hxs⟩ := List.nodup_cons.1 h
    have hkeep : xs.filter (fun y => !y == x) = xs := by
      refine List.filter_eq_self.2 fun y hy => ?_
      have : y ≠ x := fun he => hx (he ▸ hy)
      simpa using this
    rw [List.eraseDups_cons, hkeep, ih hxs]

/-- A name that came before is dropped. -/
theorem eraseDups_append_cons_of_mem {xs : List String} {x : String} (h : x ∈ xs) (ys : List String) :
    (xs ++ x :: ys).eraseDups = (xs ++ ys).eraseDups := by
  rw [List.eraseDups_append, List.eraseDups_append, List.cons_removeAll, if_neg (by simpa using h)]

/-! ## Tables -/

/-- Values for names, in order of first insertion, each name once. -/
structure Table (α : Type) where
  entries : List (String × α)
  nodup_keys : (entries.map Prod.fst).Nodup

namespace Table

variable {α : Type}

/-- The names, in order. -/
def keys (t : Table α) : List String := t.entries.map Prod.fst

/-- The values, in the order of their names. -/
def values (t : Table α) : List α := t.entries.map Prod.snd

/-- The number of names. -/
def size (t : Table α) : Nat := t.entries.length

/-- Whether the table has no names. -/
def isEmpty (t : Table α) : Bool := t.entries.isEmpty

/-- The value of a name. -/
def get? (t : Table α) (key : String) : Option α := t.entries.lookup key

/-- Whether the name has a value. -/
def contains (t : Table α) (key : String) : Bool := (t.get? key).isSome

/-- The table without names. -/
def empty : Table α := ⟨[], by simp⟩

/-- The table with the value of `key` set: in its place if the name is known,
else at the end. -/
def insert (t : Table α) (key : String) (value : α) : Table α where
  entries := setEntry key value t.entries
  nodup_keys := by
    rw [keys_setEntry]
    split
    · exact t.nodup_keys
    · refine List.nodup_append.2 ⟨t.nodup_keys, by simp, ?_⟩
      rintro k hk _ hkey rfl
      exact absurd (List.mem_singleton.1 hkey ▸ hk) ‹_›

/-- The table with every value mapped; the names stay where they are. -/
def mapValues {β : Type} (f : α → β) (t : Table α) : Table β where
  entries := t.entries.map fun (key, value) => (key, f value)
  nodup_keys := by
    rw [List.map_map]
    exact t.nodup_keys

@[simp] theorem get?_empty (key : String) : (empty : Table α).get? key = none := rfl

@[simp] theorem keys_empty : (empty : Table α).keys = [] := rfl

theorem get?_insert (t : Table α) (key : String) (value : α) (k : String) :
    (t.insert key value).get? k = if k = key then some value else t.get? k :=
  lookup_setEntry key value t.entries k

theorem get?_mapValues {β : Type} (f : α → β) (t : Table α) (key : String) :
    (t.mapValues f).get? key = (t.get? key).map f :=
  lookup_map_values f key t.entries

/-- A name has one value, the one it is listed with. -/
theorem get?_eq_some_iff {t : Table α} {key : String} {value : α} :
    t.get? key = some value ↔ (key, value) ∈ t.entries :=
  lookup_eq_some_iff_mem t.nodup_keys

/-- The order of the names does not matter for their values. -/
theorem get?_eq_of_perm {t u : Table α} (h : t.entries.Perm u.entries) (key : String) :
    t.get? key = u.get? key := by
  apply Option.ext
  intro value
  rw [get?_eq_some_iff, get?_eq_some_iff, h.mem_iff]

theorem keys_insert (t : Table α) (key : String) (value : α) :
    (t.insert key value).keys = if key ∈ t.keys then t.keys else t.keys ++ [key] :=
  keys_setEntry key value t.entries

/-- A table lists its names with their values. -/
theorem entries_eq_map_keys (t : Table α) (other : α) :
    t.entries = t.keys.map fun key => (key, (t.get? key).getD other) := by
  have hentry : ∀ e ∈ t.entries, ((e.1, (t.get? e.1).getD other) : String × α) = e := by
    intro e he
    rw [get?_eq_some_iff.2 he, Option.getD_some]
  rw [keys, List.map_map]
  exact ((List.map_congr_left hentry).trans (List.map_id _)).symm

theorem eq_of_entries_eq {t u : Table α} (h : t.entries = u.entries) : t = u := by
  cases t
  cases u
  cases h
  rfl

/-- The table with some names and values inserted one after the other. -/
def insertAll (t : Table α) (entries : List (String × α)) : Table α :=
  entries.foldl (fun t (key, value) => t.insert key value) t

/-- New names, each once, come after those of the table in their order. -/
theorem entries_insertAll {t : Table α} {entries : List (String × α)}
    (h : ((t.entries ++ entries).map Prod.fst).Nodup) :
    (t.insertAll entries).entries = t.entries ++ entries := by
  induction entries generalizing t with
  | nil => simp [insertAll]
  | cons e rest ih =>
    obtain ⟨key, value⟩ := e
    have hnew : key ∉ t.entries.map Prod.fst := by
      rw [List.map_append, List.nodup_append] at h
      exact fun hk => h.2.2 key hk key (by simp) rfl
    have hinsert : (t.insert key value).entries = t.entries ++ [(key, value)] := setEntry_of_not_mem value hnew
    have hrest := @ih (t.insert key value) (by rw [hinsert]; simpa using h)
    rwa [hinsert, List.append_assoc] at hrest

/-- A name has the value of its last entry, or the one that it had before if it
has no entry. -/
theorem get?_insertAll (t : Table α) (entries : List (String × α)) (key : String) :
    (t.insertAll entries).get? key = (entries.reverse.lookup key).or (t.get? key) := by
  induction entries generalizing t with
  | nil => rfl
  | cons e rest ih =>
    obtain ⟨k, value⟩ := e
    have hrest := ih (t.insert k value)
    rw [get?_insert] at hrest
    rw [List.reverse_cons, List.lookup_append, lookup_cons_eq_ite, List.lookup_nil, Option.or_assoc]
    refine hrest.trans (congrArg _ ?_)
    split <;> rfl

/-- Whatever values are set, the names stand in the order in which they first
came. -/
theorem keys_foldl_insert {β : Type} (name : β → String) (value : Table α → β → α) (t : Table α) (xs : List β) :
    (xs.foldl (fun t x => t.insert (name x) (value t x)) t).keys = (t.keys ++ xs.map name).eraseDups := by
  induction xs generalizing t with
  | nil =>
    have hkeys : t.keys.eraseDups = t.keys := eraseDups_of_nodup t.nodup_keys
    rw [List.map_nil, List.append_nil, hkeys, List.foldl_nil]
  | cons x xs ih =>
    rw [List.foldl_cons, ih, keys_insert, List.map_cons]
    split
    · next hkey => rw [eraseDups_append_cons_of_mem hkey]
    · rw [List.append_assoc, List.singleton_append]

theorem keys_insertAll (t : Table α) (entries : List (String × α)) :
    (t.insertAll entries).keys = (t.keys ++ entries.map Prod.fst).eraseDups :=
  keys_foldl_insert Prod.fst (fun _ entry => entry.2) t entries

/-! ## Groups -/

/-- The table with a value put behind those that a name has already. -/
def push (t : Table (List α)) (key : String) (value : α) : Table (List α) :=
  t.insert key ((t.get? key).getD [] ++ [value])

theorem get?_push (t : Table (List α)) (key : String) (value : α) (k : String) :
    (t.push key value).get? k = if k = key then some ((t.get? key).getD [] ++ [value]) else t.get? k :=
  get?_insert ..

/-- The values with their names, put under these one after the other. -/
def group (entries : List (α × String)) : Table (List α) :=
  entries.foldl (fun t (value, key) => t.push key value) .empty

/-- A name has the values that come with it, in their order. -/
theorem getD_get?_foldl_push (t : Table (List α)) (entries : List (α × String)) (key : String) :
    ((entries.foldl (fun t (value, key) => t.push key value) t).get? key).getD [] =
      (t.get? key).getD [] ++ (entries.filter fun entry => entry.2 == key).map Prod.fst := by
  induction entries generalizing t with
  | nil => simp
  | cons entry entries ih =>
    obtain ⟨value, k⟩ := entry
    rw [List.foldl_cons, ih, get?_push]
    by_cases h : key = k
    · subst h
      simp
    · rw [if_neg h, List.filter_cons_of_neg (by simpa using Ne.symm h)]

/-- The groups stand in the order in which their names first came. -/
theorem entries_group (entries : List (α × String)) :
    (group entries).entries = (entries.map Prod.snd).eraseDups.map fun key =>
      (key, (entries.filter fun entry => entry.2 == key).map Prod.fst) := by
  have hkeys : (group entries).keys = (entries.map Prod.snd).eraseDups :=
    keys_foldl_insert Prod.snd (fun t entry => (t.get? entry.2).getD [] ++ [entry.1]) .empty entries
  rw [entries_eq_map_keys (group entries) [], hkeys]
  refine List.map_congr_left fun key _ => ?_
  rw [group, getD_get?_foldl_push, get?_empty]
  rfl

theorem contains_iff_mem_keys {t : Table α} {key : String} : t.contains key = true ↔ key ∈ t.keys := by
  unfold contains get? keys
  induction t.entries with
  | nil => simp
  | cons e rest ih =>
    obtain ⟨k, v⟩ := e
    simp only [lookup_cons_eq_ite, List.map_cons, List.mem_cons, ← ih]
    split <;> simp_all

end Table

instance {α : Type} : Inhabited (Table α) := ⟨.empty⟩

end PhraseStructure
