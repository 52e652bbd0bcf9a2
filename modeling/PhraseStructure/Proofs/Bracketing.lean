import PhraseStructure.Proofs.Labels
import PhraseStructure.Tree.Bracket
/-!
# Reading bracketed trees

A bracketed text is read from its end, one character after the other: a closing
bracket opens a list of trees, a space adds the tree behind it to the list, and
an opening bracket puts the label behind it over the list. What has been read is
always what stands behind the reader (`Steps.text_eq`), so that bracketed trees
alone are accepted; and a tree whose labels hold no spaces and brackets is read
whatever stands behind it (`foldrM_step_bracket`).

Main statement: reading inverts writing, so that such a tree is determined by
its bracketed form.
-/
namespace PhraseStructure.Tree

/-! ## Reading -/

/-- A label without spaces and brackets. It may be empty. -/
def Unbracketed (label : String) : Prop := ∀ c ∈ label.toList, c ≠ ')' ∧ c ≠ ' ' ∧ c ≠ '('

instance (label : String) : Decidable (Unbracketed label) := List.decidableBAll _ _

/-- A state of the reader: the tree that begins right behind it, of which a leaf
may still become longer, and the trees behind that in each of the brackets that
enclose it, the innermost first. -/
structure Reading where
  part : Tree
  enclosing : List (List Tree)

namespace Reading

/-- Nothing stands behind the reader. -/
def start : Reading := ⟨leaf "", []⟩

/-- The reader meets a closing bracket. -/
def closing : Reading → Option Reading
  | ⟨node label [], enclosing⟩ => if label = "" then some ⟨leaf "", [] :: enclosing⟩ else none
  | _ => none

/-- The reader meets a space, which only stands in brackets. -/
def space : Reading → Option Reading
  | ⟨part, ts :: enclosing⟩ => some ⟨leaf "", (part :: ts) :: enclosing⟩
  | _ => none

/-- The reader meets an opening bracket. The label behind it has some trees
behind it. -/
def opening : Reading → Option Reading
  | ⟨node label [], (t :: ts) :: enclosing⟩ => some ⟨node label (t :: ts), enclosing⟩
  | _ => none

/-- The reader meets a character of a label. -/
def letter (c : Char) : Reading → Option Reading
  | ⟨node label [], enclosing⟩ => some ⟨leaf (String.singleton c ++ label), enclosing⟩
  | _ => none

/-- The reader meets a character. -/
def step (c : Char) (r : Reading) : Option Reading :=
  if c = ')' then r.closing else if c = ' ' then r.space else if c = '(' then r.opening else r.letter c

/-- The tree that has been read, if no brackets enclose it. -/
def tree? : Reading → Option Tree
  | ⟨part, []⟩ => some part
  | _ => none

end Reading

/-- The tree that a text is the bracketed form of, if there is one. -/
def ofBracket? (s : String) : Option Tree := (s.toList.foldrM Reading.step .start).bind Reading.tree?

/-! ## Steps of the reader -/

namespace Reading

/-- What the reader does at a character. -/
inductive Steps : Char → Reading → Reading → Prop
  | closing {enclosing} : Steps ')' ⟨leaf "", enclosing⟩ ⟨leaf "", [] :: enclosing⟩
  | space {part ts enclosing} : Steps ' ' ⟨part, ts :: enclosing⟩ ⟨leaf "", (part :: ts) :: enclosing⟩
  | opening {label t ts enclosing} :
    Steps '(' ⟨leaf label, (t :: ts) :: enclosing⟩ ⟨node label (t :: ts), enclosing⟩
  | letter {c label enclosing} : c ≠ ')' ∧ c ≠ ' ' ∧ c ≠ '(' →
    Steps c ⟨leaf label, enclosing⟩ ⟨leaf (String.singleton c ++ label), enclosing⟩

variable {r r' : Reading} {c : Char}

theorem closing_eq_some (h : r.closing = some r') : Steps ')' r r' := by
  unfold closing at h
  split at h
  · split at h
    · next hlabel =>
      cases h
      subst hlabel
      exact .closing
    · cases h
  · cases h

theorem space_eq_some (h : r.space = some r') : Steps ' ' r r' := by
  unfold space at h
  split at h
  · cases h
    exact .space
  · cases h

theorem opening_eq_some (h : r.opening = some r') : Steps '(' r r' := by
  unfold opening at h
  split at h
  · cases h
    exact .opening
  · cases h

theorem step_eq_some_iff : step c r = some r' ↔ Steps c r r' := by
  constructor
  · intro h
    unfold step at h
    split at h
    · next hc =>
      subst hc
      exact closing_eq_some h
    split at h
    · next hc =>
      subst hc
      exact space_eq_some h
    split at h
    · next hc =>
      subst hc
      exact opening_eq_some h
    · next hclosing hspace hopening =>
      unfold letter at h
      split at h
      · cases h
        exact .letter ⟨hclosing, hspace, hopening⟩
      · cases h
  · intro h
    cases h with
    | closing => rfl
    | space => rfl
    | opening => rfl
    | letter hc =>
      obtain ⟨hclosing, hspace, hopening⟩ := hc
      rw [step, if_neg hclosing, if_neg hspace, if_neg hopening]
      rfl

/-! ## What has been read -/

/-- The text behind the reader. -/
def text (r : Reading) : List Char :=
  r.part.bracket.toList ++ r.enclosing.flatMap fun ts => (bracketRest ts).toList ++ [')']

/-- The labels that have been read hold no spaces and brackets. -/
def Legible (r : Reading) : Prop := ∀ t ∈ r.part :: r.enclosing.flatten, t.EveryLabel Unbracketed

/-- A character that is read joins the text behind the reader. -/
theorem Steps.text_eq (h : Steps c r r') : r'.text = c :: r.text := by
  cases h <;> simp [text, bracket, bracketRest, leaf]

theorem Steps.legible (h : Steps c r r') (hr : r.Legible) : r'.Legible := by
  have hempty : (leaf "").EveryLabel Unbracketed := by simp [Unbracketed]
  obtain ⟨hpart, henclosing⟩ := List.forall_mem_cons.1 hr
  cases h with
  | closing => exact List.forall_mem_cons.2 ⟨hempty, henclosing⟩
  | space => exact List.forall_mem_cons.2 ⟨hempty, hr⟩
  | opening =>
    obtain ⟨hchildren, henclosing⟩ := List.forall_mem_append.1 henclosing
    exact List.forall_mem_cons.2 ⟨everyLabel_node.2 ⟨everyLabel_leaf.1 hpart, hchildren⟩, henclosing⟩
  | letter hc =>
    have hlabel := everyLabel_leaf.1 hpart
    refine List.forall_mem_cons.2 ⟨everyLabel_leaf.2 ?_, henclosing⟩
    simpa [Unbracketed] using And.intro hc hlabel

/-- Reading on from a state leaves the text that was read in front of the text
behind. -/
theorem foldrM_step_eq_some {cs : List Char} (h : cs.foldrM step r = some r') :
    r'.text = cs ++ r.text ∧ (r.Legible → r'.Legible) := by
  induction cs generalizing r' with
  | nil =>
    cases h
    exact ⟨rfl, id⟩
  | cons c cs ih =>
    rw [List.foldrM_cons] at h
    obtain ⟨s, hs, hstep⟩ := Option.bind_eq_some_iff.1 h
    obtain ⟨htext, hlegible⟩ := ih hs
    have hsteps := step_eq_some_iff.1 hstep
    exact ⟨by rw [hsteps.text_eq, htext, List.cons_append], fun hr => hsteps.legible (hlegible hr)⟩

end Reading

/-! ## What can be read -/

open Reading

theorem foldrM_step_append {xs ys : List Char} {r r' r'' : Reading} (hys : ys.foldrM step r = some r')
    (hxs : xs.foldrM step r' = some r'') : (xs ++ ys).foldrM step r = some r'' := by
  rw [List.foldrM_append, hys]
  exact hxs

theorem foldrM_step_label {label : String} (h : Unbracketed label) (enclosing : List (List Tree)) :
    label.toList.foldrM step ⟨leaf "", enclosing⟩ = some ⟨leaf label, enclosing⟩ := by
  have hletters : ∀ cs : List Char, (∀ c ∈ cs, c ≠ ')' ∧ c ≠ ' ' ∧ c ≠ '(') →
      cs.foldrM step ⟨leaf "", enclosing⟩ = some ⟨leaf (String.ofList cs), enclosing⟩ := by
    intro cs hcs
    induction cs with
    | nil => rfl
    | cons c cs ih =>
      obtain ⟨hc, hcs⟩ := List.forall_mem_cons.1 hcs
      rw [List.foldrM_cons, ih hcs, Option.bind_eq_bind, Option.bind_some, step_eq_some_iff.2 (.letter hc)]
      simp
  simpa using hletters label.toList h

mutual

/-- A tree is read whatever brackets enclose it. -/
theorem foldrM_step_bracket : ∀ {t : Tree} (enclosing : List (List Tree)), t.EveryLabel Unbracketed →
    t.bracket.toList.foldrM step ⟨leaf "", enclosing⟩ = some ⟨t, enclosing⟩
  | node label [], enclosing, h => foldrM_step_label (everyLabel_node.1 h).1 enclosing
  | node label (child :: children), enclosing, h => by
    obtain ⟨hlabel, hchildren⟩ := everyLabel_node.1 h
    have htext : (node label (child :: children)).bracket.toList =
        ['('] ++ (label.toList ++ ((bracketRest (child :: children)).toList ++ [')'])) := by
      simp [bracket, bracketRest]
    have hclosing : [')'].foldrM step ⟨leaf "", enclosing⟩ = some ⟨leaf "", [] :: enclosing⟩ := rfl
    have hopening : ['('].foldrM step ⟨leaf label, (child :: children) :: enclosing⟩ =
        some ⟨node label (child :: children), enclosing⟩ := rfl
    have hbelow := foldrM_step_bracketRest [] enclosing hchildren
    rw [List.append_nil] at hbelow
    rw [htext]
    exact foldrM_step_append (foldrM_step_append (foldrM_step_append hclosing hbelow)
      (foldrM_step_label hlabel _)) hopening

/-- Trees after spaces are read in front of others in the same brackets. -/
theorem foldrM_step_bracketRest : ∀ {ts : List Tree} (us : List Tree) (enclosing : List (List Tree)),
    (∀ t ∈ ts, t.EveryLabel Unbracketed) →
    (bracketRest ts).toList.foldrM step ⟨leaf "", us :: enclosing⟩ = some ⟨leaf "", (ts ++ us) :: enclosing⟩
  | [], us, enclosing, _ => rfl
  | t :: ts, us, enclosing, h => by
    obtain ⟨ht, hts⟩ := List.forall_mem_cons.1 h
    have htext : (bracketRest (t :: ts)).toList = [' '] ++ (t.bracket.toList ++ (bracketRest ts).toList) := by
      simp [bracketRest]
    have hspace : [' '].foldrM step ⟨t, (ts ++ us) :: enclosing⟩ = some ⟨leaf "", (t :: ts ++ us) :: enclosing⟩ := rfl
    rw [htext]
    exact foldrM_step_append (foldrM_step_append (foldrM_step_bracketRest us enclosing hts)
      (foldrM_step_bracket _ ht)) hspace

end

/-- Reading accepts exactly the bracketed trees whose labels hold no spaces and
brackets. -/
theorem ofBracket?_eq_some_iff {s : String} {t : Tree} :
    ofBracket? s = some t ↔ t.EveryLabel Unbracketed ∧ t.bracket = s := by
  constructor
  · intro h
    obtain ⟨⟨part, enclosing⟩, hread, htree⟩ := Option.bind_eq_some_iff.1 h
    cases enclosing with
    | cons ts enclosing => cases htree
    | nil =>
      cases htree
      obtain ⟨htext, hlegible⟩ := foldrM_step_eq_some hread
      have hstart : start.Legible := by simp [Legible, start, Unbracketed]
      refine ⟨hlegible hstart t List.mem_cons_self, String.toList_inj.1 ?_⟩
      simpa [text, start, leaf, bracket] using htext
  · rintro ⟨hlabels, rfl⟩
    rw [ofBracket?, start, foldrM_step_bracket [] hlabels]
    rfl

/-! ## Main theorem -/

/-- Trees whose labels hold no spaces and brackets are equal if their bracketed
forms are: the reader gives such a tree back from its bracketed form, and
accepts nothing else. -/
theorem determined_by_bracket :
    (∀ (s : String) (t : Tree), ofBracket? s = some t ↔ t.EveryLabel Unbracketed ∧ t.bracket = s) ∧
    ∀ t u : Tree, t.EveryLabel Unbracketed → u.EveryLabel Unbracketed → t.bracket = u.bracket → t = u := by
  refine ⟨fun s t => ofBracket?_eq_some_iff, fun t u ht hu h => ?_⟩
  have hread := ofBracket?_eq_some_iff.2 ⟨ht, h⟩
  rw [ofBracket?_eq_some_iff.2 ⟨hu, rfl⟩] at hread
  exact (Option.some.inj hread).symm

/-- The parts of a phrase are told apart from those of the phrase above it. -/
theorem determined_by_bracket_verbPhrase :
    let t := node "VP" [tagged "v" "saw", node "NP" [tagged "det" "a", tagged "n" "dog"]]
    let u := node "VP" [tagged "v" "saw", tagged "det" "a", tagged "n" "dog"]
    t.EveryLabel Unbracketed ∧ u.EveryLabel Unbracketed ∧ t.bracket ≠ u.bracket ∧
    ofBracket? "(VP (v saw) (NP (det a) (n dog)))" = some t := by
  intro t u
  obtain ⟨hread, hinjective⟩ := determined_by_bracket
  have ht : t.EveryLabel Unbracketed := by decide +kernel
  have hu : u.EveryLabel Unbracketed := by decide +kernel
  have hne : t ≠ u := by decide
  exact ⟨ht, hu, fun h => hne (hinjective t u ht hu h), (hread _ t).2 ⟨ht, by rfl⟩⟩

/-- A leaf stands without brackets. -/
example : ofBracket? "(dog)" = none := by rfl

end PhraseStructure.Tree
