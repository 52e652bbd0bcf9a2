import Mathlib.Data.List.Basic
import PhraseStructure.Proofs.Graph
/-!
# Reading graph descriptions

A label between quotes ends at its closing quote, since the quotes in it have
backslashes before them and backslashes themselves are doubled
(`cutAtQuote_escapeLabel`), and it is read back by dropping those backslashes
(`unescape_escapeLabel`). Hence the text of a statement gives the statement
back, whatever is written behind it (`text_append_inj`), and the statements give
the tree back: a subtree ends where no edge leads on from its nodes
(`statements_append_inj`).

Main statement: a tree is determined by its graph description.
-/
namespace PhraseStructure.Tree

/-! ## Quoted labels -/

/-- The text with another one in place of every occurrence of a character. -/
def replaced (c : Char) (replacement : List Char) (cs : List Char) : List Char :=
  cs.flatMap fun d => if d = c then replacement else [d]

/-- The text up to the first quote that has no escaping backslash before it, and
the text behind that quote. A backslash escapes the character behind it. -/
def cutAtQuote : List Char → Option (List Char × List Char)
  | [] => none
  | '"' :: cs => some ([], cs)
  | '\\' :: c :: cs => (cutAtQuote cs).map fun (before, after) => ('\\' :: c :: before, after)
  | c :: cs => (cutAtQuote cs).map fun (before, after) => (c :: before, after)

/-- The text without its escaping backslashes. -/
def unescape : List Char → List Char
  | [] => []
  | '\\' :: c :: cs => c :: unescape cs
  | c :: cs => c :: unescape cs

theorem toList_escapeLabel (label : String) :
    (escapeLabel label).toList = label.toList.flatMap fun c => (labelChar c).toList := by
  simp [escapeLabel, List.flatMap_def, Function.comp_def]

theorem toList_labelChar {c : Char} (hslash : c ≠ '\\') (hquote : c ≠ '"') : (labelChar c).toList = [c] := by
  rw [labelChar, if_neg hslash, if_neg hquote, String.toList_singleton]

/-- Backslashes are doubled first, and then quotes get their backslashes. -/
theorem toList_escapeLabel_eq_replaced (label : String) :
    (escapeLabel label).toList = replaced '"' ['\\', '"'] (replaced '\\' ['\\', '\\'] label.toList) := by
  rw [toList_escapeLabel, replaced, replaced, List.flatMap_assoc]
  refine List.flatMap_congr fun c _ => ?_
  by_cases hslash : c = '\\'
  · subst hslash
    rfl
  by_cases hquote : c = '"'
  · subst hquote
    rfl
  simp [toList_labelChar, hslash, hquote]

theorem cutAtQuote_cons {c : Char} (hslash : c ≠ '\\') (hquote : c ≠ '"') (cs : List Char) :
    cutAtQuote (c :: cs) = (cutAtQuote cs).map fun (before, after) => (c :: before, after) := by
  rw [cutAtQuote]
  · exact hquote
  · rintro d ds rfl
    exact absurd rfl hslash

theorem unescape_cons {c : Char} (hslash : c ≠ '\\') (cs : List Char) : unescape (c :: cs) = c :: unescape cs := by
  rw [unescape]
  rintro d ds rfl
  exact absurd rfl hslash

/-- The quote that is written behind a label is the first one without an
escaping backslash. -/
theorem cutAtQuote_escapeLabel (label : String) (rest : List Char) :
    cutAtQuote ((escapeLabel label).toList ++ '"' :: rest) = some ((escapeLabel label).toList, rest) := by
  rw [toList_escapeLabel]
  induction label.toList with
  | nil => rfl
  | cons c cs ih =>
    rw [List.flatMap_cons, List.append_assoc]
    by_cases hslash : c = '\\'
    · subst hslash
      exact congrArg (Option.map _) ih
    by_cases hquote : c = '"'
    · subst hquote
      exact congrArg (Option.map _) ih
    rw [toList_labelChar hslash hquote, List.singleton_append, cutAtQuote_cons hslash hquote, ih]
    rfl

theorem unescape_escapeLabel (label : String) : unescape (escapeLabel label).toList = label.toList := by
  rw [toList_escapeLabel]
  induction label.toList with
  | nil => rfl
  | cons c cs ih =>
    rw [List.flatMap_cons]
    by_cases hslash : c = '\\'
    · subst hslash
      exact congrArg ('\\' :: ·) ih
    by_cases hquote : c = '"'
    · subst hquote
      exact congrArg ('"' :: ·) ih
    rw [toList_labelChar hslash hquote, List.singleton_append, unescape_cons hslash, ih]

/-! ## Statements -/

section
variable {rest rest' : List Char}

/-- A quoted label is told apart from what stands behind it. -/
theorem escapeLabel_append_inj {label label' : String}
    (h : (escapeLabel label).toList ++ '"' :: rest = (escapeLabel label').toList ++ '"' :: rest') :
    label = label' ∧ rest = rest' := by
  have hcut := congrArg cutAtQuote h
  rw [cutAtQuote_escapeLabel, cutAtQuote_escapeLabel, Option.some.injEq, Prod.mk.injEq] at hcut
  obtain ⟨hescaped, hrest⟩ := hcut
  have hlabel := congrArg unescape hescaped
  rw [unescape_escapeLabel, unescape_escapeLabel] at hlabel
  exact ⟨String.toList_inj.1 hlabel, hrest⟩

/-- A number is told apart from what stands behind it, if that does not go on
with a digit. -/
theorem toDigits_append_inj {n n' : Nat} {c c' : Char} (hc : c.isDigit = false) (hc' : c'.isDigit = false)
    (h : Nat.toDigits 10 n ++ c :: rest = Nat.toDigits 10 n' ++ c' :: rest') : n = n' ∧ c :: rest = c' :: rest' := by
  have hnumber : ∀ (n : Nat) (c : Char) (rest : List Char), c.isDigit = false →
      (Nat.toDigits 10 n ++ c :: rest).takeWhile Char.isDigit = Nat.toDigits 10 n := by
    intro n c rest hc
    rw [List.takeWhile_append_of_pos fun d hd => Nat.isDigit_of_mem_toDigits (by decide) (by decide) hd,
      List.takeWhile_cons_of_neg (by simp [hc]), List.append_nil]
  have hdigits := congrArg (List.takeWhile Char.isDigit) h
  rw [hnumber n c rest hc, hnumber n' c' rest' hc'] at hdigits
  have hn := congrArg (Nat.ofDigitChars 10 · 0) hdigits
  simp only [Nat.ofDigitChars_ten_toDigits] at hn
  subst hn
  exact ⟨rfl, List.append_cancel_left h⟩

theorem hex_injective {colour colour' : Colour} (h : colour.hex = colour'.hex) : colour = colour' := by
  cases colour <;> cases colour' <;> simp_all [Colour.hex]

theorem length_hex (colour : Colour) : colour.hex.toList.length = 7 := by
  cases colour <;> simp [Colour.hex]

theorem hex_append_inj {colour colour' : Colour}
    (h : colour.hex.toList ++ rest = colour'.hex.toList ++ rest') : colour = colour' ∧ rest = rest' := by
  obtain ⟨hhex, hrest⟩ := List.append_inj h ((length_hex colour).trans (length_hex colour').symm)
  exact ⟨hex_injective (String.toList_inj.1 hhex), hrest⟩

/-- Which of two texts was chosen is seen from its first character. -/
theorem choice_append_inj {yes no : String} {c d : Char} {cs ds : List Char} (hyes : yes.toList = c :: cs)
    (hno : no.toList = d :: ds) (hne : c ≠ d) {b b' : Bool}
    (h : (if b then yes else no).toList ++ rest = (if b' then yes else no).toList ++ rest') : b = b' ∧ rest = rest' := by
  cases b <;> cases b' <;> simp_all [hne.symm]

namespace Statement

theorem toList_text_node (id : Nat) (label : String) (isBox : Bool) (colour : Colour) :
    (node id label isBox colour).text.toList =
      Nat.toDigits 10 id ++ ' ' :: '[' :: ("label=\"".toList ++ ((escapeLabel label).toList ++ '"' ::
        (" shape=\"".toList ++ ((if isBox then "box" else "none").toList ++ ("\" color=\"".toList ++
          (colour.hex.toList ++ ("\" fontcolor=\"".toList ++ (colour.hex.toList ++ "\"]".toList)))))))) := by
  simp [text, quotedAttribute]

theorem toList_text_edge (source target : Nat) (colour : Colour) (isBold : Bool) :
    (edge source target colour isBold).text.toList =
      Nat.toDigits 10 source ++ ' ' :: '-' :: ("> ".toList ++ (Nat.toDigits 10 target ++ ' ' :: ("[color=\"".toList ++
        (colour.hex.toList ++ ("\" arrowhead=\"none\"".toList ++
          (if isBold then " style=\"bold\"]" else "]").toList))))) := by
  cases isBold <;> simp [text, quotedAttribute]

/-- A statement is told apart from what stands behind it. -/
theorem text_append_inj {s s' : Statement} (h : s.text.toList ++ rest = s'.text.toList ++ rest') :
    s = s' ∧ rest = rest' := by
  cases s with
  | node id label isBox colour =>
    cases s' with
    | node id' label' isBox' colour' =>
      simp only [toList_text_node, List.append_assoc, List.cons_append] at h
      obtain ⟨rfl, hattributes⟩ := toDigits_append_inj (by decide) (by decide) h
      simp only [List.cons.injEq, true_and, List.append_cancel_left_eq] at hattributes
      obtain ⟨rfl, hshape⟩ := escapeLabel_append_inj hattributes
      obtain ⟨rfl, hcolour⟩ := choice_append_inj (by rfl) (by rfl) (by decide) (List.append_cancel_left hshape)
      obtain ⟨rfl, hfontcolour⟩ := hex_append_inj (List.append_cancel_left hcolour)
      simp only [List.append_cancel_left_eq] at hfontcolour
      exact ⟨rfl, hfontcolour⟩
    | edge source target colour' isBold =>
      simp only [toList_text_node, toList_text_edge, List.append_assoc, List.cons_append] at h
      obtain ⟨-, hkind⟩ := toDigits_append_inj (by decide) (by decide) h
      simp at hkind
  | edge source target colour isBold =>
    cases s' with
    | node id label isBox colour' =>
      simp only [toList_text_node, toList_text_edge, List.append_assoc, List.cons_append] at h
      obtain ⟨-, hkind⟩ := toDigits_append_inj (by decide) (by decide) h
      simp at hkind
    | edge source' target' colour' isBold' =>
      simp only [toList_text_edge, List.append_assoc, List.cons_append] at h
      obtain ⟨rfl, htarget⟩ := toDigits_append_inj (by decide) (by decide) h
      simp only [List.cons.injEq, true_and, List.append_cancel_left_eq] at htarget
      obtain ⟨rfl, hattributes⟩ := toDigits_append_inj (by decide) (by decide) htarget
      simp only [List.cons.injEq, true_and, List.append_cancel_left_eq] at hattributes
      obtain ⟨rfl, hstyle⟩ := hex_append_inj hattributes
      obtain ⟨rfl, hrest⟩ := choice_append_inj (by rfl) (by rfl) (by decide) (List.append_cancel_left hstyle)
      exact ⟨rfl, hrest⟩

/-- A statement begins with a digit. -/
theorem exists_text_eq_cons (s : Statement) : ∃ c cs, s.text.toList = c :: cs ∧ c.isDigit = true := by
  have hnumber : ∀ (n : Nat) (cs : List Char), ∃ c cs', Nat.toDigits 10 n ++ cs = c :: cs' ∧ c.isDigit = true := by
    intro n cs
    cases hn : Nat.toDigits 10 n with
    | nil => exact absurd hn Nat.toDigits_ne_nil
    | cons c ds =>
      exact ⟨c, ds ++ cs, rfl, Nat.isDigit_of_mem_toDigits (by decide) (by decide) (hn ▸ List.mem_cons_self)⟩
  cases s with
  | node id label isBox colour =>
    rw [toList_text_node]
    exact hnumber id _
  | edge source target colour isBold =>
    rw [toList_text_edge]
    exact hnumber source _

end Statement

/-- Statements on a line each, and the closing brace. -/
def linesText : List Statement → List Char
  | [] => ['\x7d', '\n']
  | s :: ss => s.text.toList ++ '\n' :: linesText ss

theorem linesText_nil_ne_cons (s : Statement) (ss : List Statement) : linesText [] ≠ linesText (s :: ss) := by
  intro h
  obtain ⟨c, cs, hs, hc⟩ := s.exists_text_eq_cons
  rw [linesText, linesText, hs, List.cons_append, List.cons.injEq] at h
  obtain ⟨rfl, -⟩ := h
  cases hc

theorem linesText_inj {ss ss' : List Statement} (h : linesText ss = linesText ss') : ss = ss' := by
  induction ss generalizing ss' with
  | nil =>
    cases ss' with
    | nil => rfl
    | cons s' ss' => exact absurd h (linesText_nil_ne_cons s' ss')
  | cons s ss ih =>
    cases ss' with
    | nil => exact absurd h.symm (linesText_nil_ne_cons s ss)
    | cons s' ss' =>
      obtain ⟨rfl, hrest⟩ := Statement.text_append_inj h
      rw [ih (List.cons.inj hrest).2]

theorem linesText_eq_intercalate {ss : List Statement} (hne : ss ≠ []) :
    linesText ss = ['\n'].intercalate (ss.map fun s => s.text.toList) ++ '\n' :: linesText [] := by
  match ss with
  | [] => exact absurd rfl hne
  | [s] => simp [linesText]
  | s :: s' :: ss =>
    have htail := linesText_eq_intercalate (List.cons_ne_nil s' ss)
    change s.text.toList ++ '\n' :: linesText (s' :: ss) = _
    rw [htail]
    simp [List.intercalate_cons_cons]

end

/-! ## Trees -/

/-- The statements do not go on with an edge from a node numbered from `n`
on. -/
def NoEdgeFrom (n : Nat) (ss : List Statement) : Prop :=
  ∀ source target colour isBold, ss.head? = some (.edge source target colour isBold) → source < n

theorem statementsBelow_cons (colour : Colour) (parent id : Nat) (t : Tree) (ts : List Tree) (rest : List Statement) :
    (statementsBelow colour parent id (t :: ts)).1 ++ rest = .edge parent id colour (!t.isLeaf) ::
      ((statements colour id t).1 ++ ((statementsBelow colour parent (statements colour id t).2 ts).1 ++ rest)) := by
  rw [statementsBelow, List.cons_append, List.append_assoc]

/-- Behind a child come the edges from its parent, and then what stands behind
the parent. -/
theorem noEdgeFrom_below {parent n : Nat} {rest : List Statement} (hlt : parent < n) (hr : NoEdgeFrom parent rest)
    (colour : Colour) (id : Nat) (ts : List Tree) :
    NoEdgeFrom n ((statementsBelow colour parent id ts).1 ++ rest) := by
  intro source target colour' isBold h
  cases ts with
  | nil => exact Nat.lt_trans (hr source target colour' isBold h) hlt
  | cons t ts =>
    cases h
    exact hlt

mutual

/-- A tree is told apart from the statements that stand behind it, if these do
not begin with an edge from one of its nodes. -/
theorem statements_append_inj : ∀ {t u : Tree} {inherited inherited' : Colour} {id : Nat}
    {rest rest' : List Statement}, NoEdgeFrom id rest → NoEdgeFrom id rest' →
    (statements inherited id t).1 ++ rest = (statements inherited' id u).1 ++ rest' → t = u ∧ rest = rest'
  | node label [], node label' [], inherited, inherited', id, rest, rest', _, _, h => by
    obtain ⟨hroot, hrest⟩ := List.cons.inj h
    cases hroot
    exact ⟨rfl, hrest⟩
  | node label (t :: ts), node label' [], inherited, inherited', id, rest, rest', _, _, h => by
    cases (List.cons.inj h).1
  | node label [], node label' (u :: us), inherited, inherited', id, rest, rest', _, _, h => by
    cases (List.cons.inj h).1
  | node label (t :: ts), node label' (u :: us), inherited, inherited', id, rest, rest', hr, hr', h => by
    rw [statements, statements, List.cons_append, List.cons_append] at h
    obtain ⟨hroot, hbelow⟩ := List.cons.inj h
    cases hroot
    obtain ⟨hchildren, hrest⟩ := statementsBelow_append_inj (Nat.lt_succ_self id) hr hr' hbelow
    exact ⟨congrArg (node label) hchildren, hrest⟩

theorem statementsBelow_append_inj : ∀ {ts us : List Tree} {colour : Colour} {parent id : Nat}
    {rest rest' : List Statement}, parent < id → NoEdgeFrom parent rest → NoEdgeFrom parent rest' →
    (statementsBelow colour parent id ts).1 ++ rest = (statementsBelow colour parent id us).1 ++ rest' →
    ts = us ∧ rest = rest'
  | [], [], colour, parent, id, rest, rest', _, _, _, h => ⟨rfl, h⟩
  | [], u :: us, colour, parent, id, rest, rest', _, hr, _, h =>
    absurd (hr parent id colour (!u.isLeaf) (congrArg List.head? h)) (Nat.lt_irrefl parent)
  | t :: ts, [], colour, parent, id, rest, rest', _, _, hr', h =>
    absurd (hr' parent id colour (!t.isLeaf) (congrArg List.head? h.symm)) (Nat.lt_irrefl parent)
  | t :: ts, u :: us, colour, parent, id, rest, rest', hlt, hr, hr', h => by
    rw [statementsBelow_cons, statementsBelow_cons] at h
    obtain ⟨rfl, hbelow⟩ := statements_append_inj (noEdgeFrom_below hlt hr _ _ _) (noEdgeFrom_below hlt hr' _ _ _)
      (List.cons.inj h).2
    have hnext : parent < (statements colour id t).2 := by
      rw [statements_eq]
      exact Nat.lt_of_lt_of_le hlt (Nat.le_add_right _ _)
    obtain ⟨rfl, hrest⟩ := statementsBelow_append_inj hnext hr hr' hbelow
    exact ⟨rfl, hrest⟩

end

theorem graph_injective {t u : Tree} (h : t.graph = u.graph) : t = u := by
  have hnone : NoEdgeFrom 0 [] := fun _ _ _ _ h => by cases h
  exact (statements_append_inj hnone hnone (congrArg (· ++ []) h)).1

theorem toList_dot (t : Tree) : t.dot.toList = "digraph \x7b\n".toList ++ linesText t.graph := by
  have hne : t.graph ≠ [] := by
    rw [graph_eq_flatMap]
    obtain ⟨label, children⟩ := t
    simp [paths, statementsAt]
  rw [linesText_eq_intercalate hne]
  simp [dot, linesText, Function.comp_def]

theorem dot_injective {t u : Tree} (h : t.dot = u.dot) : t = u := by
  have htext := congrArg String.toList h
  rw [toList_dot, toList_dot] at htext
  exact graph_injective (linesText_inj (List.append_cancel_left htext))

/-! ## Main theorem -/

/-- A label is written by doubling its backslashes and then putting a backslash
before each of its quotes. The quote written behind it is the first one without
an escaping backslash, whatever follows, and dropping the escaping backslashes
gives the label back. Trees are equal if their graph descriptions are. -/
theorem determined_by_dot :
    (∀ label : String,
      (escapeLabel label).toList = replaced '"' ['\\', '"'] (replaced '\\' ['\\', '\\'] label.toList) ∧
      (∀ rest, cutAtQuote ((escapeLabel label).toList ++ '"' :: rest) = some ((escapeLabel label).toList, rest)) ∧
      unescape (escapeLabel label).toList = label.toList) ∧
    ∀ t u : Tree, t.dot = u.dot → t = u :=
  ⟨fun label => ⟨toList_escapeLabel_eq_replaced label, cutAtQuote_escapeLabel label, unescape_escapeLabel label⟩,
    fun _ _ => dot_injective⟩

/-- A label that goes on as the description of a child is told apart from a
label above that child. -/
theorem determined_by_dot_forgedChild :
    let t := leaf "S\" shape=\"none\" color=\"#000000\" fontcolor=\"#000000\"]\n0 -> 1 [color=\"#000000\\"
    let u := node "S" [leaf ""]
    t.dot ≠ u.dot ∧ unescape (escapeLabel t.label).toList = t.label.toList := by
  intro t u
  obtain ⟨hlabels, hinjective⟩ := determined_by_dot
  have hne : t ≠ u := by decide
  exact ⟨fun h => hne (hinjective t u h), (hlabels t.label).2.2⟩

end PhraseStructure.Tree
