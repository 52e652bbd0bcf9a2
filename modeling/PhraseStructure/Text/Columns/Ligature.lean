import PhraseStructure.Text.Columns.Tables
/-!
# Ligatures

Letters that are drawn as one sign. A text is measured from its end, so a
ligature is met at its last letter, and the characters before that letter
complete it or break it. The ligatures are those of release 0.1.14 of
`unicode-width`, their letters those of Unicode 15.1.
-/
namespace PhraseStructure.Text

/-- The joiner U+200D, which asks for its neighbours to be drawn as one sign. -/
def zeroWidthJoiner : Char := '\u200D'

/-! ## Letters -/

/-- Alef and the letters of its shape: `Joining_Group` is `Alef`. -/
def alefRanges : CodePoints :=
  [(0x622, 0x623), (0x625, 0x625), (0x627, 0x627), (0x671, 0x673), (0x675, 0x675), (0x773, 0x774), (0x870, 0x882)]

/-- Lam and the letters of its shape: `Joining_Group` is `Lam`. -/
def lamRanges : CodePoints :=
  [(0x644, 0x644), (0x6B5, 0x6B8), (0x76A, 0x76A), (0x8A6, 0x8A6), (0x8C7, 0x8C7)]

/-- Whether a mark between a lam and an alef leaves them joined. -/
def isArabicMark (c : Char) : Bool := zeroWidthRanges.contains c && !nonJoiningRanges.contains c

/-- Khmer letters that have a subscript form. -/
def khmerSubscriptRanges : CodePoints :=
  [(0x1780, 0x1782), (0x1784, 0x1787), (0x1789, 0x178C), (0x178E, 0x1793), (0x1795, 0x1798), (0x179B, 0x179D),
   (0x17A0, 0x17A0), (0x17A2, 0x17A2), (0x17A7, 0x17A7), (0x17AB, 0x17AC), (0x17AF, 0x17AF)]

/-- Tifinagh consonants. -/
def tifinaghRanges : CodePoints := [(0x2D31, 0x2D65), (0x2D6F, 0x2D6F)]

/-- Lisu tone letters that stand first in a pair. -/
def lisuFirstToneRanges : CodePoints := [(0xA4F8, 0xA4FB)]

/-- Lisu tone letters that stand second in a pair. -/
def lisuSecondToneRanges : CodePoints := [(0xA4FC, 0xA4FD)]

/-- Marks without a column of their own that do not break a ligature: the
ignorable ones. -/
def ligatureMarkRanges : CodePoints :=
  [(0x34F, 0x34F), (0x17B4, 0x17B5), (0x180B, 0x180D), (0x180F, 0x180F), (0xFE00, 0xFE0F), (0xE0100, 0xE01EF)]

/-! ## Open ligatures -/

/-- A ligature of which the text so far holds the end. `joined` says that a
joiner comes before the letter. -/
inductive Ligature where
  /-- An alef, for a lam. -/
  | alef
  /-- The Hebrew letter lamed, for an alef and a joiner. -/
  | lamed (joined : Bool)
  /-- A Khmer letter, for the sign that makes it a subscript. -/
  | khmer
  /-- The Buginese letter ya, for a vowel sign i and a joiner. -/
  | ya (joined : Bool)
  /-- The Buginese vowel sign i with a joined ya, for a letter a. -/
  | vowelYa
  /-- A Tifinagh consonant, for another one and a joiner of either kind. -/
  | tifinagh (joined : Bool)
  /-- A Tifinagh consonant joiner and a consonant, for another consonant. -/
  | tifinaghJoiner
  /-- A second Lisu tone letter, for a first one. -/
  | lisu
  /-- The Old Turkic letter i, for a letter ec and a joiner. -/
  | turkic (joined : Bool)
  deriving DecidableEq

namespace Ligature

/-- The ligature that a letter may be the end of. -/
def ofChar? (c : Char) : Option Ligature :=
  if alefRanges.contains c then some .alef
  else if c.toNat = 0x5DC then some (.lamed false)
  else if khmerSubscriptRanges.contains c then some .khmer
  else if c.toNat = 0x1A10 then some (.ya false)
  else if tifinaghRanges.contains c then some (.tifinagh false)
  else if lisuSecondToneRanges.contains c then some .lisu
  else if c.toNat = 0x10C03 then some (.turkic false)
  else none

/-- The ligature with a joiner put before it. -/
def join : Ligature → Ligature
  | lamed _ => lamed true
  | ya _ => ya true
  | tifinagh _ => tifinagh true
  | turkic _ => turkic true
  | l => l

/-- A letter that goes on with a ligature: the columns that it adds and what is
still open. A part that is drawn within columns counted before adds none; two
signs that turn out to be one take a column back. -/
def letter? (l : Ligature) (c : Char) : Option (Int × Option Ligature) :=
  match l with
  | lamed true => if c.toNat = 0x5D0 then some (0, none) else none
  | khmer => if c.toNat = 0x17D2 then some (-1, none) else none
  | ya true => if c.toNat = 0x1A17 then some (0, some vowelYa) else none
  | vowelYa => if c.toNat = 0x1A15 then some (0, none) else none
  | tifinagh joined =>
    if c.toNat = 0x2D7F then some (1, some tifinaghJoiner)
    else if joined && tifinaghRanges.contains c then some (0, none)
    else none
  | tifinaghJoiner => if tifinaghRanges.contains c then some (-1, none) else none
  | lisu => if lisuFirstToneRanges.contains c then some (0, none) else none
  | turkic true => if c.toNat = 0x10C32 then some (0, none) else none
  | _ => none

/-- A character that goes on with a ligature, as in `letter?`, or none if it
breaks it. Marks may stand between the letters. -/
def cons? (l : Ligature) (c : Char) : Option (Int × Option Ligature) :=
  if l = alef then
    if lamRanges.contains c then some (0, none)
    else if isArabicMark c then some (0, some alef)
    else none
  else if c = zeroWidthJoiner then some (0, some l.join)
  else if ligatureMarkRanges.contains c then some (0, some l)
  else l.letter? c

end Ligature

end PhraseStructure.Text
