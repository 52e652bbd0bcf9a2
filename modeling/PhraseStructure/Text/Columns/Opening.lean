import PhraseStructure.Text.Columns.EmojiTables
import PhraseStructure.Text.Columns.Ligature
/-!
# Characters in context

How many columns a character adds to the text after it. Most add their own;
emoji and ligatures of several characters, and a carriage return before a line
feed, are the exceptions. The rules are those of release 0.1.14 of
`unicode-width`.
-/
namespace PhraseStructure.Text

/-! ## Single characters -/

/-- The columns of a character on its own: none for a line feed and for marks
that join their neighbour, two for the wide letters of East Asian scripts (three
for one Khmer sign), and one for all others. -/
def charColumns (c : Char) : Nat :=
  if c = '\n' then 0
  else if c.toNat ≤ 0xA0 then 1
  else if c.toNat = 0x17D8 then 3
  else if zeroWidthRanges.contains c then 0
  else if doubleWidthRanges.contains c then 2
  else 1

/-- Regional indicators, which make a flag in pairs. -/
def isRegionalIndicator (c : Char) : Bool := 0x1F1E6 ≤ c.toNat && c.toNat ≤ 0x1F1FF

/-- Skin tones, which change the emoji before them. -/
def isSkinTone (c : Char) : Bool := 0x1F3FB ≤ c.toNat && c.toNat ≤ 0x1F3FF

/-- Tags for the letters `a` to `z`. -/
def isTagLetter (c : Char) : Bool := 0xE0061 ≤ c.toNat && c.toNat ≤ 0xE007A

/-- Tags for the digits. -/
def isTagDigit (c : Char) : Bool := 0xE0030 ≤ c.toNat && c.toNat ≤ 0xE0039

/-- Whether the selector for text style makes an emoji narrow. The wide letters
among the emoji stay wide. -/
def narrowsAsText (c : Char) : Bool :=
  styledRanges.contains c && emojiRanges.contains c && !(0x1F200 ≤ c.toNat && c.toNat ≤ 0x1F2FF)

/-! ## Openings -/

/-- What stands before an emoji at the start of a text and ends with a joiner.
If it turns out to be an emoji itself, it is one sign with the emoji after
it. -/
inductive JoinedEmoji where
  /-- A joiner. -/
  | joiner
  /-- A keycap and a joiner. -/
  | keycap
  /-- One regional indicator and a joiner, which is half a flag. -/
  | halfFlag
  /-- An even number of regional indicators and a joiner. -/
  | flags
  /-- Three regional indicators or a greater odd number, and a joiner. -/
  | flagsAndHalf
  /-- The last letters of the tag of a flag, the end of the tag, and a
  joiner. -/
  | tagLetters (count : Nat)
  /-- Digits of the tag of a flag, the rest of the tag, and a joiner. -/
  | tagDigits (count : Nat)
  deriving DecidableEq

/-- The start of a text, as far as it matters to the character before it. -/
inductive Opening where
  | other
  | lineFeed
  | ligature (l : Ligature)
  /-- An emoji, of one character or more. -/
  | emoji
  | skinTone
  /-- One regional indicator. -/
  | regionalIndicator
  /-- Regional indicators, at least two. -/
  | flag
  | joined (j : JoinedEmoji)
  deriving DecidableEq

namespace Opening

/-- The opening that a character makes on its own. -/
def ofChar (c : Char) : Opening :=
  if c = '\n' then lineFeed
  else if c.toNat ≤ 0xA0 then other
  else if isRegionalIndicator c then regionalIndicator
  else if isSkinTone c then skinTone
  else if emojiRanges.contains c then emoji
  else match Ligature.ofChar? c with
    | some l => ligature l
    | none => other

/-- A character before a joined emoji: the columns that it adds and the opening
that it makes, if it goes on with the joining. An emoji adds none, since it
shares those of the emoji after it. -/
def consJoined? (j : JoinedEmoji) (c : Char) : Option (Int × Opening) :=
  match j with
  | .joiner =>
    if c = '\u20E3' then some (0, joined .keycap)
    else if isRegionalIndicator c then some (1, joined .halfFlag)
    else if isSkinTone c then some (0, skinTone)
    else if c.toNat = 0xE007F then some (0, joined (.tagLetters 0))
    else if emojiRanges.contains c then some (0, emoji)
    else none
  | .keycap => none
  | .halfFlag => if isRegionalIndicator c then some (-1, joined .flags) else none
  | .flags =>
    if isRegionalIndicator c then some (3, joined .flagsAndHalf)
    else if c = zeroWidthJoiner then some (0, joined .joiner)
    else none
  | .flagsAndHalf =>
    if isRegionalIndicator c then some (-1, joined .flags)
    else if c = zeroWidthJoiner then some (0, joined .joiner)
    else none
  | .tagLetters n =>
    if isTagLetter c && n < 6 then some (0, joined (.tagLetters (n + 1)))
    else if isTagDigit c && n ≤ 4 then some (0, joined (.tagDigits 1))
    else if c.toNat = 0x1F3F4 && n ≥ 3 then some (0, emoji)
    else none
  | .tagDigits n =>
    if isTagDigit c && n < 3 then some (0, joined (.tagDigits (n + 1)))
    else if c.toNat = 0x1F3F4 && n = 3 then some (0, emoji)
    else none

/-- A character before an opening that the opening changes: the columns that it
adds and the opening that it makes. -/
def cons? (o : Opening) (c : Char) : Option (Int × Opening) :=
  match o with
  | other => none
  | lineFeed => if c = '\r' then some (0, other) else none
  | ligature l => (l.cons? c).map fun (added, rest) => (added, rest.elim other ligature)
  | emoji => if c = zeroWidthJoiner then some (0, joined .joiner) else none
  | skinTone =>
    if skinToneBaseRanges.contains c then some (0, emoji)
    else if c = zeroWidthJoiner then some (0, joined .joiner)
    else none
  | regionalIndicator => if isRegionalIndicator c then some (1, flag) else none
  | flag =>
    if isRegionalIndicator c then some (1, flag)
    else if c = zeroWidthJoiner then some (0, joined .joiner)
    else none
  | joined j => consJoined? j c

/-- A character before an opening: the columns that it adds and the opening that
it makes. -/
def cons (o : Opening) (c : Char) : Int × Opening := (o.cons? c).getD (charColumns c, ofChar c)

end Opening

/-! ## Variation selectors -/

/-- The style that a variation selector asks for. -/
inductive Style where
  | text
  | emoji
  deriving DecidableEq

/-- The style that a character asks for, if it is a variation selector. -/
def Style.ofChar? (c : Char) : Option Style :=
  if c = '\uFE0E' then some .text else if c = '\uFE0F' then some .emoji else none

/-- The start of a text: maybe a variation selector, and the opening of what is
after it. -/
structure Start where
  style : Option Style
  opening : Opening
  deriving DecidableEq

namespace Start

/-- The start of the empty text. -/
def empty : Start := ⟨none, .other⟩

/-- The opening before which a character stands if the selector does not change
it. A ligature reaches across the selector, an emoji does not. -/
def unstyled (s : Start) : Opening :=
  match s.style, s.opening with
  | none, o => o
  | some _, .ligature l => .ligature l
  | some _, _ => .other

/-- A variation selector before an opening. After an emoji in emoji style, the
joiner still counts. -/
def select (style : Style) (o : Opening) : Start :=
  match style, o with
  | style, .ligature l => ⟨some style, .ligature l⟩
  | .emoji, .joined .joiner => ⟨some .emoji, .joined .joiner⟩
  | .emoji, .joined .keycap => ⟨some .emoji, .joined .keycap⟩
  | style, _ => ⟨some style, .other⟩

/-- A character before a text that starts so: the columns that it adds and how
the text then starts. -/
def cons (s : Start) (c : Char) : Int × Start :=
  if s.style = some .emoji && styledRanges.contains c then
    (match s.opening with
     | .joined _ => 0
     | _ => 2, ⟨none, .emoji⟩)
  else if s.style = some .text && narrowsAsText c then (1, ⟨none, .other⟩)
  else match Style.ofChar? c with
    | some style => (0, select style s.unstyled)
    | none =>
      let (added, opening) := s.unstyled.cons c
      (added, ⟨none, opening⟩)

end Start

end PhraseStructure.Text
