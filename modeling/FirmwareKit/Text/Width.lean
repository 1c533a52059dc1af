import FirmwareKit.Text.WidthTable

/-! How many columns a text takes on a terminal. The text is read from its end,
since what follows a character can change its width: a selector makes it an emoji
or a text sign, a joiner merges it into an emoji sequence, and some scripts write
two letters as one. Apart from that a character takes its own columns: none if
it extends the one before it, two if it is wide, otherwise one, control
characters included. -/

namespace FirmwareKit.Text

open WidthTable

/-- A character, or the start of a sequence, that can change the width of what stands before it. -/
inductive Follower where
  | other | lineFeed
  | alef | lamed | khmerLetter | bugineseYa | bugineseVowel | tifinaghLetter | tifinaghJoiner
  | lisuTone | turkicLetter | kiratE | kiratAi
  | skinTone | flagLetter | flagLetters | emoji
  /-- An emoji with a joiner before it. -/
  | joinedEmoji
  | joinedKeycap
  /-- Letters of a flag before a joiner, which are taken in pairs. -/
  | joinedFlagLetter | joinedFlagPair | joinedFlagOdd
  /-- The end of a flag that is spelled in tags, before a joiner. -/
  | tagLetters (count : Nat)
  | tagDigits (count : Nat)
  deriving DecidableEq, Repr

namespace Follower

/-- A part of two letters that are written as one. -/
def isLigature : Follower → Bool
  | alef | lamed | khmerLetter | bugineseYa | bugineseVowel | tifinaghLetter | tifinaghJoiner
  | lisuTone | turkicLetter => true
  | _ => false

/-- A ligature in which joiners and ignorable marks may stand between the letters. -/
def ignoresMarks (f : Follower) : Bool :=
  f.isLigature && f != .alef

/-- What follows is an emoji that a joiner merges with the one before it. -/
def isJoined : Follower → Bool
  | joinedEmoji | joinedKeycap => true
  | _ => false

end Follower

/-- What a variation selector asks for. -/
inductive Presentation where
  | emoji | text | fullWidth
  deriving DecidableEq, Repr

/-- What stands to the right of a character: a follower, perhaps with a joiner or a selector
between the two. -/
structure Ahead where
  follower : Follower
  joined : Bool
  selector : Option Presentation
  deriving DecidableEq, Repr

namespace Ahead

/-- Nothing of influence follows. -/
def nothing : Ahead := ⟨.other, false, none⟩

def ofFollower (f : Follower) : Ahead := ⟨f, false, none⟩

/-- A selector that the character before it does not take leaves ligatures whole and ends all
other sequences. -/
def unselected (a : Ahead) : Ahead :=
  match a.selector with
  | none => a
  | some _ => if a.follower.isLigature then { a with selector := none } else .nothing

/-- A selector is put before what follows. -/
def select (a : Ahead) (p : Presentation) : Ahead :=
  let a := a.unselected
  if a.follower.isLigature || (p = .emoji && a.follower.isJoined) then
    { a with selector := some p }
  else ⟨.other, false, some p⟩

end Ahead

def isTifinaghLetter (n : Nat) : Bool :=
  (0x2D31 ≤ n && n ≤ 0x2D65) || n == 0x2D6F

def isFlagLetter (n : Nat) : Bool :=
  0x1F1E6 ≤ n && n ≤ 0x1F1FF

def isSkinTone (n : Nat) : Bool :=
  0x1F3FB ≤ n && n ≤ 0x1F3FF

/-- A letter that the sign of a subscript goes before. -/
def isKhmerLetter (n : Nat) : Bool :=
  [(0x1780, 0x1782), (0x1784, 0x1787), (0x1789, 0x178C), (0x178E, 0x1793), (0x1795, 0x1798),
    (0x179B, 0x179D), (0x17A0, 0x17A0), (0x17A2, 0x17A2), (0x17A7, 0x17A7), (0x17AB, 0x17AC),
    (0x17AF, 0x17AF)].any fun (first, last) => first ≤ n && n ≤ last

def isAlef (n : Nat) : Bool :=
  [0x622, 0x623, 0x625, 0x627, 0x671, 0x672, 0x673, 0x675, 0x773, 0x774].contains n

def isLam (n : Nat) : Bool :=
  [0x644, 0x6B5, 0x6B6, 0x6B7, 0x6B8, 0x76A, 0x8A6, 0x8C7].contains n

/-- Joiners and selectors, which a ligature ignores. -/
def isLigatureTransparent (n : Nat) : Bool :=
  n == 0x34F || n == 0x17B4 || n == 0x17B5 || (0x180B ≤ n && n ≤ 0x180D) || n == 0x180F ||
    n == 0x200D || (0xFE00 ≤ n && n ≤ 0xFE0F) || (0xE0100 ≤ n && n ≤ 0xE01EF)

/-- The selector of variants that the character is. -/
def presentationOf (n : Nat) : Option Presentation :=
  if n = 0xFE0F then some .emoji
  else if n = 0xFE0E then some .text
  else if n = 0xFE01 then some .fullWidth
  else none

def isQuotationMark (n : Nat) : Bool :=
  n == 0x2018 || n == 0x2019 || n == 0x201C || n == 0x201D

/-- The character is shown as an emoji before the selector for that. -/
def takesEmojiSelector (c : Char) : Bool :=
  holds emojiSelectable c || holds textSelectable c

/-- A mark without columns that stays out of the way of two letters written as one. -/
def isTransparent (c : Char) : Bool :=
  holds zeroWidth c && !holds joiningBreak c

/-- What the character is to those before it. -/
def followerOf (c : Char) : Follower :=
  let n := c.toNat
  if n ≤ 0xA0 then if c = '\n' then .lineFeed else .other
  else if isAlef n then .alef
  else if n = 0x05DC then .lamed
  else if isKhmerLetter n then .khmerLetter
  else if n = 0x1A10 then .bugineseYa
  else if isTifinaghLetter n then .tifinaghLetter
  else if n = 0xA4FC || n = 0xA4FD then .lisuTone
  else if n = 0x10C03 then .turkicLetter
  else if n = 0x16D67 then .kiratE
  else if n = 0x16D68 then .kiratAi
  else if isFlagLetter n then .flagLetter
  else if isSkinTone n then .skinTone
  else if holds emojiPresentation c then .emoji
  else .other

/-- The columns of a character by itself. -/
def columns (c : Char) : Int :=
  let n := c.toNat
  if n ≤ 0xA0 then 1
  else if n = 0x17D8 then 3
  else if holds zeroWidth c then 0
  else if holds wide c then 2
  else 1

/-- The columns that a character adds to the sequence which it forms with what follows, and what
the longer sequence is to the character before it; nothing if it stands by itself. -/
def merged? (c : Char) (a : Ahead) : Option (Int × Follower) :=
  let n := c.toNat
  match a.follower with
  | .alef => if isLam n then some (0, .other) else if isTransparent c then some (0, .alef) else none
  | .lamed => if a.joined && n = 0x05D0 then some (0, .other) else none
  | .khmerLetter => if n = 0x17D2 then some (-1, .other) else none
  | .bugineseYa => if a.joined && n = 0x1A17 then some (0, .bugineseVowel) else none
  | .bugineseVowel => if n = 0x1A15 then some (0, .other) else none
  | .tifinaghLetter =>
    if n = 0x2D7F then some (1, .tifinaghJoiner)
    else if a.joined && isTifinaghLetter n then some (0, .other)
    else none
  | .tifinaghJoiner => if isTifinaghLetter n then some (-1, .other) else none
  | .lisuTone => if 0xA4F8 ≤ n && n ≤ 0xA4FB then some (0, .other) else none
  | .turkicLetter => if a.joined && n = 0x10C32 then some (0, .other) else none
  | .kiratE =>
    if n = 0x16D63 || n = 0x16D69 then some (0, .other)
    else if n = 0x16D67 then some (0, .kiratAi)
    else if n = 0x16D68 then some (1, .kiratE)
    else none
  | .kiratAi => if n = 0x16D63 then some (0, .other) else none
  | .skinTone =>
    if n = 0x200D then some (0, .joinedEmoji)
    else if holds modifierBase c then some (0, .emoji)
    else none
  | .flagLetter => if isFlagLetter n then some (1, .flagLetters) else none
  | .flagLetters =>
    if n = 0x200D then some (0, .joinedEmoji)
    else if isFlagLetter n then some (1, .flagLetters)
    else none
  | .emoji => if n = 0x200D then some (0, .joinedEmoji) else none
  | .joinedEmoji =>
    if n = 0x20E3 then some (0, .joinedKeycap)
    else if isFlagLetter n then some (1, .joinedFlagLetter)
    else if isSkinTone n then some (0, .skinTone)
    else if n = 0xE007F then some (0, .tagLetters 0)
    else if followerOf c = .emoji then some (0, .emoji)
    else none
  | .joinedFlagLetter => if isFlagLetter n then some (-1, .joinedFlagPair) else none
  | .joinedFlagPair =>
    if n = 0x200D then some (0, .joinedEmoji)
    else if isFlagLetter n then some (3, .joinedFlagOdd)
    else none
  | .joinedFlagOdd =>
    if n = 0x200D then some (0, .joinedEmoji)
    else if isFlagLetter n then some (-1, .joinedFlagPair)
    else none
  | .tagLetters k =>
    if 0xE0061 ≤ n && n ≤ 0xE007A && k < 6 then some (0, .tagLetters (k + 1))
    else if 0xE0030 ≤ n && n ≤ 0xE0039 && k ≤ 4 then some (0, .tagDigits 1)
    else if n = 0x1F3F4 && 3 ≤ k then some (0, .emoji)
    else none
  | .tagDigits k =>
    if 0xE0030 ≤ n && n ≤ 0xE0039 && k < 3 then some (0, .tagDigits (k + 1))
    else if n = 0x1F3F4 && k = 3 then some (0, .emoji)
    else none
  | .joinedKeycap | .lineFeed | .other => none

/-- The columns that a character adds to a text, and what it is to the character before it. -/
def columnsBefore (c : Char) (a : Ahead) : Int × Ahead :=
  let n := c.toNat
  if a.selector = some .emoji && takesEmojiSelector c then
    (if a.follower.isJoined then 0 else 2, .ofFollower .emoji)
  else if n ≤ 0xA0 then
    if c = '\r' && a.follower = .lineFeed then (0, .nothing)
    else (1, .ofFollower (followerOf c))
  else match presentationOf n with
    | some p => (0, a.select p)
    | none =>
      if a.selector = some .text && holds textSelectable c then (1, .nothing)
      else if a.selector = some .fullWidth && isQuotationMark n then (2, .nothing)
      else
        let a := a.unselected
        if a.follower.ignoresMarks && n = 0x200D then (0, { a with joined := true })
        else if a.follower.ignoresMarks && isLigatureTransparent n then (0, a)
        else match merged? c a with
          | some (here, f) => (here, .ofFollower f)
          | none => (columns c, .ofFollower (followerOf c))

/-- The columns of a text with what its first character is to one before it. -/
def measure (s : List Char) : Int × Ahead :=
  s.foldr (fun c (sum, a) => let (here, a) := columnsBefore c a; (sum + here, a)) (0, .nothing)

/-- The columns of a text. -/
def width (s : List Char) : Nat :=
  (measure s).1.toNat

end FirmwareKit.Text
