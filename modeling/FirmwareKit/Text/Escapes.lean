/-! Text without its escape sequences. A sequence starts with the escape character and
moves the cursor, colours the text or carries a string for the terminal; none of
it is shown, and neither are controls other than white space. -/

namespace FirmwareKit.Text

/-- Where in an escape sequence a character stands. -/
inductive Sequence where
  /-- In the text. -/
  | outside
  | start
  | intermediate
  | control
  /-- In a string for the terminal, which a bell may end. -/
  | string (bell : Bool)
  deriving DecidableEq, Repr

/-- White space that a terminal shows. -/
def isShownControl (c : Char) : Bool :=
  c = '\t' || c = '\n' || c = '\x0c' || c = '\r'

/-- The next place, and whether the character is shown; cancelling ends any sequence. -/
def Sequence.next (s : Sequence) (c : Char) : Sequence × Bool :=
  let n := c.toNat
  if n = 0x18 || n = 0x1A then (outside, false)
  else if n = 0x1B then (start, false)
  else match s with
    | string bell => (if bell && n = 0x07 then outside else s, false)
    | outside => (outside, if n < 0x20 then isShownControl c else n != 0x7F)
    | start | intermediate | control =>
      if n < 0x20 then if isShownControl c then (outside, true) else (s, false)
      else if n = 0x7F then (s, false)
      else if n > 0x7F then (outside, true)
      else if s = control then (if n < 0x40 then control else outside, false)
      else if n < 0x30 then (intermediate, false)
      else if s = intermediate then (outside, false)
      else if c = '[' then (control, false)
      else if c = ']' then (string true, false)
      else if c = 'P' || c = 'X' || c = '^' || c = '_' then (string false, false)
      else (outside, false)

/-- The shown characters of a text whose first character stands at the given place. -/
def shownFrom (s : Sequence) : List Char → List Char
  | [] => []
  | c :: rest =>
    let (s, isShown) := s.next c
    if isShown then c :: shownFrom s rest else shownFrom s rest

/-- The shown characters of a text. -/
def shown (s : List Char) : List Char :=
  shownFrom .outside s

end FirmwareKit.Text
