import FirmwareKit.Text.Rows

/-! Text that is read line by line. The lines of a diff can be set off from the text
around it, by blanks or by dashes in front of them or by carriage returns behind
them. -/

namespace FirmwareKit.Diff

open Text

/-- The line ends in a carriage return and a newline. -/
def isReturned (row : Row) : Bool :=
  match row.reverse with
  | 10 :: 13 :: _ => true
  | _ => false

/-- The bytes of a text. -/
def bytesOf (text : String) : List UInt8 :=
  text.toUTF8.toList

/-- The bytes after the given start, if a line has it. -/
def behind? (start : String) (row : Row) : Option Row :=
  let bytes := bytesOf start
  if bytes.isPrefixOf row then some (row.drop bytes.length) else none

/-- The line has the given start. -/
def startsWith (start : String) (row : Row) : Bool :=
  (behind? start row).isSome

def isDigit (b : UInt8) : Bool := 48 ≤ b && b ≤ 57

/-- White space: blanks, tabs and line ends of any kind. -/
def isSpace (b : UInt8) : Bool := b = 32 || (9 ≤ b && b ≤ 13)

/-- How the lines of a diff are set off from the text around it: by so much indentation and so many
dashes, and by carriage returns. -/
structure Margin where
  indent : Nat := 0
  nesting : Nat := 0
  returned : Bool := false
  deriving DecidableEq, Repr

/-- A line without an indentation that reaches from `column` to the given one. -/
def dropIndent (indent column : Nat) : Row → Row
  | b :: rest =>
    if indent ≤ column then b :: rest
    else if b = 32 || b = 88 then dropIndent indent (column + 1) rest
    else if b = 9 then dropIndent indent ((column + 8) / 8 * 8) rest
    else b :: rest
  | [] => []

/-- The column at which a line starts. -/
def indentOf (column : Nat) : Row → Nat
  | b :: rest =>
    if b = 32 || b = 88 then indentOf (column + 1) rest
    else if b = 9 then indentOf ((column + 8) / 8 * 8) rest
    else column
  | [] => column

/-- A line without its indentation. -/
def unindented (row : Row) : Row :=
  row.dropWhile fun b => b = 32 || b = 9 || b = 88

/-- A line without so many dashes that a blank follows. -/
def dropDashes : Nat → Row → Row
  | count + 1, 45 :: 32 :: rest => dropDashes count rest
  | _, row => row

/-- A line of a diff as it was before it was set off. -/
def Margin.strip (m : Margin) (row : Row) : Row :=
  let row := dropDashes m.nesting (dropIndent m.indent 0 row)
  if m.returned && isReturned row then row.dropLast.dropLast ++ [newline] else row

/-- A text that is being read: the lines to come, and the number of the line before them. -/
structure Source where
  rest : List Row
  number : Nat := 0
  deriving DecidableEq, Repr

namespace Source

/-- The start of some bytes. -/
def ofBytes (bytes : List UInt8) : Source :=
  ⟨rows bytes, 0⟩

/-- Where a text ends. -/
def ended (s : Source) : Source :=
  { s with rest := [] }

/-- What comes next: a line with the text behind it, or the end, maybe after a line that has no
newline and is not read. -/
inductive Next where
  | row (row : Row) (source : Source)
  | ended (cut : Bool)

/-- The next line. Lines with a number sign at their start are passed over. -/
def nextIn (m : Margin) (number : Nat) : List Row → Next
  | [] => .ended false
  | raw :: rest =>
    if !isWhole raw then .ended true
    else
      let row := m.strip raw
      if row.head? = some 35 then nextIn m (number + 1) rest else .row row ⟨rest, number + 1⟩

/-- The next line of a text. -/
def next (m : Margin) (s : Source) : Next :=
  nextIn m s.number s.rest

theorem nextIn_shorter {m : Margin} {number : Nat} {rows : List Row} {row : Row} {s : Source}
    (h : nextIn m number rows = .row row s) : s.rest.length < rows.length := by
  fun_induction nextIn m number rows with
  | case1 => simp at h
  | case2 => simp at h
  | case3 _ _ _ _ _ _ ih => exact Nat.lt_succ_of_lt (ih h)
  | case4 _ _ _ _ _ _ =>
    simp only [Next.row.injEq] at h
    simp [← h.2]

theorem next_shorter {m : Margin} {s t : Source} {row : Row} (h : s.next m = .row row t) :
    t.rest.length < s.rest.length :=
  nextIn_shorter h

/-- The text behind a remark that a line has no newline, if there is such a remark. -/
def behindRemark? (s : Source) : Option Source :=
  match s.rest with
  | (92 :: _) :: rest => some { s with rest }
  | _ => none

theorem behindRemark?_shorter {s t : Source} (h : s.behindRemark? = some t) :
    t.rest.length < s.rest.length := by
  unfold behindRemark? at h
  split at h
  · next heq => cases h; simp [heq]
  · simp at h

/-- A row whose newline belongs to it only if no remark follows, and the text behind the remark.
The remark is looked for behind the last line of a side. -/
def trimRemark (last : Bool) (row : Row) (s : Source) : Row × Source :=
  if last then
    match s.behindRemark? with
    | some behind => (row.dropLast, behind)
    | none => (row, s)
  else (row, s)

theorem length_trimRemark_le (last : Bool) (row : Row) (s : Source) :
    (trimRemark last row s).2.rest.length ≤ s.rest.length := by
  unfold trimRemark
  split
  · split
    · next h => exact Nat.le_of_lt (behindRemark?_shorter h)
    · exact Nat.le_refl _
  · exact Nat.le_refl _

end Source

end FirmwareKit.Diff
