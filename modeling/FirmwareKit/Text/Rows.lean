/-! The lines of bytes. A line is kept with its newline, so a last line without one is
different from a line with one. -/

namespace FirmwareKit.Text

/-- A line of bytes with its newline, if it has one. -/
abbrev Row := List UInt8

/-- The line feed. -/
def newline : UInt8 := 10

/-- The lines of some bytes; what follows the last newline is a line unless it is empty. -/
def rows : List UInt8 → List Row
  | [] => []
  | b :: rest =>
    if b = newline then [b] :: rows rest
    else
      match rows rest with
      | [] => [[b]]
      | row :: more => (b :: row) :: more

/-- The line has its newline. -/
def isWhole (row : Row) : Bool :=
  row.getLast? = some newline

/-- A line without its newline. -/
def chomp (row : Row) : Row :=
  if isWhole row then row.dropLast else row

end FirmwareKit.Text
