import FirmwareKit.Diff.Source
import FirmwareKit.Text.Utf8

/-! Why a diff cannot be read to its end. -/

namespace FirmwareKit.Diff

open Text

/-- Why a diff cannot be read. Numbers are those of lines; `row` is the line that was read last. -/
inductive Problem where
  | unfinished
  | unfinishedAt (number : Nat)
  | malformed (number : Nat) (row : Row)
  | unnumbered (number : Nat) (row : Row)
  | tooLarge (digits : Row) (number : Nat) (row : Row)
  | endOfHunk (number : Nat)
  | strayStars (number : Nat) (row : Row)
  | earlyDashes (number start : Nat)
  | lateDashes (number start : Nat)
  | repeatedDashes (number start : Nat)
  /-- The two sides of a hunk do not have the same lines around the change. -/
  | mangledContext (start : Nat)
  | mangledText (start : Nat)
  /-- The two sides of a hunk cannot be followed line by line. -/
  | outOfStep (old new : Nat)
  | expected (what : String) (number : Nat)
  deriving DecidableEq, Repr

namespace Problem

def message : Problem → String
  | unfinished => "unexpected end of file in patch"
  | unfinishedAt number => "unexpected end of file in patch at line " ++ toString number
  | malformed number row => "malformed patch at line " ++ toString number ++ ": " ++ text row
  | unnumbered number row => "missing line number at line " ++ toString number ++ ": " ++ text row
  | tooLarge digits number row =>
    "line number " ++ text digits ++ " is too large at line " ++ toString number ++ ": " ++ text row
  | endOfHunk number => "unexpected end of hunk at line " ++ toString number
  | strayStars number row => "unexpected '***' at line " ++ toString number ++ ": " ++ text row
  | earlyDashes number start =>
    "Premature '---' at line " ++ toString number ++ "; check line numbers at line " ++
      toString start
  | lateDashes number start =>
    "Overdue '---' at line " ++ toString number ++ "; check line numbers at line " ++ toString start
  | repeatedDashes number start =>
    "duplicate '---' at line " ++ toString number ++ "; check line numbers at line " ++
      toString start
  | mangledContext start => "context mangled in hunk at line " ++ toString start
  | mangledText start =>
    "replacement text or line numbers mangled in hunk at line " ++ toString start
  | outOfStep old new =>
    "Out-of-sync patch, lines " ++ toString old ++ "," ++ toString new ++
      "--mangled text or line numbers, maybe?"
  | expected what number => what ++ " expected at line " ++ toString number ++ " of patch"
where
  text (row : Row) : String := Text.showBytes (ByteArray.mk row.toArray)

end Problem

/-- The number at the start of `rest`, which is a part of the line `row`, and what follows it. -/
def lineNumber (number : Nat) (row rest : Row) : Except Problem (Nat × Row) :=
  match rest.takeWhile isDigit with
  | [] => .error (.unnumbered number row)
  | digits =>
    let n := digits.foldl (fun n d => n * 10 + (d.toNat - 48)) 0
    if n < Nat.pow 2 63 then .ok (n, rest.dropWhile isDigit) else .error (.tooLarge digits number row)

end FirmwareKit.Diff
