import FirmwareKit.Text.InvisibleTable

/-! Text in quotes, for messages. Quotes and backslashes are written with a
backslash, and so are tabs, line ends and the null character; a character that
shows nothing of its own is written as its code point. -/

namespace FirmwareKit.Text

open InvisibleTable

/-- The character cannot be seen by itself. -/
def isInvisible (c : Char) : Bool :=
  invisible.any fun (first, last) => first ≤ c.toNat && c.toNat ≤ last

/-- How a character is written between quotes. -/
def escape (c : Char) : List Char :=
  if c = '"' || c = '\\' then ['\\', c]
  else if c = '\t' then ['\\', 't']
  else if c = '\r' then ['\\', 'r']
  else if c = '\n' then ['\\', 'n']
  else if c = '\x00' then ['\\', '0']
  else if isInvisible c then ['\\', 'u', '\x7b'] ++ Nat.toDigits 16 c.toNat ++ ['\x7d']
  else [c]

/-- The text in quotes. -/
def quoted (s : String) : String :=
  String.ofList ('"' :: s.toList.flatMap escape ++ ['"'])

end FirmwareKit.Text
