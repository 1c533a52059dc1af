/-! White space of Unicode text: the characters with the property White_Space,
and trimming a text at both ends. -/

namespace FirmwareKit.Text

/-- The property White_Space, which core's `Char.isWhitespace` knows for ASCII only. -/
def isBlank (c : Char) : Bool :=
  (0x09 ≤ c.val && c.val ≤ 0x0D) || c.val == 0x20 || c.val == 0x85 || c.val == 0xA0 ||
    c.val == 0x1680 || (0x2000 ≤ c.val && c.val ≤ 0x200A) || c.val == 0x2028 || c.val == 0x2029 ||
    c.val == 0x202F || c.val == 0x205F || c.val == 0x3000

/-- The text after its leading white space. -/
def skipBlanks (s : List Char) : List Char :=
  s.dropWhile isBlank

theorem length_skipBlanks_le (s : List Char) : (skipBlanks s).length ≤ s.length :=
  (List.dropWhile_sublist isBlank).length_le

/-- No character other than white space. -/
def isBlankText (s : String) : Bool :=
  s.toList.all isBlank

end FirmwareKit.Text
