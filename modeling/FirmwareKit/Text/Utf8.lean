/-! Bytes shown as text. Bytes that are no UTF-8 are replaced, one replacement
character for the longest start of a character that breaks off. -/

namespace FirmwareKit.Text

/-- The character shown for bytes that are no UTF-8. -/
def replacement : Char := '\ufffd'

/-- A byte that continues a character. -/
def isContinuation (b : UInt8) : Bool := 0x80 ≤ b && b ≤ 0xBF

/-- How many bytes follow a first byte, and which of them can come first. -/
def shape? (b : UInt8) : Option (Nat × (UInt8 → Bool)) :=
  if 0xC2 ≤ b && b ≤ 0xDF then some (1, isContinuation)
  else if b = 0xE0 then some (2, fun c => 0xA0 ≤ c && c ≤ 0xBF)
  else if b = 0xED then some (2, fun c => 0x80 ≤ c && c ≤ 0x9F)
  else if 0xE1 ≤ b && b ≤ 0xEF then some (2, isContinuation)
  else if b = 0xF0 then some (3, fun c => 0x90 ≤ c && c ≤ 0xBF)
  else if b = 0xF4 then some (3, fun c => 0x80 ≤ c && c ≤ 0x8F)
  else if 0xF1 ≤ b && b ≤ 0xF3 then some (3, isContinuation)
  else none

/-- The bytes that continue a character, at most `count`. -/
def continuing (count : Nat) (first : UInt8 → Bool) : List UInt8 → List UInt8
  | [] => []
  | c :: rest => if first c then c :: (rest.take (count - 1)).takeWhile isContinuation else []

/-- The code point of a first byte with so many bytes behind it. -/
def codePoint (b : UInt8) (rest : List UInt8) : Nat :=
  rest.foldl (fun n c => n * 64 + c.toNat % 64) (b.toNat % Nat.pow 2 (6 - rest.length))

/-- The character shown for the start of some bytes, and how many bytes behind the first it takes.
-/
def firstChar (b : UInt8) (rest : List UInt8) : Char × Nat :=
  if b < 0x80 then (Char.ofNat b.toNat, 0)
  else
    match shape? b with
    | none => (replacement, 0)
    | some (count, first) =>
      let more := continuing count first rest
      if more.length = count then (Char.ofNat (codePoint b more), count)
      else (replacement, more.length)

/-- The text that bytes are shown as. -/
def decodeLossy : List UInt8 → List Char
  | [] => []
  | b :: rest =>
    let (c, more) := firstChar b rest
    c :: decodeLossy (rest.drop more)
termination_by bytes => bytes.length
decreasing_by simp only [List.length_drop, List.length_cons]; omega

/-- The text that a file's bytes are shown as. -/
def showBytes (bytes : ByteArray) : String :=
  match String.fromUTF8? bytes with
  | some text => text
  | none => String.ofList (decodeLossy bytes.toList)

end FirmwareKit.Text
