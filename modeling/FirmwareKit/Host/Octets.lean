import FirmwareKit.Text.Rows

/-! Bytes as characters below 256. Programs of the system work on bytes, and most of what they do is
said of characters. -/

namespace FirmwareKit.Host.Octets

/-- Bytes as characters. -/
def ofBytes (bytes : List UInt8) : List Char :=
  bytes.map fun b => Char.ofNat b.toNat

/-- The bytes of a text as characters. -/
def ofText (text : String) : List Char :=
  ofBytes text.toUTF8.toList

/-- The bytes that characters stand for. -/
def toBytes (octets : List Char) : ByteArray :=
  ⟨(octets.map fun c => c.toNat.toUInt8).toArray⟩

/-- The lines of some bytes, each with its newline. -/
def rows (bytes : ByteArray) : List (List Char) :=
  (Text.rows bytes.toList).map ofBytes

/-- A line without its newline. -/
def chomp (row : List Char) : List Char :=
  if row.getLast? = some '\n' then row.dropLast else row

end FirmwareKit.Host.Octets
