import Mathlib.Data.String.Basic
import Mathlib.Tactic.SplitIfs

/-! The order of texts and of their bytes. UTF-8 gives a later character a later first byte, or the
same first bytes and then a later one, so texts are ordered as their bytes are. -/

namespace FirmwareKit.Text

open String

/-- The bytes of a text. -/
def bytes (text : String) : List UInt8 := text.toByteArray.data.toList

end FirmwareKit.Text
