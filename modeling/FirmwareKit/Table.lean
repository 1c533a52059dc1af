import FirmwareKit.Path

/-! Translation tables. Of a table only its keys matter: a key is translated
when the table holds it, whatever its value. -/

namespace FirmwareKit

/-- One language's table: the name of its file, where it lies, and its keys. -/
structure Table where
  name : String
  path : Path
  keys : List String
  deriving DecidableEq, Repr

namespace Table

/-- The table translates the key. -/
def contains (t : Table) (key : String) : Bool :=
  t.keys.contains key

end Table

end FirmwareKit
