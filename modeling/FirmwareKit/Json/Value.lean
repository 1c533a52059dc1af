/-! JSON values. Integers of 64 bits keep their value, every other number is a
float; the members of an object keep their order. -/

namespace FirmwareKit.Json

/-- A number as it is kept: not negative, negative, or anything else. -/
inductive Number where
  | unsigned (n : Nat)
  | negative (n : Nat)
  | float (x : Float)
  deriving Repr

/-- A JSON value. -/
inductive Value where
  | null
  | bool (b : Bool)
  | number (n : Number)
  | string (s : String)
  | array (items : List Value)
  | object (members : List (String × Value))

end FirmwareKit.Json
