import FirmwareKit.Config.Basic
import FirmwareKit.Json.Pretty

/-! Settings written as JSON text, each field under its own name. -/

namespace FirmwareKit

open Json

/-- The value that describes a patch entry. -/
def PatchEntry.toValue (e : PatchEntry) : Value :=
  .object
    [("dependencyDir", .string e.dependencyDir), ("target", .string e.target),
     ("patch", .string e.patch), ("sentinel", .string e.sentinel)]

namespace Config

/-- The value that describes the settings. -/
def toValue (c : Config) : Value :=
  .object
    [("langRoot", .string c.langRoot), ("langExtension", .string c.langExtension),
     ("sourceExtensions", .array (c.sourceExtensions.map .string)),
     ("ignores", .array (c.ignores.map .string)), ("callName", .string c.callName),
     ("exemptionMarker", .string c.exemptionMarker),
     ("patches", .array (c.patches.map PatchEntry.toValue))]

/-- The settings as text. -/
def pretty (c : Config) : String :=
  c.toValue.pretty

end Config

end FirmwareKit
