import FirmwareKit.Config.Basic
import FirmwareKit.Json.Document

/-! Settings in JSON text. Each field is a member of its own name, in any order and
at most once; the language directory has a second name. The fields can also be
given in order as a list. Absent fields have their defaults, other members are
passed over. -/

namespace FirmwareKit

open Json

namespace PatchEntry

/-- The fields of a patch entry read so far. -/
structure Draft where
  dependencyDir : Option String := none
  target : Option String := none
  patch : Option String := none
  sentinel : Option String := none

namespace Draft

/-- Reads the member of that name. -/
def member (d : Draft) (name : String) : Reader Draft :=
  match name with
  | "dependencyDir" =>
    .field name d.dependencyDir .string fun s => { d with dependencyDir := some s }
  | "target" => .field name d.target .string fun s => { d with target := some s }
  | "patch" => .field name d.patch .string fun s => { d with patch := some s }
  | "sentinel" => .field name d.sentinel .string fun s => { d with sentinel := some s }
  | _ => (Reader.ignore d).afterColon

/-- Reads the fields in order. -/
def inOrder : List (Draft → Reader Draft) :=
  [fun d => Reader.string.map fun s => { d with dependencyDir := some s },
   fun d => Reader.string.map fun s => { d with target := some s },
   fun d => Reader.string.map fun s => { d with patch := some s },
   fun d => Reader.string.map fun s => { d with sentinel := some s }]

/-- The entry, if only the sentinel is absent. -/
def finish (d : Draft) : Except Cause PatchEntry :=
  match d.dependencyDir, d.target, d.patch with
  | none, _, _ => .error (.missingField "dependencyDir")
  | _, none, _ => .error (.missingField "target")
  | _, _, none => .error (.missingField "patch")
  | some dependencyDir, some target, some patch =>
    .ok { dependencyDir, target, patch, sentinel := d.sentinel.getD defaultSentinel }

/-- The entry of a list of so many fields. -/
def finishInOrder (count : Nat) (d : Draft) : Except Cause PatchEntry :=
  if count < 3 then .error (.tooFewElements count) else d.finish

end Draft

/-- A patch entry by names or in order. -/
def shape : Shape Draft PatchEntry where
  expected := .patchEntry
  start := {}
  member := Draft.member
  inOrder := Draft.inOrder
  finish := Draft.finish
  finishInOrder := Draft.finishInOrder

end PatchEntry

namespace Config

/-- The fields of the settings read so far. -/
structure Draft where
  langRoot : Option String := none
  langExtension : Option String := none
  sourceExtensions : Option (List String) := none
  ignores : Option (List String) := none
  callName : Option String := none
  exemptionMarker : Option String := none
  patches : Option (List PatchEntry) := none

namespace Draft

/-- Reads the member of that name; the language directory has two names. -/
def member (d : Draft) (name : String) : Reader Draft :=
  match name with
  | "langRoot" | "langDir" =>
    .field "langRoot" d.langRoot .string fun s => { d with langRoot := some s }
  | "langExtension" =>
    .field name d.langExtension .string fun s => { d with langExtension := some s }
  | "sourceExtensions" =>
    .field name d.sourceExtensions (.list .string) fun l => { d with sourceExtensions := some l }
  | "ignores" => .field name d.ignores (.list .string) fun l => { d with ignores := some l }
  | "callName" => .field name d.callName .string fun s => { d with callName := some s }
  | "exemptionMarker" =>
    .field name d.exemptionMarker .string fun s => { d with exemptionMarker := some s }
  | "patches" =>
    .field name d.patches (.list PatchEntry.shape.reader) fun l => { d with patches := some l }
  | _ => (Reader.ignore d).afterColon

/-- Reads the fields in order. -/
def inOrder : List (Draft → Reader Draft) :=
  [fun d => Reader.string.map fun s => { d with langRoot := some s },
   fun d => Reader.string.map fun s => { d with langExtension := some s },
   fun d => (Reader.list .string).map fun l => { d with sourceExtensions := some l },
   fun d => (Reader.list .string).map fun l => { d with ignores := some l },
   fun d => Reader.string.map fun s => { d with callName := some s },
   fun d => Reader.string.map fun s => { d with exemptionMarker := some s },
   fun d => (Reader.list PatchEntry.shape.reader).map fun l => { d with patches := some l }]

/-- The settings, with the default of every absent field. -/
def finish (d : Draft) : Config where
  langRoot := d.langRoot.getD Config.default.langRoot
  langExtension := d.langExtension.getD Config.default.langExtension
  sourceExtensions := d.sourceExtensions.getD Config.default.sourceExtensions
  ignores := d.ignores.getD Config.default.ignores
  callName := d.callName.getD Config.default.callName
  exemptionMarker := d.exemptionMarker.getD Config.default.exemptionMarker
  patches := d.patches.getD Config.default.patches

end Draft

/-- The settings by names or in order. -/
def shape : Shape Draft Config where
  expected := .config
  start := {}
  member := Draft.member
  inOrder := Draft.inOrder
  finish d := .ok d.finish
  finishInOrder _ d := .ok d.finish

/-- The settings of a JSON text. -/
def parse (text : String) : Except Json.Error Config :=
  Json.parse shape.reader text

end Config

end FirmwareKit
