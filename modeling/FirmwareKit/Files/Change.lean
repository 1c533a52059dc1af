import FirmwareKit.Files.Node

/-! The difference between two trees, as the steps that make the second out of the
first. Only directories and files that are called by a text are ever made or changed. -/

namespace FirmwareKit

/-- A step on the way from one tree to another, at the place that names lead to. -/
inductive Change where
  | makeDir (names : List String)
  | write (names : List String) (bytes : ByteArray)
  | remove (names : List String)

namespace Change

/-- What has to be done for a node of the new tree. -/
def toward (before : Node) (names : List String) (node : Node) : Option Change :=
  match node, before.at? names with
  | .file bytes, some (.file old) => if bytes.data == old.data then none else some (.write names bytes)
  | .file bytes, _ => some (.write names bytes)
  | .dir _, some (.dir _) | .link _, _ | .locked, _ | .unnamed _, _ => none
  | .dir _, _ => some (.makeDir names)

/-- The steps from one tree to another: directories before what they hold, and what goes last,
before the directory that held it. -/
def between (before after : Node) : List Change :=
  (after.descendants.filterMap fun (names, node) => toward before names node) ++
    before.descendants.reverse.filterMap fun (names, _) =>
      if (after.at? names).isNone then some (.remove names) else none

end Change

end FirmwareKit
