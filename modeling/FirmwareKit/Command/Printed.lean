import FirmwareKit.Failure
import FirmwareKit.Notice

/-! The outcome of a command together with what it printed on the way, and the
directory that a command works in. -/

namespace FirmwareKit

/-- An outcome, and what was printed until then. -/
structure Printed (α : Type) where
  notices : List Notice
  outcome : Except Failure α

namespace Files

/-- The path of the working directory. -/
def here (files : Files) : Path :=
  ⟨"/" ++ "/".intercalate files.cwd⟩

/-- The working directory has not been removed. -/
def hasHere (files : Files) : Bool :=
  (files.root.at? files.cwd).any Node.isDir

/-- A directory as an absolute path; the working directory if none is given. One that is not
absolute cannot be made so when the working directory has been removed. -/
def absoluteRoot (files : Files) (root : Option Path) : Except Failure Path :=
  let given := root.getD ⟨"."⟩
  match Path.absolute? files.here given with
  | some path =>
    if given.isAbsolute || files.hasHere then .ok path
    else .error (.rootUnresolved given .notFound)
  | none => .error .emptyRoot

end Files

end FirmwareKit
