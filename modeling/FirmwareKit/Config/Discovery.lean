import FirmwareKit.Config.Reader
import FirmwareKit.Failure

/-! Where settings come from. They are looked for in a directory and then in those
above it, by the text of the path, up to the first one that holds a repository.
Where none are found the defaults hold. -/

namespace FirmwareKit.Config

/-- The first settings file in directories, none of them behind one that holds a repository. -/
def findIn (files : Files) : List Path → Option Path
  | [] => none
  | dir :: above =>
    if files.isThere (dir.join fileName) then some (dir.join fileName)
    else if files.isThere (dir.join ".git") then none
    else findIn files above

/-- The settings file for a directory. -/
def find (files : Files) (start : Path) : Option Path :=
  findIn files start.ancestors

/-- Settings and the file they come from. -/
structure Loaded where
  config : Config
  source : Option Path
  deriving DecidableEq, Repr

/-- The settings in a file. -/
def read (files : Files) (path : Path) : Except Failure Config :=
  match files.readText path with
  | .error fault => .error (.configUnreadable path fault)
  | .ok text =>
    match parse text with
    | .error error => .error (.configMalformed path error)
    | .ok config =>
      match config.validate with
      | .error problem => .error (.configInvalid problem)
      | .ok () => .ok config

/-- The settings for a directory. -/
def load (files : Files) (start : Path) : Except Failure Loaded :=
  match find files start with
  | none => .ok ⟨.default, none⟩
  | some path => (read files path).map fun config => ⟨config, some path⟩

end FirmwareKit.Config
