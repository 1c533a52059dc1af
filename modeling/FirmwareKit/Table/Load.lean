import FirmwareKit.Failure
import FirmwareKit.Json.Document
import FirmwareKit.Table

/-! Loading translation tables. A table is a file whose text is one JSON object. Of
a directory every file with the wanted extension is a table; they are loaded in
the order of their names, all of them or none. -/

namespace FirmwareKit.Table

/-- The name of the file at a path, if it is a text. -/
def nameOf? (files : Files) (path : Path) : Option String :=
  if files.isNamed path then path.fileName? else none

/-- The table in a file. -/
def read (files : Files) (path : Path) : Except Failure Table :=
  match files.readText path with
  | .error fault => .error (.tableUnreadable path fault)
  | .ok text =>
    match Json.parse Json.Reader.names text with
    | .error error => .error (.tableMalformed path error)
    | .ok keys =>
      match nameOf? files path with
      | none => .error (.tableUnnamed path)
      | some name => .ok ⟨name, path, keys⟩

/-- The tables in files, or the failure of the first that has none. -/
def readAll (files : Files) : List Path → Except Failure (List Table)
  | [] => .ok []
  | path :: more =>
    match read files path with
    | .error e => .error e
    | .ok table => (readAll files more).map (table :: ·)

/-- A file with the wanted extension, itself or through a link. -/
def isTable (files : Files) (extension : String) (path : Path) : Bool :=
  files.isFile path && path.extension? == some extension

/-- The tables of a directory by name. -/
def readDir (files : Files) (dir : Path) (extension : String) : Except Failure (List Table) :=
  if files.isDir dir then
    match files.list dir with
    | .error fault => .error (.directoryUnlistable dir fault)
    | .ok names =>
      readAll files
        (((names.mergeSort (· ≤ ·)).map dir.join).filter (isTable files extension))
  else .error (.notDirectory dir)

end FirmwareKit.Table
