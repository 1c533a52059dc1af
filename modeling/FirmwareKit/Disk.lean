import FirmwareKit.Config.Basic
import FirmwareKit.Files.Basic
import FirmwareKit.Files.Change
import FirmwareKit.Notice

/-! The file tree of the system. The parts of it that a request can look at are read
into a tree, and the changes made to that tree are carried out. What cannot be
read is left out. -/

namespace FirmwareKit.Disk

/-- The path of the place that names lead to. -/
def pathOf (names : List String) : String :=
  "/" ++ "/".intercalate names

/-- The names that lead to a path without dots. -/
def namesOf (path : String) : List String :=
  (Path.mk path).names

/-- The value of an action that may fail. -/
def attempt {α : Type} (action : IO α) : IO (Option α) := do
  try
    return some (← action)
  catch _ =>
    return none

/-- What kind of thing is at a path, links not followed. -/
def kindAt (path : String) : IO (Option IO.FS.FileType) :=
  attempt do return (← ((← IO.currentDir) / path).symlinkMetadata).type

/-- The path without links in it. -/
def real? (path : String) : IO (Option String) :=
  attempt do return (← IO.FS.realPath path).toString

/-- The node at a path. A link leads to a path without links, or nowhere. -/
partial def read (path : String) : IO (Option Node) := do
  match ← kindAt path with
  | some .dir =>
    match ← attempt (((← IO.currentDir) / path).readDir) with
    | none => return some .locked
    | some entries =>
      let mut nodes := #[]
      for entry in entries do
        if let some node ← read (path ++ "/" ++ entry.fileName) then
          nodes := nodes.push (entry.fileName, node)
      return some (.dir nodes.toList)
  | some .file => return (← attempt (IO.FS.readBinFile path)).map .file
  | some .symlink => return some (.link ((← real? path).getD ""))
  | _ => return none

/-- The links in a tree. -/
def targets (tree : Node) : List String :=
  tree.descendants.filterMap fun (_, node) =>
    match node with
    | .link target => if target.isEmpty then none else some target
    | _ => none

/-- The tree with what is at absolute paths, and with what links there lead to; `seen` are the paths
that are in it already. -/
partial def graft (tree : Node) (seen : List (List String)) : List String → IO Node
  | [] => return tree
  | path :: more => do
    let names := namesOf path
    if seen.any (·.isPrefixOf names) then graft tree seen more
    else
      match ← read path with
      | none => graft tree seen more
      | some node => graft (tree.insert names node) (names :: seen) (more ++ targets node)

/-- The tree with the first link that an absolute path leads through. -/
def addLink (tree : Node) (path : String) : IO Node := do
  for dir in (Path.mk path).ancestors.reverse do
    if (← kindAt dir.text) matches some .symlink then
      return tree.insert (namesOf dir.text) (.link ((← real? dir.text).getD ""))
  return tree

/-- The tree with the settings files and the repositories in the directories above a path. -/
def addMarks (tree : Node) (path : String) : IO Node := do
  let mut tree := tree
  for dir in (Path.mk path).ancestors do
    let file := (dir.join Config.fileName).text
    if (tree.at? (namesOf file)).isNone then
      if let some node ← read file then
        tree := tree.insert (namesOf file) node
    let mark := (dir.join ".git").text
    if (tree.at? (namesOf mark)).isNone && (← kindAt mark).isSome then
      tree := tree.insert (namesOf mark) .emptyDir
  return tree

/-- The files at places and what they depend on, seen from the working directory. -/
def load (places : List Path) : IO Files := do
  let here := (← IO.currentDir).toString
  let mut tree := Node.emptyDir
  let mut paths := #[]
  for place in places do
    let path := ((Path.mk here).join place.text).text
    paths := paths.push ((← real? path).getD path)
  tree ← graft tree [] paths.toList
  for place in places do
    let path := ((Path.mk here).join place.text).text
    tree ← addMarks (← addLink tree path) path
  return ⟨tree, namesOf here⟩

/-- Carries out a change. -/
def perform : Change → IO Unit
  | .makeDir names => IO.FS.createDirAll (pathOf names)
  | .write names bytes => IO.FS.writeBinFile (pathOf names) bytes
  | .remove names => do
    if (← attempt (IO.FS.removeFile (pathOf names))).isNone then
      IO.FS.removeDir (pathOf names)

/-- Carries out all that was changed between two trees. -/
def store (before after : Files) : IO Unit :=
  (Change.between before.root after.root).forM perform

end FirmwareKit.Disk
