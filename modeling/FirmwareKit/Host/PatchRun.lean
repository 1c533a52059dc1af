import FirmwareKit.Host.PatchOptions
import FirmwareKit.Host.Ran

/-! A run of the program that applies diffs: the files, and what it has done to them. Files
are removed when the run is over, and some are written then. A problem can end the
run, and then what waits is not done. -/

namespace FirmwareKit.Host

/-- What a run has done to a file: it has made it, it will remove it, or something else has come to
its place. -/
inductive Deed where
  | made | leaving | replaced
  deriving DecidableEq, Repr

/-- What a file becomes, if it changes, and if the old file is kept. -/
structure Writing where
  path : String
  node : Option Node
  keeps : Bool

/-- A run as far as it has come. -/
structure PatchRun where
  files : Files
  /-- Where texts go. -/
  stream : Stream := .output
  /-- What was written, last first. -/
  chunks : List Chunk := []
  failed : Bool := false
  /-- The file that is made of all parts, if there is one: what the parts before have made, and what
  this part has. -/
  output : List UInt8 × List UInt8 := ([], [])
  deeds : List (List String × Deed) := []
  /-- Files to be removed, if they are kept under another name, and if they were missing before. -/
  leaving : List (String × Bool × Bool) := []
  waiting : List Writing := []
  /-- Names that were found to be dangerous. -/
  refused : List String := []
  /-- The last part told more than lines. -/
  isGit : Bool := false
  /-- How many lines stay in front of the first change of the last hunk. -/
  before : Nat := 0

/-- An action of a run, which can end it with a problem. -/
abbrev PatchJob := ExceptT String (StateM PatchRun)

/-- What stands where the program looks for a file. -/
inductive Target where
  | missing
  | special
  | link (path : String)
  | file (bytes : List UInt8)
  deriving DecidableEq, Repr

namespace Target

/-- The bytes of the file or the link; there are none if it is neither. -/
def bytes : Target → List UInt8
  | file bytes => bytes
  | link path => path.toUTF8.toList
  | missing | special => []

/-- There is nothing, or nothing in it. -/
def isEmpty : Target → Bool
  | missing | file [] => true
  | _ => false

end Target

namespace PatchRun

/-- What is at a path. -/
def targetAt (r : PatchRun) (follows : Bool) (path : String) : Target :=
  match r.files.find (if follows then .target else .entry) ⟨path⟩ with
  | .ok (.file bytes) | .ok (.unnamed bytes) => .file bytes.toList
  | .ok (.link path) => .link path
  | .ok (.dir _) | .ok .locked => .special
  | .error _ => .missing

/-- The names that lead to a file. -/
def place (r : PatchRun) (path : String) : List String :=
  match r.files.locate .entry ⟨path⟩ with
  | .ok (names, _) => names
  | .error _ => []

/-- What the run has done to the file at a path. -/
def deed? (r : PatchRun) (path : String) : Option Deed :=
  r.deeds.lookup (r.place path)

/-- The run with something done to a file. -/
def did (r : PatchRun) (path : String) (deed : Deed) : PatchRun :=
  { r with deeds := (r.place path, deed) :: r.deeds }

end PatchRun

namespace PatchJob

/-- Prints bytes. -/
def print (bytes : List UInt8) : PatchJob Unit :=
  modify fun r => { r with chunks := ⟨r.stream, ByteArray.mk bytes.toArray⟩ :: r.chunks }

/-- Prints a text. -/
def say (text : String) : PatchJob Unit :=
  print text.toUTF8.toList

/-- Something went wrong. -/
def fail : PatchJob Unit :=
  modify fun r => { r with failed := true }

/-- Puts a node at a path, and makes the directories for it if they are missing. -/
def put (path : String) (n : Node) : PatchJob Unit := do
  let r ← get
  let placed := match r.files.replace ⟨path⟩ n with
    | .error .notFound => (r.files.makeParents ⟨path⟩).replace ⟨path⟩ n
    | placed => placed
  match placed with
  | .ok files => set { r with files }
  | .error fault => throw ("Can't create file " ++ shellName path ++ " : " ++ fault.reason)

/-- Keeps an old file under another name, unless the run has made it; a missing file is kept as an
empty one. -/
def keep (o : PatchOptions) (path : String) : PatchJob Unit := do
  let r ← get
  match r.files.find .entry ⟨path⟩ with
  | .error _ => put (o.keptName.apply path) (.file .empty)
  | .ok n => if r.deed? path = some .made then pure () else put (o.keptName.apply path) n

/-- Writes a file. -/
def write (o : PatchOptions) (w : Writing) : PatchJob Unit := do
  match w.node with
  | some node =>
    if w.keeps then keep o w.path
    put w.path node
    modify (·.did w.path .made)
  | none =>
    if w.keeps then
      match (← get).files.find .entry ⟨w.path⟩ with
      | .ok n => put (o.keptName.apply w.path) n
      | .error fault =>
        put (o.keptName.apply w.path) (.file .empty)
        throw ("Can't reopen file " ++ shellName w.path ++ " : " ++ fault.reason)

/-- Does all that waits. -/
def writeAll (o : PatchOptions) : PatchJob Unit := do
  (← get).waiting.forM (write o)
  modify ({ · with waiting := [] })

/-- Removes a file when the run is over. -/
def leave (path : String) (keeps missing : Bool) : PatchJob Unit :=
  modify fun r => { r.did path .leaving with leaving := r.leaving ++ [(path, keeps, missing)] }

/-- Removes a file, or keeps it under another name; then a file that the run has made stays where it
is. -/
def remove (o : PatchOptions) (path : String) (keeps : Bool) : PatchJob Unit := do
  let r ← get
  let stays := keeps && r.deed? path = some .made
  if keeps then keep o path
  modify (·.did path .replaced)
  unless stays do
    modify fun r => { r with files := (r.files.remove ⟨path⟩).toOption.getD r.files }
  modify fun r => { r with files := r.files.removeParents ⟨path⟩ }

/-- Removes the files that are to be removed and were not made again, and the directories that are
empty then. A file that was missing before is removed even if it was made since. -/
def leaveAll (o : PatchOptions) : PatchJob Unit := do
  for (path, keeps, missing) in (← get).leaving do
    if missing || (← get).deed? path = some .leaving then remove o path keeps

end PatchJob

end FirmwareKit.Host
