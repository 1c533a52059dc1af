import FirmwareKit.Host.Invocation
import FirmwareKit.Host.Shell.Reader

/-! What a shell knows while it runs a script: variables, functions and parameters, and the
files that its descriptors lead to. Parts of a script that run on their own share the
files and what was opened, and nothing else. -/

namespace FirmwareKit.Host.Shell

/-- What a descriptor leads to. -/
inductive Opened where
  | nothing
  | directory
  | stream (stream : Stream)
  /-- The file at a place in the tree; what is written goes to its end if `appends`. -/
  | file (names : List String) (position : Nat) (appends : Bool)
  /-- Bytes that were written before. -/
  | text (bytes : ByteArray) (position : Nat)
  /-- What is written is kept for another use. -/
  | gathered (bytes : ByteArray)
  deriving Inhabited

/-- A variable, which can be known before it has a value. -/
structure Variable where
  value : Option String := none
  isExported : Bool := false
  isReadOnly : Bool := false

/-- Why what comes next in a script is not run. -/
inductive Flow where
  | left (code : Nat)
  | broken (levels : Nat)
  | continued (levels : Nat)
  | returned (code : Nat)
  | killed (signal : Nat)
  /-- A mistake, of which the shell has told. -/
  | failed
  deriving DecidableEq, Repr

/-- What a shell knows. -/
structure State where
  files : Files
  programs : Programs
  /-- What the shell is called when it tells of something. -/
  name : String
  /-- The command that is being run by the shell itself. -/
  command : Option String := none
  line : Nat := 1
  /-- A part of what the command has written to the output went nowhere. -/
  hasLost : Bool := false
  bindings : List (String × Variable) := []
  functions : List (String × Command) := []
  parameters : List String := []
  options : List Char := []
  code : Nat := 0
  /-- The code of the last command whose output was used. -/
  outputCode : Nat := 0
  /-- What descriptors lead to, by its number. -/
  descriptors : List (Nat × Nat) := [(0, 0), (1, 1), (2, 2)]
  opened : Array Opened
  /-- What was written to the streams, last first. -/
  chunks : List Chunk := []
  /-- Texts that are given in the script, by their numbers. -/
  texts : List (Nat × Word) := []
  textCount : Nat := 0
  /-- How many loops are being run. -/
  loops : Nat := 0
  /-- What variables were before the functions that are being run, the last function first. -/
  hidden : List (List (String × Option Variable)) := []
  isSubshell : Bool := false
  /-- A condition is being run, whose failure ends nothing. -/
  isTested : Bool := false
  /-- What is done at signals, and at the end for the number zero. -/
  traps : List (Nat × String) := []
  /-- Signals for which something is to be done. -/
  pending : List Nat := []
  /-- Signals that parts of the script which run on their own have sent to the shell. -/
  sent : List Nat := []
  /-- Scripts in the background and their codes, the last first. -/
  jobs : List (Nat × Nat) := []
  /-- The place of the next letter of options. -/
  letter : Nat := 0
  /-- The directory as it was reached, links included. -/
  directory : String := "/"
  /-- The permissions that new files do not get. -/
  mask : Nat := 0o22

/-- An action of a shell, which can keep what comes next from being run. -/
abbrev Runs := ExceptT Flow (StateM State)

/-- Bytes with some bytes put at a position. -/
def overwrite (old : ByteArray) (position : Nat) (bytes : ByteArray) : ByteArray :=
  let gap := ByteArray.mk (Array.replicate (position - old.size) 0)
  old.extract 0 position ++ gap ++ bytes ++ old.extract (position + bytes.size) old.size

/-- How many functions can be run inside one another. -/
def maxCalls : Nat := 1000

/-- The number of the shell among the programs that run. -/
def ownNumber : Nat := 4242

namespace State

/-- What a descriptor leads to. -/
def descriptor? (s : State) (number : Nat) : Option (Nat × Opened) :=
  (s.descriptors.lookup number).bind fun index => (s.opened[index]?).map (index, ·)

/-- The bytes of the file at a place in the tree. -/
def fileAt (s : State) (names : List String) : ByteArray :=
  match s.files.root.at? names with
  | some (.file bytes) | some (.unnamed bytes) => bytes
  | _ => .empty

/-- The state after some bytes are written. -/
def write (s : State) (index : Nat) (opened : Opened) (bytes : ByteArray) : State :=
  match opened with
  | .nothing | .directory | .text .. => s
  | .stream stream => { s with chunks := ⟨stream, bytes⟩ :: s.chunks }
  | .gathered old => { s with opened := s.opened.setIfInBounds index (.gathered (old ++ bytes)) }
  | .file names position appends =>
    let old := s.fileAt names
    let start := if appends then old.size else position
    let isThere := ((s.files.root.at? names).map Node.isFile).getD false
    { s with
      files := if isThere then s.files.put names (.file (overwrite old start bytes)) else s.files
      opened := s.opened.setIfInBounds index (.file names (start + bytes.size) appends) }

/-- What can still be read, and if it is a file. -/
def unread (s : State) (opened : Opened) : ByteArray × Bool :=
  match opened with
  | .file names position _ =>
    let bytes := s.fileAt names
    (bytes.extract position bytes.size, true)
  | .text bytes position => (bytes.extract position bytes.size, false)
  | _ => (.empty, false)

/-- A descriptor leads to a directory. -/
def readsDirectory (s : State) (number : Nat) : Bool :=
  match s.descriptor? number with
  | some (_, .directory) => true
  | _ => false

/-- The state after so many bytes are read. -/
def pass (s : State) (index : Nat) (opened : Opened) (count : Nat) : State :=
  match opened with
  | .file names position appends =>
    { s with opened := s.opened.setIfInBounds index (.file names (position + count) appends) }
  | .text bytes position =>
    { s with opened := s.opened.setIfInBounds index (.text bytes (position + count)) }
  | _ => s

/-- The value of a variable. -/
def value? (s : State) (name : String) : Option String :=
  (s.bindings.lookup name).bind (·.value)

/-- Pairs with the value of a name replaced; a new name comes last. -/
def assoc {α : Type} (name : String) (a : α) : List (String × α) → List (String × α)
  | [] => [(name, a)]
  | (n, b) :: more => if n = name then (n, a) :: more else (n, b) :: assoc name a more

/-- The value of a parameter that can be spelled out. -/
def parameter? (s : State) (name : String) : Option String :=
  match name with
  | "?" => some (toString s.code)
  | "$" => some (toString ownNumber)
  | "#" => some (toString s.parameters.length)
  | "-" => some (String.ofList s.options)
  | "!" => s.jobs.head?.map fun (number, _) => toString number
  | _ =>
    match name.toNat? with
    | some 0 => some s.name
    | some n => s.parameters[n - 1]?
    | none => s.value? name

/-- A number that orders the variables of a shell. -/
def rank (name : String) : Nat :=
  let sum := name.toUTF8.toList.foldl (fun n b => n + b.toNat) 0
  (((name.toUTF8.toList.head?.map UInt8.toNat).getD 0) * 16 + sum) % 39

/-- The variables that programs are started with. -/
def environment (s : State) : List (String × String) :=
  let known := s.bindings.filterMap fun (name, v) =>
    if v.isExported then v.value.map (name, ·) else none
  known.mergeSort fun a b => rank a.1 ≤ rank b.1

/-- An option of the shell is set. -/
def has (s : State) (option : Char) : Bool :=
  s.options.contains option

end State

/-- Writes bytes to a descriptor. -/
def writeBytes (number : Nat) (bytes : ByteArray) : Runs Unit := do
  match (← get).descriptor? number with
  | some (index, opened) => modify fun s => s.write index opened bytes
  | none =>
    if number = 1 && !bytes.isEmpty then modify fun s => { s with hasLost := true }

/-- Writes text to a descriptor. -/
def writeText (number : Nat) (text : String) : Runs Unit := do
  writeBytes number text.toUTF8

/-- Tells of a problem. -/
def complain (text : String) : Runs Unit := do
  let s ← get
  let command := match s.command with
    | some c => c ++ ": "
    | none => ""
  writeText 2 (s.name ++ ": " ++ toString s.line ++ ": " ++ command ++ text ++ "\n")

/-- Tells of a mistake, which ends what is being run. -/
def fail {α : Type} (text : String) : Runs α := do
  complain text
  modify fun s => { s with code := 2 }
  throw .failed

/-- What a descriptor still has to be read. -/
def unread (number : Nat) : Runs (ByteArray × Bool) := do
  let s ← get
  return ((s.descriptor? number).map fun (_, opened) => s.unread opened).getD (.empty, false)

/-- Passes bytes that were read. -/
def passBytes (number count : Nat) : Runs Unit :=
  modify fun s =>
    match s.descriptor? number with
    | some (index, opened) => s.pass index opened count
    | none => s

/-- Changes a variable, unless that is forbidden. -/
def change (name : String) (how : Variable → Variable) : Runs Unit := do
  let s ← get
  let v := how ((s.bindings.lookup name).getD {})
  let v := if s.has 'a' && v.value.isSome then { v with isExported := true } else v
  set { s with bindings := State.assoc name v s.bindings }

/-- Gives a variable a value. -/
def assign (name value : String) : Runs Unit := do
  if (((← get).bindings.lookup name).map (·.isReadOnly)).getD false then
    fail (name ++ ": is read only")
  change name fun v => { v with value := some value }
  if name = "OPTIND" then modify fun s => { s with letter := 0 }

/-- Lets a descriptor lead somewhere new. -/
def openAt (number : Nat) (opened : Opened) : Runs Unit :=
  modify fun s =>
    { s with
      opened := s.opened.push opened
      descriptors := (number, s.opened.size) :: s.descriptors.filter (·.1 != number) }

/-- Runs an action on a part of the state, which then is what it was. -/
def keeping {α β : Type} (part : State → β) (restore : β → State → State) (action : Runs α) :
    Runs α := do
  let old := part (← get)
  try
    let result ← action
    modify (restore old)
    return result
  catch flow =>
    modify (restore old)
    throw flow

/-- Runs an action as a command of the shell. -/
def naming {α : Type} (command : String) (action : Runs α) : Runs α :=
  keeping (·.command) (fun old s => { s with command := old }) do
    modify fun s => { s with command := some command }
    action

/-- Runs an action with descriptors of its own. -/
def keepingDescriptors {α : Type} (action : Runs α) : Runs α :=
  keeping (·.descriptors) (fun old s => { s with descriptors := old }) action

/-- Runs an action on its own: all but the files and what is written and read is then what it was.
Signals that nothing is done about end it like those that end the whole shell. -/
def apart (action : Runs Unit) : Runs (Except Flow Unit) := do
  let old ← get
  let inner : State := { old with
    isSubshell := true, loops := 0, traps := old.traps.filter (·.2 == ""), jobs := [] }
  let (result, new) := (ExceptT.run action).run inner
  set { old with
    files := { new.files with cwd := old.files.cwd }
    opened := new.opened
    chunks := new.chunks
    texts := new.texts
    textCount := new.textCount
    sent := new.sent
    code := new.code }
  return result

end FirmwareKit.Host.Shell
