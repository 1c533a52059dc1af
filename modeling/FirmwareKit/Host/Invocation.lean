import FirmwareKit.Host.Ran
import FirmwareKit.Host.Switches

/-! A program of the system that is started, and what it does until it ends. -/

namespace FirmwareKit.Host

/-- What a program is started with. -/
structure Invocation where
  /-- What the program is called. -/
  name : String
  arguments : List String
  files : Files
  environment : List (String × String) := []
  input : ByteArray := .empty
  /-- The input is a file that can be read again. -/
  readsFile : Bool := false
  /-- The input is a directory, and cannot be read. -/
  readsDirectory : Bool := false

/-- Programs by the names they have in the directories of programs. -/
abbrev Programs := String → Option (Invocation → Ran)

/-- What a program has done so far; what it wrote stands last first. -/
structure Work where
  files : Files
  chunks : List Chunk := []
  code : Nat := 0
  taken : Nat := 0

/-- An action of a program, which can end it. -/
abbrev Works := ExceptT Unit (StateM Work)

namespace Works

/-- Ends the program. -/
def stop {α : Type} : Works α :=
  throw ()

/-- Sets the code that the program ends with. -/
def setCode (code : Nat) : Works Unit :=
  modify fun w => { w with code }

/-- Writes bytes to the output. -/
def writeBytes (bytes : ByteArray) : Works Unit :=
  modify fun w => { w with chunks := ⟨.output, bytes⟩ :: w.chunks }

/-- Writes text to the output. -/
def write (text : String) : Works Unit :=
  writeBytes text.toUTF8

/-- Writes text to the error stream. -/
def warn (text : String) : Works Unit :=
  modify fun w => { w with chunks := .err text :: w.chunks }

/-- Changes files if that succeeds, and says whether it does not. -/
def change (result : Files → Except Files.Fault Files) : Works (Option Files.Fault) := do
  match result (← get).files with
  | .ok files =>
    modify fun w => { w with files }
    return none
  | .error fault => return some fault

end Works

namespace Invocation

/-- Runs a program. -/
def run (i : Invocation) (work : Works Unit) : Ran :=
  let w := (ExceptT.run work { files := i.files }).2
  { Ran.exited w.files w.chunks.reverse w.code with taken := w.taken }

/-- Says what is wrong, and lets the program end with a code. -/
def complain (i : Invocation) (text : String) (code : Nat := 1) : Works Unit := do
  Works.warn (i.name ++ ": " ++ text ++ "\n")
  Works.setCode code

/-- Says what is wrong and ends the program. -/
def refuse {α : Type} (i : Invocation) (text : String) (code : Nat := 1) : Works α := do
  i.complain text code
  Works.stop

/-- Says what is wrong with a command line and ends the program. -/
def misused {α : Type} (i : Invocation) (text : String) (code : Nat := 1) : Works α :=
  i.refuse (text ++ "\nTry '" ++ i.name ++ " --help' for more information.") code

/-- Reads the switches of a command line. -/
def switches (i : Invocation) (known : List Switch) (code : Nat := 1) : Works Switched := do
  match readSwitches known i.arguments with
  | .ok s => return s
  | .error fault => i.misused fault.message code

/-- All of the input. -/
def readInput (i : Invocation) : Works ByteArray := do
  let left := i.input.extract (← get).taken i.input.size
  modify fun w => { w with taken := i.input.size }
  return left

/-- The path of the file that is always empty. -/
def emptyFile : String := "/dev/null"

/-- The bytes of a file. -/
def readFile (name : String) : Works (Except Files.Fault ByteArray) := do
  if name = emptyFile then return .ok .empty
  else return (← get).files.readBytes ⟨name⟩

/-- The bytes of an operand: of a file, or of the input for a dash. -/
def readOperand (i : Invocation) (name : String) : Works (Except Files.Fault ByteArray) := do
  if name != "-" then readFile name
  else if i.readsDirectory then return .error .isDirectory
  else return .ok (← i.readInput)

end Invocation

end FirmwareKit.Host
