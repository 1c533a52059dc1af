import FirmwareKit.Host.Edit.Run
import FirmwareKit.Host.PatchProgram
import FirmwareKit.Host.Tools.Changing
import FirmwareKit.Host.Tools.Characters
import FirmwareKit.Host.Tools.Expression
import FirmwareKit.Host.Tools.Listing
import FirmwareKit.Host.Tools.Search
import FirmwareKit.Host.Tools.Sorting
import FirmwareKit.Host.Tools.Starting

/-! The programs of the system, by their names. -/

namespace FirmwareKit.Host

/-- Programs that start no others. -/
def tools : List (String × (Invocation → Works Unit)) :=
  [("[", Tools.bracket), ("arch", Tools.arch), ("basename", Tools.basename),
    ("cat", Tools.cat), ("cmp", Tools.cmp), ("cp", Tools.cp), ("cut", Tools.cut),
    ("dirname", Tools.dirname), ("echo", Tools.echo), ("expr", Tools.expr),
    ("false", fun _ => Works.setCode 1), ("grep", Tools.grep), ("head", Tools.head),
    ("id", Tools.id), ("ln", Tools.ln), ("ls", Tools.ls), ("mkdir", Tools.mkdir),
    ("mv", Tools.mv), ("nl", Tools.nl), ("printenv", Tools.printenv),
    ("printf", Tools.printf), ("pwd", Tools.pwd), ("readlink", Tools.readlink),
    ("realpath", Tools.realpath), ("rev", Tools.rev), ("rm", Tools.rm),
    ("rmdir", Tools.rmdir), ("sed", Tools.sed), ("seq", Tools.seq),
    ("sleep", Tools.sleep), ("sort", Tools.sort), ("tac", Tools.tac),
    ("tail", Tools.tail), ("tee", Tools.tee), ("test", Tools.test),
    ("touch", Tools.touch), ("tr", Tools.tr), ("true", fun _ => pure ()),
    ("tty", Tools.tty), ("uname", Tools.uname), ("uniq", Tools.uniq),
    ("wc", Tools.wc), ("whoami", Tools.whoami)]

/-- The programs of the system; each can start others up to a depth. -/
def programs : (depth : Nat) → Programs
  | 0, _ => none
  | depth + 1, name =>
    match tools.lookup name, name with
    | some tool, _ => some fun i => i.run (tool i)
    | none, "sh" | none, "dash" | none, "bash" => some (Shell.start (programs depth))
    | none, "nice" | none, "nohup" => some (Tools.runRest (programs depth) 0)
    | none, "timeout" => some (Tools.runRest (programs depth) 1)
    | none, "env" => some (Tools.env (programs depth))
    | none, "which" => some fun i => i.run (Tools.which (programs depth) i)
    | none, "xargs" => some fun i => i.run (Tools.xargs (programs depth) i)
    | none, "patch" => some fun i => PatchProgram.run i.files i.arguments i.input
    | none, _ => none

/-- How deep programs can start each other. -/
def maxDepth : Nat := 1000

/-- Places of the system that are there, but are no programs. -/
def systemPlaces : List String :=
  ["/", "/bin", "/dev", "/dev/null", "/etc", "/etc/passwd", "/root", "/usr", "/usr/bin", "/usr/lib"]

/-- Files of the system. -/
def systemFiles : List String :=
  ["/dev/null/", "/etc/passwd/"]

/-- The variables that programs are started with. -/
def startVariables : List (String × String) :=
  [("PATH", "/usr/bin:/bin"), ("LC_ALL", "C")]

/-- Why a program that is given by its path does not start. -/
def pathFault (files : Files) (program : String) : Files.Fault :=
  if systemPlaces.contains program then .permissionDenied
  else if systemFiles.any (program.startsWith ·) then .notDirectory
  else
    match files.find .target ⟨program⟩ with
    | .error fault => fault
    | .ok _ => .permissionDenied

/-- Starts a program by its name or its path. -/
def start (files : Files) (program : String) (arguments : List String) :
    Except Files.Fault Ran :=
  if (program :: arguments).any (·.toList.contains '\x00') then .error .nulInData
  else
    let known := if program.contains '/' then Shell.programAt? (programs maxDepth) program
      else programs maxDepth program
    match known with
    | some run => .ok (run { name := program, arguments, files, environment := startVariables })
    | none =>
      if program.contains '/' then .error (pathFault files program)
      else if program = "." || program = ".." then .error .permissionDenied
      else if Files.maxName < program.utf8ByteSize then .error .nameTooLong
      else .error .notFound

end FirmwareKit.Host
