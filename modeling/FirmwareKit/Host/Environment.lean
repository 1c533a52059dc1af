import FirmwareKit.Host.Programs
import FirmwareKit.Patch.Run

/-! The environments that patches are applied in. The system's runs programs and makes
files. The dry one prints what it would do. -/

namespace FirmwareKit.Host

/-- Runs a command on the system. -/
def execute (command : ShellCommand) (files : Files) : Patch.Reply Files :=
  match start files command.program command.args with
  | .error fault => ⟨files, [], .error (.programUnavailable command fault)⟩
  | .ok ran =>
    ⟨ran.files, Chunk.notices ran.chunks,
      match ran.ended with
      | none => .ok ()
      | some how => .error (.commandFailed command how)⟩

/-- Makes an empty file, or empties the one that is there. -/
def touch (path : Path) (files : Files) : Patch.Reply Files :=
  match files.write path .empty with
  | .error fault => ⟨files, [], .error (.notCreated path fault)⟩
  | .ok files => ⟨files, [], .ok ()⟩

/-- The environment of a real run. -/
def environment : Patch.Environment Files where
  files := id
  execute := execute
  touch := touch

/-- The environment of a dry run. -/
def dryEnvironment : Patch.Environment Files where
  files := id
  execute command files :=
    ⟨files, [.line .output [.tinted .cyan "would run:", .plain (" " ++ command.display)]], .ok ()⟩
  touch path files :=
    ⟨files, [.line .output [.tinted .cyan "would create:", .plain (" " ++ path.text)]], .ok ()⟩

end FirmwareKit.Host
