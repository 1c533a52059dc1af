import FirmwareKit.Config.Validation
import FirmwareKit.Files.Basic
import FirmwareKit.Json.Fault
import FirmwareKit.Patch.Spec
import FirmwareKit.Signal

/-! Why a command ends with an error. -/

namespace FirmwareKit

/-- How a program ended that was not successful: with an exit code, or by a signal. -/
inductive Termination where
  | exited (code : Nat)
  | signalled (signal : Nat)
  deriving DecidableEq, Repr

namespace Termination

def describe : Termination → String
  | exited code => "exit status: " ++ toString code
  | signalled signal =>
    "signal: " ++ toString signal ++
      match signalName? signal with
      | some name => " (SIG" ++ name ++ ")"
      | none => ""

end Termination

/-- Why a command ends with an error. Environments other than the system's can refuse actions for
reasons of their own. -/
inductive Failure where
  | emptyRoot
  | rootUnresolved (root : Path) (fault : Files.Fault)
  | configUnreadable (path : Path) (fault : Files.Fault)
  | configMalformed (path : Path) (error : Json.Error)
  | configInvalid (problem : Config.Problem)
  | notDirectory (path : Path)
  | directoryUnlistable (path : Path) (fault : Files.Fault)
  | tableUnreadable (path : Path) (fault : Files.Fault)
  | tableMalformed (path : Path) (error : Json.Error)
  | tableUnnamed (path : Path)
  | sourceUnreadable (path : Path) (fault : Files.Fault)
  | targetMissing (path : Path)
  | patchMissing (path : Path)
  | programUnavailable (command : ShellCommand) (fault : Files.Fault)
  | commandFailed (command : ShellCommand) (how : Termination)
  | notCreated (path : Path) (fault : Files.Fault)
  | configExists
  | configUnwritable (fault : Files.Fault)
  | refused (reason : String)
  | formattingOverflow

namespace Failure

/-- The message of a failure, the cause behind what it kept from being done. -/
def message : Failure → String
  | emptyRoot => "Invalid root directory: : cannot make an empty path absolute"
  | rootUnresolved root fault => "Invalid root directory: " ++ root.text ++ ": " ++ fault.message
  | configUnreadable path fault =>
    "Failed to read config file: " ++ path.text ++ ": " ++ fault.message
  | configMalformed path error =>
    "Failed to parse config file: " ++ path.text ++ ": " ++ error.message
  | configInvalid problem => problem.message
  | notDirectory path => "'" ++ path.text ++ "' is not a directory."
  | directoryUnlistable path fault => "Could not list " ++ path.text ++ ": " ++ fault.message
  | tableUnreadable path fault => "Could not read " ++ path.text ++ ": " ++ fault.message
  | tableMalformed path error =>
    "Invalid JSON format in " ++ path.text ++ ": " ++ error.message
  | tableUnnamed path => "Invalid file name: " ++ path.text
  | sourceUnreadable path fault =>
    "Could not read source file " ++ path.text ++ ": " ++ fault.message
  | targetMissing path => "Patch target not found: " ++ path.text
  | patchMissing path => "Patch file not found: " ++ path.text
  | programUnavailable command fault =>
    "Failed to run `" ++ command.display ++ "`: " ++ fault.message
  | commandFailed command how => "`" ++ command.display ++ "` failed (" ++ how.describe ++ ")"
  | notCreated path fault => "Failed to create " ++ path.text ++ ": " ++ fault.message
  | configExists => Config.fileName ++ " already exists"
  | configUnwritable fault => "Failed to write " ++ Config.fileName ++ ": " ++ fault.message
  | refused reason => reason
  | formattingOverflow => "Formatting argument out of range"

end Failure

end FirmwareKit
