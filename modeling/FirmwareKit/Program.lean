import FirmwareKit.Arguments.Request
import FirmwareKit.Command.Check
import FirmwareKit.Command.Init
import FirmwareKit.Command.Patch
import FirmwareKit.Report

/-! The program as a whole: a request is carried out on a tree of files, and what it
prints, how it ends and the files it leaves behind are its result. -/

namespace FirmwareKit.Program

/-- What a request comes to. -/
structure Run where
  notices : List Notice
  outcome : Except Failure ExitStatus
  files : Files

/-- The result of a command followed by its report, which may not come to its end. -/
def report (verbose : Bool) (printed : Printed CommandResult) (files : Files) : Run :=
  match printed.outcome with
  | .error e => ⟨printed.notices, .error e, files⟩
  | .ok result =>
    ⟨printed.notices ++ Report.notices verbose result.summary,
      if Report.isComplete verbose result.summary then .ok result.exitStatus
      else .error .formattingOverflow,
      files⟩

/-- A text about the command line, on a stream that shows marks or not. -/
def notice (marks : Stream → Bool) (stream : Stream) (text : Arguments.Marked) : Notice :=
  ⟨stream, [.plain (if marks stream then text.shown else text.text)]⟩

/-- Carries out a request; without a command the help is printed. -/
def carryOut (marks : Stream → Bool) (race : Nat) (files : Files) (request : Request) : Run :=
  match request with
  | .nothing => ⟨[notice marks .output Arguments.Page.top.helpText], .ok .success, files⟩
  | .check options => report options.verbose (Check.run race files options) files
  | .patch options =>
    let (printed, files) := Patch.run files options
    report options.verbose printed files
  | .init =>
    let (printed, files) := Init.run files
    report false printed files

/-- What a finished process leaves behind. -/
structure Ended where
  notices : List Notice
  code : Nat
  files : Files

/-- The exit code of a process that a failed formatting ends where it is. -/
def brokenOff : Nat := 101

/-- Runs the program on the arguments behind its name. -/
def start (marks : Stream → Bool) (race : Nat) (files : Files) (arguments : List String) : Ended :=
  match Request.parse arguments with
  | .error problem =>
    let stream := if problem.isRequest then Stream.output else .errors
    ⟨[notice marks stream problem.message], problem.code, files⟩
  | .ok request =>
    let run := carryOut marks race files request
    match run.outcome with
    | .ok status => ⟨run.notices, status.code, run.files⟩
    | .error .formattingOverflow => ⟨run.notices, brokenOff, run.files⟩
    | .error e =>
      ⟨run.notices ++ [.line .errors [.plain ("Error: " ++ e.message)]], ExitStatus.error.code,
        run.files⟩

/-- The places that a command line names itself, the working directory first. -/
def places (arguments : List String) : List Path :=
  match Request.parse arguments with
  | .ok (.check options) => ⟨"."⟩ :: options.root.toList
  | .ok (.patch options) => ⟨"."⟩ :: options.root.toList
  | .ok .init => [⟨"."⟩]
  | .ok .nothing | .error _ => []

/-- The places that the settings for a command line name. -/
def farPlaces (files : Files) (arguments : List String) : List Path :=
  match Request.parse arguments with
  | .ok (.check options) =>
    match (Check.resolve files options).outcome with
    | .ok project => [project.langDir]
    | .error _ => []
  | .ok (.patch options) =>
    match Patch.specs files options.root with
    | .ok specs => specs.flatMap fun s => [s.target, s.patch, s.sentinel]
    | .error _ => []
  | _ => []

end FirmwareKit.Program
