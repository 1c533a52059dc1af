import FirmwareKit.Disk
import FirmwareKit.Program

/-! The program on a real system: its request is carried out on the files that it can
look at, what it printed is shown in the colours that the environment asks for,
and the changed files are written. -/

namespace FirmwareKit.Console

/-- The environment variables that choose how the output looks. -/
def variableNames : List String :=
  ["CI", "CLICOLOR", "CLICOLOR_FORCE", "COLORTERM", "NO_COLOR", "TERM"]

/-- The environment variables of the console that are set. -/
def environment : IO (List (String × String)) := do
  let mut found := #[]
  for name in variableNames do
    if let some value ← IO.getEnv name then
      found := found.push (name, value)
  return found.toList

/-- A stream of the console is a terminal. -/
def isTerminal : Stream → IO Bool
  | .output => do (← IO.getStdout).isTty
  | .errors => do (← IO.getStderr).isTty

/-- Shows what was printed, each stream on its own. -/
def print (notices : List Notice) : IO Unit := do
  let palette := Palette.ofVariables (← isTerminal .output) (← environment)
  for notice in notices do
    let text := String.ofList (notice.render palette)
    match notice.stream with
    | .output => (← IO.getStdout).putStr text
    | .errors => (← IO.getStderr).putStr text

end FirmwareKit.Console

open FirmwareKit in
/-- Runs the program on the arguments behind its name. -/
def main (arguments : List String) : IO UInt32 := do
  let near := Program.places arguments
  let files ← Disk.load near
  let files ← Disk.load (near ++ Program.farPlaces files arguments)
  let environment ← Console.environment
  let onOutput := Arguments.wantsMarks (← Console.isTerminal .output) environment
  let onErrors := Arguments.wantsMarks (← Console.isTerminal .errors) environment
  let marks : Stream → Bool
    | .output => onOutput
    | .errors => onErrors
  let ended := Program.start marks 0 files arguments
  Disk.store files ended.files
  Console.print ended.notices
  return ended.code.toUInt32
