import FirmwareKit.Issue
import FirmwareKit.Patch.Spec

/-! What a finished command hands to the report, and the exit status it means. -/

namespace FirmwareKit

/-- The findings of a check. When the language directory is missing nothing was looked at. -/
structure CheckSummary where
  langDir : Path
  langDirMissing : Bool
  issues : List Issue
  filesChecked : Nat
  tablesChecked : Nat
  deriving DecidableEq, Repr

/-- The outcome of every configured patch, in order. -/
structure PatchSummary where
  results : List (Patch.Spec × Patch.Outcome)
  dryRun : Bool
  deriving DecidableEq, Repr

/-- What a command did. -/
inductive Summary where
  | check (summary : CheckSummary)
  | patch (summary : PatchSummary)
  | init (path : Path)
  deriving DecidableEq, Repr

/-- A summary, and whether issues in it make the command fail. -/
structure CommandResult where
  summary : Summary
  exitOnIssues : Bool
  deriving DecidableEq, Repr

/-- How a command ends: success, issues under the strict option, or an error. -/
inductive ExitStatus where
  | success | failure | error
  deriving DecidableEq, Repr

namespace ExitStatus

def code : ExitStatus → Nat
  | success => 0
  | failure => 1
  | error => 2

end ExitStatus

namespace CommandResult

def issueCount (r : CommandResult) : Nat :=
  match r.summary with
  | .check summary => summary.issues.length
  | .patch _ | .init _ => 0

/-- Issues fail the command only if it was asked to. -/
def exitStatus (r : CommandResult) : ExitStatus :=
  if r.exitOnIssues && 0 < r.issueCount then .failure else .success

end CommandResult

end FirmwareKit
