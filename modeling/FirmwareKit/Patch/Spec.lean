import FirmwareKit.Config.Basic
import FirmwareKit.Path

/-! A configured patch with its paths resolved, the command that applies it, and
what became of it. -/

namespace FirmwareKit

/-- A program and its arguments, run without a shell. -/
structure ShellCommand where
  program : String
  args : List String
  deriving DecidableEq, Repr

namespace ShellCommand

/-- The program and its arguments, separated by single spaces. -/
def display (c : ShellCommand) : String :=
  c.args.foldl (fun text arg => text ++ " " ++ arg) c.program

end ShellCommand

namespace Patch

/-- A patch entry with every path resolved against the project's root. -/
structure Spec where
  dependencyDir : Path
  target : Path
  patch : Path
  sentinel : Path
  deriving DecidableEq, Repr

namespace Spec

/-- The paths of a patch entry, as seen from the project's root. -/
def resolve (root : Path) (entry : PatchEntry) : Spec :=
  let dependencyDir := root.join entry.dependencyDir
  { dependencyDir
    target := dependencyDir.join entry.target
    patch := root.join entry.patch
    sentinel := dependencyDir.join entry.sentinel }

/-- The command that applies the patch to its target. -/
def command (s : Spec) : ShellCommand :=
  ⟨"patch", [s.target.text, s.patch.text]⟩

end Spec

/-- What became of a patch: its sentinel was there already, or it was applied now. -/
inductive Outcome where
  | alreadyApplied | applied
  deriving DecidableEq, Repr

end Patch

end FirmwareKit
