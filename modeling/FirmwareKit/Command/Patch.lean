import FirmwareKit.Arguments.Request
import FirmwareKit.Command.Printed
import FirmwareKit.Config.Discovery
import FirmwareKit.Summary
import FirmwareKit.Host.Environment

/-! The patch command. It resolves the project's root and settings, and applies every
configured patch in the system's environment or in the dry one. -/

namespace FirmwareKit.Patch

/-- The patches of a project, resolved against its root. -/
def specs (files : Files) (root : Option Path) : Except Failure (List Spec) :=
  match files.absoluteRoot root with
  | .error e => .error e
  | .ok root => (Config.load files root).map fun loaded =>
    loaded.config.patches.map (Spec.resolve root)

/-- The environment that options ask for. -/
def Options.environment (options : Options) : Environment Files :=
  if options.dryRun then Host.dryEnvironment else Host.environment

/-- A whole run over the patches of a project, with the calls made and the files at the end. -/
def course (files : Files) (options : Options) : Course Files (List (Spec × Outcome)) :=
  match specs files options.root with
  | .error e => ⟨[], [], files, .error e⟩
  | .ok specs => applyAll options.environment options.verbose specs files

/-- The patch command, with the files it leaves behind. -/
def run (files : Files) (options : Options) : Printed CommandResult × Files :=
  let c := course files options
  (⟨c.notices, c.outcome.map fun results => ⟨.patch ⟨results, options.dryRun⟩, false⟩⟩, c.state)

end FirmwareKit.Patch
