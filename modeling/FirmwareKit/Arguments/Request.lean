import FirmwareKit.Arguments.Parse
import FirmwareKit.Path

/-! What a command line asks for: a command with its options, or nothing. -/

namespace FirmwareKit

namespace Check

/-- The options of a check. -/
structure Options where
  root : Option Path := none
  langRoot : Option Path := none
  strict : Bool := false
  verbose : Bool := false
  deriving DecidableEq, Repr

end Check

namespace Patch

/-- The options of a patch run. -/
structure Options where
  root : Option Path := none
  dryRun : Bool := false
  verbose : Bool := false
  deriving DecidableEq, Repr

end Patch

/-- What a command line asks for. -/
inductive Request where
  | nothing
  | check (options : Check.Options)
  | patch (options : Patch.Options)
  | init
  deriving DecidableEq, Repr

namespace Request

open Arguments

/-- The request of a command with the options read for it. -/
def ofSeen (page : Page) (s : Seen) : Except Problem Request :=
  match page with
  | .top => .ok .nothing
  | .check =>
    .ok (.check
      { root := (s.value? .root).map Path.mk, langRoot := (s.value? .langRoot).map Path.mk
        strict := s.has .strict, verbose := s.has .verbose })
  | .patch =>
    .ok (.patch
      { root := (s.value? .root).map Path.mk, dryRun := s.has .dryRun, verbose := s.has .verbose })
  | .init => .ok .init
  | .help => .error (.help .top)

/-- The request of a command and the arguments behind it. -/
def ofCommand (page : Page) (arguments : List String) : Except Problem Request :=
  match page with
  | .help => .error (helpFor .top arguments)
  | _ =>
    match readLine page arguments {} with
    | .error problem => .error problem
    | .ok (.command _ _) => .ok .nothing
    | .ok (.options s) => ofSeen page s

/-- The request of the arguments behind the program's name. -/
def parse (arguments : List String) : Except Problem Request :=
  match readLine .top arguments {} with
  | .error problem => .error problem
  | .ok (.options s) => ofSeen .top s
  | .ok (.command page rest) => ofCommand page rest

end Request

end FirmwareKit
