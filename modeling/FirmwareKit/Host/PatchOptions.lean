import FirmwareKit.Diff.Hunk
import FirmwareKit.Host.ShellName
import FirmwareKit.Host.Switches

/-! The options of the program that applies diffs. Some values end it at once. -/

namespace FirmwareKit.Host

/-- Why a run ends before its time: a problem of which it is told, or a use of the program that is
not allowed. -/
inductive PatchStop where
  | fatal (text : String)
  | misused (text : Option String)
  deriving DecidableEq, Repr

/-- What is said at such an end. -/
def PatchStop.message : PatchStop → String
  | fatal text => "patch: **** " ++ text ++ "\n"
  | misused text =>
    (match text with
      | some text => "patch: " ++ text ++ "\n"
      | none => "") ++ "patch: Try 'patch --help' for more information.\n"

/-- What is done about a file that seems to be changed already, and about other doubts: they are put
as questions, or a part is left out, or it is applied as it is, or it is applied as it fits best. -/
structure Doubts where
  skips : Bool := false
  insists : Bool := false
  assumes : Bool := false
  deriving DecidableEq, Repr

/-- What the name of an old file gets that is kept. -/
structure KeptName where
  front : Option String := none
  baseFront : Option String := none
  back : Option String := none
  deriving DecidableEq, Repr

namespace KeptName

/-- The name under which an old file is kept. -/
def apply (k : KeptName) (path : String) : String :=
  let base := (path.toList.reverse.takeWhile (· != '/')).reverse
  let dir := path.toList.take (path.length - base.length)
  let back := k.back.getD (if k.front.isSome || k.baseFront.isSome then "" else ".orig")
  k.front.getD "" ++ String.ofList dir ++ k.baseFront.getD "" ++ String.ofList base ++ back

end KeptName

/-- The options of a run. -/
structure PatchOptions where
  target : Option String := none
  /-- The file with the diffs, unless they come from the input. -/
  diff : Option String := none
  directory : Option String := none
  strip : Option Nat := none
  fuzz : Nat := 2
  kind : Option Diff.Kind := none
  reversed : Bool := false
  doubts : Doubts := {}
  dry : Bool := false
  silent : Bool := false
  removesEmpty : Bool := false
  keepsOld : Bool := false
  /-- Old files are kept if the new ones are in doubt. -/
  keepsDoubtful : Bool := true
  keptName : KeptName := {}
  blanksAlike : Bool := false
  keepsReturns : Bool := false
  strict : Bool := false
  followsLinks : Bool := false
  output : Option String := none
  rejects : Option String := none
  rejectKind : Option Diff.Kind := none
  deriving DecidableEq, Repr

namespace PatchOptions

/-- The switches by their words, some of which say the same as others. -/
def switches : List Switch :=
  [⟨"backup", some 'b', some false⟩, ⟨"prefix", some 'B', some true⟩,
    ⟨"context", some 'c', some false⟩, ⟨"directory", some 'd', some true⟩,
    ⟨"ifdef", some 'D', some true⟩, ⟨"ed", some 'e', some false⟩,
    ⟨"remove-empty-files", some 'E', some false⟩, ⟨"force", some 'f', some false⟩,
    ⟨"fuzz", some 'F', some true⟩, ⟨"get", some 'g', some true⟩,
    ⟨"input", some 'i', some true⟩, ⟨"ignore-whitespace", some 'l', some false⟩,
    ⟨"merge", some 'm', none⟩, ⟨"normal", some 'n', some false⟩,
    ⟨"forward", some 'N', some false⟩, ⟨"output", some 'o', some true⟩,
    ⟨"strip", some 'p', some true⟩, ⟨"reject-file", some 'r', some true⟩,
    ⟨"reverse", some 'R', some false⟩, ⟨"quiet", some 's', some false⟩,
    ⟨"silent", some 's', some false⟩, ⟨"batch", some 't', some false⟩,
    ⟨"set-time", some 'T', some false⟩, ⟨"unified", some 'u', some false⟩,
    ⟨"version", some 'v', some false⟩, ⟨"version-control", some 'V', some true⟩,
    ⟨"debug", some 'x', some true⟩, ⟨"basename-prefix", some 'Y', some true⟩,
    ⟨"suffix", some 'z', some true⟩, ⟨"set-utc", some 'Z', some false⟩,
    ⟨"dry-run", none, some false⟩, ⟨"verbose", none, some false⟩,
    ⟨"binary", none, some false⟩, ⟨"help", none, some false⟩,
    ⟨"backup-if-mismatch", none, some false⟩, ⟨"no-backup-if-mismatch", none, some false⟩,
    ⟨"posix", none, some false⟩, ⟨"quoting-style", none, some true⟩,
    ⟨"reject-format", none, some true⟩, ⟨"read-only", none, some true⟩,
    ⟨"follow-symlinks", none, some false⟩]

/-- A whole number with a sign or without one. -/
def number (what value : String) (negative : Bool) : Except PatchStop Int :=
  let digits := match value.toList with
    | '-' :: digits | '+' :: digits => digits
    | digits => digits
  if digits.isEmpty || !digits.all Char.isDigit then
    .error (.fatal (what ++ " " ++ shellName value ++ " is not a number"))
  else
    let n : Int := digits.foldl (fun n c => n * 10 + (c.toNat - '0'.toNat : Nat)) 0
    let n := if value.startsWith "-" then -n else n
    if n < 0 && !negative then .error (.fatal (what ++ " " ++ shellName value ++ " is negative"))
    else .ok n

/-- Text that may not be empty. -/
def filled (what value : String) : Except PatchStop String :=
  if value.isEmpty then .error (.fatal (what ++ " is empty")) else .ok value

/-- The options with one more switch. -/
def add (o : PatchOptions) (name value : String) : Except PatchStop PatchOptions :=
  match name with
  | "b" => .ok { o with keepsOld := true }
  | "B" => do return { o with keptName.front := some (← filled "backup prefix" value) }
  | "c" => .ok { o with kind := some .context }
  | "d" => .ok { o with directory := some value }
  | "e" => .ok { o with kind := some .edScript }
  | "E" => .ok { o with removesEmpty := true }
  | "f" => .ok { o with doubts.insists := true }
  | "F" => do return { o with fuzz := (← number "fuzz factor" value false).toNat }
  | "g" => do
    let _ ← number "get option value" value true
    return o
  | "i" => .ok { o with diff := some value }
  | "l" => .ok { o with blanksAlike := true }
  | "n" => .ok { o with kind := some .normal }
  | "N" => .ok { o with doubts.skips := true }
  | "o" => .ok { o with output := some value }
  | "p" => do return { o with strip := some (← number "strip count" value false).toNat }
  | "r" => .ok { o with rejects := some value }
  | "R" => .ok { o with reversed := true }
  | "s" => .ok { o with silent := true }
  | "t" => .ok { o with doubts.assumes := true }
  | "u" => .ok { o with kind := some .unified }
  | "x" => do
    let _ ← number "debugging option" value true
    return o
  | "Y" => do return { o with keptName.baseFront := some (← filled "backup basename prefix" value) }
  | "z" => do return { o with keptName.back := some (← filled "backup suffix" value) }
  | "dry-run" => .ok { o with dry := true }
  | "binary" => .ok { o with keepsReturns := true }
  | "backup-if-mismatch" => .ok { o with keepsDoubtful := true }
  | "no-backup-if-mismatch" => .ok { o with keepsDoubtful := false }
  | "posix" => .ok { o with strict := true }
  | "quoting-style" =>
    if ["literal", "shell", "shell-always", "shell-escape", "shell-escape-always", "c", "c-maybe",
        "escape", "locale", "clocale"].contains value then .ok o
    else .error (.misused (some ("invalid argument '" ++ value ++ "' for 'quoting style'")))
  | "reject-format" =>
    if value = "context" then .ok { o with rejectKind := some .newContext }
    else if value = "unified" then .ok { o with rejectKind := some .unified }
    else .error (.misused none)
  | "read-only" =>
    if ["ignore", "warn", "fail"].contains value then .ok o else .error (.misused none)
  | "follow-symlinks" => .ok { o with followsLinks := true }
  | _ => .ok o

/-- The options with the operands: a file, and a file with diffs. -/
def operands (o : PatchOptions) : List String → Except PatchStop PatchOptions
  | [] => .ok o
  | [target] => .ok { o with target := some target }
  | [target, diff] => .ok { o with target := some target, diff := some diff }
  | _ :: _ :: extra :: _ => .error (.misused (some (shellName extra ++ ": extra operand")))

/-- The options that arguments give. -/
def parse (arguments : List String) : Except PatchStop PatchOptions :=
  match readSwitches switches arguments with
  | .error fault => .error (.misused (some fault.message))
  | .ok switched => do
    let o ← switched.given.foldlM (fun o (name, value) => o.add name value)
      ({} : PatchOptions)
    o.operands switched.operands

end PatchOptions

end FirmwareKit.Host
