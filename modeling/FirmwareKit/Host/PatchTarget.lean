import FirmwareKit.Diff.Header
import FirmwareKit.Host.PatchRun

/-! Which file a diff is for. A file that is given is taken; otherwise the names in the diff
are looked at. If the diff seems to be applied already, that is a doubt. Nobody
answers questions. -/

namespace FirmwareKit.Host

/-- What is known of a part before its hunks are read: the file, if the diff is undone, and if the
part is left out. -/
structure Aimed where
  path : Option String
  reversed : Bool
  skips : Bool := false
  deriving DecidableEq, Repr

namespace PatchJob

open Diff Text

/-- What becomes of the doubt that a diff is applied already. -/
inductive Settled where
  | asIs | turned | skipped
  deriving DecidableEq, Repr

/-- Settles the doubt that a diff is applied already. -/
def settleDoubt (o : PatchOptions) (reversed : Bool) (doubt : String) : PatchJob Settled := do
  if o.doubts.skips || !(o.doubts.insists && o.silent) then say doubt
  if o.doubts.skips then
    say "  Skipping patch.\n"
    return .skipped
  else if o.doubts.insists then
    if !o.silent then say "  Applying it anyway.\n"
    return .asIs
  else if o.doubts.assumes then
    say (if reversed then "  Ignoring -R.\n" else "  Assuming -R.\n")
    return .turned
  else
    say ((if reversed then "  Ignore -R? [n] \n" else "  Assume -R? [n] \n") ++
      "Apply anyway? [n] \n" ++ if o.silent then "" else "Skipping patch.\n")
    return .skipped

/-- What the diff says of the file before it, or behind it. -/
def presence (h : Header) (after : Bool) : Presence :=
  if after then h.new else h.old

/-- How much a presence tells apart from a file with lines. -/
def weight : Presence → Nat
  | .full => 0
  | .empty => 1
  | .absent => 2

/-- The file looks as if the diff were applied. An empty file can be made or removed. -/
def looksDone (h : Header) (reversed missing isEmpty : Bool) : Bool :=
  (!isEmpty).toNat < weight (presence h (reversed ^^ isEmpty)) &&
    !(isEmpty && presence h (reversed ^^ missing) = .empty &&
      presence h (!reversed ^^ missing) = .absent)

/-- Looks if the diff is applied already; if it looks so, that is settled. -/
def doubtFile (o : PatchOptions) (h : Header) (reversed : Bool) (path : String)
    (missing isEmpty : Bool) : PatchJob (Option Settled) := do
  if looksDone h reversed missing isEmpty then
    let deed := if missing then "delete" else if isEmpty then "empty out" else "create"
    let state :=
      if missing then "does not exist" else if isEmpty then "is already empty"
      else "already exists"
    return some (← settleDoubt o reversed
      ("The next patch" ++ (if reversed then ", when reversed," else "") ++ " would " ++ deed ++
        " the file " ++ shellName path ++ ",\nwhich " ++ state ++ "!"))
  else return none

/-- The bits of a mode that tell what kind of file it is. -/
def kindBits (mode : Nat) : Nat :=
  mode / 0o10000 % 0o20 * 0o10000

/-- The bits of a regular file, of a link, and of a directory. -/
def regularKind : Nat := 0o100000

def linkKind : Nat := 0o120000

def dirKind : Nat := 0o40000

/-- The kind of file that a diff is for: a regular one unless it says otherwise; none if it would
become a file of another kind. -/
def fileKind? (h : Header) : Option Nat :=
  let regular (bits : Nat) : Nat := if bits = 0 then regularKind else bits
  let old := kindBits h.oldMode
  let new := kindBits h.newMode
  if old != 0 && new != 0 && old != new then none
  else some (regular (if old = 0 then new else old))

/-- The kind of what was found. -/
def kindOf : Target → Nat
  | .missing => 0
  | .special => dirKind
  | .link _ => linkKind
  | .file _ => regularKind

/-- A name that leads out of the working directory. -/
def isDangerous (name : String) : Bool :=
  name.startsWith "/" || (Files.piecesOf name).contains ".."

/-- The starts of a name that end before a slash. -/
def parents (name : String) : List Path :=
  Files.parentsOf ⟨name⟩

/-- The last part of a name. -/
def baseLength (name : String) : Nat :=
  (String.ofList ((name.toList.reverse.dropWhile (· == '/')).takeWhile (· != '/'))).utf8ByteSize

/-- The name does not lead out of the working directory; otherwise that is said once. -/
def isHarmless (name : String) : PatchJob Bool := do
  if isDangerous name then
    if !(← get).refused.contains name then
      say ("Ignoring potentially dangerous file name " ++ shellName name ++ "\n")
      modify fun r => { r with refused := name :: r.refused }
    return false
  else return true

/-- The best of some names: those in the fewest directories, of them those with the shortest last
part, of them the shortest ones, and of them the first that is not dangerous. -/
def bestName (names : List String) : PatchJob (Option String) := do
  let least (measure : String → Nat) (names : List String) : List String :=
    match (names.map measure).min? with
    | none => []
    | some n => names.filter (measure · == n)
  let best := least String.utf8ByteSize (least baseLength (least (parents · |>.length) names))
  names.findM? fun name => do return (← isHarmless name) && best.contains name

/-- A name as text. -/
def shown (name : Option Row) : Option String :=
  name.map fun name => Text.showBytes (ByteArray.mk name.toArray)

/-- A name in a list of changed files does not count if the diff has other names, and no file is
given. -/
def dropIndex (o : PatchOptions) (s : Start) : Start :=
  if o.target.isNone && !o.strict && (s.old.name.isSome || s.new.name.isSome) then
    { s with header.index := none }
  else s

/-- The names that a diff gives a file. -/
def namesIn (s : Start) : List String :=
  [s.old.name, s.new.name, s.header.index].filterMap shown

/-- A diff gives a file another name, but there are no two names. -/
def isNameless (s : Start) (found : Option String) : PatchJob Bool := do
  if !(s.header.isRename || s.header.isCopy) then return false
  match found, shown s.old.name, shown s.new.name with
  | some name, some old, some new =>
    return !((name = old || name = new) && (← isHarmless old) && (← isHarmless new))
  | _, _, _ => return true

/-- What a file is for a part. If only the diff names it, it is missing if it will be removed, and
if its name leads upwards. -/
def targetOf (o : PatchOptions) (r : PatchRun) (path : String) : Target :=
  if o.target.isNone &&
      (r.deed? path = some .leaving || (Files.piecesOf path).contains "..") then
    .missing
  else r.targetAt o.followsLinks path

/-- The file that the names in a diff lead to. -/
def aimByNames (o : PatchOptions) (s : Start) : PatchJob Aimed := do
  let r ← get
  let h := s.header
  let names := namesIn s
  let target := targetOf o r
  let there := names.filter (target · != .missing)
  if o.strict then return ⟨← there.findM? isHarmless, o.reversed, false⟩
  else
    let found ← bestName there
    let settled ←
      match found, names.getLast? with
      | some name, _ =>
        if some (kindOf (target name)) = fileKind? h then
          doubtFile o h o.reversed name false (target name).isEmpty
        else pure none
      | none, some name => doubtFile o h o.reversed name true true
      | none, none => pure none
    let reversed := o.reversed ^^ settled = some .turned
    let found := found <|> if settled.isSome then names.getLast? else none
    let found ←
      if found.isSome || presence h reversed = .full then pure found
      else
        let missing (name : String) : Nat :=
          ((parents name).dropWhile fun p => r.files.isDir p).length
        let fewest := ((names.map missing).min?).getD 0
        bestName (names.filter (missing · == fewest))
    return ⟨found, reversed, settled = some .skipped⟩

/-- The file that a part is for. -/
def aim (o : PatchOptions) (s : Start) : PatchJob Aimed := do
  match o.target with
  | none =>
    let aimed ← aimByNames o s
    if ← isNameless s aimed.path then
      say ("Cannot " ++ (if s.header.isRename then "rename" else "copy") ++
        " file without two valid file names\n")
      fail
      return { aimed with skips := true }
    else return aimed
  | some path =>
    let target := targetOf o (← get) path
    let settled ←
      if target = .missing || some (kindOf target) = fileKind? s.header then
        doubtFile o s.header o.reversed path (target = .missing) target.isEmpty
      else pure none
    return ⟨some path, o.reversed ^^ settled = some .turned, settled = some .skipped⟩

end PatchJob

end FirmwareKit.Host
