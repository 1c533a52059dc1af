import FirmwareKit.Host.Tools.Printing
import FirmwareKit.Host.Tools.Lines

/-! The program that lists what is in directories, in the order of names. -/

namespace FirmwareKit.Host.Tools

/-- How entries are listed. -/
structure Listing where
  showsHidden : Bool
  showsDots : Bool
  marksFiles : Bool
  marksDirs : Bool
  isReversed : Bool
  isDeep : Bool
  isRow : Bool

namespace Listing

/-- A name with a mark behind it that tells what it is. -/
def marked (o : Listing) (name : String) (node : Node) : String :=
  name ++ match node with
    | .dir _ | .locked => if o.marksFiles || o.marksDirs then "/" else ""
    | .link _ => if o.marksFiles then "@" else ""
    | .file _ | .unnamed _ => ""

/-- Entries in the order in which they are listed. -/
def ordered (o : Listing) (entries : List (String × Node)) : List (String × Node) :=
  if o.isReversed then (Node.byName entries).reverse else Node.byName entries

/-- The lines of some entries. -/
def lines (o : Listing) (entries : List (String × Node)) : String :=
  let texts := entries.map fun (name, node) => o.marked name node
  if texts.isEmpty then ""
  else if o.isRow then ", ".intercalate texts ++ "\n"
  else String.join (texts.map (· ++ "\n"))

/-- The entries of a directory that are listed. -/
def visibleEntries (o : Listing) (entries : List (String × Node)) : List (String × Node) :=
  let shown := entries.filter fun (name, _) => o.showsHidden || o.showsDots || !name.startsWith "."
  let dots := if o.showsDots then [(".", Node.emptyDir), ("..", Node.emptyDir)] else []
  o.ordered (dots ++ shown)

/-- A directory under its name, and those in it; `fuel` is more than how deep it is. -/
def directory (o : Listing) (headed : Bool) :
    (fuel : Nat) → String → List (String × Node) → List String
  | 0, _, _ => []
  | fuel + 1, name, entries =>
    let shown := o.visibleEntries entries
    let here := (if headed then name ++ ":\n" else "") ++ o.lines shown
    if !o.isDeep then [here]
    else
      here :: shown.flatMap fun (child, node) =>
        match node with
        | .dir below =>
          if child = "." || child = ".." then []
          else
            directory o true fuel
              (if name.endsWith "/" then name ++ child else name ++ "/" ++ child)
            below
        | _ => []

end Listing

/-- Lists files and what is in directories. -/
def ls (i : Invocation) : Works Unit := do
  let s ← i.switches ([{ word := "all", letter := some 'a' },
    { word := "almost-all", letter := some 'A' }, { letter := some '1' },
    { word := "directory", letter := some 'd' }, { word := "recursive", letter := some 'R' },
    { word := "reverse", letter := some 'r' }, { letter := some 'p' },
    { word := "classify", letter := some 'F' }, { letter := some 'm' }, { letter := some 'q' },
    { word := "literal", letter := some 'N' }] ++
    ("BCHLSUhltx".toList.map fun c => { letter := some c }) ++ shared) 2
  let o : Listing :=
    { showsHidden := s.has "A", showsDots := s.has "a", marksFiles := s.has "F"
      marksDirs := s.has "p", isReversed := s.has "r", isDeep := s.has "R", isRow := s.has "m" }
  let files := (← get).files
  let names := if s.operands.isEmpty then ["."] else s.operands
  let mut found := #[]
  for name in names do
    let aim : Files.Aim := if s.has "d" || s.has "F" then .entry else .target
    let node := match files.find aim ⟨name⟩ with
      | .error .notFound => files.find .entry ⟨name⟩
      | node => node
    match node with
    | .error fault => i.complain ("cannot access " ++ quote name ++ ": " ++ fault.reason) 2
    | .ok node =>
      match node, s.has "d" with
      | .locked, false =>
        i.complain ("cannot open directory " ++ quote name ++ ": " ++
          Files.Fault.permissionDenied.reason) 2
      | _, _ => found := found.push (name, node)
  let isListed : String × Node → Bool := fun (_, node) => s.has "d" || !node.isDir
  let plain := o.ordered (found.toList.filter isListed)
  let dirs := o.ordered (found.toList.filter fun pair => !isListed pair)
  let headed := 1 < names.length || o.isDeep
  let depth (node : Node) : Nat := node.descendants.length + 1
  let parts := (if plain.isEmpty then [] else [o.lines plain]) ++ dirs.flatMap fun (name, node) =>
    o.directory headed (depth node) name node.entries
  Works.write ("\n".intercalate parts)

/-- The path of a place in the tree. -/
def pathOf (names : List String) : String :=
  "/" ++ "/".intercalate names

/-- Prints where links lead. -/
def readlink (i : Invocation) : Works Unit := do
  let s ← i.switches ([{ word := "canonicalize", letter := some 'f' },
    { word := "canonicalize-existing", letter := some 'e' },
    { word := "no-newline", letter := some 'n' }, { word := "quiet", letter := some 'q' },
    { word := "silent", letter := some 's' }, { word := "verbose", letter := some 'v' }] ++ shared)
  if s.operands.isEmpty then i.misused "missing operand"
  let ending := if s.has "n" && s.operands.length = 1 then "" else "\n"
  for name in s.operands do
    let files := (← get).files
    let found : Except Files.Fault String :=
      if s.has "f" || s.has "e" then
        match files.locate .target ⟨withoutSlashes name⟩ with
        | .error fault => .error fault
        | .ok (names, node) =>
          if node.isNone && s.has "e" then .error .notFound else .ok (pathOf names)
      else
        match files.find .entry ⟨name⟩ with
        | .error fault => .error fault
        | .ok (.link target) => .ok target
        | .ok _ => .error .notEmpty
    match found with
    | .ok text => Works.write (text ++ ending)
    | .error fault =>
      Works.setCode 1
      if s.has "v" then
        i.complain (shellName name ++ ": " ++
          if fault = .notEmpty then "Invalid argument" else fault.reason)

/-- Prints the paths of files without links and dots in them. -/
def realpath (i : Invocation) : Works Unit := do
  let s ← i.switches ([{ word := "canonicalize-existing", letter := some 'e' },
    { word := "canonicalize-missing", letter := some 'm' }, { word := "quiet", letter := some 'q' },
    { word := "zero", letter := some 'z' }] ++ shared)
  if s.operands.isEmpty then i.misused "missing operand"
  for name in s.operands do
    let files := (← get).files
    let found : Except Files.Fault String :=
      match files.locate .target ⟨withoutSlashes name⟩ with
      | .error fault => .error fault
      | .ok (names, node) =>
        if node.isNone && s.has "e" then .error .notFound else .ok (pathOf names)
    match found with
    | .ok text => Works.write (text ++ if s.has "z" then "\x00" else "\n")
    | .error fault =>
      Works.setCode 1
      if !s.has "q" then i.complain (shellName name ++ ": " ++ fault.reason)

end FirmwareKit.Host.Tools
