import FirmwareKit.Failure
import FirmwareKit.Glob
import FirmwareKit.Notice
import FirmwareKit.Usage

/-! Source files below a directory. The tree is walked once, every directory before
its content and names in order, without following links; a directory that cannot be
listed is told of behind it, and the walk goes on. A file is kept when it has a
wanted extension and no pattern stands for its path, as a whole or as seen from
the directory. The kept files are read in parallel. -/

namespace FirmwareKit

/-- The kept files in the order of the walk, and how many places could not be accessed. -/
structure Sources where
  files : List Path
  skipped : Nat
  deriving DecidableEq, Repr

namespace Sources

/-- A path below a directory, given by names. -/
def joinNames (base : Path) (names : List String) : Path :=
  names.foldl Path.join base

/-- The path has one of the extensions. -/
def hasExtension (extensions : List String) (path : Path) : Bool :=
  match path.extension? with
  | none => false
  | some extension => extensions.contains extension

/-- What a walk comes to: the place that names lead to, or a path that it cannot go on from. -/
inductive Visit where
  | met (names : List String)
  | barred (path : Path) (fault : Files.Fault)
  deriving DecidableEq, Repr

/-- What a walk comes to behind a directory: all that is in it, if it can be listed. -/
def behind (files : Files) (path : Path) (inside : List Visit) : List Visit :=
  match files.list path with
  | .error fault => [.barred path fault]
  | .ok _ => inside

mutual

/-- What a walk comes to at a node that names lead to, and below it. Links are not followed. -/
def visit (files : Files) (base : Path) (names : List String) : Node → List Visit
  | .dir entries =>
    .met names :: behind files (joinNames base names)
      ((Node.byName (visitEntries files base names entries)).flatMap (·.2))
  | .locked => .met names :: behind files (joinNames base names) []
  | .file _ | .unnamed _ | .link _ => [.met names]

def visitEntries (files : Files) (base : Path) (names : List String) :
    List (String × Node) → List (String × List Visit)
  | [] => []
  | (name, node) :: more =>
    (name, visit files base (names ++ [name]) node) :: visitEntries files base names more

end

/-- What a walk from a directory comes to. A link is followed if it is the directory itself. -/
def walk (files : Files) (base : Path) : List Visit :=
  match files.find .entry base with
  | .error fault => [.barred base fault]
  | .ok _ =>
    match files.find .target base with
    | .error fault => [.barred base fault]
    | .ok node => visit files base [] node

/-- The names that a visit leads to. -/
def Visit.place? : Visit → Option (List String)
  | met names => some names
  | barred _ _ => none

/-- The path that a visit cannot go on from, and why. -/
def Visit.fault? : Visit → Option (Path × Files.Fault)
  | met _ => none
  | barred path fault => some (path, fault)

/-- A pattern stands for the file that names lead to. None does if it is not called by a text. -/
def ignored (files : Files) (base : Path) (ignores : List Glob) (names : List String) : Bool :=
  let path := joinNames base names
  files.isNamed path &&
    ignores.any fun g => g.isMatch path.text || g.isMatch ("/".intercalate names)

/-- The file that names lead to is kept. -/
def keeps (files : Files) (base : Path) (extensions : List String) (ignores : List Glob)
    (names : List String) : Bool :=
  let path := joinNames base names
  files.isFile path && hasExtension extensions path && !ignored files base ignores names

/-- The source files below a directory, and how many paths the walk could not go on from. -/
def scan (files : Files) (base : Path) (extensions : List String) (ignores : List Glob) :
    Sources :=
  let visits := walk files base
  ⟨((visits.filterMap Visit.place?).filter (keeps files base extensions ignores)).map
      (joinNames base),
    (visits.filterMap Visit.fault?).length⟩

/-- What a verbose scan says about a path that it cannot go on from. -/
def complaint (path : Path) (fault : Files.Fault) : Notice :=
  .line .errors
    [.strong .yellow "warning:",
     .plain (" Cannot access path: IO error for operation on " ++ path.text ++ ": " ++
       fault.message)]

/-- All that a verbose scan says. -/
def complaints (files : Files) (base : Path) : List Notice :=
  ((walk files base).filterMap Visit.fault?).map fun (path, fault) => complaint path fault

/-- The uses in one file; none if it cannot be read. -/
def usesIn (files : Files) (extractor : Extractor) (path : Path) : List Usage :=
  match files.readText path with
  | .error _ => []
  | .ok text => extractor.usages path.text text

/-- Why a file cannot be read as a source. -/
def failure? (files : Files) (path : Path) : Option Failure :=
  match files.readText path with
  | .error fault => some (.sourceUnreadable path fault)
  | .ok _ => none

/-- The uses in files, in their order, or the failure of one that cannot be read. If there are
several, it is the race between the readers that decides which of them is the outcome. -/
def usages (files : Files) (extractor : Extractor) (race : Nat) (paths : List Path) :
    Except Failure (List Usage) :=
  let failures := paths.filterMap (failure? files)
  match failures[race % failures.length]? with
  | some e => .error e
  | none => .ok (paths.flatMap (usesIn files extractor))

end Sources

end FirmwareKit
