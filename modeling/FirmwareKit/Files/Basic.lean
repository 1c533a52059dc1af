import FirmwareKit.Files.Node
import FirmwareKit.Path

/-! Access to a tree of files by path. A path is followed component by component
from the root or from the working directory, through at most forty links. -/

namespace FirmwareKit

/-- A tree of files and the directory that relative paths start in. -/
structure Files where
  root : Node
  cwd : List String

namespace Files

/-- Why an access fails. -/
inductive Fault where
  | notFound | notDirectory | isDirectory | permissionDenied | alreadyExists | tooManyLinks
  | nameTooLong
  | notEmpty | nulInPath | nulInData | notUtf8
  deriving DecidableEq, Repr

namespace Fault

/-- What went wrong. -/
def reason : Fault → String
  | notFound => "No such file or directory"
  | permissionDenied => "Permission denied"
  | alreadyExists => "File exists"
  | notDirectory => "Not a directory"
  | isDirectory => "Is a directory"
  | nameTooLong => "File name too long"
  | notEmpty => "Directory not empty"
  | tooManyLinks => "Too many levels of symbolic links"
  | nulInPath => "file name contained an unexpected NUL byte"
  | nulInData => "nul byte found in provided data"
  | notUtf8 => "stream did not contain valid UTF-8"

/-- The number that the system gives the fault; it knows nothing of what a text can hold. -/
def number? : Fault → Option Nat
  | notFound => some 2
  | permissionDenied => some 13
  | alreadyExists => some 17
  | notDirectory => some 20
  | isDirectory => some 21
  | nameTooLong => some 36
  | notEmpty => some 39
  | tooManyLinks => some 40
  | nulInPath | nulInData | notUtf8 => none

/-- What is said about the fault. -/
def message (fault : Fault) : String :=
  match fault.number? with
  | some n => fault.reason ++ " (os error " ++ toString n ++ ")"
  | none => fault.reason

end Fault

/-- How many links a path can lead through. -/
def maxLinks : Nat := 40

/-- How many bytes the name of a file can have. -/
def maxName : Nat := 255

/-- How many bytes a path can have. -/
def maxPath : Nat := 4095

/-- The pieces of a path between slashes. -/
def piecesOf (text : String) : List String :=
  (Path.pieces text.toList).map String.ofList

/-- What a path is followed for: the entry of its last name, which may be a link, what it leads to
in the end, or a file that may have to be made. -/
inductive Aim where
  | entry | target | newFile
  deriving DecidableEq, Repr

/-- Where pieces of a path lead from a directory, and the node there. A last name that the
directory does not have leads to a free place. `links` more links can be followed. No file is made
under a name with a slash behind it. -/
def resolve (root : Node) (aim : Aim) (links : Nat) (here : List String) (pieces : List String) :
    Except Fault (List String × Option Node) :=
  match pieces with
  | [] => .ok (here, root.at? here)
  | "" :: rest | "." :: rest => resolve root aim links here rest
  | ".." :: rest => resolve root aim links here.dropLast rest
  | name :: rest =>
    if aim = .newFile && rest != [] && rest.all (· == "") then .error .isDirectory
    else if maxName < name.utf8ByteSize then .error .nameTooLong
    else
      match (root.at? here).bind (Node.child? name) with
      | none => if rest = [] then .ok (here ++ [name], none) else .error .notFound
      | some (.dir _) => resolve root aim links (here ++ [name]) rest
      | some (.file bytes) =>
        if rest = [] then .ok (here ++ [name], some (.file bytes)) else .error .notDirectory
      | some (.unnamed bytes) =>
        if rest = [] then .ok (here ++ [name], some (.unnamed bytes)) else .error .notDirectory
      | some .locked =>
        if rest.all (· == "") then .ok (here ++ [name], some .locked)
        else .error .permissionDenied
      | some (.link target) =>
        if rest = [] && aim = .entry then .ok (here ++ [name], some (.link target))
        else
          match links with
          | 0 => .error .tooManyLinks
          | links + 1 =>
            if target.isEmpty then .error .notFound
            else
              resolve root aim links (if (Path.mk target).isAbsolute then [] else here)
                (piecesOf target ++ rest)
termination_by (links, pieces.length)

/-- The directory that a path is followed from. The working directory may have been removed. -/
def start (f : Files) (p : Path) : Except Fault (List String) :=
  if p.isAbsolute then .ok []
  else
    match f.root.at? f.cwd with
    | some (.dir _) => .ok f.cwd
    | some .locked => .error .permissionDenied
    | _ => .error .notFound

/-- Where a path leads, and the node there. -/
def locate (f : Files) (aim : Aim) (p : Path) : Except Fault (List String × Option Node) :=
  if p.text.toList.contains '\x00' then .error .nulInPath
  else if p.text.isEmpty then .error .notFound
  else if maxPath < p.text.utf8ByteSize then .error .nameTooLong
  else
    match f.start p with
    | .error e => .error e
    | .ok here => resolve f.root aim maxLinks here (piecesOf p.text)

/-- The node that a path leads to. -/
def find (f : Files) (aim : Aim) (p : Path) : Except Fault Node :=
  match f.locate aim p with
  | .error e => .error e
  | .ok (_, none) => .error .notFound
  | .ok (_, some n) => .ok n

/-- The path leads to something. -/
def isThere (f : Files) (p : Path) : Bool :=
  (f.find .target p).toOption.isSome

/-- The path leads to a file. -/
def isFile (f : Files) (p : Path) : Bool :=
  match f.find .target p with
  | .ok n => n.isFile
  | .error _ => false

/-- The path leads to a directory. -/
def isDir (f : Files) (p : Path) : Bool :=
  match f.find .target p with
  | .ok n => n.isDir
  | .error _ => false

/-- The bytes of a file. -/
def readBytes (f : Files) (p : Path) : Except Fault ByteArray :=
  match f.find .target p with
  | .error e => .error e
  | .ok (.file bytes) | .ok (.unnamed bytes) => .ok bytes
  | .ok (.dir _) => .error .isDirectory
  | .ok .locked => .error .permissionDenied
  | .ok (.link _) => .error .notFound

/-- The text of a file. -/
def readText (f : Files) (p : Path) : Except Fault String :=
  match f.readBytes p with
  | .error e => .error e
  | .ok bytes =>
    match String.fromUTF8? bytes with
    | some text => .ok text
    | none => .error .notUtf8

/-- The names in a directory, in no particular order. -/
def list (f : Files) (p : Path) : Except Fault (List String) :=
  match f.find .target p with
  | .error e => .error e
  | .ok (.dir entries) => .ok (entries.map (·.1))
  | .ok .locked => .error .permissionDenied
  | .ok _ => .error .notDirectory

/-- The entry that a path leads to is called by a text, if there is one. -/
def isNamed (f : Files) (p : Path) : Bool :=
  match f.find .entry p with
  | .ok (.unnamed _) => false
  | _ => true

/-- The files with bytes written to a path, in place of what the file had; the file is made if it
does not exist. -/
def write (f : Files) (p : Path) (bytes : ByteArray) : Except Fault Files :=
  match f.locate .newFile p with
  | .error e => .error e
  | .ok (_, some (.dir _)) | .ok (_, some .locked) => .error .isDirectory
  | .ok (names, _) => .ok { f with root := f.root.insert names (.file bytes) }

/-- The files with a node in the place of the entry at a path. A link there is not followed, and a
directory is not replaced. -/
def replace (f : Files) (p : Path) (n : Node) : Except Fault Files :=
  match f.locate .entry p with
  | .error e => .error e
  | .ok (_, some (.dir _)) | .ok (_, some .locked) => .error .isDirectory
  | .ok (names, _) => .ok { f with root := f.root.insert names n }

/-- The files without the file or the link at a path. -/
def remove (f : Files) (p : Path) : Except Fault Files :=
  match f.locate .entry p with
  | .error e => .error e
  | .ok (_, none) => .error .notFound
  | .ok (_, some (.dir _)) | .ok (_, some .locked) => .error .isDirectory
  | .ok (names, some _) => .ok { f with root := f.root.erase names }

/-- The files with a new directory at a path. -/
def makeDir (f : Files) (p : Path) : Except Fault Files :=
  match f.locate .entry p with
  | .error e => .error e
  | .ok (_, some _) => .error .alreadyExists
  | .ok (names, none) => .ok { f with root := f.root.insert names .emptyDir }

/-- The files without the directory at a path, which has to be empty. -/
def removeDir (f : Files) (p : Path) : Except Fault Files :=
  match f.locate .entry p with
  | .error e => .error e
  | .ok (_, none) => .error .notFound
  | .ok (names, some (.dir [])) => .ok { f with root := f.root.erase names }
  | .ok (_, some (.dir _)) | .ok (_, some .locked) => .error .notEmpty
  | .ok (_, some _) => .error .notDirectory

/-- The starts of a path that end before a slash, the shortest first. -/
def parentsOf (p : Path) : List Path :=
  let cs := p.text.toList
  (List.range cs.length).filterMap fun n =>
    if 0 < n && cs[n]? = some '/' && cs[n - 1]? != some '/' then
      some ⟨String.ofList (cs.take n)⟩
    else none

/-- The files with the directories on the way to a path, as far as they can be made. -/
def makeParents (f : Files) (p : Path) : Files :=
  (parentsOf p).foldl (fun f dir => (f.makeDir dir).toOption.getD f) f

/-- The files without the directories on the way to a path that have become empty. -/
def removeParents (f : Files) (p : Path) : Files :=
  (parentsOf p).reverse.foldl (fun f dir => (f.removeDir dir).toOption.getD f) f

/-- The files with a node put where names lead to. -/
def put (f : Files) (names : List String) (n : Node) : Files :=
  { f with root := f.root.insert names n }

end Files

end FirmwareKit
