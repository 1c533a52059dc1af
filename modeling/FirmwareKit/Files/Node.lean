/-! Trees of files, links and directories. The entries of a directory stand in any
order; whatever depends on an order sorts them by name. -/

namespace FirmwareKit

/-- A file with its bytes, a symbolic link with its target, a directory with its entries, a
directory that may be neither listed nor entered, or a file whose name is no text: its entry has
the name that is shown in its place. -/
inductive Node where
  | file (bytes : ByteArray)
  | link (target : String)
  | dir (entries : List (String × Node))
  | locked
  | unnamed (bytes : ByteArray)

namespace Node

/-- A directory without entries. -/
def emptyDir : Node := .dir []

def isFile : Node → Bool
  | file _ | unnamed _ => true
  | _ => false

def isDir : Node → Bool
  | dir _ | locked => true
  | _ => false

/-- The first entry of that name. -/
def lookup (name : String) : List (String × Node) → Option Node
  | [] => none
  | (n, node) :: more => if n = name then some node else lookup name more

/-- The entry of a directory. -/
def child? (name : String) : Node → Option Node
  | dir entries => lookup name entries
  | _ => none

/-- The node that names lead to, without following links. -/
def at? : List String → Node → Option Node
  | [], n => some n
  | name :: names, n => (n.child? name).bind (at? names)

/-- The entries with what stands under a name replaced by `f` of it; `f none` is for a new entry,
and an entry that becomes nothing is gone. -/
def alterEntry (name : String) (f : Option Node → Option Node) :
    List (String × Node) → List (String × Node)
  | [] => ((f none).map (name, ·)).toList
  | (n, node) :: more =>
    if n = name then ((f (some node)).map (n, ·)).toList ++ more
    else (n, node) :: alterEntry name f more

/-- The entries of a directory; nothing else has any. -/
def entries : Node → List (String × Node)
  | dir entries => entries
  | _ => []

/-- The tree with a node put where names lead to; directories on the way are made. -/
def insert (tree : Node) (names : List String) (new : Node) : Node :=
  match names with
  | [] => new
  | name :: names =>
    dir (alterEntry name (fun old => some ((old.getD emptyDir).insert names new)) tree.entries)

/-- The tree without what names lead to. -/
def erase (tree : Node) (names : List String) : Node :=
  match names with
  | [] => emptyDir
  | [name] => dir (alterEntry name (fun _ => none) tree.entries)
  | name :: names => dir (alterEntry name (Option.map (·.erase names)) tree.entries)

/-- Pairs in the order of their names. -/
def byName {α : Type} (pairs : List (String × α)) : List (String × α) :=
  pairs.mergeSort fun a b => a.1 ≤ b.1

mutual

/-- All paths below a directory with the nodes there, every directory before its content and the
entries of a directory by name. Links are not followed. -/
def descendants : Node → List (List String × Node)
  | file _ | link _ | locked | unnamed _ => []
  | dir entries =>
    (byName (describeEntries entries)).flatMap fun (name, node, paths) =>
      ([name], node) :: paths.map fun (names, n) => (name :: names, n)

def describeEntries : List (String × Node) → List (String × Node × List (List String × Node))
  | [] => []
  | (name, node) :: more => (name, node, descendants node) :: describeEntries more

end

end Node

end FirmwareKit
