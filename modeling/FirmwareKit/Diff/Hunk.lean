import FirmwareKit.Diff.Problem

/-! A hunk is a change at one place of a file: the lines that stand there, and the lines
that are to stand there. -/

namespace FirmwareKit.Diff

open Text

/-- How diffs are written. -/
inductive Kind where
  | context | normal | edScript | newContext | unified | binary
  deriving DecidableEq, Repr

/-- What a line of a hunk is: it stays, it goes, it is new, or it is one of some lines that stand
for one another. -/
inductive Mark where
  | keep | remove | add | change
  deriving DecidableEq, Repr

namespace Mark

/-- The character before a line with the mark. -/
def symbol : Mark → UInt8
  | keep => 32
  | remove => 45
  | add => 43
  | change => 33

/-- The mark of the line when a change is undone: what goes is new on the other side. -/
def toNew : Mark → Mark
  | remove => add
  | mark => mark

def toOld : Mark → Mark
  | add => remove
  | mark => mark

end Mark

/-- A change at one place. -/
structure Hunk where
  kind : Kind
  /-- The number of the line after the one that starts the hunk. -/
  begin : Nat
  oldStart : Nat
  newStart : Nat
  old : List (Mark × Row)
  new : List (Mark × Row)
  /-- How many lines stay in front of the first change. -/
  leading : Nat
  /-- How many lines stay behind the last change. -/
  trailing : Nat
  /-- What follows the place on the line that starts the hunk. -/
  note : Row
  deriving DecidableEq, Repr

namespace Hunk

/-- The lines that the hunk looks for. -/
def oldRows (h : Hunk) : List Row :=
  h.old.map (·.2)

/-- The hunk that undoes the change. -/
def reverse (h : Hunk) : Hunk :=
  { h with
    oldStart := h.newStart
    newStart := h.oldStart
    old := h.new.map fun (mark, row) => (mark.toOld, row)
    new := h.old.map fun (mark, row) => (mark.toNew, row) }

end Hunk

/-- What comes of looking for a hunk: how often a line without a newline was passed, and the hunk
with the text behind it, if there is one. -/
structure Read where
  cuts : Nat := 0
  result : Except Problem (Option (Hunk × Source))

/-- There is no hunk. -/
def Read.nothing : Read := ⟨0, .ok none⟩

/-- The hunk cannot be read. -/
def Read.failed (p : Problem) : Read := ⟨0, .error p⟩

end FirmwareKit.Diff
