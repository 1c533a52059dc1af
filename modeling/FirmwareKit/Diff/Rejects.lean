import FirmwareKit.Diff.Header

/-! Rejected hunks as they are written: as a unified diff if they stem from one, and as a
context diff otherwise. -/

namespace FirmwareKit.Diff

open Text

/-- A title as it is written. -/
def titleText (t : Title) : Row :=
  t.name.getD noFile ++ t.rest

/-- A range of a unified diff as it is written. -/
def rangeText (start : Int) (count : Nat) : String :=
  match count with
  | 0 => toString (start - 1) ++ ",0"
  | 1 => toString start
  | count => toString start ++ "," ++ toString count

/-- Two sides as one list of lines, the old ones first wherever both differ. -/
def unifiedRows : (old new : List (Mark × Row)) → List UInt8
  | (.remove, row) :: old, new => 45 :: row ++ unifiedRows old new
  | old, (.add, row) :: new => 43 :: row ++ unifiedRows old new
  | (_, row) :: old, _ :: new => 32 :: row ++ unifiedRows old new
  | _, _ => []
termination_by old new => old.length + new.length

/-- A range of a context diff as it is written. -/
def spanText (start : Int) (count : Nat) : String :=
  match count with
  | 0 => "0"
  | 1 => toString start
  | count => toString start ++ "," ++ toString (start + count - 1)

/-- One side of a context diff. -/
def sideRows (rows : List (Mark × Row)) : List UInt8 :=
  rows.flatMap fun (mark, row) => mark.symbol :: 32 :: row

namespace Hunk

/-- The hunk as it is written when the new file has grown by so many lines before it. -/
def text (h : Hunk) (grown : Int) : List UInt8 :=
  let old := h.oldStart + grown
  let new := h.newStart + grown
  if h.kind = .unified then
    bytesOf ("@@ -" ++ rangeText old h.old.length ++ " +" ++ rangeText new h.new.length ++ " @@") ++
      h.note ++ [newline] ++ unifiedRows h.old h.new
  else
    let isNew := h.kind = .newContext
    bytesOf "***************" ++ h.note ++
      bytesOf ("\n*** " ++ spanText old h.old.length ++ (if isNew then " ****\n" else "\n")) ++
      sideRows h.old ++
      bytesOf ("--- " ++ spanText new h.new.length ++ (if isNew then " ----\n" else " -----\n")) ++
      sideRows h.new

/-- Two sides whose lines that go and come at one place stand for one another. -/
def pairChanges : (old new : List (Mark × Row)) → List (Mark × Row) × List (Mark × Row)
  | (.remove, row) :: old, (.add, row') :: new =>
    let gone := ((Mark.remove, row) :: old).takeWhile (·.1 == .remove)
    let come := ((Mark.add, row') :: new).takeWhile (·.1 == .add)
    let (old', new') :=
      pairChanges (old.dropWhile (·.1 == .remove)) (new.dropWhile (·.1 == .add))
    (gone.map (.change, ·.2) ++ old', come.map (.change, ·.2) ++ new')
  | (.remove, row) :: old, new =>
    let (old', new') := pairChanges old new
    ((.remove, row) :: old', new')
  | old, (.add, row) :: new =>
    let (old', new') := pairChanges old new
    (old', (.add, row) :: new')
  | row :: old, row' :: new =>
    let (old', new') := pairChanges old new
    (row :: old', row' :: new')
  | old, new => (old, new)
termination_by old new => old.length + new.length
decreasing_by
  all_goals simp_wf
  all_goals first
    | omega
    | (have h₁ := (List.dropWhile_sublist (l := old) (fun x => x.1 == Mark.remove)).length_le
       have h₂ := (List.dropWhile_sublist (l := new) (fun x => x.1 == Mark.add)).length_le
       omega)

/-- The hunk as one of a unified diff or of a context diff. -/
def writtenAs (h : Hunk) (kind : Option Kind) : Hunk :=
  let plain (mark : Mark) (rows : List (Mark × Row)) : List (Mark × Row) :=
    rows.map fun (m, row) => (if m = .change then mark else m, row)
  match kind with
  | none => h
  | some .unified =>
    { h with kind := .unified, old := plain .remove h.old, new := plain .add h.new }
  | some _ =>
    if h.kind = .unified then
      let (old, new) := pairChanges h.old h.new
      { h with kind := .newContext, old, new }
    else h

/-- The hunk has a line of no bytes, which cannot be written. -/
def hasEmptyRow (h : Hunk) : Bool :=
  h.old.any (·.2.isEmpty) || h.new.any fun (mark, row) =>
    row.isEmpty && (h.kind != .unified || mark = .add)

end Hunk

/-- The lines before rejected hunks. -/
def rejectHeader (kind : Kind) (index : Option Row) (old new : Title) : List UInt8 :=
  let (before, after) := if kind = .unified then ("--- ", "\n+++ ") else ("*** ", "\n--- ")
  (match index with
    | some name => bytesOf "Index: " ++ name ++ [newline]
    | none => []) ++
    bytesOf before ++ titleText old ++ bytesOf after ++ titleText new ++ [newline]

end FirmwareKit.Diff
