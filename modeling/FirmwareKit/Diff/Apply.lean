import FirmwareKit.Diff.Hunk

/-! Applying hunks to the lines of a file. A hunk is looked for at its own line, moved by
as much as the hunk before it, and then ever farther away in both directions; if it
is nowhere, lines of its context may differ. A hunk with less context on one side
than on the other stands at that end of the file. -/

namespace FirmwareKit.Diff

open Text

/-- The two rows are the same if runs of blanks are taken for one and those at the end for none. -/
def alikeBlanks (a b : Row) : Bool :=
  squeeze (chomp a) == squeeze (chomp b)
where
  isBlank (b : UInt8) : Bool := b = 32 || b = 9
  squeeze : Row → Row
    | [] => []
    | b :: rest =>
      if isBlank b then if rest.all isBlank then [] else
        if rest.head?.any isBlank then squeeze rest else 32 :: squeeze rest
      else b :: squeeze rest

/-- The line of a file; there are none before the first and behind the last one. -/
def rowAt (input : Array Row) (line : Int) : Row :=
  if line < 1 then [] else (input[(line - 1).toNat]?).getD []

/-- The lines from the given number on are these. -/
def standsAt (same : Row → Row → Bool) (input : Array Row) : List Row → Int → Bool
  | [], _ => true
  | row :: more, line => same (rowAt input line) row && standsAt same input more (line + 1)

/-- The first offset that fits, from `offset` on, each tried forward and then backward. -/
def search (fits : Int → Bool) (forward backward : Int) : (fuel : Nat) → (offset : Int) → Option Int
  | 0, _ => none
  | fuel + 1, offset =>
    if offset ≤ forward && fits offset then some offset
    else if 0 < offset && offset ≤ backward && fits (-offset) then some (-offset)
    else search fits forward backward fuel (offset + 1)

/-- By how much a hunk has to be moved from the line where it is guessed, when `fuzz` lines of its
context can differ. Lines up to `frozen` are done with. -/
def locate? (same : Row → Row → Bool) (input : Array Row) (h : Hunk) (frozen : Nat) (guess : Int)
    (fuzz : Nat) : Option Int :=
  let pattern := h.oldRows
  if pattern.isEmpty then some 0
  else
    let context := max h.leading h.trailing
    let front : Int := fuzz + h.leading - context
    let back : Int := fuzz + h.trailing - context
    let first : Int := frozen + 1
    let last : Int := input.size - (pattern.length - back) + 1
    let forward := last - guess
    let backward := min (guess - first) (guess - 1)
    let fits (front back : Nat) (offset : Int) : Bool :=
      standsAt same input ((pattern.take (pattern.length - back)).drop front)
        (guess + offset + front)
    if front < 0 && h.oldStart ≤ 1 then
      let offset := 1 - guess
      if back < 0 && (pattern.length ≠ input.size || h.leading < frozen) then none
      else if frozen ≤ h.leading && offset ≤ forward && fits 0 back.toNat offset then some offset
      else none
    else if back < 0 then
      let offset := (input.size : Int) - pattern.length + 1 - guess
      if -offset ≤ backward && fits front.toNat 0 offset then some offset else none
    else
      let start := if forward < 0 then -forward else if backward < 0 then guess - first else 0
      let steps := (max forward backward - start + 1).toNat
      search (fits front.toNat back.toNat) forward backward steps start

/-- How many lines of context can differ. -/
def fuzzOf (most : Nat) (h : Hunk) : Nat :=
  min most (max h.leading h.trailing)

/-- Why a hunk that was found does not go in: it stands before one that went in, its sides do not
fit together, or it has a line of no bytes. -/
inductive Clash where
  | misordered
  | outOfStep (old new : Nat)
  | emptyRow
  deriving DecidableEq, Repr

/-- The new file as far as it is made: its pieces, last first, if they end with a newline, and how
many lines of the old file are done with. -/
structure Output where
  pieces : List Row := []
  isWhole : Bool := true
  isEmpty : Bool := true
  frozen : Nat := 0
  deriving DecidableEq, Repr

namespace Output

/-- The bytes written. -/
def bytes (o : Output) : List UInt8 :=
  o.pieces.reverse.flatten

/-- One more line; only a newline can follow a line without one. -/
def push (o : Output) (row : Row) : Output :=
  let pieces := if o.isWhole then o.pieces else [newline] :: o.pieces
  { o with pieces := row :: pieces, isWhole := Text.isWhole row, isEmpty := false }

/-- One more line of a hunk, which follows the last one as it is. -/
def insert (o : Output) (row : Row) : Except Clash Output :=
  if row.isEmpty then .error .emptyRow
  else .ok { o with pieces := row :: o.pieces, isWhole := Text.isWhole row, isEmpty := false }

/-- Lines of the old file are taken over up to a line, which can only lie ahead. -/
def carry (o : Output) (input : Array Row) (line : Int) : Except Clash Output :=
  if line < o.frozen then .error .misordered
  else
    let o₁ := (input.extract o.frozen line.toNat).foldl push o
    .ok { o₁ with frozen := line.toNat }

/-- The output with the old lines that are left. -/
def finish (o : Output) (input : Array Row) : Output :=
  (input.extract o.frozen input.size).foldl push o

/-- Makes a change whose next old line stands behind `line`. Lines that stay are only taken over
when a change follows. `oldNumber` and `newNumber` are the numbers of the next lines in the hunk. -/
def change (input : Array Row) (o : Output) (line : Int) (oldNumber newNumber : Nat) :
    (old new : List (Mark × Row)) → Except Clash Output
  | (.remove, _) :: old, new => do
    let o ← o.carry input line
    change input { o with frozen := o.frozen + 1 } (line + 1) (oldNumber + 1) newNumber old new
  | _ :: _, [] => .ok o
  | next :: old, (.add, row) :: new => do
    let o ← (← o.carry input line).insert row
    change input o line oldNumber (newNumber + 1) (next :: old) new
  | (.keep, _) :: old, (.keep, _) :: new =>
    change input o (line + 1) (oldNumber + 1) (newNumber + 1) old new
  | (.change, row) :: old, (.change, row') :: new => do
    let o ← o.carry input line
    let gone := ((Mark.change, row) :: old).takeWhile (·.1 == .change)
    let come := ((Mark.change, row') :: new).takeWhile (·.1 == .change)
    let o ← come.foldlM (fun o row => o.insert row.2) { o with frozen := o.frozen + gone.length }
    change input o (line + gone.length) (oldNumber + gone.length) (newNumber + come.length)
      (old.dropWhile (·.1 == .change)) (new.dropWhile (·.1 == .change))
  | _ :: _, _ :: _ => .error (.outOfStep oldNumber newNumber)
  | [], new =>
    match new.takeWhile (·.1 == .add) with
    | [] => .ok o
    | come => do
      let o ← o.carry input line
      come.foldlM (fun o row => (if o.isWhole then o else { o with
        pieces := [newline] :: o.pieces }).insert row.2) o
termination_by old new => old.length + new.length
decreasing_by
  all_goals simp_wf
  all_goals first
    | omega
    | (have h₁ := (List.dropWhile_sublist (l := old) (fun x => x.1 == Mark.change)).length_le
       have h₂ := (List.dropWhile_sublist (l := new) (fun x => x.1 == Mark.change)).length_le
       omega)

/-- Makes the change of a hunk that was found at a line. -/
def apply (input : Array Row) (o : Output) (h : Hunk) (line : Int) : Except Clash Output :=
  o.change input (line - 1) (h.begin + 1) (h.begin + h.old.length + 2) h.old h.new

end Output

end FirmwareKit.Diff
