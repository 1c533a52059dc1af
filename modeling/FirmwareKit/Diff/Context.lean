import FirmwareKit.Diff.Hunk

/-! Hunks of context diffs: the old lines behind a row of stars, then the new ones behind
a row of dashes. Lines that stay stand on both sides; a side on which nothing else
stands can be left out. -/

namespace FirmwareKit.Diff.Context

open Text

open Source

/-- The line starts a hunk. -/
def isStarred (row : Row) : Bool :=
  startsWith "********" row

/-- What a line of a hunk is. -/
inductive Line where
  | stars
  | dashes
  /-- A line of one side; `spaced` tells that its mark is followed by a blank. -/
  | row (mark : Mark) (text : Row) (spaced : Bool)
  /-- A line that has lost the blanks in front of it. -/
  | blank (text : Row)
  | other

def classify : Row → Line
  | 42 :: _ => .stars
  | 45 :: 45 :: _ => .dashes
  | 9 :: text => .blank text
  | row@(10 :: _) => .blank row
  | b :: rest =>
    let row (mark : Mark) : Line := match rest with
      | 32 :: text | 9 :: text => .row mark text true
      | _ => .row mark rest false
    if b = 32 then row .keep
    else if b = 45 then row .remove
    else if b = 43 then row .add
    else if b = 33 then row .change
    else .other
  | [] => .other

/-- The lines of one side, as far as they are read. -/
structure Side where
  rows : List (Mark × Row) := []
  /-- How many lines stay since the last change. -/
  kept : Nat := 0
  /-- How many lines stay in front of the first change. -/
  leading : Option Nat := none
  /-- How many lines stay in all. -/
  copies : Nat := 0
  deriving DecidableEq, Repr

/-- The side with one more line. -/
def Side.push (s : Side) (mark : Mark) (row : Row) : Side :=
  match mark with
  | .keep => { s with rows := s.rows ++ [(mark, row)], kept := s.kept + 1, copies := s.copies + 1 }
  | _ =>
    { s with rows := s.rows ++ [(mark, row)], kept := 0, leading := s.leading <|> some s.kept }

/-- The lines of a side that stay. -/
def Side.staying (s : Side) : List (Mark × Row) :=
  s.rows.filter (·.1 == .keep)

/-- Reads a range: its first line and its number of lines. A range without lines is given as
zero. -/
def range (number : Nat) (row : Row) : Except Problem (Nat × Nat) := do
  let (first, rest) ← lineNumber number row (row.dropWhile fun b => !isDigit b)
  match rest with
  | 44 :: rest =>
    match rest.dropWhile fun b => !isDigit b with
    | [] => .error (.malformed number row)
    | rest =>
      let (last, _) ← lineNumber number row rest
      if first = 0 && last = 0 then return (1, 0)
      else if last + 1 < first then .error (.malformed number row)
      else return (first, last + 1 - first)
  | _ => return if first = 0 then (1, 0) else (first, 1)

/-- The old side is read up to the dashes: the line with the dashes and the text behind it. -/
structure OldSide where
  side : Side
  dashes : Row
  source : Source

/-- Reads the old side; `places` counts the lines passed, and `count` lines are announced. -/
def readOld (m : Margin) (begin count : Nat) (side : Side) (places : Nat) (s : Source) :
    Nat × Except Problem OldSide :=
  match h : s.next m with
  | .ended cut => (cut.toNat, .error .unfinished)
  | .row row s₁ =>
    have := next_shorter h
    let push (mark : Mark) (text : Row) : Nat × Except Problem OldSide :=
      have := length_trimRemark_le (places + 1 = count) text s₁
      readOld m begin count (side.push mark (trimRemark (places + 1 = count) text s₁).1)
        (places + 1)
        (trimRemark (places + 1 = count) text s₁).2
    match classify row with
    | .stars =>
      (0, .error (if isStarred row then .endOfHunk s₁.number else .strayStars s₁.number row))
    | .dashes =>
      if places = count || places = count + 1 && side.rows.length = count || places = 0 then
        (0, .ok ⟨side, row, s₁⟩)
      else
        (0, .error (if places < count then .earlyDashes s₁.number begin
          else .lateDashes s₁.number begin))
    | .row mark text _ => push mark text
    | .blank text =>
      if places = count then readOld m begin count side (places + 1) s₁ else push .keep text
    | .other => (0, .error (.malformed s₁.number row))
termination_by s.rest.length
decreasing_by
  · exact Nat.lt_of_le_of_lt (length_trimRemark_le _ _ _) ‹_›
  · assumption

/-- The new side and the text behind it, or none. Dashes that come instead are taken for the end of
the old side; then `kept` lines before them stay. -/
inductive NewSide where
  | given (side : Side) (source : Source)
  | leftOut (kept : Option Nat)

/-- Reads the new side, which has `count` more lines. It turns out to be left out only as long as
`optional`. -/
def readNew (m : Margin) (dashes : Nat) (optional : Bool) (side : Side) (s : Source) :
    (count : Nat) → Nat × Except Problem NewSide
  | 0 => (0, .ok (.given side s))
  | count + 1 =>
    match s.next m with
    | .ended cut =>
      if optional then (cut.toNat, .ok (.leftOut none))
      else if 3 < count + 1 then (cut.toNat, .error .unfinished)
      else
        let (cuts, done) := readNew m dashes optional (side.push .keep [newline]) s.ended count
        (cut.toNat + cuts, done)
    | .row row s =>
      let missing (kept : Option Nat) (p : Problem) : Nat × Except Problem NewSide :=
        (0, if optional then .ok (.leftOut kept) else .error p)
      let push (optional : Bool) (mark : Mark) (text : Row) : Nat × Except Problem NewSide :=
        let (text, s) := trimRemark (count = 0) text s
        readNew m dashes optional (side.push mark text) s count
      match classify row with
      | .stars =>
        missing none (if isStarred row then .endOfHunk s.number else .strayStars s.number row)
      | .dashes => missing (some side.kept) (.repeatedDashes s.number dashes)
      | .row .add text _ => push false .add text
      | .row .change text _ => push false .change text
      | .row mark text spaced =>
        if !spaced && optional then (0, .ok (.leftOut none)) else push optional mark text
      | .blank text => if optional then (0, .ok (.leftOut none)) else push false .keep text
      | .other => missing none (.malformed s.number row)

/-- What is known of a hunk before its sides are put together. -/
structure Head where
  kind : Kind
  begin : Nat
  oldStart : Nat
  oldCount : Nat
  newStart : Nat
  newCount : Nat
  note : Row

/-- The smaller one of two numbers of lines, as far as they are known. -/
def least : Option Nat → Option Nat → Option Nat
  | some m, some n => some (min m n)
  | some m, none => some m
  | none, n => n

/-- Puts the sides together; there is no new side if it is left out. The old side is left out if it
has no lines although some are announced. A side that is left out has the lines of the other one
that stay. A single line announced for nothing is taken for the place of the new lines. -/
def assemble (head : Head) (old : Side) (found : NewSide) : Except Problem Hunk :=
  let (given, last) := match found with
    | .given side _ => (some side, none)
    | .leftOut kept => (none, kept)
  let oldMissing := old.rows.isEmpty && head.oldCount != 0
  let new := given.getD { kept := old.kept }
  let announced :=
    if given.isNone then head.newCount else if oldMissing then head.oldCount else 0
  let isPlace := given.isSome && oldMissing && new.copies = 0 && announced = 1
  let missing := if isPlace then 0 else announced
  let copies := if given.isNone then old.copies else new.copies
  let trailing := if oldMissing then new.kept else min (last.getD old.kept) new.kept
  if given.isSome && !oldMissing && old.copies != new.copies then
    .error (.mangledContext head.begin)
  else
    match least (if oldMissing then none else some (old.leading.getD old.kept)) new.leading with
    | none => .error (.mangledText head.begin)
    | some leading =>
      if missing != 0 && missing != copies then .error (.mangledText head.begin)
      else
        let isNew := missing != 0 || 1 < head.oldStart && leading + trailing < old.copies
        .ok
          { kind := if head.kind = .context && isNew then .newContext else head.kind
            begin := head.begin
            oldStart := if isPlace then head.oldStart + 1 else head.oldStart
            newStart := head.newStart
            old := if oldMissing then new.staying else old.rows
            new := if given.isNone then old.staying else new.rows
            leading, trailing
            note := head.note }

/-- The hunk that starts here. `before` is the number of lines that stay in front of the first
change of the hunk before. -/
def read (m : Margin) (kind : Kind) (before : Nat) (s : Source) : Read :=
  match s.next m with
  | .ended cut => { Read.nothing with cuts := cut.toNat }
  | .row row s =>
    if !isStarred row then .nothing
    else
      let note := match row.dropWhile (· == 42) with
        | 32 :: rest => 32 :: chomp rest
        | _ => []
      let begin := s.number + 1
      match s.next m with
      | .ended cut => ⟨cut.toNat, .error .unfinished⟩
      | .row row s =>
        if isStarred row then .failed (.endOfHunk s.number)
        else if row.head? != some 42 then .failed (.malformed s.number row)
        else
          match range s.number row with
          | .error p => .failed p
          | .ok (oldStart, oldCount) =>
            match readOld m begin oldCount {} 0 s with
            | (cuts, .error p) => ⟨cuts, .error p⟩
            | (_, .ok old) =>
              match range old.source.number old.dashes with
              | .error p => .failed p
              | .ok (newStart, newCount) =>
                let optional :=
                  old.side.rows.all (fun (mark, _) => mark = .keep || mark = .remove) &&
                  (newCount = old.side.copies ||
                    before = 0 && old.side.kept = 0 && newCount = 1)
                match readNew m (begin + oldCount + 1) optional {} old.source newCount with
                | (cuts, .error p) => ⟨cuts, .error p⟩
                | (cuts, .ok found) =>
                  let head : Head := ⟨kind, begin, oldStart, oldCount, newStart, newCount, note⟩
                  let behind := match found with
                    | .given _ source => source
                    | .leftOut _ => old.source
                  ⟨cuts,
                    match assemble head old.side found with
                    | .error p => .error p
                    | .ok h => .ok (some (h, behind))⟩

end FirmwareKit.Diff.Context
