import FirmwareKit.Diff.Hunk

/-! Hunks of normal diffs: a command that says which lines go and which ones come, and
those lines behind angle brackets. -/

namespace FirmwareKit.Diff.Normal

open Text

open Source

/-- The command of a hunk: the line and the number of the lines that go, then of those that come,
and if both kinds are there. -/
structure Head where
  oldStart : Nat
  oldCount : Nat
  newStart : Nat
  newCount : Nat
  isChange : Bool
  deriving DecidableEq, Repr

/-- How many lines a range from one line to another has; an empty one ends a line before its
start. -/
def count (number : Nat) (row : Row) (first last : Nat) : Except Problem Nat :=
  if first ≤ last + 1 then .ok (last + 1 - first) else .error (.malformed number row)

/-- Reads the command of a hunk. New lines stand behind the old line that is given. -/
def head (number : Nat) (row : Row) : Except Problem Head := do
  let (first, rest) ← lineNumber number row row
  let (oldCount, rest) ← match rest with
    | 44 :: rest => do
      let (last, rest) ← lineNumber number row rest
      pure (← count number row first last, rest)
    | 97 :: _ => pure (0, rest)
    | _ => pure (1, rest)
  let letter := rest.head?
  let (start, rest) ← lineNumber number row (rest.drop 1)
  let last ← match rest with
    | 44 :: rest => do
      let (last, _) ← lineNumber number row rest
      pure last
    | _ => pure start
  if last < start then .error (.malformed number row)
  else
    let newStart := if letter = some 100 then start + 1 else start
    return ⟨if letter = some 97 then first + 1 else first, oldCount, newStart,
      last + 1 - newStart, letter = some 99⟩

/-- So many lines behind a bracket. The last one can be followed by the remark that it has no
newline. -/
def lines (m : Margin) (bracket : Char) : Nat → Source → Nat × Except Problem (List Row × Source)
  | 0, s => (0, .ok ([], s))
  | count + 1, s =>
    let missing (number : Nat) : Problem :=
      .expected ("'" ++ String.singleton bracket ++ "' followed by space or tab") number
    match s.next m with
    | .ended cut => (cut.toNat, .error (.unfinishedAt s.number))
    | .row row s =>
      match row with
      | b :: blank :: text =>
        if b.toNat = bracket.toNat && (blank = 32 || blank = 9) then
          let (text, s) := trimRemark (count = 0) text s
          let (cuts, done) := lines m bracket count s
          (cuts, done.map fun (rows, s) => (text :: rows, s))
        else (0, .error (missing s.number))
      | _ => (0, .error (missing s.number))

/-- The text behind the dashes that a hunk with both kinds of lines has between them. -/
def divider (m : Margin) (isChange : Bool) (s : Source) : Nat × Except Problem Source :=
  if !isChange then (0, .ok s)
  else
    match s.next m with
    | .ended cut => (cut.toNat, .error (.unfinishedAt s.number))
    | .row row s => (0, if row.head? = some 45 then .ok s else .error (.expected "'---'" s.number))

/-- The hunk that starts here. -/
def read (m : Margin) (s : Source) : Read :=
  match s.next m with
  | .ended cut => { Read.nothing with cuts := cut.toNat }
  | .row row s =>
    if !(row.head?.any isDigit) then .nothing
    else
      match head s.number row with
      | .error p => .failed p
      | .ok head =>
        match lines m '<' head.oldCount s with
        | (cuts, .error p) => ⟨cuts, .error p⟩
        | (_, .ok (old, s₁)) =>
          match divider m head.isChange s₁ with
          | (cuts, .error p) => ⟨cuts, .error p⟩
          | (_, .ok s₂) =>
            match lines m '>' head.newCount s₂ with
            | (cuts, .error p) => ⟨cuts, .error p⟩
            | (cuts, .ok (new, s₃)) =>
              ⟨cuts, .ok (some
                ({ kind := .normal
                   begin := s.number
                   oldStart := head.oldStart
                   newStart := head.newStart
                   old := old.map (.remove, ·)
                   new := new.map (.add, ·)
                   leading := 0
                   trailing := 0
                   note := [] }, s₃))⟩

end FirmwareKit.Diff.Normal
