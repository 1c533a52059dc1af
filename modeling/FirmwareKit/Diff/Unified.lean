import FirmwareKit.Diff.Hunk

/-! Hunks of unified diffs: one list of lines in which every line says if it stays, goes
or is new. -/

namespace FirmwareKit.Diff.Unified

open Text

open Source

/-- A line of the list, as it stands in the old and in the new file. -/
structure Line where
  mark : Mark
  old : Row
  new : Row
  deriving DecidableEq, Repr

/-- What a line does, and its text. An empty line stays. -/
def marked? : Row → Option (Mark × Row)
  | 45 :: text => some (.remove, text)
  | 43 :: text => some (.add, text)
  | 32 :: text | 61 :: text => some (.keep, text)
  | row@(9 :: _) | row@(10 :: _) => some (.keep, row)
  | _ => none

/-- What is left of a number of old and new lines after a line with that mark. -/
def left (mark : Mark) (old new : Nat) : Option (Nat × Nat) :=
  match mark, old, new with
  | .remove, old + 1, new => some (old, new)
  | .add, old, new + 1 => some (old, new)
  | .keep, old + 1, new + 1 => some (old, new)
  | _, _, _ => none

theorem left_lt {mark : Mark} {old new o n : Nat} (h : left mark old new = some (o, n)) :
    o + n < old + new := by
  unfold left at h
  split at h
  all_goals simp only [Option.some.injEq, Prod.mk.injEq, reduceCtorEq] at h
  all_goals omega

/-- A line of the list with the text behind it, when so many old and new lines are left. The last
line of each side can be followed by the remark that it has no newline. -/
def line (mark : Mark) (text : Row) (old new : Nat) (s : Source) : Line × Source :=
  let (before, s) := trimRemark (mark != .add && old = 0) text s
  let (after, s) := trimRemark (mark != .remove && new = 0) before s
  (⟨mark, before, after⟩, s)

theorem length_line_le (mark : Mark) (text : Row) (old new : Nat) (s : Source) :
    (line mark text old new s).2.rest.length ≤ s.rest.length :=
  Nat.le_trans (length_trimRemark_le _ _ _) (length_trimRemark_le _ _ _)

/-- An empty line, as it is taken for lines that are missing at the end of a diff. -/
def emptyRow : Row := [32, newline]

/-- The list of a hunk with so many old and new lines to come, behind the line `row`. Up to three
lines can be missing at the end of the text. -/
def body (m : Margin) (s : Source) (row : Row) (old new : Nat) :
    Nat × Except Problem (List Line × Row × Source) :=
  if old = 0 && new = 0 then (0, .ok ([], row, s))
  else
    match h : s.next m with
    | .row row s₁ =>
      match marked? row with
      | none => (0, .error (.malformed s₁.number row))
      | some (mark, text) =>
        match left mark old new with
        | none => (0, .error (.malformed s₁.number row))
        | some (old, new) =>
          have := next_shorter h
          have := length_line_le mark text old new s₁
          let (cuts, done) := body m (line mark text old new s₁).2 row old new
          (cuts, done.map fun (done, more) => ((line mark text old new s₁).1 :: done, more))
    | .ended cut =>
      if 3 < new then (cut.toNat, .error .unfinished)
      else
        match hc : left .keep old new with
        | none => (cut.toNat, .error (.malformed s.number emptyRow))
        | some (old, new) =>
          have := left_lt hc
          let (cuts, done) := body m s.ended emptyRow old new
          (cut.toNat + cuts,
            done.map fun (done, more) => (⟨.keep, [newline], [newline]⟩ :: done, more))
termination_by (s.rest.length, old + new)
decreasing_by
  · exact Prod.Lex.left _ _ (by omega)
  · cases hs : s.rest with
    | nil => simp [Source.ended]; exact Prod.Lex.right _ (by omega)
    | cons => exact Prod.Lex.left _ _ (by simp [Source.ended])

/-- A line without one blank at its start. -/
def dropBlank : Row → Row
  | 32 :: rest => rest
  | row => row

/-- A range at the start of `rest`: a line number and a number of lines, which is one if it is left
out. -/
def range (number : Nat) (row rest : Row) : Except Problem (Nat × Nat × Row) := do
  let (start, rest) ← lineNumber number row rest
  match rest with
  | 44 :: rest =>
    let (count, rest) ← lineNumber number row rest
    return (start, count, rest)
  | _ => return (start, 1, rest)

/-- The ranges of a hunk, and the note behind them. An empty range stands behind its line. -/
structure Head where
  oldStart : Nat
  oldCount : Nat
  newStart : Nat
  newCount : Nat
  note : Row
  deriving DecidableEq, Repr

/-- Reads the line that starts a hunk. -/
def head (number : Nat) (row rest : Row) : Except Problem Head := do
  let (oldStart, oldCount, rest) ← range number row rest
  match dropBlank rest with
  | 43 :: rest =>
    let (newStart, newCount, rest) ← range number row rest
    match dropBlank rest with
    | 64 :: rest =>
      let note := match rest with
        | 64 :: 32 :: note => 32 :: note
        | _ => []
      return ⟨if oldCount = 0 then oldStart + 1 else oldStart, oldCount,
        if newCount = 0 then newStart + 1 else newStart, newCount, chomp note⟩
    | _ => .error (.malformed number row)
  | _ => .error (.malformed number row)

/-- The hunk that starts here. -/
def read (m : Margin) (s : Source) : Read :=
  match s.next m with
  | .ended cut => { Read.nothing with cuts := cut.toNat }
  | .row row s =>
    match behind? "@@ -" row with
    | none => .nothing
    | some rest =>
      match head s.number row rest with
      | .error p => .failed p
      | .ok head =>
        let (cuts, done) := body m s row head.oldCount head.newCount
        { cuts
          result := match done with
            | .error p => .error p
            | .ok (lines, row, after) =>
              if lines.all (·.mark == .keep) then .error (.malformed after.number row)
              else .ok (some
                ({ kind := .unified
                   begin := s.number + 1
                   oldStart := head.oldStart
                   newStart := head.newStart
                   old := (lines.filter (·.mark != .add)).map fun l => (l.mark, l.old)
                   new := (lines.filter (·.mark != .remove)).map fun l => (l.mark, l.new)
                   leading := (lines.takeWhile (·.mark == .keep)).length
                   trailing := (lines.reverse.takeWhile (·.mark == .keep)).length
                   note := head.note }, after)) }

end FirmwareKit.Diff.Unified
