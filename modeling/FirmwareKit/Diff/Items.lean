import FirmwareKit.Diff.Header
import FirmwareKit.Diff.Normal
import FirmwareKit.Diff.Unified

/-! The hunks of a diff, one after the other. -/

namespace FirmwareKit.Diff

open Text

/-- What is read behind the header of a diff. A last line without a newline is not read; it is only
noticed. -/
inductive Item where
  | hunk (h : Hunk)
  | cutLine
  | broken (p : Problem)
  deriving DecidableEq, Repr

/-- The hunk that starts here. `before` is the number of lines that stay in front of the first
change of the hunk before. -/
def readHunk (kind : Kind) (m : Margin) (before : Nat) (s : Source) : Read :=
  match kind with
  | .unified => Unified.read m s
  | .normal => Normal.read m s
  | .context | .newContext => Context.read m kind before s
  | .edScript | .binary => .nothing

/-- The text that is searched for the next diff when no hunk starts here. -/
def searched (m : Margin) (s : Source) : Source :=
  match s.next m with
  | .row _ t => { s with number := t.number - 1 }
  | .ended _ => { s with number := s.number - 1 }

/-- The hunks from here on, and the text behind them. `fuel` bounds their number. -/
def items (m : Margin) : (fuel : Nat) → (kind : Kind) → (before : Nat) → Source →
    List Item × Nat × Source
  | 0, _, before, s => ([], before, s.ended)
  | fuel + 1, kind, before, s =>
    let read := readHunk kind m before s
    let cuts := List.replicate read.cuts Item.cutLine
    match read.result with
    | .error p => (cuts ++ [.broken p], before, s.ended)
    | .ok none => (cuts, before, searched m s)
    | .ok (some (h, rest)) =>
      let (more, before, rest) := items m fuel h.kind h.leading rest
      (cuts ++ .hunk h :: more, before, rest)

/-- How often a line without a newline is passed in a script for a line editor, and the text behind
the script. -/
def behindScript (m : Margin) (fuel : Nat) (s : Source) : Nat × Source :=
  match fuel with
  | 0 => (0, s.ended)
  | fuel + 1 =>
    match s.next m with
    | .ended cut => (cut.toNat, s)
    | .row row t =>
      match editorCommand? row with
      | none => (0, { s with number := t.number - 1 })
      | some letter =>
        if letter = 100 || letter = 115 then behindScript m fuel t
        else
          let given := t.rest.takeWhile fun raw => m.strip raw != [46, newline]
          match t.rest.drop given.length with
          | _ :: rest => behindScript m fuel ⟨rest, t.number + given.length + 1⟩
          | [] => (if given.getLast?.all isWhole then 0 else 1, t.ended)

end FirmwareKit.Diff
