import FirmwareKit.Diff.Context
import FirmwareKit.Diff.Title

/-! Where the next diff of a text starts, and what the lines before it say: which files it
is for, and if they exist. How it is written is seen from its first lines. -/

namespace FirmwareKit.Diff

open Text

/-- What a diff says of a file: it has lines, it has none, or it does not exist. -/
inductive Presence where
  | full | empty | absent
  deriving DecidableEq, Repr

/-- What is said of a file without lines that has the given age. -/
def Presence.ofAge (age : Age) : Presence :=
  if age = .first then .absent else .empty

/-- What the lines before a diff say. -/
structure Header where
  /-- What the file is called in a list of changed files. -/
  index : Option Row := none
  /-- The name behind stars or plus signs. -/
  starred : Title := {}
  /-- The name behind dashes. -/
  dashed : Title := {}
  /-- The revision of the file that the diff is for. -/
  revision : Option Row := none
  old : Presence := .full
  new : Presence := .full
  /-- The diff says more than a list of lines can. -/
  isExtended : Bool := false
  isGit : Bool := false
  oldMode : Nat := 0
  newMode : Nat := 0
  renames : Bool × Bool := (false, false)
  copies : Bool × Bool := (false, false)
  nesting : Nat := 0
  returned : Bool := false
  deriving DecidableEq, Repr

namespace Header

/-- The file gets another name. -/
def isRename (h : Header) : Bool := h.renames.1 && h.renames.2

/-- A copy of the file gets another name. -/
def isCopy (h : Header) : Bool := h.copies.1 && h.copies.2

end Header

/-- What is known of a title after another line about it; an unknown age does not replace a known
one if `keepsAge`. -/
def Title.add (t : Title) (keepsAge : Bool) (line : Option Title) : Title :=
  match line with
  | none => t
  | some l =>
    let age := if keepsAge && l.age = .unknown then t.age else l.age
    match l.name with
    | none => { t with age }
    | some _ => { l with age }

/-- The mode of a file in octal digits up to the end of the line. -/
def modeOf (text : Row) : Nat :=
  let text := text.dropWhile isSpace
  let isOctal (b : UInt8) : Bool := 48 ≤ b && b ≤ 55
  match text.dropWhile isOctal with
  | [10] | [13, 10] => (text.takeWhile isOctal).foldl (fun n d => n * 8 + (d.toNat - 48)) 0
  | _ => 0

/-- The presence that the first digits of a file's hash tell: zeros stand for no file, and an empty
file has a hash of its own. -/
def presenceOfHash (digits : Row) : Presence :=
  if digits.all (· == 48) then .absent
  else if digits.isPrefixOf (bytesOf "e69de29bb2d1d6434b8b29ae775ad8c2e48c5391") then .empty
  else .full

def isHashDigit (b : UInt8) : Bool := isDigit b || (97 ≤ b && b ≤ 102)

namespace Header

/-- Reads the hashes of both files, and the mode if it stays. -/
def readHashes (h : Header) (text : Row) : Header :=
  let before := text.takeWhile isHashDigit
  match text.dropWhile isHashDigit with
  | 46 :: 46 :: rest =>
    let after := rest.takeWhile isHashDigit
    let rest := rest.dropWhile isHashDigit
    if before.isEmpty || after.isEmpty || !rest.head?.all isSpace then h
    else
      let mode := rest.dropWhile isSpace
      { h with
        old := presenceOfHash before, new := presenceOfHash after, isExtended := true
        oldMode := if mode.isEmpty then h.oldMode else modeOf mode
        newMode := if mode.isEmpty then h.newMode else modeOf mode }
  | _ => h

/-- Reads a line that says what happens to a file besides its lines. -/
def readExtended (h : Header) (line : Row) : Header :=
  let table : List (String × (Row → Header)) :=
    [("index ", h.readHashes),
      ("old mode ", fun text => { h with oldMode := modeOf text, isExtended := true }),
      ("new mode ", fun text => { h with newMode := modeOf text, isExtended := true }),
      ("deleted file mode ", fun text =>
        { h with oldMode := modeOf text, new := .absent, isExtended := true }),
      ("new file mode ", fun text =>
        { h with newMode := modeOf text, old := .absent, isExtended := true }),
      ("rename from ", fun _ => { h with renames := (true, h.renames.2), isExtended := true }),
      ("rename to ", fun _ => { h with renames := (h.renames.1, true), isExtended := true }),
      ("copy from ", fun _ => { h with copies := (true, h.copies.2), isExtended := true }),
      ("copy to ", fun _ => { h with copies := (h.copies.1, true), isExtended := true })]
  match table.findSome? fun (start, read) => (behind? start line).map read with
  | some h => h
  | none => h

/-- A name at the start of a text that ends at the first blank, and what follows it. -/
def shortName (strip : Option Nat) (text : Row) : Option (Option Row × Row) :=
  match text.dropWhile isSpace with
  | 34 :: rest => (unquote rest).map fun (name, rest) => (stripName strip name, rest)
  | text =>
    let name := text.takeWhile (!isSpace ·)
    some (stripName strip name, text.drop name.length)

/-- Reads both names of a line that starts a diff; they count only together. -/
def readNames (h : Header) (strip : Option Nat) (text : Row) : Header :=
  let names := do
    let (old, rest) ← shortName strip text
    let old ← old
    if rest.head?.any isSpace then pure () else none
    let (new, rest) ← shortName strip rest
    let new ← new
    if rest.all isSpace then some (old, new) else none
  let h := { h with isGit := true }
  { h with
    starred := { h.starred with name := names.map (·.1) }
    dashed := { h.dashed with name := names.map (·.2) } }

/-- Reads the revision, which is a word. -/
def readRevision (h : Header) (text : Row) : Header :=
  match (text.dropWhile isSpace).takeWhile (!isSpace ·) with
  | [] => { h with revision := none }
  | word => { h with revision := some word }

/-- What a line adds, and if it shows that a diff follows. `afterStars` tells that the line before
is a row of stars. -/
def read (h : Header) (strip : Option Nat) (afterStars returned : Bool) (line : Row) :
    Header × Bool :=
  match if afterStars then none else behind? "*** " line with
  | some text => ({ h with starred := h.starred.add false (titleOf? strip text) }, true)
  | none =>
  match behind? "+++ " line with
  | some text => ({ h with starred := h.starred.add false (titleOf? strip text), returned }, true)
  | none =>
  match behind? "Index:" line with
  | some text => ({ h with index := indexName? strip text <|> h.index, returned }, true)
  | none =>
  match behind? "Prereq:" line with
  | some text => (h.readRevision text, false)
  | none =>
  match behind? "diff --git " line with
  | some text => (h.readNames strip text, true)
  | none =>
    let extended := if h.isGit then h.readExtended line else h
    if extended != h then (extended, false)
    else
      let inner := dropDashes line.length line
      match behind? "--- " inner with
      | some text =>
        let title := titleOf? strip text
        let nesting :=
          if title.any (·.age != .unknown) then (line.length - inner.length) / 2 else h.nesting
        ({ h with dashed := h.dashed.add true title, nesting, returned }, true)
      | none => (h, false)

end Header

/-- The letter of a command for a line editor, if a line is one. Before the letter there can be a
number or two of them. -/
def editorCommand? (line : Row) : Option UInt8 :=
  let afterNumber := line.dropWhile isDigit
  let pair := match afterNumber with
    | 44 :: rest =>
      if line.head?.any isDigit && rest.head?.any isDigit then some (rest.dropWhile isDigit)
      else none
    | _ => none
  match pair.getD afterNumber with
  | letter :: rest =>
    let rest? : Option Row :=
      if letter = 97 || letter = 105 then if pair.isSome then none else some rest
      else if letter = 99 || letter = 100 then some rest
      else if letter = 115 then behind? "/.//" rest
      else none
    match (rest?.map (List.dropWhile fun b => b = 32 || b = 9) : Option Row) with
    | some [10] => some letter
    | _ => none
  | [] => none

/-- The line is the command of a hunk in a normal diff; none if it does not look like one. -/
def normalCommand? (line : Row) : Option Bool :=
  let isRange (b : UInt8) : Bool := isDigit b || b = 44
  if !line.head?.any isDigit then none
  else
    match line.dropWhile isRange with
    | letter :: rest =>
      if letter = 97 || letter = 99 || letter = 100 then
        match (rest.dropWhile isRange).dropWhile fun b => b = 32 || b = 9 with
        | 10 :: _ | 13 :: 10 :: _ => some true
        | _ => some false
      else none
    | [] => none

/-- The start of a diff: how it is written and set off, what was said before, and its text. -/
structure Start where
  kind : Kind
  header : Header
  old : Title
  new : Title
  margin : Margin
  source : Source
  deriving DecidableEq, Repr

/-- What is known on the way to the next diff. -/
structure Scan where
  header : Header := {}
  /-- A diff is only looked for behind a line that shows that it follows. -/
  needsHeader : Bool
  /-- The first command that was passed: its text, its indentation, and if it is one for a line
  editor. -/
  command : Option (Source × Nat × Bool) := none
  isCommand : Bool := false
  isStarred : Bool := false
  /-- The text from the line before on. -/
  previous : List Row := []

/-- The indentation of the first command that was passed. -/
def Scan.commandIndent (sc : Scan) : Nat :=
  match sc.command with
  | some (_, indent, _) => indent
  | none => 0

/-- What comes of looking for a diff: how often a line without a newline was passed, what was said
meanwhile, and the diff if there is one. -/
structure Found where
  cuts : Nat := 0
  said : String := ""
  result : Except Problem (Option Start)

/-- A zero at the start of a text that no digit follows. -/
def isZero (text : Row) : Bool :=
  match text with
  | 48 :: rest => !rest.head?.any isDigit
  | _ => false

/-- What the ranges of a unified hunk say of the two files. -/
def Header.readRanges (h : Header) (old new : Title) (text : Row) : Header :=
  let second := (text.dropWhile fun b => b != 32 && b != newline).dropWhile (· == 32)
  let h := if isZero text then { h with old := .ofAge old.age } else h
  if second.head? = some 43 && isZero (second.drop 1) then { h with new := .ofAge new.age } else h

/-- What is said about a revision of several words; `place` is that of the line in bytes. -/
def revisionText (line : Row) (place : Nat) : String :=
  match behind? "Prereq:" line with
  | some text =>
    let behind := ((text.dropWhile isSpace).dropWhile (!isSpace ·)).dropWhile isSpace
    if behind.isEmpty then ""
    else "Prereq: with multiple words at line " ++ toString place ++ " of patch\n"
  | none => ""

/-- How many bytes rows have. -/
def sizeOfRows (rows : List Row) : Nat :=
  rows.foldl (fun n row => n + row.length) 0

/-- Looks for the next diff. `wanted` is the only kind that is looked for, if there is such a one;
`before` is the number of lines in front of the first change of the hunk before. -/
def scan (strip : Option Nat) (wanted : Option Kind) (before size : Nat) (sc : Scan) (s : Source) :
    Found :=
  let allows (kind : Kind) : Bool := wanted.all (· == kind)
  match hn : s.next {} with
  | .ended cut =>
    { cuts := cut.toNat
      result := .ok (match sc.command with
        | some (source, indent, true) =>
          some ⟨.edScript, sc.header, sc.header.starred, sc.header.dashed,
            ⟨indent, sc.header.nesting, sc.header.returned⟩, source⟩
        | _ =>
          if sc.header.isExtended then
            some ⟨.unified, sc.header, sc.header.starred, sc.header.dashed,
              ⟨sc.commandIndent, sc.header.nesting, sc.header.returned⟩,
              ⟨if cut then s.rest else [], s.number - 1⟩⟩
          else none) }
  | .row row t =>
    have := Source.next_shorter hn
    let here : Source := ⟨s.rest, t.number - 1⟩
    let indent := indentOf 0 row
    let line := unindented row
    let returned := isReturned row
    let isCommand := (normalCommand? line).getD sc.isCommand
    let editor := (editorCommand? line).isSome
    let sc₁ :=
      if !sc.needsHeader && sc.command.isNone && (editor || isCommand) then
        { sc with command := some (here, indent, editor), header := { sc.header with returned } }
      else sc
    let start (kind : Kind) (h : Header) (indent : Nat) (source : Source) : Found :=
      { result :=
          .ok (some ⟨kind, h, h.starred, h.dashed, ⟨indent, h.nesting, h.returned⟩, source⟩) }
    if startsWith "diff --git " line && sc₁.header.isExtended then
      start .unified sc₁.header sc₁.commandIndent here
    else if startsWith "GIT binary patch" line && sc₁.header.isGit then
      start .binary sc₁.header sc₁.commandIndent here
    else
      let (h, shows) := sc₁.header.read strip sc.isStarred returned line
      let said := revisionText line (size - sizeOfRows s.rest)
      let needsHeader := sc.needsHeader && !shows
      let found :=
        if needsHeader then none
        else
          match if allows .edScript && line = [46, newline] then sc₁.command else none with
          | some (source, indent, _) => some (start .edScript h indent source)
          | none =>
          match if allows .unified then behind? "@@ -" line else none with
          | some ranges =>
            let h := h.readRanges h.dashed h.starred ranges
            some { result := .ok (some
              ⟨.unified, h, h.dashed, h.starred, ⟨indent, h.nesting, h.returned⟩, here⟩) }
          | none =>
          match if (allows .context || allows .newContext) && sc.isStarred then behind? "*** " line
            else none with
          | some range =>
            let h := if isZero range then { h with old := .ofAge h.starred.age } else h
            let h := { h with returned }
            let kind := if (chomp line).getLast? = some 42 then Kind.newContext else .context
            let margin : Margin := ⟨indent, h.nesting, returned⟩
            let source : Source := ⟨sc.previous, t.number - 2⟩
            let first := Context.read margin kind before source
            some (match first.result with
              | .error p => ⟨first.cuts, "", .error p⟩
              | .ok first? =>
                let deletes := first?.any fun (h, _) => h.new.isEmpty && h.newStart = 1
                let h := if deletes then { h with new := .ofAge h.dashed.age } else h
                ⟨first.cuts, "", .ok (some ⟨kind, h, h.starred, h.dashed, margin, source⟩)⟩)
          | none =>
            if allows .normal && sc.isCommand &&
                (startsWith "< " line || startsWith "> " line) then
              some (start .normal { h with returned } indent ⟨sc.previous, t.number - 2⟩)
            else none
      match found with
      | some found => { found with said := said ++ found.said }
      | none =>
        let later := scan strip wanted before size
          { sc₁ with
            header := h
            needsHeader
            isCommand
            isStarred := if needsHeader then sc.isStarred else Context.isStarred line
            previous := s.rest } t
        { later with said := said ++ later.said }
termination_by s.rest.length

end FirmwareKit.Diff
