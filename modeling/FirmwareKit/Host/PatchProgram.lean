import FirmwareKit.Diff.Apply
import FirmwareKit.Diff.Items
import FirmwareKit.Diff.Rejects
import FirmwareKit.Host.PatchTarget

/-! The program that applies diffs. It names the file of every part, says what became of
each hunk that did not go in cleanly, keeps the old file beside the new one if there
was any such hunk, and writes rejected hunks to a file of their own. -/

namespace FirmwareKit.Host

namespace PatchJob

open Diff Text

/-- What is known of a part while its hunks are applied. -/
structure Progress where
  reversed : Bool
  skips : Bool
  /-- By how many lines the last hunk was moved. -/
  moved : Int := 0
  /-- By how many lines the new file is longer so far. -/
  grown : Int := 0
  output : Output := {}
  hunks : Nat := 0
  failures : Nat := 0
  isDoubtful : Bool := false
  /-- The rejected hunks as they are written, last first. -/
  rejected : List (List UInt8) := []

/-- The part whose hunks are applied, and the file that they are applied to. -/
structure Scene where
  start : Start
  target : Target
  input : Array Row

/-- Whether a line of a file is one of a hunk. -/
def same (o : PatchOptions) : Row → Row → Bool :=
  if o.blanksAlike then alikeBlanks else (· == ·)

/-- Where a hunk fits; zero if it does not. -/
def seek (o : PatchOptions) (scene : Scene) (p : Progress) (h : Hunk) (fuzz : Nat) :
    Int × Progress :=
  let guess := h.oldStart + p.moved
  match locate? (same o) scene.input h p.output.frozen guess fuzz with
  | none => (0, p)
  | some offset => (guess + offset, { p with moved := p.moved + offset })

/-- What comes of looking for a hunk: the line, zero if there is none, how many lines may differ,
and the hunk, which can have been turned around. -/
structure Sought where
  line : Int
  fuzz : Nat
  hunk : Hunk
  progress : Progress

/-- Looks for a hunk with ever more lines that may differ. If the first hunk is nowhere, but would
be if the diff were undone, that is a doubt. -/
def seekAll (o : PatchOptions) (scene : Scene) (h : Hunk) :
    (tries : Nat) → (fuzz : Nat) → (asked : Bool) → Progress → PatchJob Sought
  | 0, fuzz, _, p => return ⟨0, fuzz, h, p⟩
  | tries + 1, fuzz, asked, p => do
    let (line, p) := seek o scene p h fuzz
    let p := { p with isDoubtful := p.isDoubtful || line = 0 || 0 < fuzz || p.moved ≠ 0 }
    if line ≠ 0 then return ⟨line, fuzz, h, p⟩
    else if p.hunks = 1 && !o.doubts.insists && !asked && p.reversed = o.reversed then
      let back := h.reverse
      let (line, p) := seek o scene p back fuzz
      if line = 0 then seekAll o scene h tries (fuzz + 1) asked p
      else
        match ← settleDoubt o p.reversed
          ((if p.reversed then "Unreversed" else "Reversed (or previously applied)") ++
            " patch detected!") with
        | .turned => return ⟨line, fuzz, back, { p with reversed := !p.reversed }⟩
        | .skipped => return ⟨0, fuzz, h, { p with skips := true }⟩
        | .asIs =>
          let (line, p) := seek o scene p h fuzz
          if line ≠ 0 then return ⟨line, fuzz, h, p⟩
          else seekAll o scene h tries (fuzz + 1) true p
    else seekAll o scene h tries (fuzz + 1) asked p

/-- Only one of a hunk and the line it is for has a carriage return. -/
def differsInEndings (input : Array Row) (h : Hunk) (line : Int) : Bool :=
  match h.oldRows.head? with
  | none => false
  | some pattern =>
    if line < 1 || input.isEmpty then false
    else isReturned pattern != isReturned (rowAt input (min line input.size))

/-- What is said about a hunk that was found with so many lines that may differ. -/
def successText (number : Nat) (line : Int) (fuzz : Nat) (moved : Int) : String :=
  "Hunk #" ++ toString number ++ " succeeded at " ++ toString line ++
    (if fuzz = 0 then "" else " with fuzz " ++ toString fuzz) ++
    (if moved = 0 then ""
      else " (offset " ++ toString moved ++ (if moved = 1 then " line)" else " lines)")) ++ ".\n"

/-- Titles in the order of the diff, or turned around. -/
def titles (s : Start) (reversed : Bool) : Title × Title :=
  if reversed then (s.new, s.old) else (s.old, s.new)

/-- A hunk is left out of the file and written to the rejected ones. -/
def reject (o : PatchOptions) (scene : Scene) (p : Progress) (h : Hunk) (line : Int) :
    PatchJob Progress := do
  if h.hasEmptyRow then throw "write error : Success"
  let h := h.writtenAs o.rejectKind
  let (old, new) := titles scene.start p.reversed
  let header := if p.failures = 0 then rejectHeader h.kind scene.start.header.index old new else []
  if !p.skips && !o.silent then
    say ("Hunk #" ++ toString p.hunks ++ " FAILED at " ++ toString line ++
      (if differsInEndings scene.input h line then " (different line endings)" else "") ++ ".\n")
  return { p with
    failures := p.failures + 1, rejected := (header ++ h.text p.grown) :: p.rejected }

/-- Applies one hunk. -/
def applyHunk (o : PatchOptions) (scene : Scene) (p : Progress) (h : Hunk) : PatchJob Progress := do
  let p := { p with hunks := p.hunks + 1 }
  let h := if p.reversed then h.reverse else h
  if p.skips then reject o scene p h (h.oldStart + p.grown)
  else
    let most := fuzzOf o.fuzz h
    let ⟨line, fuzz, h, p⟩ ← seekAll o scene h (most + 1) 0 false p
    let newLine := (if line = 0 then (h.oldStart : Int) else line) + p.grown
    let isTaken :=
      line = 1 && presence scene.start.header p.reversed = .absent && !scene.target.isEmpty
    if p.skips || line = 0 || isTaken then reject o scene p h newLine
    else
      match p.output.apply scene.input h line with
      | .ok output =>
        if !o.silent && (0 < fuzz || p.moved ≠ 0) then
          say (successText p.hunks newLine fuzz p.moved)
        return { p with output, grown := p.grown + h.new.length - h.old.length }
      | .error .misordered =>
        say "misordered hunks! output would be garbled\n"
        reject o scene p h newLine
      | .error (.outOfStep old new) => throw (Problem.outOfStep old new).message
      | .error .emptyRow => throw "write error : Success"

/-- What is said about a last line without a newline. -/
def cutText : String := "patch unexpectedly ends in middle of line\n"

/-- Says that so often. -/
def sayCuts (count : Nat) : PatchJob Unit :=
  (List.replicate count cutText).forM say

/-- Applies the hunks of a part. -/
def applyItems (o : PatchOptions) (scene : Scene) : Progress → List Item → PatchJob Progress
  | p, [] => return p
  | p, .cutLine :: more => do
    say cutText
    applyItems o scene p more
  | _, .broken problem :: _ => throw problem.message
  | p, .hunk h :: more => do
    let p ← applyHunk o scene p h
    if o.output.isSome then modify fun r => { r with output := (r.output.1, p.output.bytes) }
    applyItems o scene p more

/-- A number of things. -/
def counted (n : Nat) (one : String) : String :=
  toString n ++ " " ++ one ++ if n = 1 then "" else "s"

/-- The revision stands in the file as a word. -/
def hasRevision (bytes : List UInt8) (revision : Row) : Bool :=
  (wordsOf bytes).contains revision

/-- Looks if the file is of the revision that the part is for. -/
def checkRevision (o : PatchOptions) (scene : Scene) : PatchJob Unit :=
  match scene.start.header.revision with
  | none => pure ()
  | some revision =>
    if hasRevision scene.target.bytes revision then pure ()
    else do
      let text := "his file doesn't appear to be the " ++
        shellName (Text.showBytes (ByteArray.mk revision.toArray)) ++ " version -- "
      if o.doubts.insists then
        if !o.silent then say ("Warning: t" ++ text ++ "patching anyway.\n")
      else if o.doubts.assumes then throw ("T" ++ text ++ "aborting.")
      else
        say ("T" ++ text ++ "patch anyway? [n] \n")
        throw "aborted"

/-- What is said in front of a part whose file is not known. -/
def lostText (o : PatchOptions) (s : Start) : String :=
  "can't find file to patch at input line " ++ toString (s.source.number + 1) ++ "\n" ++
    if s.kind = .edScript || s.kind = .normal then ""
    else if o.strip.isNone then "Perhaps you should have used the -p or --strip option?\n"
    else "Perhaps you used the wrong -p or --strip option?\n"

/-- The lines in front of a part, which begin where the search for it began. -/
def leadText (lead : List Row) : List UInt8 :=
  if lead.isEmpty then []
  else
    bytesOf "The text leading up to this was:\n--------------------------\n" ++
      lead.flatMap (124 :: ·) ++ bytesOf "--------------------------\n"

/-- Says what is special about a part, and what stands before it if its file is not known. Without a
file the part is left out. -/
def introduce (o : PatchOptions) (s : Start) (lead : List Row) (a : Aimed) : PatchJob Bool := do
  if a.skips then return true
  if !o.silent then
    if s.margin.indent ≠ 0 then
      say ("(Patch is indented " ++ counted s.margin.indent "space" ++ ".)\n")
    if s.margin.returned then
      say "(Stripping trailing CRs from patch; use --binary to disable.)\n"
    if a.path.isNone then say (lostText o s)
  if a.path.isSome then return false
  print (leadText lead)
  if o.doubts.insists || o.doubts.assumes then say "No file to patch.  Skipping patch.\n"
  else
    say ("File to patch: \nSkip this patch? [y] \n" ++ if o.silent then "" else "Skipping patch.\n")
  return true

/-- The other name that a part gives its file. -/
def givenName? (s : Start) (reversed : Bool) : Option String :=
  if s.header.isCopy || s.header.isRename then shown (titles s reversed).2.name else none

/-- The file that a part makes. -/
def outPathOf (o : PatchOptions) (s : Start) (a : Aimed) : String :=
  o.output.getD ((givenName? s a.reversed).getD (a.path.getD ""))

/-- What is said about the file of a part before its hunks are applied. -/
def announcement (o : PatchOptions) (s : Start) (reversed : Bool) (path outPath : String) :
    String :=
  let how := if s.header.isCopy then "copied" else if s.header.isRename then "renamed" else "read"
  let origin :=
    if path ≠ outPath then some (how ++ " from " ++ path)
    else if s.header.isRename then
      (shown (titles s reversed).1.name).map ("already " ++ how ++ " from " ++ ·)
    else none
  (if o.dry then "checking" else "patching") ++
    (if fileKind? s.header = some linkKind then " symbolic link " else " file ") ++
    shellName outPath ++
    match origin with
    | some text => " (" ++ text ++ ")\n"
    | none => "\n"

/-- Looks if a part can be applied at all, and says so; if not, it is left out. -/
def prepare (o : PatchOptions) (s : Start) (target : Target) (path outPath : String) :
    PatchJob Bool := do
  match fileKind? s.header with
  | none =>
    let bits (mode : Nat) : String := String.ofList (Nat.toDigits 8 (kindBits mode))
    let (old, new) := if o.reversed then (s.header.newMode, s.header.oldMode)
      else (s.header.oldMode, s.header.newMode)
    say ("File " ++ shellName path ++ ": can't change file type from 0" ++ bits old ++ " to 0" ++
      bits new ++ ".\n")
    fail
    return true
  | some kind =>
    if target ≠ .missing && (kindOf target ≠ kind || kind = dirKind) then
      say ("File " ++ shellName path ++ " is not a " ++
        (if kind = linkKind then "symbolic link" else "regular file") ++
        " -- refusing to patch\n")
      fail
      return true
    if !o.dry && o.output.isNone then
      modify fun r => { r with files := r.files.makeParents ⟨outPath⟩ }
    if s.kind = .binary then
      say ("File " ++ shellName outPath ++ ": git binary diffs are not supported.\n")
      fail
      return true
    else return false

/-- A file that should be gone has something left in it. -/
def warnLeft (o : PatchOptions) (s : Start) (reversed : Bool) (outPath : String) :
    PatchJob Unit := do
  if presence s.header (!reversed) = .absent && (o.removesEmpty || !o.strict) then
    fail
    if !o.silent then
      say ("Not deleting file " ++ shellName outPath ++ " as content differs from patch\n")

/-- Writes the file of a part, now or later, or marks it to be removed. -/
def finish (o : PatchOptions) (scene : Scene) (path outPath : String) (p : Progress) :
    PatchJob Unit := do
  let h := scene.start.header
  let output := p.output.finish scene.input
  match o.output with
  | some _ => modify fun r => { r with output := (r.output.1 ++ output.bytes, []) }
  | none =>
    let ends := presence h (!p.reversed) = .absent
    let keeps := o.keepsOld || o.keepsDoubtful && (p.isDoubtful || 0 < p.failures)
    let isLink := fileKind? h = some linkKind
    if output.isEmpty && (o.removesEmpty || ends && !o.strict || isLink) then
      if !o.dry then
        if path ≠ outPath && (← get).targetAt o.followsLinks outPath = .missing then
          throw ("Can't get file attributes of file " ++ shellName outPath ++ " : " ++
            Files.Fault.notFound.reason)
        leave outPath keeps (scene.target = .missing)
    else
      if !output.isEmpty then warnLeft o scene.start p.reversed outPath
      if !o.dry then
        let (oldMode, newMode) :=
          if p.reversed then (h.newMode, h.oldMode) else (h.oldMode, h.newMode)
        let writes := p.failures < p.hunks || newMode ≠ 0 && oldMode ≠ newMode || h.isCopy ||
          h.isRename
        let bytes := ByteArray.mk output.bytes.toArray
        let node : Node := if isLink then .link (Text.showBytes bytes) else .file bytes
        let w : Writing := ⟨outPath, if writes then some node else none, keeps⟩
        if h.isGit && presence h p.reversed ≠ .absent then
          modify fun r => { r with waiting := r.waiting ++ [w] }
        else write o w
        if h.isRename then leave path keeps (scene.target = .missing)

/-- Writes the rejected hunks, behind those that the run has written before. -/
def writeRejects (path : String) (bytes : List UInt8) : PatchJob Unit := do
  let r ← get
  let before := if r.deed? path = some .made then (r.targetAt false path).bytes else []
  put path (.file (ByteArray.mk (before ++ bytes).toArray))
  modify (·.did path .made)

/-- Says how many hunks were not applied, and writes them. -/
def conclude (o : PatchOptions) (outPath : Option String) (p : Progress) : PatchJob Unit := do
  if 0 < p.failures then
    fail
    say (toString p.failures ++ " out of " ++ counted p.hunks "hunk" ++
      if p.skips then " ignored" else " FAILED")
    match outPath with
    | none => say "\n"
    | some out =>
      if o.rejects = some "-" || o.dry then say "\n"
      else
        let rejected := o.rejects.getD (out ++ ".rej")
        say (" -- saving rejects to file " ++ shellName rejected ++ "\n")
        writeRejects rejected p.rejected.reverse.flatten

/-- Applies one part; `lead` are the lines in front of it. The text behind it is left. -/
def part (o : PatchOptions) (s : Start) (lead : List Row) : PatchJob Source := do
  let s := dropIndex o s
  let a ← aim o s
  let skips ← introduce o s lead a
  if skips then fail
  if s.header.isGit ≠ (← get).isGit then
    if (← get).isGit then writeAll o
    modify fun r => { r with isGit := s.header.isGit }
  let path := a.path.getD ""
  let outPath := outPathOf o s a
  let queried ← get
  if !skips && queried.targetAt o.followsLinks outPath ≠ .missing &&
      queried.waiting.any (·.path = outPath) then
    writeAll o
  let target := targetOf o (← get) path
  let refused ← if skips then pure true else prepare o s target path outPath
  let scene : Scene := ⟨s, target, (rows target.bytes).toArray⟩
  if !refused && s.kind ≠ .edScript then
    checkRevision o scene
    if !o.silent then say (announcement o s a.reversed path outPath)
  if s.kind = .edScript then
    let (cuts, rest) := behindScript s.margin (s.source.rest.length + 1) s.source
    sayCuts cuts
    if !refused then
      if o.dry then warnLeft o s a.reversed outPath else throw "ed FAILED"
    return rest
  else
    let (items, before, rest) :=
      items s.margin (s.source.rest.length + 1) s.kind (← get).before s.source
    modify fun r => { r with before }
    let p ← applyItems o scene { reversed := a.reversed, skips := refused } items
    if !p.skips then finish o scene path outPath p
    conclude o (if skips then none else some outPath) p
    return rest

/-- Applies parts up to the end of a text; `fuel` bounds their number. Only the first part has to be
written in the way that is asked for. -/
def parts (o : PatchOptions) (size : Nat) : (fuel : Nat) → (isFirst : Bool) → Source → PatchJob Unit
  | 0, _, _ => pure ()
  | fuel + 1, isFirst, s => do
    if !isFirst && s.rest.isEmpty then return
    let wanted := if isFirst then o.kind else none
    let needsHeader := o.target.isNone && !o.strict && wanted ≠ some .edScript &&
      wanted ≠ some .normal
    let found := scan o.strip wanted (← get).before size { needsHeader } s
    sayCuts found.cuts
    say found.said
    match found.result with
    | .error problem => throw problem.message
    | .ok none =>
      if isFirst then
        if size ≠ 0 then throw "Only garbage was found in the patch input."
        else if o.output.isSome && o.target.isSome then
          let _ ← part o ⟨.unified, {}, {}, {}, {}, s.ended⟩ []
    | .ok (some start) =>
      let start := if o.keepsReturns then { start with margin.returned := false } else start
      let lead := s.rest.take (s.rest.length - start.source.rest.length)
      parts o size fuel false (← part o start lead)

end PatchJob

namespace PatchProgram

/-- The diffs that options name. -/
def readDiffs (o : PatchOptions) (files : Files) (input : ByteArray) : Except PatchStop ByteArray :=
  match o.diff with
  | none | some "" | some "-" => .ok input
  | some path =>
    match files.readBytes ⟨path⟩ with
    | .ok bytes => .ok bytes
    | .error .isDirectory => .error (.fatal ("read error : " ++ Files.Fault.isDirectory.reason))
    | .error fault =>
      .error (.fatal ("Can't open patch file " ++ shellName path ++ " : " ++ fault.reason))

/-- The files seen from the directory that options name. -/
def enter (o : PatchOptions) (files : Files) : Except PatchStop Files :=
  match o.directory with
  | none => .ok files
  | some dir =>
    let refuse (fault : Files.Fault) : Except PatchStop Files :=
      .error (.fatal ("Can't change to directory " ++ shellName dir ++ " : " ++ fault.reason))
    match files.locate .target ⟨dir⟩ with
    | .error fault => refuse fault
    | .ok (names, some (.dir _)) => .ok { files with cwd := names }
    | .ok (_, some .locked) => refuse .permissionDenied
    | .ok (_, none) => refuse .notFound
    | .ok (_, some _) => refuse .notDirectory

/-- Writes the file that is made of all parts. -/
def writeOutput (o : PatchOptions) (r : PatchRun) : PatchRun :=
  let bytes := ByteArray.mk (r.output.1 ++ r.output.2).toArray
  match o.output with
  | none => r
  | some "-" => { r with chunks := ⟨.output, bytes⟩ :: r.chunks }
  | some out => { r with files := (r.files.write ⟨out⟩ bytes).toOption.getD r.files }

/-- Applies all parts. -/
def job (o : PatchOptions) (diffs : ByteArray) : PatchJob Unit := do
  match o.output with
  | none | some "-" => pure ()
  | some out => PatchJob.put out (.file .empty)
  let source := Diff.Source.ofBytes diffs.toList
  PatchJob.parts o diffs.size (source.rest.length + 2) true source

/-- Goes on with a run, and tells of the problem if one ends it. -/
def proceed (job : PatchJob Unit) (r : PatchRun) : Bool × PatchRun :=
  match job.run r with
  | (.ok (), r) => (true, r)
  | (.error text, r) =>
    (false, { r with chunks := .err (PatchStop.fatal text).message :: r.chunks })

/-- Applies all parts, and does what was put off. What waits to be written is written even after a
problem; then nothing is removed. -/
def runAll (o : PatchOptions) (diffs : ByteArray) (r : PatchRun) : Nat × PatchRun :=
  let (applied, r) := proceed (job o diffs) r
  let (written, r) := proceed (PatchJob.writeAll o) r
  let (removed, r) := if applied && written then proceed (PatchJob.leaveAll o) r else (false, r)
  (if removed then r.failed.toNat else 2, writeOutput o r)

/-- Runs the program. -/
def run (files : Files) (arguments : List String) (input : ByteArray) : Ran :=
  let started : Except PatchStop (PatchOptions × Files × ByteArray) := do
    let o ← PatchOptions.parse arguments
    let inside ← enter o files
    return (o, inside, ← readDiffs o inside input)
  match started with
  | .error stop => .exited files [.err stop.message] 2
  | .ok (o, inside, diffs) =>
    let stream := if o.output = some "-" then Stream.errors else .output
    let (code, r) := runAll o diffs { files := inside, stream }
    .exited { r.files with cwd := files.cwd } r.chunks.reverse code

end PatchProgram

end FirmwareKit.Host
