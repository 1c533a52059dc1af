import FirmwareKit.Host.Regex
import FirmwareKit.Host.Tools.Lines

/-! The program that prints the lines of files that fit patterns. -/

namespace FirmwareKit.Host.Tools

/-- What lines are searched for. -/
structure Search where
  patterns : List Regex
  folds : Bool := false
  isNegated : Bool := false
  wholeWords : Bool := false
  wholeLines : Bool := false

namespace Search

/-- The longest match of a pattern that starts at a position and is allowed there. -/
def matchAt (o : Search) (r : Regex) (text : Array Char) (start : Nat) : Option Nat :=
  let isWord (n : Nat) : Bool := Regex.isWord text[n]?
  let fits (finish : Nat) : Bool :=
    (!o.wholeLines || (start = 0 && finish = text.size)) &&
      (!o.wholeWords || !(0 < start && isWord (start - 1)) && !isWord finish)
  let found := (r.ends text o.folds (4 * text.size + 1000) { position := start }).filter
    fun s => fits s.position
  found.foldl (fun best s => some (max (best.getD 0) s.position)) none

/-- The first match in a text from a position on. -/
def find (o : Search) (text : Array Char) (from' : Nat) : Option (Nat × Nat) :=
  (List.range (text.size + 1 - from')).findSome? fun n =>
    let start := from' + n
    let ends := o.patterns.filterMap (o.matchAt · text start)
    (ends.foldl (fun best e => some (max (best.getD 0) e)) none).map (start, ·)

/-- The line is one of those that are searched. -/
def selects (o : Search) (line : List Char) : Bool :=
  (o.find line.toArray 0).isSome != o.isNegated

/-- All matches in a text that are not empty. -/
def matchesIn (o : Search) (text : Array Char) : (fuel from' : Nat) → List (List Char)
  | 0, _ => []
  | fuel + 1, from' =>
    match o.find text from' with
    | none => []
    | some (start, finish) =>
      if start = finish then
        if start < text.size then matchesIn o text fuel (start + 1) else []
      else (text.extract start finish).toList :: matchesIn o text fuel finish

end Search

/-- The switches of `grep`. -/
def searchSwitches : List Switch :=
  [{ word := "count", letter := some 'c' }, { word := "line-number", letter := some 'n' },
    { word := "invert-match", letter := some 'v' }, { word := "ignore-case", letter := some 'i' },
    { letter := some 'y' }, { word := "quiet", letter := some 'q' },
    { word := "silent", letter := some 'q' }, { word := "no-messages", letter := some 's' },
    { word := "files-with-matches", letter := some 'l' },
    { word := "files-without-match", letter := some 'L' },
    { word := "no-filename", letter := some 'h' }, { word := "with-filename", letter := some 'H' },
    { word := "only-matching", letter := some 'o' }, { word := "word-regexp", letter := some 'w' },
    { word := "line-regexp", letter := some 'x' },
    { word := "extended-regexp", letter := some 'E' },
    { word := "fixed-strings", letter := some 'F' }, { word := "basic-regexp", letter := some 'G' },
    { word := "regexp", letter := some 'e', hasValue := some true },
    { word := "max-count", letter := some 'm', hasValue := some true },
    { word := "after-context", letter := some 'A', hasValue := some true },
    { word := "before-context", letter := some 'B', hasValue := some true },
    { word := "context", letter := some 'C', hasValue := some true },
    { word := "text", letter := some 'a' }, { word := "color", hasValue := none },
    { word := "recursive", letter := some 'r' },
    { word := "dereference-recursive", letter := some 'R' },
    { word := "null", letter := some 'Z' },
    { word := "help" }, { word := "version" }]

/-- Says how the program is used and ends it. -/
def searchUsage {α : Type} (i : Invocation) (problem : String) : Works α := do
  if !problem.isEmpty then i.complain problem 2
  Works.warn ("Usage: " ++ i.name ++ " [OPTION]... PATTERNS [FILE]...\nTry '" ++ i.name ++
    " --help' for more information.\n")
  Works.setCode 2
  Works.stop

/-- The expression that stands for a pattern. -/
def readPattern (i : Invocation) (s : Switched) (text : String) : Works Regex := do
  let octets := Octets.ofText text
  if s.has "F" then return octets.foldr (fun c r => .both (.char c) r) .empty
  match Regex.parse (s.has "E") octets with
  | .ok r => return r
  | .error problem => i.refuse problem 2

/-- The files in a directory and below it, by name; anything else is itself. -/
def filesBelow (files : Files) (isBare : Bool) (name : String) : List String :=
  match files.find .target ⟨name⟩ with
  | .ok (.dir entries) =>
    (Node.dir entries).descendants.filterMap fun (names, node) =>
      let path := "/".intercalate names
      if !node.isFile then none
      else if isBare then some path
      else if name.endsWith "/" then some (name ++ path) else some (name ++ "/" ++ path)
  | _ => [name]

/-- Prints the lines of files that fit patterns. -/
def grep (i : Invocation) : Works Unit := do
  let s ← match readSwitches searchSwitches i.arguments with
    | .ok s => pure s
    | .error fault => searchUsage i fault.message
  let given := (s.given.filter (·.1 = "e")).map (·.2)
  let (texts, operands) ← match given, s.operands with
    | [], [] => searchUsage i ""
    | [], first :: rest => pure ([first], rest)
    | given, operands => pure (given, operands)
  let patterns ← (texts.flatMap (·.splitOn "\n")).mapM (readPattern i s)
  let o : Search :=
    { patterns, folds := s.has "i" || s.has "y", isNegated := s.has "v", wholeWords := s.has "w"
      wholeLines := s.has "x" }
  let number (name : String) : Works (Option Nat) := do
    match s.value? name with
    | none => return none
    | some text =>
      match text.toNat? with
      | some n => return some n
      | none =>
        if name = "m" then i.refuse "invalid max count" 2
        else i.refuse (text ++ ": invalid context length argument") 2
  let most ← number "m"
  let around ← number "C"
  let after := (← number "A").getD (around.getD 0)
  let before := (← number "B").getD (around.getD 0)
  let hasContext := 0 < after || 0 < before
  let isDeep := s.has "r" || s.has "R"
  let files := (← get).files
  let given := if !operands.isEmpty then operands else if isDeep then ["."] else ["-"]
  let names := if isDeep then given.flatMap (filesBelow files operands.isEmpty) else given
  let named := !s.has "h" && (s.has "H" || 1 < given.length ||
    (isDeep && given.any fun name => files.isDir ⟨name⟩))
  let mut isFound := false
  let mut isWrong := false
  for name in names do
    if s.has "q" && isFound then break
    match ← i.readOperand name with
    | .error fault =>
      isWrong := true
      if !s.has "s" then i.complain (name ++ ": " ++ fault.reason) 2
    | .ok bytes =>
      let label := if name = "-" then "(standard input)" else name
      let lines := (Octets.rows bytes).map Octets.chomp
      let all := (lines.zipIdx.filter fun (line, _) => o.selects line).map (·.2)
      let chosen := match most with
        | some n => all.take n
        | none => all
      if !chosen.isEmpty then isFound := true
      let lead (n : Nat) (mark : String) : List Char :=
        Octets.ofText ((if named then label ++ mark else "") ++
          if s.has "n" then toString (n + 1) ++ mark else "")
      if s.has "q" then pure ()
      else if s.has "l" then
        if !chosen.isEmpty then Works.write (label ++ "\n")
      else if s.has "L" then
        if chosen.isEmpty then Works.write (label ++ "\n")
      else if s.has "c" then
        Works.write ((if named then label ++ ":" else "") ++ toString chosen.length ++ "\n")
      else if bytes.toList.contains 0 && !s.has "a" then
        if !chosen.isEmpty then Works.write (i.name ++ ": " ++ label ++ ": binary file matches\n")
      else if s.has "o" then
        for n in chosen do
          let line := ((lines[n]?).getD []).toArray
          if !o.isNegated then
            writeLines ((o.matchesIn line (line.size + 1) 0).map (lead n ":" ++ ·))
      else
        let isShown (n : Nat) : Bool := chosen.any fun m => m ≤ n + before && n ≤ m + after
        let shown := (List.range lines.length).filter isShown
        let mut last : Option Nat := none
        for n in shown do
          if hasContext && (last.map (· + 1 != n)).getD false then Works.write "--\n"
          last := some n
          writeLines [lead n (if chosen.contains n then ":" else "-") ++ (lines[n]?).getD []]
  Works.setCode (if isFound && (s.has "q" || !isWrong) then 0 else if isWrong then 2 else 1)

end FirmwareKit.Host.Tools
