import FirmwareKit.Host.Edit.Script
import FirmwareKit.Host.Tools.Lines

/-! Running a script of the stream editor on lines. A last line without a newline is written without
one, unless something follows it. -/

namespace FirmwareKit.Host.Edit

/-- What an editor knows while it runs. -/
structure Sheet where
  space : List Char := []
  hold : List Char := []
  /-- The number of the line. -/
  line : Nat := 0
  rest : List (List Char)
  /-- The line has its newline. -/
  isWhole : Bool := true
  /-- What is written behind the line, and files of which that is done. -/
  queue : List (List Char ⊕ String) := []
  /-- The commands whose ranges are open, and where those end that end at a known line. -/
  active : List (Nat × Option Nat) := []
  replaced : Bool := false
  lastRegex : Option (Regex × Bool) := none
  /-- What was written, last first. -/
  out : List (List Char) := []
  /-- A newline is missing at the end of what was written. -/
  missing : Bool := false
  /-- The script quits with that code. -/
  quits : Option Nat := none
  files : List (String × List Char) := []
  /-- What files hold that are read. -/
  known : String → List Char

namespace Sheet

/-- Writes text. -/
def write (s : Sheet) (text : List Char) (isWhole : Bool) : Sheet :=
  { s with
    out := (if isWhole then text ++ ['\n'] else text) ::
      (if s.missing then ['\n'] :: s.out else s.out)
    missing := !isWhole }

/-- Writes whole lines as they are. -/
def writeRaw (s : Sheet) (text : List Char) : Sheet :=
  if text.isEmpty then s
  else
    { s with
      out := text :: (if s.missing then ['\n'] :: s.out else s.out)
      missing := text.getLast? != some '\n' }

/-- Writes what waits behind the line. -/
def flush (s : Sheet) : Sheet :=
  let s' := s.queue.foldl (fun s item =>
    match item with
    | .inl text => s.writeRaw text
    | .inr name => { s.writeRaw (s.known name) with missing := false }) s
  { s' with queue := [] }

/-- Adds the line to a file. -/
def saveLine (s : Sheet) (name : String) : Sheet :=
  let old := (s.files.lookup name).getD []
  { s with files := (name, old ++ s.space ++ ['\n']) :: s.files.filter (·.1 != name) }

/-- Takes the next line. -/
def take (s : Sheet) : Option (List Char × Sheet) :=
  match s.rest with
  | [] => none
  | row :: rest =>
    some (Octets.chomp row,
      { s with rest, line := s.line + 1, isWhole := row.getLast? = some '\n' })

/-- The first match in a text from a position on. -/
def search (r : Regex) (folds : Bool) (text : List Char) (start : Nat) :
    Option (Nat × Regex.Spot) :=
  r.find folds text.toArray start

/-- The line is at an address. -/
def isAt (s : Sheet) (a : Address) : Bool × Sheet :=
  match a with
  | .line n => (s.line = n, s)
  | .every first step =>
    (if step = 0 then s.line = first else first ≤ s.line && (s.line - first) % step = 0, s)
  | .last => (s.rest.isEmpty, s)
  | .fits r folds =>
    match (r.map (·, folds)) <|> s.lastRegex with
    | some (r, folds) =>
      ((search r folds s.space 0).isSome, { s with lastRegex := some (r, folds) })
    | none => (false, s)

/-- The line is one that a command is for; `n` is the number of the command. -/
def isMeant (s : Sheet) (n : Nat) (c : Command) : Bool × Sheet :=
  let close (s : Sheet) : Sheet := { s with active := s.active.filter (·.1 != n) }
  let open' (s : Sheet) (last : Option Nat) : Sheet := { s with active := (n, last) :: s.active }
  match c.first, c.last with
  | none, _ => (true, s)
  | some a, none => s.isAt a
  | some a, some finish =>
    match s.active.lookup n with
    | some (some last) =>
      if last ≤ s.line then (s.line = last, close s) else (true, s)
    | some none =>
      match finish with
      | .at b =>
        let (found, s) := s.isAt b
        (true, if found then close s else s)
      | .after _ => (true, s)
    | none =>
      let (found, s) := match a with
        | .line 0 => (s.line = 1, s)
        | _ => s.isAt a
      if !found then (false, s)
      else
        match a, finish with
        | _, .after count => (true, if count = 0 then s else open' s (some (s.line + count)))
        | _, .at (.line m) => (true, if m ≤ s.line then s else open' s (some m))
        | .line 0, .at b =>
          let (ends, s) := s.isAt b
          (true, if ends then s else open' s none)
        | _, .at .last => (true, if s.rest.isEmpty then s else open' s none)
        | _, .at _ => (true, open' s none)

/-- The text of a replacement for a match. -/
def replacement (text : Array Char) (start : Nat) (m : Regex.Spot) :
    List Part → (mode : Option Bool) → (once : Option Bool) → List Char
  | [], _, _ => []
  | .case mode once :: more, old, one =>
    if once then replacement text start m more old mode else replacement text start m more mode one
  | part :: more, mode, once =>
    let cs := match part with
      | .text cs => cs
      | .group 0 => (text.extract start m.position).toList
      | .group n => ((m.groups.lookup n).map fun (a, b) => (text.extract a b).toList).getD []
      | .case .. => []
    let cased (mode : Option Bool) (c : Char) : Char :=
      match mode with
      | some true => c.toUpper
      | some false => c.toLower
      | none => c
    let cs := cs.map (cased mode)
    match cs, once with
    | c :: rest, some isUpper =>
      cased (some isUpper) c :: rest ++ replacement text start m more mode none
    | cs, _ => cs ++ replacement text start m more mode once

/-- A text with matches replaced, from the one with a number on, and if any was. -/
def replaceFrom (r : Regex) (folds : Bool) (parts : List Part) (nth : Nat) (all : Bool)
    (text : Array Char) : (fuel count position : Nat) → (afterMatch : Bool) → List Char × Bool
  | 0, _, position, _ => ((text.extract position text.size).toList, false)
  | fuel + 1, count, position, afterMatch =>
    match r.find folds text position with
    | none => ((text.extract position text.size).toList, false)
    | some (start, m) =>
      let lead := (text.extract position start).toList
      let isEmpty := start = m.position
      let next := (text[start]?).toList
      if isEmpty && afterMatch && start = position then
        if text.size ≤ start then (lead, false)
        else
          let (more, found) := replaceFrom r folds parts nth all text fuel count (start + 1) false
          (lead ++ next ++ more, found)
      else
        let isChosen := count = nth || (all && nth ≤ count)
        let here := if isChosen then replacement text start m parts none none
          else (text.extract start m.position).toList
        if isChosen && !all then
          (lead ++ here ++ (text.extract m.position text.size).toList, true)
        else if isEmpty then
          if text.size ≤ start then (lead ++ here, isChosen)
          else
            let (more, found) :=
              replaceFrom r folds parts nth all text fuel (count + 1) (start + 1) false
            (lead ++ here ++ next ++ more, found || isChosen)
        else
          let (more, found) :=
            replaceFrom r folds parts nth all text fuel (count + 1) m.position true
          (lead ++ here ++ more, found || isChosen)

/-- A line as it is written when nothing in it is hidden. -/
def unambiguous (text : List Char) : List Char :=
  text.flatMap fun c =>
    match c with
    | '\\' => ['\\', '\\']
    | '\x07' => ['\\', 'a']
    | '\x08' => ['\\', 'b']
    | '\x0c' => ['\\', 'f']
    | '\n' => ['\\', 'n']
    | '\r' => ['\\', 'r']
    | '\t' => ['\\', 't']
    | '\x0b' => ['\\', 'v']
    | _ =>
      if ' ' ≤ c && c ≤ '~' then [c]
      else
        let ds := Nat.toDigits 8 c.toNat
        '\\' :: (List.replicate (3 - ds.length) '0' ++ ds)

/-- Where a run goes on. -/
inductive Step where
  | next
  | jump (n : Nat)
  | nextLine
  | again
  | stop

/-- The number of the command behind the end of a block that begins behind a command. -/
def behindBlock (script : Array Command) : (fuel n depth : Nat) → Nat
  | 0, n, _ => n
  | fuel + 1, n, depth =>
    match script[n]?.map Command.action with
    | some .opens => behindBlock script fuel (n + 1) (depth + 1)
    | some .closes => if depth = 0 then n + 1 else behindBlock script fuel (n + 1) (depth - 1)
    | some _ => behindBlock script fuel (n + 1) depth
    | none => n

/-- Where a label stands; no name means the end of the script. -/
def labelAt (script : Array Command) (name : String) : Nat :=
  if name.isEmpty then script.size
  else
    (script.toList.findIdx? fun c =>
      match c.action with
      | .label n => n == name
      | _ => false).getD script.size

/-- Does what a letter stands for. -/
def plainAction (quiet : Bool) (letter : Char) (s : Sheet) : Step × Sheet :=
  let firstLine := s.space.takeWhile (· != '\n')
  match letter with
  | 'd' => (.nextLine, s)
  | 'D' =>
    if s.space.contains '\n' then (.again, { s with space := s.space.drop (firstLine.length + 1) })
    else (.nextLine, s)
  | 'p' => (.next, s.write s.space s.isWhole)
  | 'P' => (.next, s.write firstLine true)
  | '=' => (.next, s.write (toString s.line).toList true)
  | 'l' => (.next, s.write (unambiguous s.space ++ ['$']) true)
  | 'n' =>
    if s.rest.isEmpty then (if quiet then (.stop, s) else (.stop, s.write s.space s.isWhole))
    else
      let s := if quiet then s else s.write s.space s.isWhole
      match s.flush.take with
      | some (row, s) => (.next, { s with space := row })
      | none => (.stop, s)
  | 'N' =>
    match s.flush.take with
    | some (row, s) => (.next, { s with space := s.space ++ '\n' :: row })
    | none => (.stop, if quiet then s else s.write s.space s.isWhole)
  | 'g' => (.next, { s with space := s.hold })
  | 'G' => (.next, { s with space := s.space ++ '\n' :: s.hold })
  | 'h' => (.next, { s with hold := s.space })
  | 'H' => (.next, { s with hold := s.hold ++ '\n' :: s.space })
  | _ => (.next, { s with space := s.hold, hold := s.space })

/-- Does what a command says. -/
def act (quiet : Bool) (script : Array Command) (n : Nat) (c : Command) (s : Sheet) :
    Step × Sheet :=
  match c.action with
  | .plain letter => plainAction quiet letter s
  | .substitute r folds parts nth all prints file =>
    match (r.map (·, folds)) <|> s.lastRegex with
    | none => (.next, s)
    | some (r, folds) =>
      let s := { s with lastRegex := some (r, folds) }
      let (text, found) :=
        replaceFrom r folds parts nth all s.space.toArray (s.space.length + 2) 1 0 false
      if !found then (.next, s)
      else
        let s := { s with space := text, replaced := true }
        let s := if prints then s.write s.space s.isWhole else s
        (.next, match file with
          | some name => s.saveLine name
          | none => s)
  | .translate pairs =>
    (.next, { s with space := s.space.map fun c => (pairs.lookup c).getD c })
  | .text 'a' text => (.next, { s with queue := s.queue ++ [.inl (text ++ ['\n'])] })
  | .text 'i' text => (.next, s.writeRaw (text ++ ['\n']))
  | .text _ text =>
    let isInside := c.last.isSome && (s.active.lookup n).isSome && !c.isNegated
    (.nextLine, if isInside then s else s.writeRaw (text ++ ['\n']))
  | .quit letter code =>
    let s := if quiet || letter = 'Q' then s else s.write s.space s.isWhole
    (.stop, { (if letter = 'Q' then s else s.flush) with quits := some code })
  | .file 'r' name => (.next, { s with queue := s.queue ++ [.inr name] })
  | .file _ name => (.next, s.saveLine name)
  | .label _ | .closes | .opens => (.next, s)
  | .jump letter name =>
    let isMade := letter = 'b' || (letter = 't' && s.replaced) || (letter = 'T' && !s.replaced)
    let s := if letter = 'b' then s else { s with replaced := false }
    if isMade then (.jump (labelAt script name), s) else (.next, s)

/-- Runs the commands from one on; says if the line is written, and if the script starts again with
what is there. -/
def commands (quiet : Bool) (script : Array Command) :
    (fuel n : Nat) → Sheet → Step × Sheet
  | 0, _, s => (.stop, s)
  | fuel + 1, n, s =>
    match script[n]? with
    | none => (.next, s)
    | some c =>
      let (isMeant, s) := s.isMeant n c
      if isMeant == c.isNegated then
        match c.action with
        | .opens => commands quiet script fuel (behindBlock script script.size (n + 1) 0) s
        | _ => commands quiet script fuel (n + 1) s
      else
        match act quiet script n c s with
        | (.next, s) => commands quiet script fuel (n + 1) s
        | (.jump m, s) => commands quiet script fuel m s
        | other => other

/-- Runs a script on all lines. -/
def cycles (quiet : Bool) (script : Array Command) : (fuel : Nat) → (keeps : Bool) → Sheet → Sheet
  | 0, _, s => s
  | fuel + 1, keeps, s =>
    let start := if keeps then some (s.space, s) else s.take
    match start with
    | none => s
    | some (row, s) =>
      let s := { s with space := row, replaced := if keeps then s.replaced else false }
      match commands quiet script 100000 0 s with
      | (.stop, s) => s.flush
      | (.again, s) => cycles quiet script fuel true s.flush
      | (.nextLine, s) => cycles quiet script fuel false s.flush
      | (_, s) =>
        cycles quiet script fuel false
          (if quiet then s else s.write s.space s.isWhole).flush

end Sheet

/-- The switches of the editor. -/
def switches : List Switch :=
  [{ word := "quiet", letter := some 'n' }, { word := "silent", letter := some 'n' },
    { word := "expression", letter := some 'e', hasValue := some true },
    { word := "file", letter := some 'f', hasValue := some true },
    { word := "regexp-extended", letter := some 'E' }, { letter := some 'r' },
    { word := "in-place", letter := some 'i', hasValue := none },
    { word := "separate", letter := some 's' }, { word := "unbuffered", letter := some 'u' },
    { word := "posix" }, { word := "sandbox" }, { word := "debug" }, { word := "help" },
    { word := "version" }]

/-- Reads the scripts of a command line. -/
def readScripts (i : Invocation) (extended : Bool) (given : List (String × String)) :
    Works (List Command) := do
  let mut all := []
  let mut count := 0
  for (name, text) in given do
    if name = "f" then
      match ← i.readOperand text with
      | .error fault => i.refuse ("couldn't open file " ++ text ++ ": " ++ fault.reason) 4
      | .ok bytes =>
        let body := Text.showBytes bytes
        let body := if body.endsWith "\n" then (body.dropEnd 1).toString else body
        match readScript extended body with
        | .ok commands => all := all ++ commands
        | .error m =>
          i.refuse ("file " ++ text ++ " line 1: " ++ m.problem)
    else
      count := count + 1
      match readScript extended text with
      | .ok commands => all := all ++ commands
      | .error m =>
        i.refuse ("-e expression #" ++ toString count ++ ", char " ++ toString m.position ++ ": " ++
          m.problem)
  return all

/-- Runs a script on some lines. -/
def Sheet.run (quiet : Bool) (script : Array Command) (known : String → List Char)
    (rows : List (List Char)) : Sheet :=
  Sheet.cycles quiet script (rows.length * 50 + 1000) false { rest := rows, known }

end Edit

/-- Edits the lines of files by a script. -/
def Tools.sed (i : Invocation) : Works Unit := do
  let s ← i.switches Edit.switches
  let given := s.given.filter fun (name, _) => name = "e" || name = "f"
  let (scripts, operands) ← match given, s.operands with
    | [], [] => do
      Works.setCode 1
      Works.stop
    | [], first :: rest => pure ([("e", first)], rest)
    | given, operands => pure (given, operands)
  let commands ← Edit.readScripts i (s.has "E" || s.has "r") scripts
  let script := commands.toArray
  let files := (← get).files
  let known (name : String) : List Char :=
    (files.readBytes ⟨name⟩).toOption.elim [] fun bytes => Octets.ofBytes bytes.toList
  let outputs : List (String × List Char) := commands.filterMap fun c =>
    match c.action with
    | .file 'w' name | .substitute _ _ _ _ _ _ (some name) => some (name, [])
    | _ => none
  let save (files : List (String × List Char)) : Works Unit := do
    for (name, text) in files do
      if name = "/dev/stdout" then Works.writeBytes (Octets.toBytes text)
      else
        let _ ← Works.change (·.write ⟨name⟩ (Octets.toBytes text))
  save outputs
  let mut groups := #[]
  for name in (if operands.isEmpty then ["-"] else operands) do
    match ← i.readOperand name with
    | .error .isDirectory =>
      if s.has "i" then i.complain ("couldn't edit " ++ name ++ ": not a regular file") 4
      else i.complain ("read error on " ++ name ++ ": Is a directory") 4
    | .error fault => i.complain ("can't read " ++ name ++ ": " ++ fault.reason) 2
    | .ok bytes => groups := groups.push (name, Octets.rows bytes)
  let finish (sheet : Edit.Sheet) : Works Unit := do
    save sheet.files
    match sheet.quits with
    | some code => Works.setCode code
    | none => pure ()
  let edit (rows : List (List Char)) : Edit.Sheet := Edit.Sheet.run (s.has "n") script known rows
  if s.has "i" then
    for (name, rows) in groups do
      let sheet := edit rows
      let ending := (s.value? "i").getD ""
      if !ending.isEmpty then
        let backup := if ending.contains '*' then ending.replace "*" name else name ++ ending
        let _ ← Works.change (·.write ⟨backup⟩ (Octets.toBytes rows.flatten))
      let _ ← Works.change (·.write ⟨name⟩ (Octets.toBytes (sheet.out.reverse.flatten ++
        (if sheet.quits.isSome then sheet.rest.flatten else []))))
      finish sheet
  else if s.has "s" then
    for (_, rows) in groups do
      let sheet := edit rows
      Works.writeBytes (Octets.toBytes sheet.out.reverse.flatten)
      finish sheet
  else
    let rows := groups.toList.map (·.2)
    let joined := rows.foldr (fun rows more =>
      match rows.getLast?, more with
      | some row, _ :: _ =>
        if row.getLast? = some '\n' then rows ++ more
        else rows.dropLast ++ (row ++ ['\n']) :: more
      | _, _ => rows ++ more) []
    let sheet := edit joined
    Works.writeBytes (Octets.toBytes sheet.out.reverse.flatten)
    finish sheet

end FirmwareKit.Host
