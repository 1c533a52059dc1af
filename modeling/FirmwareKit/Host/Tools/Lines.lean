import FirmwareKit.Host.Formatted
import FirmwareKit.Host.Invocation

/-! Programs that read bytes line by line and print some of them, or something about them. -/

namespace FirmwareKit.Host.Tools

/-- A name between single quotes. -/
def quote (name : String) : String :=
  "'" ++ name ++ "'"

/-- A number filled up with blanks on its left. -/
def padded (width n : Nat) : String :=
  String.ofList (({ width } : Layout).integer n)

/-- The operands of a command line; the input if there are none. -/
def operandsOrInput (s : Switched) : List String :=
  if s.operands.isEmpty then ["-"] else s.operands

/-- A byte as it is shown when nothing is hidden. -/
def visible (tabs : Bool) (c : Char) : List Char :=
  let low (c : Char) : List Char :=
    if c = '\x7f' then ['^', '?']
    else if c < ' ' then ['^', Char.ofNat (c.toNat + 64)]
    else [c]
  if c = '\n' then [c]
  else if c = '\t' then if tabs then ['^', 'I'] else [c]
  else if 128 ≤ c.toNat then 'M' :: '-' :: low (Char.ofNat (c.toNat - 128))
  else low c

/-- How files are shown. -/
structure Showing where
  numbers : Bool
  numbersFull : Bool
  ends : Bool
  squeezes : Bool
  tabs : Bool
  others : Bool

/-- What is known from the lines that were shown. -/
structure Shown where
  count : Nat := 0
  blanks : Nat := 0
  isOpen : Bool := false

/-- Shows lines, the first of which goes on with an open one. -/
def showLines (o : Showing) : Shown → List (List Char) → List Char × Shown
  | s, [] => ([], s)
  | s, row :: more =>
    let isBlank := row = ['\n'] && !s.isOpen
    let blanks := if isBlank then s.blanks + 1 else 0
    let body := row.flatMap fun c =>
      if c = '\n' then if o.ends then ['$', '\n'] else ['\n']
      else if o.others then visible o.tabs c
      else if c = '\t' && o.tabs then ['^', 'I'] else [c]
    if o.squeezes && 1 < blanks then showLines o { s with blanks } more
    else
      let isNumbered := !s.isOpen && (if o.numbersFull then !isBlank else o.numbers)
      let count := if isNumbered then s.count + 1 else s.count
      let lead := if isNumbered then (padded 6 count ++ "\t").toList else []
      let (rest, s) := showLines o
        { count, blanks, isOpen := row.getLast? != some '\n' } more
      (lead ++ body ++ rest, s)

/-- Prints files one after the other. -/
def cat (i : Invocation) : Works Unit := do
  let s ← i.switches [{ word := "show-all", letter := some 'A' },
    { word := "number-nonblank", letter := some 'b' }, { letter := some 'e' },
    { word := "show-ends", letter := some 'E' }, { word := "number", letter := some 'n' },
    { word := "squeeze-blank", letter := some 's' }, { letter := some 't' },
    { word := "show-tabs", letter := some 'T' }, { letter := some 'u' },
    { word := "show-nonprinting", letter := some 'v' }, { word := "help" }, { word := "version" }]
  let o : Showing :=
    { numbers := s.has "n", numbersFull := s.has "b"
      ends := s.has "E" || s.has "e" || s.has "A"
      squeezes := s.has "s"
      tabs := s.has "T" || s.has "t" || s.has "A"
      others := s.has "v" || s.has "e" || s.has "t" || s.has "A" }
  let mut known : Shown := {}
  for name in operandsOrInput s do
    match ← i.readOperand name with
    | .error fault => i.complain (shellName name ++ ": " ++ fault.reason)
    | .ok bytes =>
      if o.numbers || o.numbersFull || o.ends || o.squeezes || o.tabs || o.others then
        let (out, next) := showLines o known (Octets.rows bytes)
        known := next
        Works.writeBytes (Octets.toBytes out)
      else Works.writeBytes bytes

/-- A count with a letter behind it that multiplies it. -/
def count? (text : String) : Option Nat :=
  let digits := text.toList.takeWhile Char.isDigit
  let factor : Option Nat := match String.ofList (text.toList.drop digits.length) with
    | "" => some 1
    | "b" => some 512
    | "k" | "K" | "KiB" => some 1024
    | "kB" | "KB" => some 1000
    | "m" | "M" | "MiB" => some (1024 * 1024)
    | "MB" => some (1000 * 1000)
    | "G" | "GiB" => some (1024 * 1024 * 1024)
    | _ => none
  if digits.isEmpty then none else factor.map (Formatted.number 10 digits * ·)

/-- Which part of a file is printed. -/
structure Part where
  byBytes : Bool := false
  /-- The count is seen from the other end of the file. -/
  isOther : Bool := false
  count : Nat := 10

/-- The start of some bytes. -/
def Part.start (p : Part) (bytes : ByteArray) : ByteArray :=
  if p.byBytes then
    bytes.extract 0 (if p.isOther then bytes.size - p.count else p.count)
  else
    let rows := Text.rows bytes.toList
    ⟨((rows.take (if p.isOther then rows.length - p.count else p.count)).flatten).toArray⟩

/-- The end of some bytes. -/
def Part.ending (p : Part) (bytes : ByteArray) : ByteArray :=
  if p.byBytes then
    bytes.extract (if p.isOther then p.count - 1 else bytes.size - p.count) bytes.size
  else
    let rows := Text.rows bytes.toList
    ⟨((rows.drop (if p.isOther then p.count - 1 else rows.length - p.count)).flatten).toArray⟩

/-- Reads a count that can have a sign which turns its meaning around. -/
def readPart (i : Invocation) (sign : Char) (byBytes : Bool) (text : String) : Works Part := do
  let (isOther, digits) := match text.toList with
    | c :: rest =>
      if c = sign then (true, String.ofList rest)
      else if c = '-' then (false, String.ofList rest) else (false, text)
    | [] => (false, text)
  match count? digits with
  | some count => return { byBytes, isOther, count }
  | none =>
    i.refuse
      ("invalid number of " ++ (if byBytes then "bytes" else "lines") ++ ": " ++ quote digits)

/-- The switches of the programs that print a part of their files. -/
def partSwitches : List Switch :=
  [{ word := "bytes", letter := some 'c', hasValue := some true },
    { word := "lines", letter := some 'n', hasValue := some true },
    { word := "quiet", letter := some 'q' }, { word := "silent", letter := some 'q' },
    { word := "verbose", letter := some 'v' }, { word := "zero-terminated", letter := some 'z' },
    { word := "help" }, { word := "version" }]

/-- Prints a part of each file, under its name if there are several. -/
def printParts (i : Invocation) (sign : Char) (pick : Part → ByteArray → ByteArray) :
    Works Unit := do
  let s ← i.switches partSwitches
  let given := s.given.filter fun (name, _) => name = "c" || name = "n"
  let parts ← given.mapM fun (name, text) => readPart i sign (name = "c") text
  let part := parts.getLast?.getD {}
  let part := if sign = '+' && parts.any (·.isOther) then { part with isOther := true } else part
  let names := operandsOrInput s
  let asked := (s.given.filter fun (name, _) => name = "q" || name = "v").getLast?
  let headed : Bool := (asked.map (·.1 == "v")).getD (decide (1 < names.length))
  let mut isFirst := true
  for name in names do
    let header := (if isFirst then "" else "\n") ++ "==> " ++
      (if name = "-" then "standard input" else name) ++ " <==\n"
    match ← i.readOperand name with
    | .error .isDirectory =>
      if headed then
        Works.write header
        isFirst := false
      i.complain ("error reading " ++ quote name ++ ": Is a directory")
    | .error fault =>
      i.complain ("cannot open " ++ quote name ++ " for reading: " ++ fault.reason)
    | .ok bytes =>
      if headed then
        Works.write header
        isFirst := false
      let out := pick part bytes
      Works.writeBytes out
      if name = "-" && i.readsFile && sign = '-' && !part.isOther then
        modify fun w => { w with taken := i.input.size - bytes.size + out.size }

/-- A first argument that is a sign and a count, as a switch. -/
def withCount (signs : List Char) (i : Invocation) : Works Invocation := do
  match i.arguments with
  | [] => return i
  | arg :: rest =>
    match arg.toList with
    | sign :: c :: cs =>
      if signs.contains sign && c.isDigit then
        let digits := (c :: cs).takeWhile Char.isDigit
        let count := (if sign = '+' then "+" else "") ++ String.ofList digits
        match (c :: cs).drop digits.length with
        | [] => return { i with arguments := "-n" :: count :: rest }
        | ['c'] => return { i with arguments := "-c" :: count :: rest }
        | ['l'] => return { i with arguments := "-n" :: count :: rest }
        | ['q'] => return { i with arguments := "-q" :: "-n" :: count :: rest }
        | ['v'] => return { i with arguments := "-v" :: "-n" :: count :: rest }
        | extra :: _ =>
          if signs = ['-'] then i.misused ("invalid trailing option -- " ++ String.singleton extra)
          else return i
      else return i
    | _ => return i

/-- Prints the starts of files. -/
def head (i : Invocation) : Works Unit := do
  printParts (← withCount ['-'] i) '-' Part.start

/-- Prints the ends of files. -/
def tail (i : Invocation) : Works Unit := do
  printParts (← withCount ['-', '+'] i) '+' Part.ending

/-- What is counted in a file: lines, words, bytes, and the length of the longest line. -/
structure Counts where
  lines : Nat := 0
  words : Nat := 0
  bytes : Nat := 0
  longest : Nat := 0

/-- Counts what is in some bytes. -/
def Counts.of (bytes : ByteArray) : Counts :=
  let octets := Octets.ofBytes bytes.toList
  let isBlank (c : Char) : Bool := c = ' ' || ('\t' ≤ c && c ≤ '\r')
  let starts := (' ' :: octets).zip octets
  { lines := octets.count '\n'
    words := (starts.filter fun (a, b) => isBlank a && !isBlank b).length
    bytes := octets.length
    longest := ((Octets.rows bytes).map fun row =>
      ((Octets.chomp row).foldl (fun n c =>
        if c = '\t' then (n / 8 + 1) * 8 else if ' ' ≤ c && c ≤ '~' then n + 1 else n) 0)).foldl
          max 0 }

/-- Counts lines, words and bytes. -/
def wc (i : Invocation) : Works Unit := do
  let s ← i.switches [
    { word := "bytes", letter := some 'c' }, { word := "chars", letter := some 'm' },
    { word := "lines", letter := some 'l' }, { word := "words", letter := some 'w' },
    { word := "max-line-length", letter := some 'L' }, { word := "help" }, { word := "version" }]
  let all := s.given.isEmpty
  let shown : List (Counts → Nat) :=
    (if all || s.has "l" then [Counts.lines] else []) ++
      (if all || s.has "w" then [Counts.words] else []) ++
      (if s.has "m" then [Counts.bytes] else []) ++
      (if all || s.has "c" then [Counts.bytes] else []) ++
      (if s.has "L" then [Counts.longest] else [])
  let names := operandsOrInput s
  let files := (← get).files
  let sizes := names.filterMap fun name =>
    if name = "-" then some (if i.readsFile then some i.input.size else none)
    else if name = Invocation.emptyFile then some none
    else
      match files.find .target ⟨name⟩ with
      | .ok (.file bytes) | .ok (.unnamed bytes) => some (some bytes.size)
      | .ok _ => some none
      | .error _ => none
  let width := if names.length = 1 && shown.length = 1 then 1
    else
      max (toString ((sizes.filterMap fun size => size).foldl (· + ·) 0)).length
        (if sizes.any Option.isNone then 7 else 1)
  let print (c : Counts) (name : String) : Works Unit :=
    Works.write (" ".intercalate (shown.map fun count => padded width (count c)) ++
      (if name.isEmpty then "" else " " ++ name) ++ "\n")
  let mut total : Counts := {}
  for name in names do
    let label := if s.operands.isEmpty then "" else name
    match ← i.readOperand name with
    | .error .isDirectory =>
      i.complain (shellName name ++ ": Is a directory")
      print {} label
    | .error fault => i.complain (shellName name ++ ": " ++ fault.reason)
    | .ok bytes =>
      let c := Counts.of bytes
      total :=
        { lines := total.lines + c.lines, words := total.words + c.words
          bytes := total.bytes + c.bytes, longest := max total.longest c.longest }
      print c label
  if 1 < names.length then print total "total"

/-- Lines with their ends, all of which have one. -/
def wholeLines (bytes : ByteArray) : List (List Char) :=
  (Octets.rows bytes).map Octets.chomp

/-- Prints lines. -/
def writeLines (lines : List (List Char)) : Works Unit :=
  Works.writeBytes (Octets.toBytes (lines.flatMap (· ++ ['\n'])))

/-- Prints lines in the opposite order. -/
def tac (i : Invocation) : Works Unit := do
  let s ← i.switches [{ word := "help" }, { word := "version" }]
  for name in operandsOrInput s do
    match ← i.readOperand name with
    | .error .isDirectory => i.complain (shellName name ++ ": read error: Is a directory")
    | .error fault =>
      i.complain ("failed to open " ++ quote name ++ " for reading: " ++ fault.reason)
    | .ok bytes => Works.writeBytes (Octets.toBytes (Octets.rows bytes).reverse.flatten)

/-- Prints the characters of each line in the opposite order. -/
def rev (i : Invocation) : Works Unit := do
  let s ← i.switches [{ word := "help" }, { word := "version" }]
  for name in operandsOrInput s do
    match ← i.readOperand name with
    | .error fault => i.complain ("cannot open " ++ name ++ ": " ++ fault.reason)
    | .ok bytes =>
      Works.writeBytes (Octets.toBytes ((Octets.rows bytes).flatMap fun row =>
        (Octets.chomp row).reverse ++ if row.getLast? = some '\n' then ['\n'] else []))

/-- Numbers the lines that are not empty. -/
def nl (i : Invocation) : Works Unit := do
  let s ← i.switches [{ word := "body-numbering", letter := some 'b', hasValue := some true },
    { word := "help" }, { word := "version" }]
  let all := s.value? "b" = some "a"
  let mut count := 1
  for name in operandsOrInput s do
    match ← i.readOperand name with
    | .error fault => i.complain (shellName name ++ ": " ++ fault.reason)
    | .ok bytes =>
      for line in wholeLines bytes do
        if all || !line.isEmpty then
          writeLines [(padded 6 count ++ "\t").toList ++ line]
          count := count + 1
        else writeLines ["       ".toList]

/-- Compares two files byte by byte. -/
def cmp (i : Invocation) : Works Unit := do
  let known : List Switch := [{ word := "silent", letter := some 's' },
    { word := "quiet", letter := some 's' }, { word := "help" }, { word := "version" }]
  let misused {α : Type} (text : String) : Works α :=
    i.refuse (text ++ "\n" ++ i.name ++ ": Try '" ++ i.name ++ " --help' for more information.") 2
  let s ← match readSwitches known i.arguments with
    | .ok s => pure s
    | .error fault => misused fault.message
  match s.operands with
  | [] => misused ("missing operand after '" ++ i.name ++ "'")
  | first :: more =>
    let second := more.head?.getD "-"
    let tell (text : String) : Works Unit := do
      if !s.has "s" then Works.warn (i.name ++ ": " ++ text ++ "\n")
    let read (name : String) : Works ByteArray := do
      match ← i.readOperand name with
      | .ok bytes => return bytes
      | .error fault =>
        tell (name ++ ": " ++ fault.reason)
        Works.setCode 2
        Works.stop
    let a := (← read first).toList
    let b := (← read second).toList
    let same := ((a.zip b).takeWhile fun (x, y) => x == y).length
    if a.length != b.length || same < a.length then
      Works.setCode 1
      let passed := a.take same
      let lines := passed.count Text.newline
      if same < min a.length b.length then
        if !s.has "s" then
          Works.write
            (first ++ " " ++ second ++ " differ: char " ++ toString (same + 1) ++ ", line " ++
            toString (lines + 1) ++ "\n")
      else
        let short := if a.length < b.length then first else second
        tell ("EOF on " ++ short ++
          if same = 0 then " which is empty"
          else " after byte " ++ toString same ++
            (if passed.getLast? = some Text.newline then ", line " ++ toString lines
              else ", in line " ++ toString (lines + 1)))

/-- Copies the input to the output and to files. -/
def tee (i : Invocation) : Works Unit := do
  let s ← i.switches [{ word := "append", letter := some 'a' },
    { word := "ignore-interrupts", letter := some 'i' }, { letter := some 'p' }, { word := "help" },
    { word := "version" }]
  let input ← i.readInput
  for name in s.operands do
    if name != Invocation.emptyFile then
      let found := (← get).files.readBytes ⟨name⟩
      let old := if s.has "a" then found.toOption.getD .empty else .empty
      match ← Works.change (·.write ⟨name⟩ (old ++ input)) with
      | none => pure ()
      | some fault => i.complain (shellName name ++ ": " ++ fault.reason)
  Works.writeBytes input

end FirmwareKit.Host.Tools
