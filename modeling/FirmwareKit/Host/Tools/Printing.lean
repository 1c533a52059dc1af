import FirmwareKit.Host.Condition
import FirmwareKit.Host.Formatted
import FirmwareKit.Host.Invocation

/-! Programs that print what they are told, or what they find of names, numbers and conditions. -/

namespace FirmwareKit.Host.Tools

/-- Switches that the programs have besides their own. -/
def shared : List Switch :=
  [{ word := "help" }, { word := "version" }]

/-- A text with what stands behind backslashes replaced, and if all printing ends with it. A quote
keeps its backslash. -/
def unescapeEcho : (fuel : Nat) → List Char → List Char × Bool
  | 0, text => (text, false)
  | _, [] => ([], false)
  | _, '\\' :: 'c' :: _ => ([], true)
  | fuel + 1, '\\' :: '"' :: rest =>
    let (more, ended) := unescapeEcho fuel rest
    ('\\' :: '"' :: more, ended)
  | fuel + 1, '\\' :: rest =>
    let (out, rest) := Formatted.escape true rest
    let (more, ended) := unescapeEcho fuel rest
    (out ++ more, ended)
  | fuel + 1, c :: rest =>
    let (more, ended) := unescapeEcho fuel rest
    (c :: more, ended)

/-- Reads the switches of `echo`: if a newline is printed, and if backslashes mean something. -/
def echoSwitches (newline escapes : Bool) : List String → Bool × Bool × List String
  | [] => (newline, escapes, [])
  | arg :: rest =>
    match arg.toList with
    | '-' :: c :: cs =>
      if (c :: cs).all "neE".toList.contains then
        let escapes :=
          (c :: cs).foldl (fun e c => if c = 'e' then true else if c = 'E' then false else e)
          escapes
        echoSwitches (newline && !(c :: cs).contains 'n') escapes rest
      else (newline, escapes, arg :: rest)
    | _ => (newline, escapes, arg :: rest)

/-- Prints arguments. -/
def echo (i : Invocation) : Works Unit := do
  let (newline, escapes, args) := echoSwitches true false i.arguments
  let text := Octets.ofText (" ".intercalate args)
  if escapes then
    let (out, ended) := unescapeEcho (text.length + 1) text
    Works.writeBytes (Octets.toBytes (if newline && !ended then out ++ ['\n'] else out))
  else Works.writeBytes (Octets.toBytes (if newline then text ++ ['\n'] else text))

/-- Prints arguments in a format. -/
def printf (i : Invocation) : Works Unit := do
  let args := match i.arguments with
    | "--" :: rest => rest
    | args => args
  match args with
  | [] => i.misused "missing operand"
  | format :: args =>
    let p := Formatted.print false format args
    for warning in p.warnings do
      i.complain warning (if warning.startsWith "warning" then 0 else 1)
    Works.writeBytes p.output
    match p.problem with
    | some problem => i.refuse problem
    | none => if p.warnings.any (!·.startsWith "warning") then Works.setCode 1

/-- Tests a condition. -/
def test (i : Invocation) : Works Unit := do
  match Condition.ofProgram (← get).files i.arguments with
  | .ok holds => Works.setCode (if holds then 0 else 1)
  | .error problem => i.refuse problem 2

/-- Tests a condition in brackets. -/
def bracket (i : Invocation) : Works Unit :=
  if i.arguments.getLast? = some "]" then test { i with arguments := i.arguments.dropLast }
  else i.refuse "missing ']'" 2

/-- Prints the directory. -/
def pwd (i : Invocation) : Works Unit := do
  let s ← i.switches ([{ word := "logical", letter := some 'L' },
    { word := "physical", letter := some 'P' }] ++ shared)
  let physical := "/" ++ "/".intercalate i.files.cwd
  let logical := match i.environment.lookup "PWD" with
    | some path =>
      match path.startsWith "/", i.files.locate .target ⟨path⟩ with
      | true, .ok (names, some _) => if names = i.files.cwd then path else physical
      | _, _ => physical
    | none => physical
  if !s.operands.isEmpty then i.complain "ignoring non-option arguments" 0
  Works.write ((if (s.given.getLast?.map (·.1)) = some "L" then logical else physical) ++ "\n")

/-- The path without slashes at its end. -/
def withoutSlashes (path : String) : String :=
  match (path.toList.reverse.dropWhile (· == '/')).reverse with
  | [] => if path.startsWith "/" then "/" else ""
  | cs => String.ofList cs

/-- The last name of a path, without an ending that is not all of it. -/
def baseName (path ending : String) : String :=
  let trimmed := withoutSlashes path
  let name := if trimmed = "/" then "/"
    else String.ofList (trimmed.toList.reverse.takeWhile (· != '/')).reverse
  if name != ending && name != "/" && name.endsWith ending then
    String.ofList (name.toList.take (name.length - ending.length))
  else name

/-- Prints the last names of paths. -/
def basename (i : Invocation) : Works Unit := do
  let s ← i.switches ([{ word := "multiple", letter := some 'a' },
    { word := "suffix", letter := some 's', hasValue := some true },
    { word := "zero", letter := some 'z' }] ++ shared)
  let ending := if s.has "z" then "\x00" else "\n"
  if s.operands.isEmpty then i.misused "missing operand"
  if s.has "a" || s.has "s" then
    for path in s.operands do
      Works.write (baseName path ((s.value? "s").getD "") ++ ending)
  else
    match s.operands with
    | [path] => Works.write (baseName path "" ++ ending)
    | [path, suffix] => Works.write (baseName path suffix ++ ending)
    | _ :: _ :: extra :: _ => i.misused ("extra operand '" ++ extra ++ "'")
    | [] => pure ()

/-- Prints the directories that paths stand in. -/
def dirname (i : Invocation) : Works Unit := do
  let s ← i.switches ([{ word := "zero", letter := some 'z' }] ++ shared)
  if s.operands.isEmpty then i.misused "missing operand"
  for path in s.operands do
    let rest := (withoutSlashes path).toList.reverse.dropWhile (· != '/')
    let dir := String.ofList (rest.dropWhile (· == '/')).reverse
    Works.write ((if !dir.isEmpty then dir else if rest.isEmpty then "." else "/") ++
      if s.has "z" then "\x00" else "\n")

/-- A decimal number: its digits as a whole number, and how many of them stand behind the point. -/
def decimal? (text : String) : Option (Int × Nat) :=
  let (isNegative, cs) := match text.toList with
    | '-' :: cs => (true, cs)
    | '+' :: cs => (false, cs)
    | cs => (false, cs)
  let whole := cs.takeWhile Char.isDigit
  let places := match cs.drop whole.length with
    | '.' :: rest => some rest
    | [] => some []
    | _ => none
  match places with
  | some places =>
    if places.all Char.isDigit && !(whole.isEmpty && places.isEmpty) then
      let n : Int := Formatted.number 10 (whole ++ places)
      some (if isNegative then -n else n, places.length)
    else none
  | none => none

/-- A number with places behind a point. -/
def withPlaces (places : Nat) (n : Int) : String :=
  let digits := Nat.toDigits 10 n.natAbs
  let digits := List.replicate (places + 1 - digits.length) '0' ++ digits
  let whole := digits.take (digits.length - places)
  let text := if places = 0 then whole else whole ++ '.' :: digits.drop whole.length
  String.ofList (if n < 0 then '-' :: text else text)

/-- Prints numbers one after the other. -/
def seq (i : Invocation) : Works Unit := do
  let isNumber (arg : String) : Bool :=
    match arg.toList with
    | '-' :: c :: _ => c.isDigit || c = '.'
    | _ => false
  let front := i.arguments.takeWhile (!isNumber ·)
  let args := if front.length < i.arguments.length && !front.contains "--" then
      front ++ "--" :: i.arguments.drop front.length
    else i.arguments
  let known : List Switch := [{ word := "separator", letter := some 's', hasValue := some true },
    { word := "format", letter := some 'f', hasValue := some true },
    { word := "equal-width", letter := some 'w' }]
  let s ← Invocation.switches { i with arguments := args } (known ++ shared)
  let read (text : String) : Works (Int × Nat) := do
    match decimal? text with
    | some n => return n
    | none => i.misused ("invalid floating point argument: '" ++ text ++ "'")
  match s.operands with
  | [] => i.misused "missing operand"
  | _ :: _ :: _ :: extra :: _ => i.misused ("extra operand '" ++ extra ++ "'")
  | operands =>
    let numbers ← operands.mapM read
    let first := if numbers.length < 2 then (1, 0) else numbers.head?.getD (1, 0)
    let step := if numbers.length < 3 then (1, 0) else (numbers[1]?).getD (1, 0)
    let last := numbers.getLast?.getD (1, 0)
    if step.1 = 0 then
      i.misused ("invalid Zero increment value: '" ++ (operands[1]?).getD "" ++ "'")
    let places := max first.2 step.2
    let scale (n : Int × Nat) (count : Nat) : Int := n.1 * Nat.pow 10 (count - n.2)
    let common := max places last.2
    let a := scale first common
    let d := scale step common
    let count := ((scale last common - a).fdiv d + 1).toNat
    let values := (List.range count).map fun (k : Nat) => (a + d * k) / Nat.pow 10 (common - places)
    let texts := values.map (withPlaces places)
    let bounds := [first, last].map fun n =>
      (withPlaces places (scale n common / Nat.pow 10 (common - places))).length
    let width := if s.has "w" then bounds.foldl max 0 else 0
    let filled (text : String) : String :=
      let missing := String.ofList (List.replicate (width - text.length) '0')
      if text.startsWith "-" then "-" ++ missing ++ (text.drop 1).toString else missing ++ text
    if !texts.isEmpty then
      Works.write (((s.value? "s").getD "\n").intercalate (texts.map filled) ++ "\n")

/-- Prints values of the environment. -/
def printenv (i : Invocation) : Works Unit := do
  let s ← i.switches ([{ word := "null", letter := some '0' }] ++ shared) 2
  let ending := if s.has "0" then "\x00" else "\n"
  if s.operands.isEmpty then
    for (name, value) in i.environment do Works.write (name ++ "=" ++ value ++ ending)
  else
    for name in s.operands do
      match i.environment.lookup name with
      | some value => Works.write (value ++ ending)
      | none => Works.setCode 1

/-- Prints what system this is. -/
def uname (i : Invocation) : Works Unit := do
  let s ← i.switches ([{ word := "kernel-name", letter := some 's' },
    { word := "machine", letter := some 'm' },
    { word := "operating-system", letter := some 'o' }] ++
    shared)
  match s.operands with
  | extra :: _ => i.misused ("extra operand '" ++ extra ++ "'")
  | [] =>
    let parts := (if s.has "s" || s.given.isEmpty then ["Linux"] else []) ++
      (if s.has "m" then ["x86_64"] else []) ++ (if s.has "o" then ["GNU/Linux"] else [])
    Works.write (" ".intercalate parts ++ "\n")

/-- Prints what machine this is. -/
def arch (_ : Invocation) : Works Unit :=
  Works.write "x86_64\n"

/-- Prints that there is no terminal. -/
def tty (i : Invocation) : Works Unit := do
  let s ← i.switches ([{ word := "silent", letter := some 's' }] ++ shared) 2
  Works.setCode 1
  if !s.has "s" then Works.write "not a tty\n"

/-- Prints who runs this. -/
def whoami (i : Invocation) : Works Unit := do
  let s ← i.switches shared
  match s.operands with
  | extra :: _ => i.misused ("extra operand '" ++ extra ++ "'")
  | [] => Works.write "root\n"

/-- Prints the numbers and names of who runs this. -/
def id (i : Invocation) : Works Unit := do
  let s ← i.switches ([
    { word := "user", letter := some 'u' }, { word := "group", letter := some 'g' },
    { word := "name", letter := some 'n' }, { word := "groups", letter := some 'G' },
    { word := "real", letter := some 'r' }] ++ shared)
  if s.has "u" || s.has "g" || s.has "G" then Works.write (if s.has "n" then "root\n" else "0\n")
  else Works.write "uid=0(root) gid=0(root) groups=0(root)\n"

/-- Waits for no time at all. -/
def sleep (i : Invocation) : Works Unit := do
  let s ← i.switches shared
  if s.operands.isEmpty then i.misused "missing operand"
  let isTime (text : String) : Bool :=
    let cs := text.toList
    let cs := if (cs.getLast?.map ("smhd".toList.contains ·)).getD false then cs.dropLast else cs
    match decimal? (String.ofList cs) with
    | some (n, _) => 0 ≤ n
    | none => false
  let wrong := s.operands.filter (!isTime ·)
  for text in wrong do i.complain ("invalid time interval '" ++ text ++ "'")
  if !wrong.isEmpty then
    Works.warn ("Try '" ++ i.name ++ " --help' for more information.\n")

end FirmwareKit.Host.Tools
