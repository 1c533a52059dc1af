import FirmwareKit.Host.Layout
import FirmwareKit.Host.Octets
import FirmwareKit.Host.ShellName

/-! Text that is printed in a format. The format is used again until no arguments are left; what
is missing then is empty, or zero. The shell prints a little differently from the
program of that name. -/

namespace FirmwareKit.Host

namespace Formatted

/-- A digit below eight. -/
def isOctal (c : Char) : Bool := '0' ≤ c && c ≤ '7'

/-- The value of a digit in base sixteen. -/
def hexDigit? (c : Char) : Option Nat :=
  if c.isDigit then some (c.toNat - '0'.toNat)
  else if 'a' ≤ c && c ≤ 'f' then some (c.toNat - 'a'.toNat + 10)
  else if 'A' ≤ c && c ≤ 'F' then some (c.toNat - 'A'.toNat + 10)
  else none

/-- The number that digits stand for. -/
def number (base : Nat) (digits : List Char) : Nat :=
  digits.foldl (fun n c => n * base + (hexDigit? c).getD 0) 0

/-- The longest start of a text with digits of a base, at most so many. -/
def leadingDigits (base limit : Nat) (text : List Char) : List Char :=
  (text.take limit).takeWhile fun c => (hexDigit? c).any (· < base)

/-- The character that a letter behind a backslash stands for. -/
def control? : Char → Option Char
  | '\\' => some '\\'
  | 'a' => some '\x07'
  | 'b' => some '\x08'
  | 'f' => some '\x0c'
  | 'n' => some '\n'
  | 'r' => some '\r'
  | 't' => some '\t'
  | 'v' => some '\x0b'
  | _ => none

/-- What follows a backslash, for the shell: what it stands for, and the rest. -/
def shellEscape (text : List Char) : List Char × List Char :=
  match text with
  | [] => (['\\'], [])
  | 'e' :: rest => (['\x1b'], rest)
  | c :: rest =>
    match control? c with
    | some d => ([d], rest)
    | none =>
      match leadingDigits 8 3 text with
      | [] => (['\\'], text)
      | ds => ([Char.ofNat (number 8 ds % 256)], text.drop ds.length)

/-- What follows a backslash, for the program. `isOctalLong` tells that octal digits can have a zero
in front of them. -/
def escape (isOctalLong : Bool) (text : List Char) : List Char × List Char :=
  match text with
  | [] => (['\\'], [])
  | 'e' :: rest => (['\x1b'], rest)
  | '"' :: rest => (['"'], rest)
  | 'x' :: rest =>
    match leadingDigits 16 2 rest with
    | [] => (['\\', 'x'], rest)
    | ds => ([Char.ofNat (number 16 ds)], rest.drop ds.length)
  | c :: rest =>
    match control? c with
    | some d => ([d], rest)
    | none =>
      let skipped := if isOctalLong && c = '0' then 1 else 0
      match leadingDigits 8 3 (text.drop skipped) with
      | [] => if skipped = 1 then ([Char.ofNat 0], rest) else (['\\', c], rest)
      | ds => ([Char.ofNat (number 8 ds % 256)], text.drop (skipped + ds.length))

/-- A text with what stands behind backslashes replaced, and if all printing ends with it. -/
def unescape (isShell : Bool) : (fuel : Nat) → List Char → List Char × Bool
  | 0, text => (text, false)
  | _, [] => ([], false)
  | _, '\\' :: 'c' :: _ => ([], true)
  | fuel + 1, '\\' :: rest =>
    let (out, rest) :=
      if isShell then
        shellEscape (match rest with
          | '0' :: c :: _ => if isOctal c then rest.drop 1 else rest
          | _ => rest)
      else escape true rest
    let (more, ended) := unescape isShell fuel rest
    (out ++ more, ended)
  | fuel + 1, c :: rest =>
    let (more, ended) := unescape isShell fuel rest
    (c :: more, ended)

/-- The whole number at the start of a text, and what follows it: with a sign, decimal, octal or
hexadecimal. -/
def integerAt (text : List Char) : Int × List Char :=
  let body := text.dropWhile fun c => c = ' ' || ('\t' ≤ c && c ≤ '\r')
  let (isNegative, digits) := match body with
    | '-' :: rest => (true, rest)
    | '+' :: rest => (false, rest)
    | _ => (false, body)
  let signed (n : Nat) : Int := if isNegative then -n else n
  let plain (base : Nat) : Int × List Char :=
    match leadingDigits base digits.length digits with
    | [] => (0, text)
    | ds => (signed (number base ds), digits.drop ds.length)
  match digits with
  | '0' :: x :: rest =>
    let ds := leadingDigits 16 rest.length rest
    if (x = 'x' || x = 'X') && !ds.isEmpty then (signed (number 16 ds), rest.drop ds.length)
    else plain 8
  | '0' :: _ => plain 8
  | _ => plain 10

/-- The fraction at the start of a text, and what follows it. -/
def amountAt (isShell : Bool) (text : List Char) : Amount × List Char :=
  let body := text.dropWhile fun c => c = ' ' || ('\t' ≤ c && c ≤ '\r')
  let (isNegative, body) := match body with
    | '-' :: rest => (true, rest)
    | '+' :: rest => (false, rest)
    | _ => (false, body)
  let lower := String.ofList (body.map Char.toLower)
  if lower.startsWith "infinity" then (.infinite isNegative, body.drop 8)
  else if lower.startsWith "inf" then (.infinite isNegative, body.drop 3)
  else if lower.startsWith "nan" then (.undefined isNegative, body.drop 3)
  else
    let whole := body.takeWhile Char.isDigit
    let rest := body.drop whole.length
    let places := match rest with
      | '.' :: more => more.takeWhile Char.isDigit
      | _ => []
    if whole.isEmpty && places.isEmpty then (.finite false ⟨0, 1⟩, text)
    else
      let rest := match rest with
        | '.' :: more => more.drop places.length
        | _ => rest
      let (power, rest) : Int × List Char := match rest with
        | e :: more =>
          let (n, after) := match more with
            | '-' :: ds => (-(number 10 (ds.takeWhile Char.isDigit) : Int), ds)
            | '+' :: ds => ((number 10 (ds.takeWhile Char.isDigit) : Int), ds)
            | ds => ((number 10 (ds.takeWhile Char.isDigit) : Int), ds)
          if (e = 'e' || e = 'E') && (after.head?.map Char.isDigit).getD false then
            (n, after.dropWhile Char.isDigit)
          else (0, rest)
        | [] => (0, rest)
      let digits := number 10 (whole ++ places)
      let power := power - places.length
      let value :=
        if isShell then
          let x := if power < 0 then Float.ofScientific digits true (-power).toNat
            else Float.ofScientific digits false power.toNat
          let b := Decimal.Binary.ofFloat x
          Decimal.Ratio.scale b.mantissa 2 b.exponent
        else Decimal.Ratio.scale digits 10 power
      (.finite isNegative value, rest)

/-- What is printed so far. -/
structure Printing where
  arguments : List String
  /-- What was printed, last first. -/
  pieces : List (List Char) := []
  warnings : List String := []

/-- Why printing ends before the format does. -/
inductive Stop where
  | done
  | refused (problem : String)
  deriving DecidableEq, Repr

/-- An action of printing. -/
abbrev Prints := ExceptT Stop (StateM Printing)

def put (text : List Char) : Prints Unit :=
  modify fun p => { p with pieces := text :: p.pieces }

def warn (text : String) : Prints Unit :=
  modify fun p => { p with warnings := p.warnings ++ [text] }

/-- Takes the next argument. -/
def take : Prints (Option String) := do
  let p ← get
  set { p with arguments := p.arguments.tail }
  return p.arguments.head?

/-- What is wrong with a number of which only a part was read. -/
def checkRest (isShell : Bool) (whole : String) (rest : List Char) : Prints Unit := do
  if !rest.isEmpty then
    let nothing := rest.length = (Octets.ofText whole).length
    if isShell then
      warn (whole ++ if nothing then ": expected numeric value" else ": not completely converted")
    else
      warn ("'" ++ whole ++
        if nothing then "': expected a numeric value" else "': value not completely converted")
  else if whole.isEmpty && !isShell then
    warn "'': expected a numeric value"

/-- The character that stands behind a quote for its number. -/
def quotedNumber? (text : List Char) : Option Nat :=
  match text with
  | q :: rest => if q = '\'' || q = '"' then some ((rest.head?.map Char.toNat).getD 0) else none
  | [] => none

/-- The next argument as a whole number, between bounds. -/
def takeInteger (isShell : Bool) (least greatest : Int) : Prints Int := do
  match ← take with
  | none => return 0
  | some whole =>
    let text := Octets.ofText whole
    match quotedNumber? text with
    | some n =>
      if text.length = 1 && !isShell then warn (shellName whole ++ ": expected a numeric value")
      return n
    | none =>
      let (n, rest) := integerAt text
      checkRest isShell whole rest
      if n < least || greatest < n then
        warn ((if isShell then whole else "'" ++ whole ++ "'") ++
          ": Numerical result out of range")
      return max least (min greatest n)

/-- The next argument as a fraction. -/
def takeAmount (isShell : Bool) : Prints Amount := do
  match ← take with
  | none => return .finite false ⟨0, 1⟩
  | some whole =>
    let text := Octets.ofText whole
    match quotedNumber? text with
    | some n => return .finite false ⟨n, 1⟩
    | none =>
      let (a, rest) := amountAt isShell text
      checkRest isShell whole rest
      return a

/-- A number of a format: digits, or the next argument for a star. -/
def takeNumber (isShell : Bool) (text : List Char) : Prints (Option Int × List Char) := do
  match text with
  | '*' :: rest =>
    let n ← takeInteger isShell (-Int.ofNat (Nat.pow 2 31)) (Nat.pow 2 31 - 1)
    return (some n, rest)
  | _ =>
    match text.takeWhile Char.isDigit with
    | [] => return (none, text)
    | ds => return (some (number 10 ds), text.drop ds.length)

/-- Prints an argument as a directive asks that ends with a letter. -/
def convert (isShell : Bool) (l : Layout) (directive : List Char) (conversion : Char) :
    Prints Unit := do
  let wide : Int := Nat.pow 2 63
  match conversion with
  | 's' => put (l.text (Octets.ofText ((← take).getD "")))
  | 'b' =>
    let text := Octets.ofText ((← take).getD "")
    let (out, ended) := unescape isShell (text.length + 1) text
    put (l.text out)
    if ended then throw .done
  | 'c' =>
    match Octets.ofText ((← take).getD "") with
    | c :: _ => put (l.fill false [] [c])
    | [] => put (l.fill false [] (if isShell then [Char.ofNat 0] else []))
  | 'd' | 'i' => put (l.integer (← takeInteger isShell (-wide) (wide - 1)))
  | 'o' | 'u' | 'x' | 'X' =>
    let n ← takeInteger isShell (-wide) (2 * wide - 1)
    put (l.natural conversion (n % (2 * wide)).toNat)
  | 'e' | 'E' | 'f' | 'F' | 'g' | 'G' => put (l.amount conversion (← takeAmount isShell))
  | 'q' =>
    if isShell then throw (.refused "%q: invalid directive")
    else put (l.text (Octets.ofText (shellName ((← take).getD ""))))
  | _ =>
    let name := String.ofList directive
    throw (.refused (name ++
      if isShell then ": invalid directive" else ": invalid conversion specification"))

/-- Prints what a directive behind a percent sign asks for; gives what follows it. -/
def directive (isShell : Bool) (text : List Char) : Prints (List Char) := do
  let flags := text.takeWhile fun c => "#-+ 0".toList.contains c
  let (width, rest) ← takeNumber isShell (text.drop flags.length)
  let (precision, rest) ← match rest with
    | '.' :: rest => do
      let (n, rest) ← takeNumber isShell rest
      pure (some (n.getD 0), rest)
    | _ => pure (none, rest)
  match rest with
  | [] =>
    throw (.refused (if isShell then "missing format character"
      else String.ofList ('%' :: text) ++ ": invalid conversion specification"))
  | c :: rest =>
    let l : Layout :=
      { isLeft := flags.contains '-' || width.any (· < 0)
        hasZeros := flags.contains '0'
        showsPlus := flags.contains '+'
        showsBlank := flags.contains ' '
        isAlternate := flags.contains '#'
        width := (width.map Int.natAbs).getD 0
        precision := precision.bind fun n => if n < 0 then none else some n.toNat }
    convert isShell l ('%' :: text.take (text.length - rest.length)) c
    return rest

/-- Prints in a format once. -/
def once (isShell : Bool) : (fuel : Nat) → List Char → Prints Unit
  | 0, _ => pure ()
  | _, [] => pure ()
  | fuel + 1, '%' :: '%' :: rest => do
    put ['%']
    once isShell fuel rest
  | fuel + 1, '%' :: rest => do
    once isShell fuel (← directive isShell rest)
  | fuel + 1, '\\' :: rest => do
    if !isShell && rest.head? = some 'c' then throw .done
    let (out, rest) := if isShell then shellEscape rest else escape false rest
    put out
    once isShell fuel rest
  | fuel + 1, c :: rest => do
    put [c]
    once isShell fuel rest

/-- Prints in a format until no arguments are left. -/
def again (isShell : Bool) (format : List Char) : (fuel : Nat) → Prints Unit
  | 0 => pure ()
  | fuel + 1 => do
    let before := (← get).arguments.length
    once isShell (format.length + 1) format
    match (← get).arguments with
    | [] => pure ()
    | next :: more =>
      if more.length + 1 < before then again isShell format fuel
      else if !isShell then
        warn ("warning: ignoring excess arguments, starting with '" ++ next ++ "'")

/-- What printing comes to: the output, warnings, and the problem that ended it, if one did. -/
structure Printed where
  output : ByteArray
  warnings : List String
  problem : Option String

/-- Prints arguments in a format. -/
def print (isShell : Bool) (format : String) (arguments : List String) : Printed :=
  let text := Octets.ofText format
  let (result, p) :=
    (ExceptT.run (again isShell text (arguments.length + 1))).run { arguments }
  { output := Octets.toBytes (p.pieces.reverse.flatten)
    warnings := p.warnings
    problem := match result with
      | .error (.refused problem) => some problem
      | _ => none }

end Formatted

end FirmwareKit.Host
