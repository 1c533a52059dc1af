import FirmwareKit.Diff.Source

/-! What the header of a diff says of a file: its name, and when it was last changed. A
file that was changed on the first day of all does not exist. -/

namespace FirmwareKit.Diff

open Text

/-- The name that stands for no file. -/
def noFile : Row := bytesOf "/dev/null"

/-- The bytes of a name in quotes and what follows them, the backslashes taken for what they stand
for. -/
def unquote : Row → Option (Row × Row)
  | [] => none
  | 34 :: rest => some ([], rest)
  | 92 :: a :: b :: c :: rest =>
    if 48 ≤ a && a ≤ 51 then
      if 48 ≤ b && b ≤ 55 && 48 ≤ c && c ≤ 55 then
        (unquote rest).map fun (name, rest) =>
          (((a - 48) * 64 + (b - 48) * 8 + (c - 48)) :: name, rest)
      else none
    else
      match escaped? a with
      | none => none
      | some d => (unquote (b :: c :: rest)).map fun (name, rest) => (d :: name, rest)
  | [92, a, b] =>
    match escaped? a with
    | none => none
    | some d => (unquote [b]).map fun (name, rest) => (d :: name, rest)
  | [92, _] | [92] => none
  | b :: rest => (unquote rest).map fun (name, rest) => (b :: name, rest)
where
  /-- What a letter behind a backslash stands for. -/
  escaped? (b : UInt8) : Option UInt8 :=
    ([(97, 7), (98, 8), (102, 12), (110, 10), (114, 13), (116, 9), (118, 11), (92, 92),
      (34, 34)] : List (UInt8 × UInt8)).lookup b

/-- The name behind the next slashes. -/
def behindSlash? (name : Row) : Option Row :=
  match name.dropWhile (· != 47) with
  | [] => none
  | rest => some (rest.dropWhile (· == 47))

/-- A name without so many directories in front, or without all of them; none if it does not have
as many or nothing is left. -/
def stripName (strip : Option Nat) (name : Row) : Option Row :=
  let stripped := match strip with
    | some count => (List.range count).foldl (fun name _ => name.bind behindSlash?) (some name)
    | none =>
      some ((List.range name.length).foldl (fun name _ => (behindSlash? name).getD name) name)
  match stripped with
  | some [] | none => none
  | some name => some name

/-- The length of a name in a line. It goes on to the line's end unless blanks follow it; blanks in
the middle belong to it if `stop` comes behind them. -/
def nameLength (stop : UInt8) : Row → Nat
  | [] => 0
  | b :: rest =>
    if !isSpace b then nameLength stop rest + 1
    else
      let blanks := (b :: rest).takeWhile fun b => isSpace b && b != 9
      let behind := rest.drop (blanks.length - 1)
      if b != 9 && behind.head? != some 9 && behind.contains stop then nameLength stop rest + 1
      else 0

/-- A name at the start of a line, quoted or not, and what follows it; `stop` ends a name with
blanks in it. -/
def splitName (stop : UInt8) (row : Row) : Option (Row × Row) :=
  match row.dropWhile isSpace with
  | 34 :: rest => unquote rest
  | row =>
    let length := nameLength stop row
    some (row.take length, row.drop length)

/-- The days from the first day of 1970 to a date. -/
def daysOf (year month day : Int) : Int :=
  let y := if month ≤ 2 then year - 1 else year
  let era := y.fdiv 400
  let yearOfEra := y - era * 400
  let dayOfYear := (153 * (month + (if month > 2 then -3 else 9)) + 2) / 5 + day - 1
  era * 146097 + yearOfEra * 365 + yearOfEra / 4 - yearOfEra / 100 + dayOfYear - 719468

/-- A number of decimal digits. -/
def decimal? (digits : Row) : Option Int :=
  if digits.isEmpty || !digits.all isDigit then none
  else some (digits.foldl (fun n d => n * 10 + (d.toNat - 48 : Nat)) 0)

/-- The pieces of a row between separators. -/
def piecesAt (separator : UInt8) : Row → List Row
  | [] => [[]]
  | b :: rest =>
    if b = separator then [] :: piecesAt separator rest
    else
      match piecesAt separator rest with
      | [] => [[b]]
      | piece :: more => (b :: piece) :: more

/-- The seconds of a time of day; fractions do not count. -/
def timeOf? (text : Row) : Option Int :=
  match piecesAt 58 (text.takeWhile (· != 46)) with
  | [h, m] => do return (← decimal? h) * 3600 + (← decimal? m) * 60
  | [h, m, s] => do return (← decimal? h) * 3600 + (← decimal? m) * 60 + (← decimal? s)
  | _ => none

/-- The seconds by which a time zone is ahead. -/
def zoneOf? (text : Row) : Option Int :=
  let offset (digits : Row) : Option Int :=
    match piecesAt 58 digits with
    | [h, m] => do return (← decimal? h) * 3600 + (← decimal? m) * 60
    | [d] => do
      let n ← decimal? d
      return if d.length ≤ 2 then n * 3600 else n / 100 * 3600 + n % 100 * 60
    | _ => none
  match text with
  | 43 :: rest => offset rest
  | 45 :: rest => (offset rest).map (- ·)
  | _ => if [bytesOf "Z", bytesOf "UTC", bytesOf "GMT"].contains text then some 0 else none

/-- The number of a month by its name. -/
def month? (name : Row) : Option Int :=
  (["Jan", "Feb", "Mar", "Apr", "May", "Jun", "Jul", "Aug", "Sep", "Oct", "Nov", "Dec"].findIdx?
    (bytesOf · == name)).map fun n => (n : Int) + 1

/-- The words of a row. -/
def wordsOf (row : Row) : List Row :=
  (piecesAt 32 (row.map fun b => if isSpace b then 32 else b)).filter (· != [])

/-- The seconds from the start of 1970 to the time that is given by a date, a time of day and a
zone, or by the names of the day and the month and then the time and the year. -/
def secondsOf? (text : Row) : Option Int :=
  let zoned (seconds : Int) (zone : List Row) : Option Int :=
    match zone with
    | [] => some seconds
    | [zone] => (zoneOf? zone).map (seconds - ·)
    | _ => none
  match wordsOf text with
  | [] => none
  | date :: more =>
    match piecesAt 45 date with
    | [y, m, d] => do
      let days := daysOf (← decimal? y) (← decimal? m) (← decimal? d)
      match more with
      | [] => return days * 86400
      | time :: zone => zoned (days * 86400 + (← timeOf? time)) zone
    | _ =>
      match more with
      | month :: day :: time :: year :: zone => do
        let days := daysOf (← decimal? year) (← month? month) (← decimal? day)
        zoned (days * 86400 + (← timeOf? time)) zone
      | _ => none

/-- When a file was changed, as far as it is told apart: the first day of all, seen from any zone,
or another time. -/
inductive Age where
  | unknown | first | later
  deriving DecidableEq, Repr

/-- The age that a time gives. -/
def ageOf (text : Row) : Age :=
  match secondsOf? text with
  | none => .unknown
  | some n => if -25 * 3600 < n && n < 26 * 3600 then .first else .later

/-- What a header says of a file: its name, what follows the name, and its age. -/
structure Title where
  name : Option Row := none
  rest : Row := []
  age : Age := .unknown
  deriving DecidableEq, Repr

/-- A line end, which can have a carriage return before it. -/
def dropEnd (row : Row) : Row :=
  let row := chomp row
  if row.getLast? = some 13 then row.dropLast else row

/-- What a line of a header adds to what is known: a name with the rest of the line; or that there
is no file; or nothing. -/
def titleOf? (strip : Option Nat) (row : Row) : Option Title :=
  match splitName 9 row with
  | none => none
  | some (name, rest) =>
    if name = noFile then some ⟨none, [], .first⟩
    else
      (stripName strip name).map fun name =>
        ⟨some name, dropEnd rest, if rest.head? = some newline then .unknown else ageOf rest⟩

/-- The name in a line of a list of changed files, which has nothing behind it. -/
def indexName? (strip : Option Nat) (row : Row) : Option Row :=
  match splitName newline row with
  | none => none
  | some (name, rest) =>
    if name = noFile || rest.head? != some newline then none else stripName strip name

end FirmwareKit.Diff
