import FirmwareKit.Decimal.Shortest

/-! Numbers and texts laid out in columns: flags, a least width and a precision. Fractions are
rounded to the nearest, and from the middle to the even neighbour. -/

namespace FirmwareKit.Host

/-- How something is laid out. -/
structure Layout where
  isLeft : Bool := false
  hasZeros : Bool := false
  showsPlus : Bool := false
  showsBlank : Bool := false
  isAlternate : Bool := false
  width : Nat := 0
  precision : Option Nat := none
  deriving DecidableEq, Repr

/-- A fraction with its sign, or what is none. -/
inductive Amount where
  | finite (isNegative : Bool) (value : Decimal.Ratio)
  | infinite (isNegative : Bool)
  | undefined (isNegative : Bool)

namespace Layout

/-- Text behind a sign or mark, filled up to the width. `takesZeros` allows zeros between the two.
-/
def fill (l : Layout) (takesZeros : Bool) (mark body : List Char) : List Char :=
  let missing := l.width - (mark.length + body.length)
  if l.isLeft then mark ++ body ++ List.replicate missing ' '
  else if l.hasZeros && takesZeros then mark ++ List.replicate missing '0' ++ body
  else List.replicate missing ' ' ++ mark ++ body

/-- A text, cut at the precision. -/
def text (l : Layout) (s : List Char) : List Char :=
  l.fill false [] (match l.precision with
    | some n => s.take n
    | none => s)

/-- The sign of a number. -/
def sign (l : Layout) (isNegative : Bool) : List Char :=
  if isNegative then ['-'] else if l.showsPlus then ['+'] else if l.showsBlank then [' '] else []

/-- Digits, as many as the precision asks for. -/
def digits (l : Layout) (base n : Nat) : List Char :=
  if n = 0 && l.precision = some 0 then []
  else
    let all := Nat.toDigits base n
    List.replicate (l.precision.getD 1 - all.length) '0' ++ all

/-- A whole number with a sign. -/
def integer (l : Layout) (n : Int) : List Char :=
  l.fill l.precision.isNone (l.sign (n < 0)) (l.digits 10 n.natAbs)

/-- A number without a sign, in the base that a letter stands for. -/
def natural (l : Layout) (conversion : Char) (n : Nat) : List Char :=
  match conversion with
  | 'o' =>
    let body := l.digits 8 n
    let body := if l.isAlternate && body.head? != some '0' then '0' :: body else body
    l.fill l.precision.isNone [] body
  | 'x' =>
    l.fill l.precision.isNone (if l.isAlternate && n != 0 then ['0', 'x'] else []) (l.digits 16 n)
  | 'X' =>
    l.fill l.precision.isNone (if l.isAlternate && n != 0 then ['0', 'X'] else [])
      ((l.digits 16 n).map Char.toUpper)
  | _ => l.fill l.precision.isNone [] (l.digits 10 n)

/-- A fraction times a power of ten, rounded. -/
def rounded (v : Decimal.Ratio) (power : Int) : Nat :=
  let num := v.num * Nat.pow 10 power.toNat
  let den := v.den * Nat.pow 10 (-power).toNat
  let q := num / den
  let twice := 2 * (num % den)
  if den < twice || twice = den && q % 2 = 1 then q + 1 else q

/-- Digits with a point before the last ones. -/
def pointed (l : Layout) (places n : Nat) : List Char :=
  let all := Nat.toDigits 10 n
  let all := List.replicate (places + 1 - all.length) '0' ++ all
  let whole := all.take (all.length - places)
  if places = 0 && !l.isAlternate then whole
  else whole ++ '.' :: all.drop (all.length - places)

/-- The leading digits of a fraction and the power of ten of the first one. -/
def scientific (places : Nat) (v : Decimal.Ratio) : Nat × Int :=
  if v.num = 0 then (0, 0)
  else
    let e := Decimal.leading v
    let n := rounded v (places - e)
    if n = Nat.pow 10 (places + 1) then (n / 10, e + 1) else (n, e)

/-- A power of ten behind its letter. -/
def exponent (letter : Char) (e : Int) : List Char :=
  let all := Nat.toDigits 10 e.natAbs
  letter :: (if e < 0 then '-' else '+') :: (List.replicate (2 - all.length) '0' ++ all)

/-- Digits behind a point without the zeros at their end. -/
def withoutZeros (body : List Char) : List Char :=
  if body.contains '.' then
    ((body.reverse.dropWhile (· == '0')).dropWhile (· == '.')).reverse
  else body

/-- A fraction in the style that a letter stands for, without its sign. -/
def fraction (l : Layout) (conversion : Char) (v : Decimal.Ratio) : List Char :=
  let places := l.precision.getD 6
  let letter := if conversion.isUpper then 'E' else 'e'
  match conversion.toLower with
  | 'f' => l.pointed places (rounded v places)
  | 'e' =>
    let (n, e) := scientific places v
    l.pointed places n ++ exponent letter e
  | _ =>
    let count := max 1 places
    let (n, e) := scientific (count - 1) v
    let trimmed (body : List Char) : List Char := if l.isAlternate then body else withoutZeros body
    if -4 ≤ e && e < count then
      let places := (count - 1 - e).toNat
      trimmed (l.pointed places (rounded v places))
    else trimmed (l.pointed (count - 1) n) ++ exponent letter e

/-- An amount in the style that a letter stands for. -/
def amount (l : Layout) (conversion : Char) (a : Amount) : List Char :=
  let cased (s : String) : List Char := if conversion.isUpper then s.toUpper.toList else s.toList
  match a with
  | .finite isNegative v => l.fill true (l.sign isNegative) (l.fraction conversion v)
  | .infinite isNegative => l.fill false (l.sign isNegative) (cased "inf")
  | .undefined isNegative => l.fill false (l.sign isNegative) (cased "nan")

end Layout

end FirmwareKit.Host
