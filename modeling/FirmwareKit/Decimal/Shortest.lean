/-! The shortest decimal text of a float. The digits are the fewest that read back
as the same float, and of those the nearest to it. A value from 0.00001 up to
below 10 to the 16 is written positionally with at least one decimal, any other
value as digits and a signed power of ten. -/

namespace FirmwareKit.Decimal

/-- A positive binary fraction, `mantissa` times two to the power `exponent`, with the distance
to its lower neighbour halved if `isPower`. -/
structure Binary where
  mantissa : Nat
  exponent : Int
  isPower : Bool
  deriving DecidableEq, Repr

namespace Binary

/-- The absolute value of a finite float. -/
def ofFloat (x : Float) : Binary :=
  let bits : Nat := x.toBits.toNat
  let field : Nat := bits / Nat.pow 2 52 % Nat.pow 2 11
  let fraction : Nat := bits % Nat.pow 2 52
  if field = 0 then ⟨fraction, -1074, false⟩
  else ⟨fraction + Nat.pow 2 52, (field : Int) - 1075, fraction == 0 && field != 1⟩

end Binary

/-- Digits and a power of ten: `digits` times ten to the power `exponent`. -/
structure Scientific where
  digits : Nat
  exponent : Int
  deriving DecidableEq, Repr

/-- A fraction with a positive denominator. -/
structure Ratio where
  num : Nat
  den : Nat

namespace Ratio

/-- `n` times `base` to the power `e`. -/
def scale (n base : Nat) (e : Int) : Ratio :=
  ⟨n * base.pow e.toNat, base.pow (-e).toNat⟩

def le (a b : Ratio) : Bool :=
  a.num * b.den ≤ b.num * a.den

def lt (a b : Ratio) : Bool :=
  a.num * b.den < b.num * a.den

end Ratio

/-- The power of ten of the leading digit of a positive fraction above ten to the power -400. -/
def leading (v : Ratio) : Int :=
  ((Nat.toDigits 10 (v.num * Nat.pow 10 400 / v.den)).length : Int) - 401

/-- `digits` times ten to the power `e` reads back as `b`. -/
def readsBack (b : Binary) (digits : Nat) (e : Int) : Bool :=
  let low := Ratio.scale (4 * b.mantissa - if b.isPower then 1 else 2) 2 (b.exponent - 2)
  let high := Ratio.scale (4 * b.mantissa + 2) 2 (b.exponent - 2)
  let x := Ratio.scale digits 10 e
  if b.mantissa % 2 = 0 then low.le x && x.le high else low.lt x && x.lt high

/-- The nearest of the two neighbours on the grid of tens to the power `e`, if it reads back. -/
def onGrid (b : Binary) (e : Int) : Option Scientific :=
  let v := Ratio.scale b.mantissa 2 b.exponent
  let unit := Ratio.scale 1 10 e
  let num := v.num * unit.den
  let den := v.den * unit.num
  let below := num / den
  let rest := num % den
  let upFirst := den < 2 * rest || (den = 2 * rest && below % 2 = 1)
  let (near, far) := if upFirst then (below + 1, below) else (below, below + 1)
  if readsBack b near e then some ⟨near, e⟩
  else if readsBack b far e then some ⟨far, e⟩
  else none

/-- The first grid with a number that reads back, from the given count of digits on. -/
def search (b : Binary) (leading : Int) : (fuel count : Nat) → Scientific
  | 0, _ => ⟨b.mantissa, 0⟩
  | fuel + 1, count =>
    match onGrid b (leading - count + 1) with
    | some s => s
    | none => search b leading fuel (count + 1)

/-- The fewest digits that read back; seventeen always do. -/
def shortest (b : Binary) : Scientific :=
  search b (leading (Ratio.scale b.mantissa 2 b.exponent)) 17 1

/-- Digits with the point before the last `places` of them, which are positive. -/
def withPoint (digits : List Char) (places : Nat) : List Char :=
  let padded := List.replicate (places + 1 - digits.length) '0' ++ digits
  padded.take (padded.length - places) ++ '.' :: padded.drop (padded.length - places)

/-- The written form of digits and a power of ten. -/
def Scientific.write (s : Scientific) : List Char :=
  let digits := (Nat.toDigits 10 s.digits).reverse.dropWhile (· = '0') |>.reverse
  let dropped := (Nat.toDigits 10 s.digits).length - digits.length
  let exponent := s.exponent + dropped
  let first := exponent + digits.length - 1
  if 0 ≤ exponent && first ≤ 15 then digits ++ List.replicate exponent.toNat '0' ++ ['.', '0']
  else if -5 ≤ first && first ≤ 15 then withPoint digits (-exponent).toNat
  else
    let body := if digits.length = 1 then digits else withPoint digits (digits.length - 1)
    body ++ ['e', if first < 0 then '-' else '+'] ++ Nat.toDigits 10 first.natAbs

/-- The text of a finite float. -/
def text (x : Float) : String :=
  let sign := if x.toBits.toNat / Nat.pow 2 63 = 1 then ['-'] else []
  let b := Binary.ofFloat x
  String.ofList (sign ++ if b.mantissa = 0 then ['0', '.', '0'] else (shortest b).write)

end FirmwareKit.Decimal
