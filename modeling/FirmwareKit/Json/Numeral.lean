import FirmwareKit.Json.Fault

/-! JSON numbers. The written form is a sign, digits without a leading zero, a
fraction and an exponent. An integer that 64 bits hold stands for itself; of any
other number the leading digits that 64 bits hold are scaled by a power of ten,
and digits beyond those only move the point. -/

namespace FirmwareKit.Json

/-- The written form of a number: its sign, the digits before and after the point, and the
sign and digits of its exponent. -/
structure Numeral where
  negative : Bool
  whole : List Char
  fraction : Option (List Char)
  exponent : Option (Bool × List Char)
  deriving DecidableEq, Repr

/-- The leading digits of a text and what follows them. -/
def digits (s : List Char) : List Char × List Char :=
  (s.takeWhile Char.isDigit, s.dropWhile Char.isDigit)

namespace Numeral

/-- The digits in front of the point. -/
def readWhole (atEnd : Cause) : List Char → Except Fault (List Char × List Char)
  | [] => .error (.here atEnd [])
  | c :: rest =>
    if c = '0' then
      match rest with
      | d :: _ => if d.isDigit then .error (.next .invalidNumber rest) else .ok (['0'], rest)
      | [] => .ok (['0'], [])
    else if c.isDigit then
      let (ds, rest) := digits rest
      .ok (c :: ds, rest)
    else .error (.next .invalidNumber (c :: rest))

/-- The fraction, if there is a point. -/
def readFraction (atEnd : Cause) : List Char → Except Fault (Option (List Char) × List Char)
  | '.' :: rest =>
    match digits rest with
    | ([], []) => .error (.here atEnd [])
    | ([], rest) => .error (.next .invalidNumber rest)
    | (ds, rest) => .ok (some ds, rest)
  | rest => .ok (none, rest)

/-- The sign of an exponent, which is positive if none is written. -/
def readSign : List Char → Bool × List Char
  | '+' :: rest => (false, rest)
  | '-' :: rest => (true, rest)
  | rest => (false, rest)

/-- The exponent, if there is one. -/
def readExponent (atEnd : Cause) (s : List Char) :
    Except Fault (Option (Bool × List Char) × List Char) :=
  match s with
  | c :: rest =>
    if c = 'e' || c = 'E' then
      let (negative, rest) := readSign rest
      match digits rest with
      | ([], []) => .error (.here atEnd [])
      | ([], rest) => .error (.next .invalidNumber rest)
      | (ds, rest) => .ok (some (negative, ds), rest)
    else .ok (none, s)
  | [] => .ok (none, [])

/-- A number behind its sign. `atEnd` is the cause when the text ends inside of it. -/
def readUnsigned (atEnd : Cause) (negative : Bool) (s : List Char) :
    Except Fault (Numeral × List Char) :=
  match readWhole atEnd s with
  | .error e => .error e
  | .ok (whole, s) =>
    match readFraction atEnd s with
    | .error e => .error e
    | .ok (fraction, s) =>
      match readExponent atEnd s with
      | .error e => .error e
      | .ok (exponent, s) => .ok (⟨negative, whole, fraction, exponent⟩, s)

/-- A number with its sign. -/
def read (atEnd : Cause) : List Char → Except Fault (Numeral × List Char)
  | '-' :: rest => readUnsigned atEnd true rest
  | rest => readUnsigned atEnd false rest

theorem length_dropWhile_le (p : Char → Bool) (s : List Char) :
    (s.dropWhile p).length ≤ s.length :=
  (List.dropWhile_sublist p).length_le

theorem length_of_readWhole {atEnd : Cause} {s ds rest : List Char}
    (h : readWhole atEnd s = .ok (ds, rest)) : rest.length < s.length := by
  unfold readWhole at h
  split at h
  · simp at h
  · next c s =>
    have := length_dropWhile_le Char.isDigit s
    split at h
    · split at h
      · split at h
        · simp at h
        · simp at h; simp [← h.2]
      · simp at h; simp [← h.2]
    · split at h
      · simp [digits] at h; simp [← h.2]; omega
      · simp at h

theorem length_of_readFraction {atEnd : Cause} {s rest : List Char} {f : Option (List Char)}
    (h : readFraction atEnd s = .ok (f, rest)) : rest.length ≤ s.length := by
  unfold readFraction at h
  split at h
  · next s =>
    have := length_dropWhile_le Char.isDigit s
    split at h
    · simp at h
    · simp at h
    · next heq => simp [digits] at heq; simp at h; simp [← h.2, ← heq.2]; omega
  · simp at h; simp [h]

theorem length_readSign_le (s : List Char) : (readSign s).2.length ≤ s.length := by
  unfold readSign; split <;> simp

theorem length_of_readExponent {atEnd : Cause} {s rest : List Char} {e : Option (Bool × List Char)}
    (h : readExponent atEnd s = .ok (e, rest)) : rest.length ≤ s.length := by
  unfold readExponent at h
  split at h
  · next c s =>
    split at h
    · have h₁ := length_readSign_le s
      have h₂ := length_dropWhile_le Char.isDigit (readSign s).2
      dsimp only at h
      split at h
      · simp at h
      · simp at h
      · next heq => simp [digits] at heq; simp at h; simp [← h.2, ← heq.2]; omega
    · simp at h; simp [← h.2]
  · simp at h; simp [← h.2]

theorem length_of_readUnsigned {atEnd : Cause} {negative : Bool} {s rest : List Char} {n : Numeral}
    (h : readUnsigned atEnd negative s = .ok (n, rest)) : rest.length < s.length := by
  unfold readUnsigned at h
  split at h
  · simp at h
  · next hw =>
    split at h
    · simp at h
    · next hf =>
      split at h
      · simp at h
      · next he =>
        have := length_of_readWhole hw
        have := length_of_readFraction hf
        have := length_of_readExponent he
        simp at h
        rw [← h.2]
        omega

theorem length_of_read {atEnd : Cause} {s rest : List Char} {n : Numeral}
    (h : read atEnd s = .ok (n, rest)) : rest.length < s.length := by
  unfold read at h
  split at h
  · have := length_of_readUnsigned h; simp; omega
  · exact length_of_readUnsigned h

/-- The digits appended to a number as long as `limit` is not passed, and how many those are. -/
def accumulate (limit : Nat) : Nat → List Char → Nat × Nat
  | n, [] => (n, 0)
  | n, d :: ds =>
    let next := n * 10 + (d.toNat - '0'.toNat)
    if limit < next then (n, 0)
    else
      let (n, count) := accumulate limit next ds
      (n, count + 1)

/-- The largest unsigned number of 64 bits. -/
def maxUnsigned : Nat := Nat.pow 2 64 - 1

/-- The largest exponent that can be written. -/
def maxExponent : Nat := Nat.pow 2 31 - 1

/-- A float times a power of ten, or none if that is too large. Small powers are reached in steps
of 308, each rounded on its own. -/
def scale (f : Float) (exponent : Int) : Option Float :=
  if 308 < exponent then if f == 0.0 then some f else none
  else if 0 ≤ exponent then
    let f := f * Float.ofScientific 1 false exponent.toNat
    if f.isInf then none else some f
  else
    let rec down (f : Float) : Nat → Nat → Float
      | 0, _ => f
      | fuel + 1, e =>
        if e ≤ 308 then f / Float.ofScientific 1 false e
        else if f == 0.0 then f
        else down (f / Float.ofScientific 1 false 308) fuel (e - 308)
    some (down f 8 (-exponent).toNat)

/-- The float of a sign, leading digits and a power of ten. -/
def toFloat (negative : Bool) (significand : Nat) (exponent : Int) : Option Number :=
  (scale (Float.ofNat significand) exponent).map fun f => .float (if negative then -f else f)

/-- The value of a number in front of `rest`, unless it is out of range. An exponent that is too
large is refused at the digit that makes it so. -/
def value (n : Numeral) (rest : List Char) : Except Fault Number :=
  let (significand, count) := accumulate maxUnsigned 0 n.whole
  let dropped := n.whole.length - count
  let orTooLarge (number : Option Number) : Except Fault Number :=
    match number with
    | some number => .ok number
    | none => .error (.here .numberOutOfRange rest)
  match n.fraction, n.exponent with
  | none, none =>
    if dropped = 0 then
      if !n.negative then .ok (.unsigned significand)
      else if 0 < significand && significand ≤ Nat.pow 2 63 then .ok (.negative significand)
      else .ok (.float (-Float.ofNat significand))
    else orTooLarge (toFloat n.negative significand dropped)
  | fraction, exponent =>
    let (significand, places) := accumulate maxUnsigned significand (fraction.getD [])
    let start : Int := dropped - places
    match exponent with
    | none => orTooLarge (toFloat n.negative significand start)
    | some (negativeExponent, ds) =>
      let (e, read) := accumulate maxExponent 0 ds
      if read < ds.length then
        if significand ≠ 0 && !negativeExponent then
          .error (.here .numberOutOfRange (ds.drop (read + 1) ++ rest))
        else .ok (.float (if n.negative then -0.0 else 0.0))
      else
        orTooLarge
          (toFloat n.negative significand (if negativeExponent then start - e else start + e))

end Numeral

end FirmwareKit.Json
