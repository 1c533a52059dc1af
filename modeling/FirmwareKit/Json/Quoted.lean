import FirmwareKit.Json.Fault

/-! JSON strings behind their opening quote. A backslash starts an escape; a
character above the basic plane can be written as two escapes of four
hexadecimal digits. A string that is only passed over has its escapes checked
for their form, not for what they stand for. -/

namespace FirmwareKit.Json

/-- The character of a one-letter escape. -/
def escaped? (c : Char) : Option Char :=
  match c with
  | '"' => some '"'
  | '\\' => some '\\'
  | '/' => some '/'
  | 'b' => some '\x08'
  | 'f' => some '\x0c'
  | 'n' => some '\n'
  | 'r' => some '\r'
  | 't' => some '\t'
  | _ => none

/-- The value of a hexadecimal digit. -/
def hexDigit? (c : Char) : Option Nat :=
  if '0' ≤ c && c ≤ '9' then some (c.toNat - '0'.toNat)
  else if 'a' ≤ c && c ≤ 'f' then some (c.toNat - 'a'.toNat + 10)
  else if 'A' ≤ c && c ≤ 'F' then some (c.toNat - 'A'.toNat + 10)
  else none

/-- The value of four hexadecimal digits. -/
def hexFour? (a b c d : Char) : Option Nat :=
  match hexDigit? a, hexDigit? b, hexDigit? c, hexDigit? d with
  | some a, some b, some c, some d => some (((a * 16 + b) * 16 + c) * 16 + d)
  | _, _, _, _ => none

/-- Why four hexadecimal digits do not start the text. -/
def hexFault (s : List Char) : Fault :=
  if byteCount s < 4 then .here .eofString [] else ⟨.invalidEscape, s, 4⟩

def isHighSurrogate (n : Nat) : Bool := 0xD800 ≤ n && n ≤ 0xDBFF

def isLowSurrogate (n : Nat) : Bool := 0xDC00 ≤ n && n ≤ 0xDFFF

/-- The code point of two surrogates. -/
def joinSurrogates (high low : Nat) : Nat :=
  0x10000 + (high - 0xD800) * 0x400 + (low - 0xDC00)

/-- Why a high surrogate is not followed by an escaped low one. -/
def pairFault : List Char → Fault
  | [] => .here .eofString []
  | '\\' :: [] => .here .eofString []
  | '\\' :: 'u' :: s => hexFault s
  | '\\' :: s => .next .unfinishedPair s
  | s => .next .unfinishedPair s

/-- A control character, which no string holds as it is. -/
def isControl (c : Char) : Bool := c.toNat < 0x20

/-- The characters of a string behind its opening quote, and the text behind the closing one. -/
def stringBody : List Char → Except Fault (List Char × List Char)
  | [] => .error (.here .eofString [])
  | '"' :: rest => .ok ([], rest)
  | '\\' :: 'u' :: a :: b :: c :: d :: rest =>
    match hexFour? a b c d with
    | none => .error (hexFault (a :: b :: c :: d :: rest))
    | some n =>
      if isLowSurrogate n then .error (.here .loneSurrogate rest)
      else if isHighSurrogate n then
        match rest with
        | '\\' :: 'u' :: a :: b :: c :: d :: rest =>
          match hexFour? a b c d with
          | none => .error (hexFault (a :: b :: c :: d :: rest))
          | some m =>
            if isLowSurrogate m then
              (stringBody rest).map fun (s, rest) => (Char.ofNat (joinSurrogates n m) :: s, rest)
            else .error (.here .loneSurrogate rest)
        | rest => .error (pairFault rest)
      else (stringBody rest).map fun (s, rest) => (Char.ofNat n :: s, rest)
  | '\\' :: 'u' :: rest => .error (hexFault rest)
  | '\\' :: c :: rest =>
    match escaped? c with
    | some e => (stringBody rest).map fun (s, rest) => (e :: s, rest)
    | none => .error (.next .invalidEscape (c :: rest))
  | '\\' :: [] => .error (.here .eofString [])
  | c :: rest =>
    if isControl c then .error (.here .controlCharacter rest)
    else (stringBody rest).map fun (s, rest) => (c :: s, rest)

/-- The text behind a string that is passed over from behind its opening quote. -/
def skipString : List Char → Except Fault (List Char)
  | [] => .error (.here .eofString [])
  | '"' :: rest => .ok rest
  | '\\' :: 'u' :: a :: b :: c :: d :: rest =>
    match hexFour? a b c d with
    | none => .error (hexFault (a :: b :: c :: d :: rest))
    | some _ => skipString rest
  | '\\' :: 'u' :: rest => .error (hexFault rest)
  | '\\' :: c :: rest =>
    match escaped? c with
    | some _ => skipString rest
    | none => .error (.next .invalidEscape (c :: rest))
  | '\\' :: [] => .error (.here .eofString [])
  | c :: rest =>
    if isControl c then .error (.here .controlCharacter (c :: rest)) else skipString rest

theorem length_of_map {c : Char} {s : List Char} {r : Except Fault (List Char × List Char)}
    {p : List Char × List Char} (ih : ∀ q, r = .ok q → q.2.length < s.length)
    (h : (r.map fun q => (c :: q.1, q.2)) = .ok p) : p.2.length < s.length := by
  cases r with
  | error e => simp [Except.map] at h
  | ok q => simp only [Except.map, Except.ok.injEq] at h; rw [← h]; exact ih q rfl

theorem length_of_stringBody {s body rest : List Char} (h : stringBody s = .ok (body, rest)) :
    rest.length < s.length := by
  have key : ∀ s p, stringBody s = .ok p → p.2.length < s.length := by
    intro s
    fun_induction stringBody s <;> intro p h <;> try simp at h
    case case2 => subst h; simp
    all_goals
      rename_i ih
      have := length_of_map ih h
      simp
      omega
  exact key s _ h

theorem length_of_skipString {s rest : List Char} (h : skipString s = .ok rest) :
    rest.length < s.length := by
  fun_induction skipString s <;> simp_all <;> omega

end FirmwareKit.Json
