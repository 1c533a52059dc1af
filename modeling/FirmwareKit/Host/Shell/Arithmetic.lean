/-! Sums in scripts: whole numbers of sixty-four bits, with the operators and the order of the
C language. -/

namespace FirmwareKit.Host.Shell

namespace Arithmetic

/-- A sum that has been read. -/
inductive Expr where
  | number (n : Int)
  | variable (name : String)
  | unary (op : Char) (e : Expr)
  | binary (op : String) (a b : Expr)
  /-- A variable gets a value; an operator takes its old value for the first operand. -/
  | assign (name : String) (op : Option String) (e : Expr)
  | choice (condition a b : Expr)
  deriving Repr

/-- Why there is no result. -/
inductive Fault where
  | misread (text : String)
  | illegalNumber (text : String)
  deriving DecidableEq, Repr

/-- The parts of a sum. -/
inductive Token where
  | number (n : Int)
  | name (text : String)
  | operator (text : String)
  | other
  deriving DecidableEq, Repr

/-- A number that wraps around at sixty-four bits. -/
def wrap (n : Int) : Int :=
  Int.bmod n (Nat.pow 2 64)

/-- The greatest number; greater ones are taken for it. -/
def greatest : Nat := Nat.pow 2 63 - 1

/-- The value of a digit. -/
def digit? (base : Nat) (c : Char) : Option Nat :=
  let n :=
    if c.isDigit then c.toNat - '0'.toNat
    else if 'a' ≤ c && c ≤ 'f' then c.toNat - 'a'.toNat + 10
    else if 'A' ≤ c && c ≤ 'F' then c.toNat - 'A'.toNat + 10
    else base
  if n < base then some n else none

/-- The number at the start of a text and how many characters it has: decimal, octal behind a zero,
or hexadecimal. -/
def numberAt (text : List Char) : Nat × Nat :=
  let read (base skipped : Nat) (digits : List Char) : Nat × Nat :=
    let digits := digits.takeWhile fun c => (digit? base c).isSome
    (min greatest (digits.foldl (fun n c => n * base + (digit? base c).getD 0) 0),
      skipped + digits.length)
  match text with
  | '0' :: x :: rest =>
    if (x = 'x' || x = 'X') && (rest.head?.bind (digit? 16)).isSome then read 16 2 rest
    else read 8 0 text
  | '0' :: _ => read 8 0 text
  | _ => read 10 0 text

/-- Operators, the longer ones first. -/
def operators : List String :=
  ["<<=", ">>=", "&&", "||", "==", "!=", "<=", ">=", "<<", ">>", "+=", "-=", "*=", "/=", "%=", "&=",
    "|=", "^=", "+", "-", "*", "/", "%", "<", ">", "=", "!", "~", "&", "|", "^", "?", ":", "(", ")"]

/-- The parts of a text; `fuel` is at least its length. -/
def tokens : (fuel : Nat) → List Char → List Token
  | 0, _ => []
  | _, [] => []
  | fuel + 1, c :: rest =>
    if " \t\n".toList.contains c then tokens fuel rest
    else if c.isDigit then
      let (n, length) := numberAt (c :: rest)
      .number n :: tokens fuel ((c :: rest).drop (max 1 length))
    else if c.isAlpha || c = '_' then
      let name := (c :: rest).takeWhile fun c => c.isAlphanum || c = '_'
      .name (String.ofList name) :: tokens fuel ((c :: rest).drop name.length)
    else
      match operators.find? fun s => s.toList.isPrefixOf (c :: rest) with
      | some s => .operator s :: tokens fuel ((c :: rest).drop s.length)
      | none => .other :: tokens fuel rest

/-- How tightly an operator binds. -/
def strength? : String → Option Nat
  | "||" => some 1
  | "&&" => some 2
  | "|" => some 3
  | "^" => some 4
  | "&" => some 5
  | "==" | "!=" => some 6
  | "<" | ">" | "<=" | ">=" => some 7
  | "<<" | ">>" => some 8
  | "+" | "-" => some 9
  | "*" | "/" | "%" => some 10
  | _ => none

/-- The operator that an assignment applies. -/
def assigning? (op : String) : Option (Option String) :=
  if op = "=" then some none
  else if ["+=", "-=", "*=", "/=", "%=", "&=", "|=", "^=", "<<=", ">>="].contains op then
    some (some (String.ofList op.toList.dropLast))
  else none

mutual

/-- A whole sum, which can be an assignment. -/
def sum (fuel : Nat) (ts : List Token) : Except Fault (Expr × List Token) :=
  match fuel with
  | 0 => .error (.misread "expecting primary")
  | fuel + 1 =>
    match ts with
    | .name name :: .operator op :: rest =>
      match assigning? op with
      | some how => (sum fuel rest).map fun (e, rest) => (.assign name how e, rest)
      | none => choice fuel ts
    | _ => choice fuel ts

/-- A sum that depends on a condition. -/
def choice (fuel : Nat) (ts : List Token) : Except Fault (Expr × List Token) :=
  match fuel with
  | 0 => .error (.misread "expecting primary")
  | fuel + 1 => do
    let (first, rest) ← primary fuel ts
    let (condition, rest) ← operations fuel 1 first rest
    match rest with
    | .operator "?" :: rest =>
      let (a, rest) ← sum fuel rest
      match rest with
      | .operator ":" :: rest =>
        let (b, rest) ← choice fuel rest
        return (.choice condition a b, rest)
      | _ => .error (.misread "expecting ':'")
    | _ => return (condition, rest)

/-- Operations behind a first operand whose operators bind at least so tightly. -/
def operations (fuel least : Nat) (first : Expr) (ts : List Token) :
    Except Fault (Expr × List Token) :=
  match fuel with
  | 0 => .error (.misread "expecting primary")
  | fuel + 1 =>
    match ts with
    | .operator op :: rest =>
      match strength? op with
      | some n =>
        if n < least then .ok (first, ts)
        else do
          let (second, rest) ← primary fuel rest
          let (second, rest) ← operations fuel (n + 1) second rest
          operations fuel least (.binary op first second) rest
      | none => .ok (first, ts)
    | _ => .ok (first, ts)

/-- One operand. -/
def primary (fuel : Nat) (ts : List Token) : Except Fault (Expr × List Token) :=
  match fuel with
  | 0 => .error (.misread "expecting primary")
  | fuel + 1 =>
    match ts with
    | .number n :: rest => .ok (.number n, rest)
    | .name name :: rest => .ok (.variable name, rest)
    | .operator "(" :: rest => do
      let (e, rest) ← sum fuel rest
      match rest with
      | .operator ")" :: rest => return (e, rest)
      | _ => .error (.misread "expecting ')'")
    | .operator "+" :: rest => primary fuel rest
    | .operator "-" :: rest => (primary fuel rest).map fun (e, rest) => (.unary '-' e, rest)
    | .operator "!" :: rest => (primary fuel rest).map fun (e, rest) => (.unary '!' e, rest)
    | .operator "~" :: rest => (primary fuel rest).map fun (e, rest) => (.unary '~' e, rest)
    | _ => .error (.misread "expecting primary")

end

/-- Reads a sum. -/
def read (text : String) : Except Fault Expr := do
  let ts := tokens text.length text.toList
  let (e, rest) ← sum (8 * ts.length + 8) ts
  if rest.isEmpty then return e else .error (.misread "expecting EOF")

/-- The bits of a number. -/
def bits (n : Int) : Nat :=
  (n % Nat.pow 2 64).toNat

/-- An operation on two numbers. -/
def operate (op : String) (a b : Int) : Except Fault Int :=
  let truth (p : Bool) : Except Fault Int := .ok (if p then 1 else 0)
  match op with
  | "+" => .ok (wrap (a + b))
  | "-" => .ok (wrap (a - b))
  | "*" => .ok (wrap (a * b))
  | "/" => if b = 0 then .error (.misread "division by zero") else .ok (wrap (a.tdiv b))
  | "%" => if b = 0 then .error (.misread "division by zero") else .ok (a.tmod b)
  | "<<" => .ok (wrap (a * Nat.pow 2 (bits b % 64)))
  | ">>" => .ok (a.fdiv (Nat.pow 2 (bits b % 64)))
  | "<" => truth (a < b)
  | ">" => truth (b < a)
  | "<=" => truth (a ≤ b)
  | ">=" => truth (b ≤ a)
  | "==" => truth (a = b)
  | "!=" => truth (a ≠ b)
  | "&" => .ok (wrap (bits a &&& bits b : Nat))
  | "|" => .ok (wrap (bits a ||| bits b : Nat))
  | "^" => .ok (wrap (bits a ^^^ bits b : Nat))
  | _ => .error (.misread "expecting primary")

/-- The number that the text of a variable stands for. -/
def numberOf (text : String) : Except Fault Int :=
  let blank (c : Char) : Bool := " \t\n".toList.contains c
  let cs := text.toList.dropWhile blank
  let (sign, digits) : Int × List Char := match cs with
    | '-' :: rest => (-1, rest)
    | '+' :: rest => (1, rest)
    | _ => (1, cs)
  let (n, length) := numberAt digits
  if length = 0 && !cs.isEmpty || !(digits.drop length).all blank then .error (.illegalNumber text)
  else .ok (sign * n)

/-- The values of variables that were assigned, last first. -/
abbrev Assigned := List (String × Int)

/-- The value of a sum; `look` gives the texts of variables. -/
def eval (look : String → String) : Expr → Assigned → Except Fault (Int × Assigned)
  | .number n, given => .ok (n, given)
  | .variable name, given =>
    match given.lookup name with
    | some n => .ok (n, given)
    | none => (numberOf (look name)).map (·, given)
  | .unary op e, given => do
    let (n, given) ← eval look e given
    let m := match op with
      | '-' => wrap (-n)
      | '~' => -n - 1
      | _ => if n = 0 then 1 else 0
    return (m, given)
  | .binary "&&" a b, given => do
    let (n, given) ← eval look a given
    if n = 0 then return (0, given)
    let (m, given) ← eval look b given
    return (if m = 0 then 0 else 1, given)
  | .binary "||" a b, given => do
    let (n, given) ← eval look a given
    if n ≠ 0 then return (1, given)
    let (m, given) ← eval look b given
    return (if m = 0 then 0 else 1, given)
  | .binary op a b, given => do
    let (n, given) ← eval look a given
    let (m, given) ← eval look b given
    return (← operate op n m, given)
  | .assign name op e, given => do
    let (m, given) ← eval look e given
    match op with
    | none => return (m, (name, m) :: given)
    | some op =>
      let old ← match given.lookup name with
        | some n => pure n
        | none => numberOf (look name)
      let n ← operate op old m
      return (n, (name, n) :: given)
  | .choice condition a b, given => do
    let (n, given) ← eval look condition given
    if n ≠ 0 then eval look a given else eval look b given

end Arithmetic

end FirmwareKit.Host.Shell
