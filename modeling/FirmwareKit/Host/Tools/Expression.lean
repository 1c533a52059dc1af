import FirmwareKit.Host.Invocation
import FirmwareKit.Host.Octets
import FirmwareKit.Host.Regex

/-! The program that works out what its arguments come to. -/

namespace FirmwareKit.Host.Tools

namespace Expression

/-- The whole number that a text stands for. -/
def integer? (text : String) : Option Int :=
  match text.toList with
  | '-' :: c :: cs =>
    if (c :: cs).all Char.isDigit then (String.ofList (c :: cs)).toInt?.map (- ·) else none
  | c :: cs => if (c :: cs).all Char.isDigit then text.toInt? else none
  | [] => none

/-- The text is empty or stands for zero. -/
def isNothing (text : String) : Bool :=
  text.isEmpty || integer? text = some 0

/-- What is left of the arguments, and the last one that was read. -/
structure Reading where
  rest : List String
  last : String := ""

/-- A part of the reader, which fails with a problem. -/
abbrev Reads := StateT Reading (Except String)

/-- The next argument. -/
def next : Reads String := do
  let s ← get
  match s.rest with
  | [] => throw ("syntax error: missing argument after '" ++ s.last ++ "'")
  | text :: rest =>
    set ({ rest, last := text } : Reading)
    return text

/-- Passes the next argument if it is one of some texts. -/
def passAny (texts : List String) : Reads (Option String) := do
  match (← get).rest with
  | text :: rest =>
    if texts.contains text then
      set ({ rest, last := text } : Reading)
      return some text
    else return none
  | [] => return none

/-- How long the start of a text is that fits an expression, or the first group of it. -/
def fit (text pattern : String) : Except String String := do
  let r ← Regex.parse false (Octets.ofText pattern)
  let octets := (Octets.ofText text).toArray
  let hasGroup := (pattern.splitOn "\\(").length != 1
  match r.matchAt false octets 0 with
  | some s =>
    if hasGroup then
      match s.groups.lookup 1 with
      | some (a, b) => return String.ofList (octets.extract a b).toList
      | none => return ""
    else return toString s.position
  | none => return if hasGroup then "" else "0"

/-- Two numbers that texts stand for. -/
def numbers (a b : String) : Reads (Int × Int) := do
  match integer? a, integer? b with
  | some m, some n => return (m, n)
  | _, _ => throw "non-integer argument"

/-- Two values compared, as numbers if they are such. -/
def compare (op a b : String) : Bool :=
  let order : Ordering := match integer? a, integer? b with
    | some m, some n => Ord.compare m n
    | _, _ => if a < b then .lt else if b < a then .gt else .eq
  match op with
  | "<" => order = .lt
  | "<=" => order != .gt
  | "=" | "==" => order = .eq
  | "!=" => order != .eq
  | ">=" => order != .lt
  | _ => order = .gt

mutual

/-- Operations of which the loosest binds at a level; `counts` tells that the value is needed. -/
def level (fuel n : Nat) (counts : Bool) : Reads String := do
  match fuel with
  | 0 => throw "syntax error"
  | fuel + 1 =>
    if n = 6 then primary fuel counts
    else operations fuel n counts (← level fuel (n + 1) counts)

/-- The operations of a level behind a first value. -/
def operations (fuel n : Nat) (counts : Bool) (a : String) : Reads String := do
  match fuel with
  | 0 => throw "syntax error"
  | fuel + 1 =>
    let known := match n with
      | 0 => ["|"]
      | 1 => ["&"]
      | 2 => ["<", "<=", "=", "==", "!=", ">=", ">"]
      | 3 => ["+", "-"]
      | 4 => ["*", "/", "%"]
      | _ => [":"]
    match ← passAny known with
    | none => return a
    | some op =>
      let isNeeded := counts && (match n with
        | 0 => isNothing a
        | 1 => !isNothing a
        | _ => true)
      let b ← level fuel (n + 1) isNeeded
      let value ← if !counts then pure "" else
        match n with
        | 0 => pure (if !isNothing a then a else if isNothing b then "0" else b)
        | 1 => pure (if isNothing a || isNothing b then "0" else a)
        | 2 => pure (if compare op a b then "1" else "0")
        | 5 => liftM (fit a b)
        | _ => do
          let (x, y) ← numbers a b
          if (op = "/" || op = "%") && y = 0 then throw "division by zero"
          pure (toString (match op with
            | "+" => x + y
            | "-" => x - y
            | "*" => x * y
            | "/" => x.tdiv y
            | _ => x.tmod y))
      operations fuel n counts value

/-- A value, or a function of values. -/
def primary (fuel : Nat) (counts : Bool) : Reads String := do
  match fuel with
  | 0 => throw "syntax error"
  | fuel + 1 =>
    match ← next with
    | "(" =>
      let value ← level fuel 0 counts
      match ← passAny [")"] with
      | some _ => return value
      | none =>
        match (← get).rest with
        | [] => throw ("syntax error: expecting ')' after '" ++ (← get).last ++ "'")
        | found :: _ => throw ("syntax error: expecting ')' instead of '" ++ found ++ "'")
    | ")" => throw "syntax error: unexpected ')'"
    | "+" => next
    | "length" => return toString (← level fuel 6 counts).utf8ByteSize
    | "match" =>
      let text ← level fuel 6 counts
      let pattern ← level fuel 6 counts
      liftM (fit text pattern)
    | "index" =>
      let text ← level fuel 6 counts
      let wanted ← level fuel 6 counts
      return toString (match text.toList.findIdx? wanted.toList.contains with
        | some n => n + 1
        | none => 0)
    | "substr" =>
      let text ← level fuel 6 counts
      let start ← level fuel 6 counts
      let count ← level fuel 6 counts
      match integer? start, integer? count with
      | some a, some n =>
        return if a ≤ 0 || n ≤ 0 then ""
          else String.ofList ((text.toList.drop (a.toNat - 1)).take n.toNat)
      | _, _ => return ""
    | text => return text

end

/-- What arguments come to. -/
def value (args : List String) : Except String String := do
  let (text, s) ← (level (16 * args.length + 32) 0 true).run { rest := args }
  match s.rest with
  | [] => return text
  | extra :: _ => throw ("syntax error: unexpected argument '" ++ extra ++ "'")

end Expression

/-- Prints what arguments come to. -/
def expr (i : Invocation) : Works Unit := do
  let args := if i.arguments.head? = some "--" then i.arguments.tail else i.arguments
  if args.isEmpty then i.misused "missing operand" 2
  match Expression.value args with
  | .error problem => i.refuse problem 2
  | .ok text =>
    Works.write (text ++ "\n")
    if Expression.isNothing text then Works.setCode 1

end FirmwareKit.Host.Tools
