import FirmwareKit.Files.Basic

/-! Conditions on texts, numbers and files, which the shell and two programs test. The shell
and the programs read them differently when they are long or incomplete. -/

namespace FirmwareKit.Host

namespace Condition

/-- Operators with one operand. -/
def unaryOperators : List String :=
  ["-b", "-c", "-d", "-e", "-f", "-g", "-G", "-h", "-k", "-L", "-n", "-O", "-p", "-r", "-s", "-S",
    "-t", "-u", "-w", "-x", "-z"]

/-- Operators with two numbers. -/
def numberOperators : List String :=
  ["-eq", "-ne", "-lt", "-le", "-gt", "-ge"]

/-- Operators with two operands. -/
def binaryOperators : List String :=
  ["=", "!=", "<", ">", "-nt", "-ot", "-ef"] ++ numberOperators

/-- A condition on one text. -/
def unary (files : Files) (op operand : String) : Bool :=
  let at? (aim : Files.Aim) : Option Node := (files.find aim ⟨operand⟩).toOption
  match op with
  | "-n" => operand != ""
  | "-z" => operand == ""
  | "-e" | "-O" | "-G" => (at? .target).isSome
  | "-r" | "-w" =>
    match at? .target with
    | some .locked | none => false
    | some _ => true
  | "-f" => ((at? .target).map Node.isFile).getD false
  | "-d" => ((at? .target).map Node.isDir).getD false
  | "-x" =>
    match at? .target with
    | some (.dir _) => true
    | _ => false
  | "-h" | "-L" =>
    match at? .entry with
    | some (.link _) => true
    | _ => false
  | "-s" =>
    match at? .target with
    | some (.file bytes) | some (.unnamed bytes) => bytes.size != 0
    | some _ => true
    | none => false
  | _ => false

/-- The whole number that a text stands for; blanks can stand around it. -/
def number? (text : String) : Option Int :=
  let isBlank (c : Char) : Bool := c = ' ' || ('\t' ≤ c && c ≤ '\r')
  let cs := ((text.toList.dropWhile isBlank).reverse.dropWhile isBlank).reverse
  let (isNegative, digits) := match cs with
    | '-' :: rest => (true, rest)
    | '+' :: rest => (false, rest)
    | _ => (false, cs)
  if digits.isEmpty || !digits.all Char.isDigit then none
  else
    let n : Int := digits.foldl (fun n c => n * 10 + (c.toNat - '0'.toNat)) 0
    some (if isNegative then -n else n)

/-- Two numbers compared. -/
def compare (op : String) (a b : Int) : Bool :=
  match op with
  | "-eq" => a = b
  | "-ne" => a ≠ b
  | "-lt" => a < b
  | "-le" => a ≤ b
  | "-gt" => b < a
  | _ => b ≤ a

/-- A condition on two texts; `refuse` says what is wrong with a number. -/
def binary (refuse : String → String) (files : Files) (op a b : String) : Except String Bool :=
  if numberOperators.contains op then
    match number? a, number? b with
    | some m, some n => .ok (compare op m n)
    | none, _ => .error (refuse a)
    | _, none => .error (refuse b)
  else
    let place (text : String) : Option (List String) :=
      match files.locate .target ⟨text⟩ with
      | .ok (names, some _) => some names
      | _ => none
    .ok <| match op with
      | "=" => a == b
      | "!=" => a != b
      | "<" => a < b
      | ">" => b < a
      | "-ef" => (place a).isSome && place a == place b
      | "-nt" => (place a).isSome && (place b).isNone
      | "-ot" => (place b).isSome && (place a).isNone
      | _ => false

/-- What a text is to the shell where it stands. -/
inductive Part where
  | ended
  | operand
  | unary
  | binary
  | and
  | or
  | not
  | opening
  | closing
  deriving DecidableEq, Repr

/-- What the text at a position is to the shell. An operator that has nothing to work on is an
operand. -/
def part (args : Array String) (i : Nat) : Part :=
  match args[i]? with
  | none => .ended
  | some "(" => if (args[i + 1]?).isNone then .operand else .opening
  | some ")" => .closing
  | some "!" => .not
  | some "-a" => .and
  | some "-o" => .or
  | some text =>
    if unaryOperators.contains text then
      match args[i + 1]?, args[i + 2]? with
      | none, _ => .operand
      | some _, none => .unary
      | some next, some _ => if binaryOperators.contains next then .operand else .unary
    else if binaryOperators.contains text then .binary
    else .operand

/-- What the shell says of a number that is none. -/
def illegalNumber (text : String) : String :=
  "Illegal number: " ++ text

mutual

/-- Conditions of which one holds, from a position on; gives the position of the last text. -/
def anyOf (files : Files) (args : Array String) (fuel i : Nat) (first : Part) :
    Except String (Bool × Nat) :=
  match fuel with
  | 0 => .ok (false, i)
  | fuel + 1 => do
    let (a, i) ← allOf files args fuel i first
    if part args (i + 1) = .or then
      let (b, i) ← anyOf files args fuel (i + 2) (part args (i + 2))
      return (a || b, i)
    else return (a, i)

/-- Conditions that all hold. -/
def allOf (files : Files) (args : Array String) (fuel i : Nat) (first : Part) :
    Except String (Bool × Nat) :=
  match fuel with
  | 0 => .ok (false, i)
  | fuel + 1 => do
    let (a, i) ← single files args fuel i first
    if part args (i + 1) = .and then
      let (b, i) ← allOf files args fuel (i + 2) (part args (i + 2))
      return (a && b, i)
    else return (a, i)

/-- One condition, or its opposite. -/
def single (files : Files) (args : Array String) (fuel i : Nat) (first : Part) :
    Except String (Bool × Nat) :=
  match fuel with
  | 0 => .ok (false, i)
  | fuel + 1 => do
    let word (i : Nat) : String := (args[i]?).getD ""
    match first with
    | .ended => return (false, i)
    | .not =>
      let next := part args (i + 1)
      let (a, i) ← single files args fuel (if next = .ended then i else i + 1) next
      return (!a, i)
    | .opening =>
      if part args (i + 1) = .closing then return (false, i + 1)
      else
        let (a, i) ← anyOf files args fuel (i + 1) (part args (i + 1))
        if part args (i + 1) = .closing then return (a, i + 1)
        else .error "closing paren expected"
    | .unary => return (unary files (word i) (word (i + 1)), i + 1)
    | _ =>
      if part args (i + 1) = .binary then
        if (args[i + 2]?).isNone then .error (word (i + 1) ++ ": argument expected")
        else
          return (← binary illegalNumber files (word (i + 1)) (word i) (word (i + 2)), i + 2)
      else return (word i != "", i)

end

/-- What the shell finds of texts. -/
def ofShell (files : Files) (texts : List String) : Except String Bool := do
  let found (texts : List String) (isPlain : Bool) : Except String Bool := do
    let args := texts.toArray
    let (a, i) ← anyOf files args (4 * args.size + 8) 0 (if isPlain then .operand else part args 0)
    if (args[i]?).isSome && (args[i + 1]?).isSome then
      .error (args[i]?.getD "" ++ ": unexpected operator")
    else return a
  match texts with
  | [] => return false
  | [a, op, b] =>
    if binaryOperators.contains op then found texts true
    else if a = "(" && b = ")" then found [op] false
    else if a = "!" then return !(← found [op, b] false)
    else found texts false
  | [a, b, c, d] =>
    if a = "(" && d = ")" then found [b, c] false
    else if a = "!" then
      if binaryOperators.contains c then return !(← found [b, c, d] true)
      else if b = "(" && d = ")" then return !(← found [c] false)
      else if b = "!" then found [c, d] false
      else return !(← found [b, c, d] false)
    else found texts false
  | _ => found texts false

/-- What the programs say of a number that is none. -/
def invalidInteger (text : String) : String :=
  "invalid integer '" ++ text ++ "'"

/-- Nothing follows where something has to. -/
def missing {α : Type} (args : Array String) : Except String α :=
  .error ("missing argument after '" ++ args.back?.getD "" ++ "'")

/-- A condition with one operand, at a position. -/
def unaryAt (files : Files) (args : Array String) (i : Nat) : Except String (Bool × Nat) :=
  match args[i]?, args[i + 1]? with
  | some op, operand =>
    if !unaryOperators.contains op then .error ("'" ++ op ++ "': unary operator expected")
    else
      match operand with
      | some operand => .ok (unary files op operand, i + 2)
      | none => missing args
  | none, _ => missing args

mutual

/-- So many texts from a position on, as the programs read them; gives the position behind them. -/
def counted (files : Files) (args : Array String) (fuel count i : Nat) :
    Except String (Bool × Nat) :=
  match fuel with
  | 0 => missing args
  | fuel + 1 => do
    let word (i : Nat) : String := (args[i]?).getD ""
    let isSwitch (s : String) : Bool := s.length = 2 && s.startsWith "-"
    match count with
    | 1 => return (word i != "", i + 1)
    | 2 =>
      if word i = "!" then return (word (i + 1) = "", i + 2)
      else if isSwitch (word i) then unaryAt files args i
      else missing args
    | 3 =>
      if binaryOperators.contains (word (i + 1)) || word (i + 1) = "==" then
        let op := if word (i + 1) = "==" then "=" else word (i + 1)
        return (← binary invalidInteger files op (word i) (word (i + 2)), i + 3)
      else if word i = "!" then
        let (a, i) ← counted files args fuel 2 (i + 1)
        return (!a, i)
      else if word i = "(" && word (i + 2) = ")" then return (word (i + 1) != "", i + 3)
      else if word (i + 1) = "-a" || word (i + 1) = "-o" then alternatives files args fuel i
      else .error ("'" ++ word (i + 1) ++ "': binary operator expected")
    | 4 =>
      if word i = "!" then
        let (a, i) ← counted files args fuel 3 (i + 1)
        return (!a, i)
      else if word i = "(" && word (i + 3) = ")" then
        let (a, i) ← counted files args fuel 2 (i + 1)
        return (a, i + 1)
      else alternatives files args fuel i
    | _ => alternatives files args fuel i

/-- Conditions of which one holds. -/
def alternatives (files : Files) (args : Array String) (fuel i : Nat) :
    Except String (Bool × Nat) :=
  match fuel with
  | 0 => missing args
  | fuel + 1 => do
    let (a, i) ← conjunction files args fuel i
    if args[i]? = some "-o" then
      let (b, i) ← alternatives files args fuel (i + 1)
      return (a || b, i)
    else return (a, i)

/-- Conditions that all hold. -/
def conjunction (files : Files) (args : Array String) (fuel i : Nat) :
    Except String (Bool × Nat) :=
  match fuel with
  | 0 => missing args
  | fuel + 1 => do
    let (a, i) ← term files args fuel i
    if args[i]? = some "-a" then
      let (b, i) ← conjunction files args fuel (i + 1)
      return (a && b, i)
    else return (a, i)

/-- One condition. -/
def term (files : Files) (args : Array String) (fuel i : Nat) : Except String (Bool × Nat) :=
  match fuel with
  | 0 => missing args
  | fuel + 1 => do
    let word (i : Nat) : String := (args[i]?).getD ""
    match args[i]? with
    | none => missing args
    | some "!" =>
      if i + 1 < args.size then
        let (a, i) ← term files args fuel (i + 1)
        return (!a, i)
      else missing args
    | some "(" =>
      if i + 1 < args.size then
        let left := (args.toList.drop (i + 2)).takeWhile (· != ")")
        let count := if 3 ≤ left.length then args.size - (i + 1) else left.length + 1
        let (a, i) ← counted files args fuel count (i + 1)
        match args[i]? with
        | none => .error "')' expected"
        | some ")" => return (a, i + 1)
        | some found => .error ("')' expected, found '" ++ found ++ "'")
      else missing args
    | some text =>
      let op := if word (i + 1) = "==" then "=" else word (i + 1)
      if i + 2 < args.size && binaryOperators.contains op then
        return (← binary invalidInteger files op text (word (i + 2)), i + 3)
      else if text.length = 2 && text.startsWith "-" then unaryAt files args i
      else return (text != "", i + 1)

end

/-- What the programs find of texts. -/
def ofProgram (files : Files) (texts : List String) : Except String Bool := do
  let args := texts.toArray
  if args.isEmpty then return false
  let (a, i) ← counted files args (8 * args.size + 8) args.size 0
  match args[i]? with
  | some extra => .error ("extra argument '" ++ extra ++ "'")
  | none => return a

end Condition

end FirmwareKit.Host
