import FirmwareKit.Decimal.Shortest
import FirmwareKit.Json.Value

/-! The written form of JSON values: every element and member on a line of its own,
indented by two blanks for each open bracket. -/

namespace FirmwareKit.Json

/-- How a character is written in a string. -/
def writeChar (c : Char) : List Char :=
  match c with
  | '"' => ['\\', '"']
  | '\\' => ['\\', '\\']
  | '\x08' => ['\\', 'b']
  | '\x0c' => ['\\', 'f']
  | '\n' => ['\\', 'n']
  | '\r' => ['\\', 'r']
  | '\t' => ['\\', 't']
  | c =>
    if c.toNat < 0x20 then
      ['\\', 'u', '0', '0', Nat.digitChar (c.toNat / 16), Nat.digitChar (c.toNat % 16)]
    else [c]

/-- A string in quotes. -/
def writeString (s : String) : List Char :=
  '"' :: s.toList.flatMap writeChar ++ ['"']

def writeNumber : Number → List Char
  | .unsigned n => Nat.toDigits 10 n
  | .negative n => '-' :: Nat.toDigits 10 n
  | .float x => (Decimal.text x).toList

/-- A new line inside so many brackets. -/
def newLine (depth : Nat) : List Char :=
  '\n' :: List.replicate (2 * depth) ' '

/-- Texts with a comma and a new line between them. -/
def onLines (depth : Nat) : List (List Char) → List Char
  | [] => []
  | [s] => newLine depth ++ s
  | s :: more => newLine depth ++ s ++ ',' :: onLines depth more

/-- Texts in brackets, each on its own line; nothing stands between empty brackets. -/
def bracketed (opening closing : Char) (depth : Nat) (parts : List (List Char)) : List Char :=
  if parts.isEmpty then [opening, closing]
  else opening :: onLines (depth + 1) parts ++ newLine depth ++ [closing]

namespace Value

mutual

/-- The lines of a value inside so many brackets. -/
def write (depth : Nat) : Value → List Char
  | null => ['n', 'u', 'l', 'l']
  | bool b => if b then ['t', 'r', 'u', 'e'] else ['f', 'a', 'l', 's', 'e']
  | number n => writeNumber n
  | string s => writeString s
  | array items => bracketed '[' ']' depth (writeItems (depth + 1) items)
  | object members => bracketed '{' '}' depth (writeMembers (depth + 1) members)

def writeItems (depth : Nat) : List Value → List (List Char)
  | [] => []
  | v :: more => write depth v :: writeItems depth more

def writeMembers (depth : Nat) : List (String × Value) → List (List Char)
  | [] => []
  | (name, v) :: more =>
    (writeString name ++ [':', ' '] ++ write depth v) :: writeMembers depth more

end

/-- The written form of a value. -/
def pretty (v : Value) : String :=
  String.ofList (v.write 0)

end Value

end FirmwareKit.Json
