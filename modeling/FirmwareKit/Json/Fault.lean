import FirmwareKit.Decimal.Shortest
import FirmwareKit.Json.Value
import FirmwareKit.Text.Quoted

/-! What is wrong with a JSON text, and where. A fault names its cause and the text
that was left when it was found; its place is the line and the byte of that
line, counted from the start of the whole text. -/

namespace FirmwareKit.Json

/-- What stands in a place that something else was expected in. -/
inductive Found where
  | null
  | bool (b : Bool)
  | number (n : Number)
  | string (s : String)
  | sequence
  | map

/-- What a place is for. -/
inductive Expected where
  | string | sequence | map | config | patchEntry
  deriving DecidableEq, Repr

/-- The reason that a text is refused. -/
inductive Cause where
  | eofList | eofObject | eofString | eofValue
  | expectedColon | expectedListEnd | expectedObjectEnd | expectedIdent | expectedValue
  | invalidEscape | invalidNumber | numberOutOfRange | controlCharacter | keyNotString
  | loneSurrogate | trailingComma | trailingCharacters | unfinishedPair | tooDeep
  | wrongType (found : Found) (expected : Expected)
  | missingField (name : String)
  | duplicateField (name : String)
  | tooFewElements (count : Nat)
  | tooManyElements (count : Nat)

namespace Found

def describe : Found → String
  | null => "null"
  | bool b => "boolean `" ++ (if b then "true" else "false") ++ "`"
  | number (.unsigned n) => "integer `" ++ toString n ++ "`"
  | number (.negative n) => "integer `-" ++ toString n ++ "`"
  | number (.float x) => "floating point `" ++ Decimal.text x ++ "`"
  | string s => "string " ++ Text.quoted s
  | sequence => "sequence"
  | map => "map"

end Found

namespace Expected

def describe : Expected → String
  | string => "a string"
  | sequence => "a sequence"
  | map => "a map"
  | config => "struct Config"
  | patchEntry => "struct PatchConfig"

end Expected

namespace Cause

def message : Cause → String
  | eofList => "EOF while parsing a list"
  | eofObject => "EOF while parsing an object"
  | eofString => "EOF while parsing a string"
  | eofValue => "EOF while parsing a value"
  | expectedColon => "expected `:`"
  | expectedListEnd => "expected `,` or `]`"
  | expectedObjectEnd => "expected `,` or `\x7d`"
  | expectedIdent => "expected ident"
  | expectedValue => "expected value"
  | invalidEscape => "invalid escape"
  | invalidNumber => "invalid number"
  | numberOutOfRange => "number out of range"
  | controlCharacter => "control character (\\u0000-\\u001F) found while parsing a string"
  | keyNotString => "key must be a string"
  | loneSurrogate => "lone leading surrogate in hex escape"
  | trailingComma => "trailing comma"
  | trailingCharacters => "trailing characters"
  | unfinishedPair => "unexpected end of hex escape"
  | tooDeep => "recursion limit exceeded"
  | wrongType found expected =>
    "invalid type: " ++ found.describe ++ ", expected " ++ expected.describe
  | missingField name => "missing field `" ++ name ++ "`"
  | duplicateField name => "duplicate field `" ++ name ++ "`"
  | tooFewElements count =>
    "invalid length " ++ toString count ++ ", expected struct PatchConfig with 4 elements"
  | tooManyElements count =>
    "invalid length " ++ toString count ++ ", expected fewer elements in array"

end Cause

/-- A cause with the text that was left, and how many bytes of that were looked at. -/
structure Fault where
  cause : Cause
  rest : List Char
  ahead : Nat

namespace Fault

/-- A fault in front of the text that is left. -/
def here (cause : Cause) (rest : List Char) : Fault := ⟨cause, rest, 0⟩

/-- A fault at the next byte of the text that is left. -/
def next (cause : Cause) (rest : List Char) : Fault := ⟨cause, rest, 1⟩

end Fault

/-- A place in a text: lines count from one, and a column is the bytes of the line up to it. -/
structure Position where
  line : Nat
  column : Nat
  deriving DecidableEq, Repr

/-- How many bytes a text takes. -/
def byteCount (s : List Char) : Nat :=
  s.foldl (fun n c => n + c.utf8Size) 0

namespace Position

/-- The place of a byte, where the text up to here ends at the given place. -/
def ofOffset : List Char → Nat → Position → Position
  | [], _, p => p
  | c :: rest, offset, p =>
    if offset < c.utf8Size then { p with column := p.column + offset }
    else
      ofOffset rest (offset - c.utf8Size)
        (if c = '\n' then ⟨p.line + 1, 0⟩ else ⟨p.line, p.column + c.utf8Size⟩)

end Position

/-- The reason that a JSON text is refused, with its place. -/
structure Error where
  cause : Cause
  position : Position

namespace Error

/-- A fault of the given text. -/
def ofFault (text : List Char) (f : Fault) : Error :=
  let total := byteCount text
  ⟨f.cause, .ofOffset text (min total (total - byteCount f.rest + f.ahead)) ⟨1, 0⟩⟩

def message (e : Error) : String :=
  e.cause.message ++ " at line " ++ toString e.position.line ++ " column " ++
    toString e.position.column

end Error

end FirmwareKit.Json
