import FirmwareKit.Text.Escapes

/-! Help and error texts, parts of which stand out on a terminal: titles, what is typed
as it stands, and what is wrong or right about a command line. -/

namespace FirmwareKit.Arguments

/-- What a part of a text is. -/
inductive Mark where
  | title | literal | fault | invalid | valid
  deriving DecidableEq, Repr

namespace Mark

/-- The sequences that start the mark: titles are bold and underlined, literals bold, faults bold
and red, invalid parts yellow, valid ones green. -/
def start : Mark → String
  | title => "\x1b[1m\x1b[4m"
  | literal => "\x1b[1m"
  | fault => "\x1b[1m\x1b[31m"
  | invalid => "\x1b[33m"
  | valid => "\x1b[32m"

end Mark

/-- A part of a text. -/
structure Phrase where
  text : String
  mark : Option Mark := none
  deriving DecidableEq, Repr

namespace Phrase

def plain (text : String) : Phrase := ⟨text, none⟩

def title (text : String) : Phrase := ⟨text, some .title⟩

def literal (text : String) : Phrase := ⟨text, some .literal⟩

def fault (text : String) : Phrase := ⟨text, some .fault⟩

def invalid (text : String) : Phrase := ⟨text, some .invalid⟩

def valid (text : String) : Phrase := ⟨text, some .valid⟩

/-- The part with the sequences of its mark around it. -/
def marked (p : Phrase) : String :=
  match p.mark with
  | none => p.text
  | some mark => mark.start ++ p.text ++ "\x1b[0m"

end Phrase

/-- A text in parts. -/
abbrev Marked := List Phrase

namespace Marked

/-- The text for a terminal that shows marks. -/
def shown (m : Marked) : String :=
  String.join (m.map (·.marked))

/-- The text alone, without escape sequences that parts of it bring along. -/
def text (m : Marked) : String :=
  String.ofList (Text.shown (String.join (m.map (·.text))).toList)

end Marked

/-- The environment wants marks: they are declined, forced or left to what the terminal can do. -/
def wantsMarks (terminal : Bool) (environment : List (String × String)) : Bool :=
  let isSet (name : String) : Bool := ((environment.lookup name).map (· != "")).getD false
  if isSet "NO_COLOR" then false
  else if isSet "CLICOLOR_FORCE" then true
  else
    match environment.lookup "CLICOLOR" with
    | some "0" => false
    | clicolor =>
      let isDumb := (environment.lookup "TERM").getD "dumb" = "dumb"
      terminal && (clicolor.isSome || (environment.lookup "CI").isSome || !isDumb)

end FirmwareKit.Arguments
