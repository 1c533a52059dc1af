/-! Styled text and its terminal forms. A piece of text has a colour and may be
bold; a terminal form wraps the piece in an escape sequence and a reset, and
starts the style again after every reset inside the text. Without colours the
text stands alone. -/

namespace FirmwareKit

/-- The colours of the output. -/
inductive Colour where
  | orange | white | blue | yellow | green | cyan
  deriving DecidableEq, Repr

/-- How a piece of text looks. -/
structure Style where
  colour : Colour
  bold : Bool
  deriving DecidableEq, Repr

/-- What the terminal can show: no colours, sixteen of them, or 24 bits of them. -/
inductive Palette where
  | plain | sixteen | full
  deriving DecidableEq, Repr

namespace Palette

/-- The palette that environment variables ask for. Colours are forced or forbidden; otherwise a
terminal gets them unless they are declined. It gets all of them if it is said to show them. -/
def ofVariables (terminal : Bool) (environment : List (String × String)) : Palette :=
  let isOn (name : String) : Option Bool := (environment.lookup name).map (· != "0")
  let coloured :=
    if isOn "CLICOLOR_FORCE" = some true then true
    else if (isOn "NO_COLOR").isSome then false
    else terminal && (isOn "CLICOLOR").getD true
  if !coloured then .plain
  else
    match environment.lookup "COLORTERM" with
    | some "truecolor" | some "24bit" => .full
    | _ => .sixteen

end Palette

namespace Colour

/-- The parameter of the escape sequence; with sixteen colours, yellow is nearest to orange. -/
def code (c : Colour) (full : Bool) : String :=
  match c with
  | orange => if full then "38;2;255;135;0" else "33"
  | white => "37"
  | blue => "34"
  | yellow => "33"
  | green => "32"
  | cyan => "36"

end Colour

namespace Style

def plainIn (c : Colour) : Style := ⟨c, false⟩

def boldIn (c : Colour) : Style := ⟨c, true⟩

/-- The sequence that starts the style. -/
def start (s : Style) (full : Bool) : List Char :=
  '\x1b' :: '[' :: ((if s.bold then "1;" else "") ++ s.colour.code full).toList ++ ['m']

end Style

/-- The sequence that ends every style. -/
def styleReset : List Char := ['\x1b', '[', '0', 'm']

/-- The text with the style started again after every reset in it. -/
def restarting (start : List Char) : List Char → List Char
  | '\x1b' :: '[' :: '0' :: 'm' :: rest => styleReset ++ start ++ restarting start rest
  | c :: rest => c :: restarting start rest
  | [] => []

/-- Text with an optional style. -/
structure Piece where
  text : String
  style : Option Style
  deriving DecidableEq, Repr

namespace Piece

/-- Text without a style. -/
def plain (text : String) : Piece := ⟨text, none⟩

/-- Text in a colour. -/
def tinted (c : Colour) (text : String) : Piece := ⟨text, some (.plainIn c)⟩

/-- Bold text in a colour. -/
def strong (c : Colour) (text : String) : Piece := ⟨text, some (.boldIn c)⟩

/-- The characters sent to the terminal. -/
def render (palette : Palette) (p : Piece) : List Char :=
  let styled (s : Style) (full : Bool) : List Char :=
    s.start full ++ restarting (s.start full) p.text.toList ++ styleReset
  match palette, p.style with
  | .plain, _ | _, none => p.text.toList
  | .sixteen, some s => styled s false
  | .full, some s => styled s true

end Piece

end FirmwareKit
