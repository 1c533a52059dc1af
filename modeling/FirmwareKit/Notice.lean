import FirmwareKit.Style

/-! What a command prints: styled text on the output or the error stream, in the
order it is printed. -/

namespace FirmwareKit

/-- Where text is printed. -/
inductive Stream where
  | output | errors
  deriving DecidableEq, Repr

/-- Pieces printed one after the other on one stream. -/
structure Notice where
  stream : Stream
  pieces : List Piece
  deriving DecidableEq, Repr

namespace Notice

/-- A whole line. -/
def line (stream : Stream) (pieces : List Piece) : Notice :=
  ⟨stream, pieces ++ [.plain "\n"]⟩

/-- A whole line of the output, without a style. -/
def say (text : String) : Notice :=
  line .output [.plain text]

/-- The characters of a notice. -/
def render (palette : Palette) (n : Notice) : List Char :=
  n.pieces.flatMap (Piece.render palette)

/-- All that reaches one of the streams. -/
def renderAll (palette : Palette) (stream : Stream) (notices : List Notice) : String :=
  String.ofList ((notices.filter (·.stream == stream)).flatMap (render palette))

end Notice

end FirmwareKit
