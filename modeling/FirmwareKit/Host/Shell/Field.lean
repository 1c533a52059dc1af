import FirmwareKit.Host.Shell.Pattern
import FirmwareKit.Host.Shell.Syntax

/-! Words with their parameters replaced, and the fields that they are cut into. Only what comes
from a parameter or from a command is cut, and only where it is not quoted. -/

namespace FirmwareKit.Host.Shell

/-- A part of a word with its parameters replaced. -/
inductive Item where
  | char (c : Char) (quoted splits : Bool)
  /-- Quotes, which make a field even of nothing. -/
  | quotes
  /-- The end of a field. -/
  | divide
  deriving DecidableEq, Repr

namespace Item

/-- The items of a text. -/
def ofText (text : String) (quoted splits : Bool) : List Item :=
  text.toList.map (char · quoted splits)

/-- The text of items, without quotes. -/
def text (items : List Item) : String :=
  String.ofList (items.filterMap fun
    | char c _ _ => some c
    | _ => none)

/-- Items as a pattern. -/
def cells (items : List Item) : List Cell :=
  items.filterMap fun
    | char c quoted _ => some ⟨c, quoted⟩
    | _ => none

/-- A separator that counts once however often it stands. -/
def isBlank (c : Char) : Bool :=
  c = ' ' || c = '\t' || c = '\n'

/-- Cuts items into fields. `current` is the field that is being read, in reverse, and `afterBlank`
tells that a blank has ended the last one. -/
def cut (separators : List Char) (current : Option (List Cell)) (afterBlank : Bool) :
    List Item → List (List Cell)
  | [] => (current.map List.reverse).toList
  | .quotes :: rest => cut separators (some (current.getD [])) false rest
  | .divide :: rest => (current.map List.reverse).toList ++ cut separators none false rest
  | .char c quoted splits :: rest =>
    if splits && separators.contains c then
      match current with
      | some field => field.reverse :: cut separators none (isBlank c) rest
      | none =>
        if isBlank c then cut separators none afterBlank rest
        else if afterBlank then cut separators none false rest
        else [] :: cut separators none false rest
    else cut separators (some (⟨c, quoted⟩ :: current.getD [])) false rest

/-- The fields of items. -/
def fields (separators : String) (items : List Item) : List (List Cell) :=
  cut separators.toList none false items

end Item

/-- What can follow a tilde up to the end of a name of a user. -/
def tildeName (text : List Char) (stops : List Char) : List Char :=
  text.takeWhile fun c => !stops.contains c

/-- A word with the home directory in the place of a tilde at its start; of an assignment, also
behind a colon. -/
def Word.withHome (home : Option String) (isAssignment : Bool) : (atStart : Bool) → Word → Word
  | _, [] => []
  | atStart, .text false text :: more =>
    let parts := if isAssignment then text.splitOn ":" else [text]
    let stops := if isAssignment then ['/', ':'] else ['/']
    let count := parts.length
    let pieces := parts.zipIdx.flatMap fun (part, i) =>
      let lead := if i = 0 then "" else ":"
      let isOpen := i + 1 = count && !more.isEmpty
      match part.toList with
      | '~' :: rest =>
        let name := tildeName rest stops
        let found := match String.ofList name with
          | "" => home
          | "root" => some "/root"
          | _ => none
        match found with
        | some dir =>
          if (i = 0 && !atStart) || (isOpen && name.length = rest.length) then
            [Piece.text false (lead ++ part)]
          else
            [.text false lead, .text true dir, .text false (String.ofList (rest.drop name.length))]
        | none => [.text false (lead ++ part)]
      | _ => [.text false (lead ++ part)]
    pieces ++ Word.withHome home isAssignment false more
  | _, piece :: more => piece :: Word.withHome home isAssignment false more

end FirmwareKit.Host.Shell
