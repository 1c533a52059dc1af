/-! Scripts of the shell: commands, their words, and the pieces of words. -/

namespace FirmwareKit.Host.Shell

/-- What comes to the place of a parameter that is unset, or set. -/
inductive Substitute where
  | default | assigned | alarm | alternative
  deriving DecidableEq, Repr

/-- How a parameter is used. -/
inductive Use where
  | value
  | length
  /-- `nullToo` tells that an empty value counts as none. -/
  | substitute (how : Substitute) (nullToo : Bool)
  | trim (fromEnd longest : Bool)
  | bad
  deriving DecidableEq, Repr

/-- What is done with a descriptor. -/
inductive Direction where
  | read | write | append | both | copy | here
  deriving DecidableEq, Repr

mutual

/-- A piece of a word. Text in quotes is neither split nor taken for a pattern. -/
inductive Piece where
  | text (quoted : Bool) (text : String)
  | parameter (quoted : Bool) (name : String) (use : Use) (word : List Piece)
  | output (quoted : Bool) (script : List Command)
  | arithmetic (quoted : Bool) (expression : List Piece)

/-- Where a descriptor leads. For text that is given in the script, `word` holds its number. -/
inductive Redirect where
  | mk (descriptor : Nat) (direction : Direction) (word : List Piece)

/-- A command; numbers are those of lines. -/
inductive Command where
  | simple (line : Nat) (assignments : List (String × List Piece)) (words : List (List Piece))
      (redirects : List Redirect)
  | pipeline (stages : List Command)
  | not (command : Command)
  | both (first second : Command)
  | either (first second : Command)
  | background (command : Command)
  | group (body : List Command)
  | subshell (line : Nat) (body : List Command)
  | redirected (line : Nat) (command : Command) (redirects : List Redirect)
  | choice (condition body : List Command) (otherwise : List Command)
  | loop (line : Nat) (untilTrue : Bool) (condition body : List Command)
  | each (line : Nat) (name : String) (words : Option (List (List Piece))) (body : List Command)
  | select (line : Nat) (word : List Piece) (cases : List (List (List Piece) × List Command))
  | define (name : String) (body : Command)

end

instance : Inhabited Command := ⟨.group []⟩

/-- A word. -/
abbrev Word := List Piece

/-- A row of commands. -/
abbrev Script := List Command

/-- The text of a word that has no other pieces and no quotes. -/
def plainText? : Word → Option String
  | [] => some ""
  | .text false s :: more => (plainText? more).map (s ++ ·)
  | _ => none

/-- A letter or an underscore. -/
def isNameStart (c : Char) : Bool := c.isAlpha || c = '_'

/-- What can stand in the name of a parameter. -/
def isNameChar (c : Char) : Bool := c.isAlphanum || c = '_'

/-- The name of a parameter that can be set. -/
def isName (s : String) : Bool :=
  match s.toList with
  | c :: cs => isNameStart c && cs.all isNameChar
  | [] => false

end FirmwareKit.Host.Shell
