import FirmwareKit.Host.Formatted
import FirmwareKit.Host.Regex

/-! Scripts of the stream editor: what is done to which lines. -/

namespace FirmwareKit.Host.Edit

/-- Which lines are meant. -/
inductive Address where
  | line (n : Nat)
  | every (first step : Nat)
  | last
  /-- No expression means the one that was used last. -/
  | fits (r : Option Regex) (folds : Bool)

/-- Where a range of lines ends. -/
inductive Finish where
  | at (a : Address)
  | after (count : Nat)

/-- A part of what comes to the place of a match. -/
inductive Part where
  | text (cs : List Char)
  | group (n : Nat)
  /-- Case from here on: upper, lower, or as it is; for the next character only, if `once`. -/
  | case (mode : Option Bool) (once : Bool)

/-- What is done to a line. -/
inductive Action where
  | substitute (r : Option Regex) (folds : Bool) (parts : List Part) (nth : Nat) (all prints : Bool)
      (file : Option String)
  | translate (pairs : List (Char × Char))
  | plain (letter : Char)
  | text (letter : Char) (lines : List Char)
  | quit (letter : Char) (code : Nat)
  | file (letter : Char) (name : String)
  | label (name : String)
  | jump (letter : Char) (name : String)
  | opens
  | closes

/-- A command with the lines that it is for. -/
structure Command where
  first : Option Address := none
  last : Option Finish := none
  isNegated : Bool := false
  action : Action

/-- What is wrong with a script: how many characters were read, and the problem. -/
structure Mistake where
  position : Nat
  problem : String

/-- What is left of a script. -/
structure Reading where
  rest : List Char
  position : Nat := 0

/-- A part of the reader. -/
abbrev Reads := StateT Reading (Except Mistake)

namespace Reads

def mistake {α : Type} (problem : String) : Reads α := do
  throw ⟨(← get).position, problem⟩

/-- The next character. -/
def look : Reads (Option Char) := do
  return (← get).rest.head?

/-- Passes so many characters. -/
def pass (count : Nat) : Reads Unit :=
  modify fun s =>
    { rest := s.rest.drop count, position := s.position + min count s.rest.length }

/-- Passes characters of a kind and gives them. -/
def passWhile (p : Char → Bool) : Reads (List Char) := do
  let cs := (← get).rest.takeWhile p
  pass cs.length
  return cs

/-- Passes blanks. -/
def passBlanks : Reads Unit := do
  let _ ← passWhile fun c => c = ' ' || c = '\t'

/-- Where a character stands in an expression: outside of brackets, first in them, or further on. -/
inductive Place where
  | outside | first | inside
  deriving DecidableEq

/-- Text up to a delimiter, which is passed; a backslash in front of it is dropped. A delimiter in
brackets and a newline belong to the text of an expression or of a replacement, each to one of
them. -/
def delimited (delimiter : Char) (isExpression : Bool) :
    (fuel : Nat) → Place → Reads (Option (List Char))
  | 0, _ => return none
  | fuel + 1, place => do
    match (← get).rest with
    | [] => return none
    | '\\' :: c :: _ =>
      pass 2
      let here := if c = delimiter && c != '&' then [c] else ['\\', c]
      return (← delimited delimiter isExpression fuel place).map (here ++ ·)
    | c :: _ =>
      pass 1
      if c = delimiter && place = .outside then return some []
      else if c = '\n' && isExpression then return none
      else
        let place : Place := match place with
          | .outside => if c = '[' && isExpression then .first else .outside
          | .first => if c = '^' then .first else .inside
          | .inside => if c = ']' then .outside else .inside
        return (← delimited delimiter isExpression fuel place).map (c :: ·)

/-- Reads text up to a delimiter. -/
def upTo (delimiter : Char) (isExpression : Bool) (problem : String) : Reads (List Char) := do
  match ← delimited delimiter isExpression ((← get).rest.length + 1) .outside with
  | some cs => return cs
  | none => mistake problem

/-- Reads a regular expression from text; empty text means the last one. -/
def regex (extended : Bool) (cs : List Char) : Reads (Option Regex) := do
  if cs.isEmpty then return none
  match Regex.parse extended cs with
  | .ok r => return some r
  | .error problem => mistake problem

/-- The number that digits stand for. -/
def number : Reads Nat := do
  return (String.ofList (← passWhile Char.isDigit)).toNat?.getD 0

/-- Reads an address, if there is one. -/
def address? (extended : Bool) : Reads (Option Address) := do
  let folded : Reads Bool := do
    let isFolded := (← look) = some 'I'
    if isFolded then pass 1
    return isFolded
  match (← get).rest with
  | '$' :: _ =>
    pass 1
    return some .last
  | '/' :: _ =>
    pass 1
    let r ← regex extended (← upTo '/' true "unterminated address regex")
    return some (.fits r (← folded))
  | '\\' :: c :: _ =>
    pass 2
    let r ← regex extended (← upTo c true "unterminated address regex")
    return some (.fits r (← folded))
  | c :: _ =>
    if c.isDigit then
      let n ← number
      if (← look) = some '~' then
        pass 1
        return some (.every n (← number))
      else return some (.line n)
    else return none
  | [] => return none

/-- The parts of a replacement. -/
def parts : (fuel : Nat) → List Char → List Part
  | 0, _ => []
  | _, [] => []
  | fuel + 1, '&' :: rest => .group 0 :: parts fuel rest
  | fuel + 1, '\\' :: c :: rest =>
    if c.isDigit then .group (c.toNat - '0'.toNat) :: parts fuel rest
    else
      match c with
      | 'n' => .text ['\n'] :: parts fuel rest
      | 't' => .text ['\t'] :: parts fuel rest
      | 'U' => .case (some true) false :: parts fuel rest
      | 'L' => .case (some false) false :: parts fuel rest
      | 'E' => .case none false :: parts fuel rest
      | 'u' => .case (some true) true :: parts fuel rest
      | 'l' => .case (some false) true :: parts fuel rest
      | 'x' =>
        match Formatted.leadingDigits 16 2 rest with
        | [] => .text ['x'] :: parts fuel rest
        | ds => .text [Char.ofNat (Formatted.number 16 ds)] :: parts fuel (rest.drop ds.length)
      | _ => .text [c] :: parts fuel rest
  | fuel + 1, c :: rest => .text [c] :: parts fuel rest

/-- What follows a replacement. -/
structure Flags where
  nth : Nat := 1
  all : Bool := false
  prints : Bool := false
  folds : Bool := false
  file : Option String := none

/-- Reads what follows a replacement. -/
def flags : (fuel : Nat) → Flags → Reads Flags
  | 0, f => return f
  | fuel + 1, f => do
    match ← look with
    | some 'g' => pass 1; flags fuel { f with all := true }
    | some 'p' => pass 1; flags fuel { f with prints := true }
    | some 'i' => pass 1; flags fuel { f with folds := true }
    | some 'I' => pass 1; flags fuel { f with folds := true }
    | some 'w' =>
      pass 1
      passBlanks
      return { f with file := some (String.ofList (← passWhile (· != '\n'))) }
    | some c =>
      if c.isDigit then
        let n ← number
        if n = 0 then mistake "number option to `s' command may not be zero"
        flags fuel { f with nth := n }
      else return f
    | none => return f

/-- Passes what ends a command. -/
def ending (problem : String) : Reads Unit := do
  passBlanks
  match ← look with
  | none => pure ()
  | some ';' => pass 1
  | some '\n' => pass 1
  | some '\x7d' => pure ()
  | some '#' => pure ()
  | some _ =>
    pass 1
    mistake problem

/-- Reads the lines of text behind a letter. -/
def textLines : (fuel : Nat) → Reads (List Char)
  | 0 => return []
  | fuel + 1 => do
    match (← get).rest with
    | [] => return []
    | '\n' :: _ =>
      pass 1
      return []
    | '\\' :: c :: _ =>
      pass 2
      return c :: (← textLines fuel)
    | c :: _ =>
      pass 1
      return c :: (← textLines fuel)

/-- Reads what a letter stands for, which was passed. -/
def action (extended : Bool) (letter : Char) : Reads Action := do
  let extra := "extra characters after command"
  match letter with
  | '\x7b' => return .opens
  | '\x7d' =>
    ending extra
    return .closes
  | 's' =>
    let problem := "unterminated `s' command"
    match ← look with
    | none => mistake problem
    | some delimiter =>
      pass 1
      let pattern ← upTo delimiter true problem
      let replacement ← upTo delimiter false problem
      let f ← flags ((← get).rest.length + 1) {}
      let r ← regex extended pattern
      ending "unknown option to `s'"
      return .substitute r f.folds (parts (replacement.length + 1) replacement) f.nth f.all f.prints
        f.file
  | 'y' =>
    let problem := "unterminated `y' command"
    match ← look with
    | none => mistake problem
    | some delimiter =>
      pass 1
      let rec plain : List Char → List Char
        | '\\' :: 'n' :: rest => '\n' :: plain rest
        | '\\' :: '\\' :: rest => '\\' :: plain rest
        | c :: rest => c :: plain rest
        | [] => []
      let source := plain (← upTo delimiter false problem)
      let dest := plain (← upTo delimiter false problem)
      if source.length != dest.length then mistake "strings for `y' command are different lengths"
      ending extra
      return .translate (source.zip dest)
  | 'a' | 'i' | 'c' =>
    passBlanks
    match (← get).rest with
    | [] => mistake "expected \\ after `a', `c' or `i'"
    | ['\\'] =>
      pass 1
      return .label ""
    | '\\' :: rest =>
      let blanks := rest.takeWhile fun c => c = ' ' || c = '\t'
      pass (if rest[blanks.length]? = some '\n' then blanks.length + 2 else 1)
    | _ => pure ()
    return .text letter (← textLines ((← get).rest.length + 1))
  | 'q' | 'Q' =>
    passBlanks
    let code ← number
    ending extra
    return .quit letter code
  | 'r' | 'w' =>
    passBlanks
    let name ← passWhile (· != '\n')
    pass 1
    if name.isEmpty then mistake "missing filename in r/R/w/W commands"
    return .file letter (String.ofList name)
  | ':' =>
    passBlanks
    let name ← passWhile fun c => c != '\n' && c != ';'
    ending extra
    return .label (String.ofList name)
  | 'b' | 't' | 'T' =>
    passBlanks
    let name ← passWhile fun c => c != '\n' && c != ';' && c != '\x7d' && c != ' '
    ending extra
    return .jump letter (String.ofList name)
  | c =>
    if "dDpPnNgGhHx=l".toList.contains c then
      ending extra
      return .plain c
    else mistake ("unknown command: `" ++ String.singleton c ++ "'")

/-- Reads the commands of a script; `depth` counts the blocks that are open. -/
def commands (extended : Bool) : (fuel depth : Nat) → Reads (List Command)
  | 0, _ => return []
  | fuel + 1, depth => do
    let _ ← passWhile fun c => c = ' ' || c = '\t' || c = '\n' || c = ';'
    match (← get).rest with
    | [] =>
      if depth != 0 then throw ⟨0, "unmatched `\x7b'"⟩
      return []
    | '#' :: _ =>
      let _ ← passWhile (· != '\n')
      commands extended fuel depth
    | _ =>
      let first ← address? extended
      passBlanks
      let last ← if (← look) != some ',' then pure none
        else do
          pass 1
          passBlanks
          if (← look) = some '+' then
            pass 1
            pure (some (Finish.after (← number)))
          else
            match ← address? extended with
            | some a => pure (some (Finish.at a))
            | none =>
              pass 1
              mistake "unexpected `,'"
      passBlanks
      let negated ← passWhile fun c => c = '!' || c = ' '
      match first, last with
      | some (.line 0), none => pass 1; mistake "invalid usage of line address 0"
      | _, _ => pure ()
      match ← look with
      | none => mistake "missing command"
      | some letter =>
        pass 1
        if letter = '\x7d' && depth = 0 then mistake "unexpected `\x7d'"
        if letter = '\x7d' && first.isSome then mistake "\x7d doesn't want any addresses"
        let act ← action extended letter
        let depth := match act with
          | .opens => depth + 1
          | .closes => depth - 1
          | _ => depth
        return ⟨first, last, negated.contains '!', act⟩ :: (← commands extended fuel depth)

end Reads

/-- Reads a script. -/
def readScript (extended : Bool) (text : String) : Except Mistake (List Command) :=
  let cs := Octets.ofText text
  ((Reads.commands extended (2 * cs.length + 2) 0).run { rest := cs }).map (·.1)

end FirmwareKit.Host.Edit
