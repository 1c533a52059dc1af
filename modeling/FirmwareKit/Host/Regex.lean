import FirmwareKit.Host.Shell.Pattern

/-! Regular expressions in their basic and their extended form. Of all matches the first one counts,
and of those that start there the longest. -/

namespace FirmwareKit.Host

open Shell.Pattern (Member)

/-- A regular expression. -/
inductive Regex where
  | empty
  | char (c : Char)
  | any
  | set (negated : Bool) (members : List Member)
  | atStart
  | atEnd
  /-- Between a character of a word and another one, seen from either side. -/
  | atWord (starts ends : Bool)
  | insideWord
  | group (number : Nat) (r : Regex)
  | copy (number : Nat)
  | both (a b : Regex)
  | either (a b : Regex)
  | repeated (least : Nat) (most : Option Nat) (r : Regex)
  deriving Repr

namespace Regex

/-- What is left of a written expression, and how many groups have begun. -/
structure Reading where
  rest : List Char
  groups : Nat := 0

/-- A part of the reader. -/
abbrev Reads := StateT Reading (Except String)

/-- Passes so many characters. -/
def pass (count : Nat) : Reads Unit :=
  modify fun s => { s with rest := s.rest.drop count }

/-- A sign that means something by itself in the extended form, and behind a backslash in the basic
one. -/
def sees (extended : Bool) (sign : Char) : Reads Bool := do
  match (← get).rest with
  | '\\' :: c :: _ => return !extended && c = sign
  | c :: _ => return extended && c = sign
  | [] => return false

/-- Passes such a sign. -/
def passSign (extended : Bool) : Reads Unit :=
  pass (if extended then 1 else 2)

/-- Characters of words. -/
def wordMembers : List Member :=
  [.named "alnum", .range '_' '_']

/-- The members of a set up to its bracket. -/
def members (isFirst : Bool) : (fuel : Nat) → List Char → Except String (List Member × List Char)
  | 0, _ => .error "Unmatched [, [^, [:, [., or [="
  | _, [] => .error "Unmatched [, [^, [:, [., or [="
  | fuel + 1, c :: rest =>
    if c = ']' && !isFirst then .ok ([], rest)
    else
      match c, rest with
      | '[', ':' :: more =>
        let name := more.takeWhile Char.isAlpha
        let known := ["alpha", "digit", "alnum", "upper", "lower", "space", "blank", "punct",
          "xdigit", "print", "graph", "cntrl"]
        match more.drop name.length with
        | ':' :: ']' :: after =>
          if known.contains (String.ofList name) then
            (members false fuel after).map fun (ms, rest) =>
              (.named (String.ofList name) :: ms, rest)
          else .error "Invalid character class name"
        | _ => .error "Unmatched [, [^, [:, [., or [="
      | _, '-' :: d :: after =>
        if d = ']' then
          (members false fuel rest).map fun (ms, rest) => (.range c c :: ms, rest)
        else if d < c then .error "Invalid range end"
        else (members false fuel after).map fun (ms, rest) => (.range c d :: ms, rest)
      | _, _ => (members false fuel rest).map fun (ms, rest) => (.range c c :: ms, rest)

/-- What stands behind a backslash. -/
def escaped (c : Char) : Regex :=
  match c with
  | 'w' => .set false wordMembers
  | 'W' => .set true wordMembers
  | 's' => .set false [.named "space"]
  | 'S' => .set true [.named "space"]
  | '<' => .atWord true false
  | '>' => .atWord false true
  | 'b' => .atWord true true
  | 'B' => .insideWord
  | '`' => .atStart
  | '\'' => .atEnd
  | 'n' => .char '\n'
  | 't' => .char '\t'
  | _ => if c.isDigit && c != '0' then .copy (c.toNat - '0'.toNat) else .char c

/-- The bounds between braces, and what follows them. -/
def bounds? (extended : Bool) (text : List Char) : Option (Nat × Option Nat × List Char) :=
  let number (cs : List Char) : Option Nat := (String.ofList (cs.takeWhile Char.isDigit)).toNat?
  let ending (cs : List Char) : Option (List Char) :=
    match extended, cs with
    | true, '\x7d' :: rest => some rest
    | false, '\\' :: '\x7d' :: rest => some rest
    | _, _ => none
  match number text, text.dropWhile Char.isDigit with
  | first, ',' :: rest =>
    (ending (rest.dropWhile Char.isDigit)).map fun after => (first.getD 0, number rest, after)
  | some n, rest => (ending rest).map fun after => (n, some n, after)
  | none, _ => none

mutual

/-- Alternatives. -/
def alternatives (extended : Bool) (fuel depth : Nat) : Reads Regex := do
  match fuel with
  | 0 => return .empty
  | fuel + 1 =>
    let first ← row extended fuel depth true
    if ← sees extended '|' then
      passSign extended
      return .either first (← alternatives extended fuel depth)
    else return first

/-- Parts one behind the other; `isFirst` tells that nothing stands in front of them. -/
def row (extended : Bool) (fuel depth : Nat) (isFirst : Bool) : Reads Regex := do
  match fuel with
  | 0 => return .empty
  | fuel + 1 =>
    if (← get).rest.isEmpty then return .empty
    else if (← sees extended '|') then return .empty
    else if depth != 0 && (← sees extended ')') then return .empty
    else
      let part ← atom extended fuel depth isFirst
      let isAnchor := match part with
        | .atStart => isFirst
        | _ => false
      let part ← if isAnchor && !extended then pure part else postfixes extended fuel part
      return .both part (← row extended fuel depth isAnchor)

/-- Counts behind a part. -/
def postfixes (extended : Bool) (fuel : Nat) (part : Regex) : Reads Regex := do
  match fuel with
  | 0 => return part
  | fuel + 1 =>
    match (← get).rest with
    | '*' :: _ =>
      pass 1
      postfixes extended fuel (.repeated 0 none part)
    | _ =>
      if ← sees extended '+' then
        passSign extended
        postfixes extended fuel (.repeated 1 none part)
      else if ← sees extended '?' then
        passSign extended
        postfixes extended fuel (.repeated 0 (some 1) part)
      else if ← sees extended '\x7b' then
        match bounds? extended ((← get).rest.drop (if extended then 1 else 2)) with
        | some (least, most, after) =>
          modify fun s => { s with rest := after }
          postfixes extended fuel (.repeated least most part)
        | none => if extended then return part else throw "Invalid preceding regular expression"
      else return part

/-- One part. -/
def atom (extended : Bool) (fuel depth : Nat) (isFirst : Bool) : Reads Regex := do
  match fuel with
  | 0 => return .empty
  | fuel + 1 =>
    if ← sees extended '(' then
      passSign extended
      let number := (← get).groups + 1
      modify fun s => { s with groups := number }
      let inner ← alternatives extended fuel (depth + 1)
      if !(← sees extended ')') then throw "Unmatched ( or \\("
      passSign extended
      return .group number inner
    else
      match (← get).rest with
      | [] => return .empty
      | '.' :: _ =>
        pass 1
        return .any
      | '[' :: rest =>
        let (negated, inside) := match rest with
          | '^' :: inside => (true, inside)
          | _ => (false, rest)
        if rest.isEmpty then throw "Invalid regular expression"
        let (ms, after) ← liftM (members true (inside.length + 1) inside)
        modify fun s => { s with rest := after }
        return .set negated ms
      | '^' :: _ =>
        pass 1
        return if extended || isFirst then .atStart else .char '^'
      | '$' :: rest =>
        pass 1
        let isLast := match rest with
          | [] => true
          | '\\' :: ')' :: _ => depth != 0
          | '\\' :: '|' :: _ => true
          | _ => false
        return if extended || isLast then .atEnd else .char '$'
      | ['\\'] => throw "Trailing backslash"
      | '\\' :: c :: _ =>
        if c = ')' && !extended then throw "Unmatched ) or \\)"
        pass 2
        return escaped c
      | c :: _ =>
        pass 1
        return .char c

end

/-- Reads an expression. -/
def parse (extended : Bool) (text : List Char) : Except String Regex :=
  ((alternatives extended (8 * text.length + 16) 0).run { rest := text }).map (·.1)

/-- A place in a text, and where the groups that were passed begin and end. -/
structure Spot where
  position : Nat
  groups : List (Nat × Nat × Nat) := []

/-- Spots of which none has the position of one before it. -/
def distinct : List Spot → List Spot
  | [] => []
  | s :: rest => s :: (distinct rest).filter (·.position != s.position)

/-- Two characters are the same, or differ in their case if that does not count. -/
def same (folds : Bool) (a b : Char) : Bool :=
  a = b || folds && a.toLower = b.toLower

/-- The character is part of a word. -/
def isWord (c : Option Char) : Bool :=
  (c.map fun c => c.isAlphanum || c = '_').getD false

/-- Where an expression can end that starts at a spot. -/
def ends (text : Array Char) (folds : Bool) : (fuel : Nat) → Regex → Spot → List Spot
  | 0, _, _ => []
  | fuel + 1, r, s =>
    let here := text[s.position]?
    let before := if s.position = 0 then none else text[s.position - 1]?
    let step (holds : Char → Bool) : List Spot :=
      if (here.map holds).getD false then [{ s with position := s.position + 1 }] else []
    match r with
    | .empty => [s]
    | .char c => step (same folds c)
    | .any => step fun _ => true
    | .set negated ms =>
      step fun c =>
        (ms.any fun m => m.has c || folds && (m.has c.toLower || m.has c.toUpper)) != negated
    | .atStart => if s.position = 0 then [s] else []
    | .atEnd => if s.position = text.size then [s] else []
    | .atWord starts finishes =>
      if starts && !isWord before && isWord here ||
          finishes && isWord before && !isWord here then [s]
      else []
    | .insideWord => if isWord before == isWord here then [s] else []
    | .group n inner =>
      (ends text folds fuel inner s).map fun e =>
        { e with groups := (n, s.position, e.position) :: e.groups }
    | .copy n =>
      match s.groups.lookup n with
      | some (a, b) =>
        let wanted := (text.extract a b).toList
        let found := (text.extract s.position (s.position + wanted.length)).toList
        if found.length = wanted.length && (found.zip wanted).all fun (c, d) => same folds c d then
          [{ s with position := s.position + wanted.length }]
        else []
      | none => []
    | .both a b => distinct ((ends text folds fuel a s).flatMap (ends text folds fuel b))
    | .either a b => distinct (ends text folds fuel a s ++ ends text folds fuel b s)
    | .repeated least most inner =>
      let further := if most = some 0 then []
        else
          ((ends text folds fuel inner s).filter fun e =>
            s.position < e.position || 0 < least).flatMap
              (ends text folds fuel (.repeated (least - 1) (most.map (· - 1)) inner))
      distinct (further ++ if least = 0 then [s] else [])

/-- The longest match that starts at a position. -/
def matchAt (r : Regex) (folds : Bool) (text : Array Char) (start : Nat) : Option Spot :=
  (ends text folds (4 * text.size + 1000) r { position := start }).foldl (fun best s =>
    match best with
    | none => some s
    | some b => if b.position < s.position then some s else best) none

/-- The first match from a position on: where it starts, and where it ends. -/
def find (r : Regex) (folds : Bool) (text : Array Char) (start : Nat) : Option (Nat × Spot) :=
  (List.range (text.size + 1 - start)).findSome? fun n =>
    (r.matchAt folds text (start + n)).map (start + n, ·)

end Regex

end FirmwareKit.Host
