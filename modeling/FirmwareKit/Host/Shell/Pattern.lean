import FirmwareKit.Files.Basic

/-! Patterns of the shell, for texts and for the names of files. A quoted character of a
pattern stands for itself. -/

namespace FirmwareKit.Host.Shell

/-- A character of a pattern. -/
structure Cell where
  char : Char
  quoted : Bool
  deriving DecidableEq, Repr

namespace Pattern

/-- A part of a set of characters. -/
inductive Member where
  | range (first last : Char)
  | named (name : String)
  deriving DecidableEq, Repr

/-- The character is in a part. -/
def Member.has (c : Char) : Member → Bool
  | range first last => first ≤ c && c ≤ last
  | named name =>
    match name with
    | "alpha" => c.isAlpha
    | "digit" => c.isDigit
    | "alnum" => c.isAlphanum
    | "upper" => c.isUpper
    | "lower" => c.isLower
    | "space" => " \t\n\r\x0b\x0c".toList.contains c
    | "blank" => c = ' ' || c = '\t'
    | "punct" => '!' ≤ c && c ≤ '~' && !c.isAlphanum
    | "xdigit" => c.isDigit || ('a' ≤ c && c ≤ 'f') || ('A' ≤ c && c ≤ 'F')
    | "print" => ' ' ≤ c && c ≤ '~'
    | "graph" => '!' ≤ c && c ≤ '~'
    | "cntrl" => c < ' ' || c = '\x7f'
    | _ => false

/-- The name of a class of characters at the start of a text, and how many cells it takes. -/
def className? (cells : List Cell) : Option (String × Nat) :=
  match cells with
  | ⟨'[', false⟩ :: ⟨':', false⟩ :: rest =>
    let name := rest.takeWhile fun c => c.char.isAlpha
    match rest.drop name.length with
    | ⟨':', _⟩ :: ⟨']', _⟩ :: _ => some (String.ofList (name.map (·.char)), name.length + 4)
    | _ => none
  | _ => none

/-- The members of a set up to its end, and what follows it; none if it has no end. -/
def members : (fuel : Nat) → (isFirst : Bool) → List Cell → Option (List Member × List Cell)
  | 0, _, _ => none
  | _, _, [] => none
  | fuel + 1, isFirst, c :: rest =>
    if c = ⟨']', false⟩ && !isFirst then some ([], rest)
    else
      match className? (c :: rest) with
      | some (name, length) =>
        (members fuel false ((c :: rest).drop length)).map fun (more, rest) =>
          (.named name :: more, rest)
      | none =>
        match rest with
        | ⟨'-', false⟩ :: last :: after =>
          if last = ⟨']', false⟩ then
            (members fuel false rest).map fun (more, rest) => (.range c.char c.char :: more, rest)
          else
            (members fuel false after).map fun (more, rest) =>
              (.range c.char last.char :: more, rest)
        | _ =>
          (members fuel false rest).map fun (more, rest) => (.range c.char c.char :: more, rest)

/-- A part of a pattern. -/
inductive Part where
  | char (c : Char)
  | any
  | many
  | set (negated : Bool) (members : List Member)
  deriving DecidableEq, Repr

/-- The parts of a pattern; `fuel` is at least its length. -/
def parts : (fuel : Nat) → List Cell → List Part
  | 0, _ => []
  | _, [] => []
  | fuel + 1, c :: rest =>
    if c.quoted then .char c.char :: parts fuel rest
    else
      match c.char with
      | '*' => .many :: parts fuel rest
      | '?' => .any :: parts fuel rest
      | '\\' =>
        match rest with
        | next :: rest => .char next.char :: parts fuel rest
        | [] => [.char '\\']
      | '[' =>
        let (negated, inside) := match rest with
          | ⟨'!', false⟩ :: inside => (true, inside)
          | _ => (false, rest)
        match members (inside.length + 1) true inside with
        | some (ms, rest) => .set negated ms :: parts fuel rest
        | none => .char '[' :: parts fuel rest
      | c => .char c :: parts fuel rest

/-- The whole text fits. -/
def fits : List Part → List Char → Bool
  | [], [] => true
  | [], _ :: _ => false
  | .many :: more, [] => fits more []
  | .many :: more, c :: cs => fits more (c :: cs) || fits (.many :: more) cs
  | _ :: _, [] => false
  | .char d :: more, c :: cs => c = d && fits more cs
  | .any :: more, _ :: cs => fits more cs
  | .set negated ms :: more, c :: cs => (ms.any (·.has c) != negated) && fits more cs
termination_by pattern text => pattern.length + text.length

/-- A text fits a pattern. -/
def matchesText (cells : List Cell) (text : String) : Bool :=
  fits (parts (cells.length + 1) cells) text.toList

/-- A text without the part at its start or at its end that fits. -/
def trim (fromEnd longest : Bool) (cells : List Cell) (text : String) : String :=
  let pattern := parts (cells.length + 1) cells
  let cs := text.toList
  let lengths := List.range (cs.length + 1)
  let lengths := if longest then lengths.reverse else lengths
  let found := lengths.find? fun n =>
    fits pattern (if fromEnd then cs.drop (cs.length - n) else cs.take n)
  match found with
  | none => text
  | some n => String.ofList (if fromEnd then cs.take (cs.length - n) else cs.drop n)

/-- The cells have a character with a meaning of its own. -/
def isMagic (cells : List Cell) : Bool :=
  cells.any fun c => !c.quoted && "*?[".toList.contains c.char

/-- Cells between slashes. -/
def segments : List Cell → List (List Cell)
  | [] => [[]]
  | c :: rest =>
    if c.char = '/' then [] :: segments rest
    else
      match segments rest with
      | [] => [[c]]
      | s :: more => (c :: s) :: more

/-- The paths that fit the segments behind a start. -/
def walk (files : Files) (start : String) : List (List Cell) → List String
  | [] => []
  | segment :: more =>
    let name := String.ofList (segment.map (·.char))
    let names :=
      if !isMagic segment then [name]
      else
        let all := ((files.list ⟨if start.isEmpty then "." else start⟩).toOption).map
          fun names => "." :: ".." :: names
        let found := (all.getD []).filter
          fun n => matchesText segment n && (!n.startsWith "." || name.startsWith ".")
        found.mergeSort fun a b => a ≤ b
    names.flatMap fun n =>
      let path := start ++ n
      if more.isEmpty then
        if isMagic segment || n.isEmpty || files.isThere ⟨path⟩ then [path] else []
      else if !isMagic segment || files.isDir ⟨path⟩ then walk files (path ++ "/") more
      else []

/-- The paths that a word stands for: those that fit it, or the word itself if there are none. -/
def paths (files : Files) (cells : List Cell) : List String :=
  let plain := String.ofList (cells.map (·.char))
  if !isMagic cells then [plain]
  else
    match walk files "" (segments cells) with
    | [] => [plain]
    | found => found

end Pattern

end FirmwareKit.Host.Shell
