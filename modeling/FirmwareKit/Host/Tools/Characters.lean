import FirmwareKit.Host.Tools.Lines

/-! Programs that pick characters of lines, and that put characters in the place of others. -/

namespace FirmwareKit.Host.Tools

/-- A range of positions, the last of which is open if it is not there. -/
structure Positions where
  first : Nat
  last : Option Nat

/-- The position is in one of the ranges. -/
def isPicked (ranges : List Positions) (n : Nat) : Bool :=
  ranges.any fun r => r.first ≤ n && r.last.all (n ≤ ·)

/-- Reads ranges of positions of a kind. -/
def readPositions (i : Invocation) (fields : Bool) (text : String) : Works (List Positions) := do
  let zero : String := if fields then "fields are numbered from 1"
    else "byte/character positions are numbered from 1"
  let wrong (part : String) : Works Positions :=
    i.misused ((if fields then "invalid field value " else "invalid byte/character position ") ++
      quote part)
  (text.splitOn ",").mapM fun part => do
    match part.splitOn "-" with
    | [single] =>
      match single.toNat? with
      | some 0 => i.misused zero
      | some n => return ⟨n, some n⟩
      | none => if single.isEmpty then i.misused zero else wrong single
    | [first, last] =>
      match first.toNat?, last.toNat? with
      | some 0, _ | _, some 0 => i.misused zero
      | some a, some b => if b < a then i.misused "invalid decreasing range" else return ⟨a, some b⟩
      | some a, none => if last.isEmpty then return ⟨a, none⟩ else wrong part
      | none, some b => if first.isEmpty then return ⟨1, some b⟩ else wrong part
      | none, none =>
        if first.isEmpty && last.isEmpty then i.misused "invalid range with no endpoint: -"
        else wrong part
    | _ => i.misused "invalid field range"

/-- The picked elements. -/
def picked {α : Type} (ranges : List Positions) (elements : List α) : List α :=
  (elements.zipIdx.filter fun (_, n) => isPicked ranges (n + 1)).map (·.1)

/-- The pieces of a line between delimiters. -/
def pieces (delimiter : Char) : List Char → List (List Char)
  | [] => [[]]
  | c :: rest =>
    if c = delimiter then [] :: pieces delimiter rest
    else
      match pieces delimiter rest with
      | [] => [[c]]
      | piece :: more => (c :: piece) :: more

/-- Prints picked parts of lines. -/
def cut (i : Invocation) : Works Unit := do
  let s ← i.switches [{ word := "bytes", letter := some 'b', hasValue := some true },
    { word := "characters", letter := some 'c', hasValue := some true },
    { word := "fields", letter := some 'f', hasValue := some true },
    { word := "delimiter", letter := some 'd', hasValue := some true },
    { word := "only-delimited", letter := some 's' }, { letter := some 'n' },
    { word := "output-delimiter", hasValue := some true }, { word := "complement" },
    { word := "help" }, { word := "version" }]
  let lists := s.given.filter fun (name, _) => name = "b" || name = "c" || name = "f"
  let delimiter := s.value? "d"
  if 1 < ((delimiter.map Octets.ofText).getD []).length then
    i.misused "the delimiter must be a single character"
  match lists with
  | [] => i.misused "you must specify a list of bytes, characters, or fields"
  | _ :: _ :: _ => i.misused "only one list may be specified"
  | [(kind, text)] =>
    let fields := kind = "f"
    if !fields && delimiter.isSome then
      i.misused "an input delimiter may be specified only when operating on fields"
    if !fields && s.has "s" then
      i.misused "suppressing non-delimited lines makes sense\n\tonly when operating on fields"
    let ranges ← readPositions i fields text
    let mark := (delimiter.bind fun text => (Octets.ofText text).head?).getD
      (if delimiter.isSome then '\x00' else '\t')
    let joint :=
      ((s.value? "output-delimiter").map Octets.ofText).getD (if fields then [mark] else [])
    let choose {α : Type} (elements : List α) : List α :=
      if s.has "complement" then
        (elements.zipIdx.filter fun (_, n) => !isPicked ranges (n + 1)).map (·.1)
      else picked ranges elements
    for name in operandsOrInput s do
      match ← i.readOperand name with
      | .error fault => i.complain (shellName name ++ ": " ++ fault.reason)
      | .ok bytes =>
        writeLines <| (wholeLines bytes).filterMap fun line =>
          if !fields then some (choose line)
          else if !line.contains mark then if s.has "s" then none else some line
          else some (joint.intercalate (choose (pieces mark line)))

/-- The characters of a class, in their order. -/
def classMembers? (name : String) : Option (List Char) :=
  let all := (List.range 256).map Char.ofNat
  let some' (p : Char → Bool) : Option (List Char) := some (all.filter p)
  match name with
  | "alpha" => some' Char.isAlpha
  | "digit" => some' Char.isDigit
  | "alnum" => some' Char.isAlphanum
  | "upper" => some' Char.isUpper
  | "lower" => some' Char.isLower
  | "space" => some' fun c => c = ' ' || ('\t' ≤ c && c ≤ '\r')
  | "blank" => some' fun c => c = ' ' || c = '\t'
  | "punct" => some' fun c => '!' ≤ c && c ≤ '~' && !c.isAlphanum
  | "print" => some' fun c => ' ' ≤ c && c ≤ '~'
  | "graph" => some' fun c => '!' ≤ c && c ≤ '~'
  | "cntrl" => some' fun c => c < ' ' || c = '\x7f'
  | "xdigit" => some' fun c => c.isDigit || ('a' ≤ c && c ≤ 'f') || ('A' ≤ c && c ≤ 'F')
  | _ => none

/-- A member of a set as it is written: a character, or a character with a count; no count fills the
set up. -/
inductive Member where
  | char (c : Char)
  | repeated (c : Char) (count : Option Nat)

/-- The characters of a set, with what stands behind backslashes replaced. -/
def setCharacters (fuel : Nat) (text : List Char) : List (Char × Bool) :=
  match fuel, text with
  | 0, _ => []
  | _, [] => []
  | fuel + 1, '\\' :: rest =>
    match rest with
    | [] => [('\\', false)]
    | c :: more =>
      match Formatted.control? c, Formatted.leadingDigits 8 3 rest with
      | some d, _ => (d, true) :: setCharacters fuel more
      | none, [] => (c, true) :: setCharacters fuel more
      | none, ds =>
        (Char.ofNat (Formatted.number 8 ds % 256), true) :: setCharacters fuel (rest.drop ds.length)
  | fuel + 1, c :: rest => (c, false) :: setCharacters fuel rest

/-- The members of a set. -/
def setMembers (i : Invocation) (fuel : Nat) (text : List (Char × Bool)) : Works (List Member) := do
  match fuel with
  | 0 => return []
  | fuel + 1 =>
    let plain (cs : List (Char × Bool)) : String := String.ofList (cs.map (·.1))
    match text with
    | [] => return []
    | ('[', false) :: (':', false) :: rest =>
      let name := rest.takeWhile (· != (':', false))
      match rest.drop name.length with
      | (':', false) :: (']', false) :: more =>
        match classMembers? (plain name) with
        | some members => return members.map .char ++ (← setMembers i fuel more)
        | none => i.refuse ("invalid character class " ++ quote (plain name))
      | _ => return .char '[' :: (← setMembers i fuel ((':', false) :: rest))
    | ('[', false) :: (c, _) :: ('*', false) :: rest =>
      let digits := (rest.map (·.1)).takeWhile Char.isDigit
      match rest.drop digits.length with
      | (']', false) :: more =>
        let base := if digits.head? = some '0' then 8 else 10
        let count := match Formatted.number base digits with
          | 0 => none
          | n => some n
        return .repeated c count :: (← setMembers i fuel more)
      | _ => return .char '[' :: (← setMembers i fuel (text.drop 1))
    | (a, _) :: ('-', false) :: (b, q) :: rest =>
      if b < a then
        i.refuse ("range-endpoints of " ++ quote (plain [(a, false), ('-', false), (b, q)]) ++
          " are in reverse collating sequence order")
      else
        let members := (List.range (b.toNat - a.toNat + 1)).map fun n => Char.ofNat (a.toNat + n)
        return members.map .char ++ (← setMembers i fuel rest)
    | (c, _) :: rest => return .char c :: (← setMembers i fuel rest)

/-- The characters of a set that is to have some length. -/
def setOf (i : Invocation) (length : Nat) (text : String) : Works (List Char) := do
  let cs := Octets.ofText text
  let members ← setMembers i (cs.length + 1) (setCharacters (cs.length + 1) cs)
  let known := (members.map fun
    | .char _ => 1
    | .repeated _ count => count.getD 0).foldl (· + ·) 0
  return members.flatMap fun
    | .char c => [c]
    | .repeated c count => List.replicate (count.getD (length - known)) c

/-- A text in which neighbours that are equal and in a set stand once. -/
def squeezed (set : List Char) : List Char → List Char
  | [] => []
  | c :: rest =>
    match rest with
    | [] => [c]
    | d :: _ => if c = d && set.contains c then squeezed set rest else c :: squeezed set rest

/-- Puts characters in the place of others, or drops them. -/
def tr (i : Invocation) : Works Unit := do
  let s ← i.switches [{ word := "complement", letter := some 'c' },
    { word := "complement", letter := some 'C' }, { word := "delete", letter := some 'd' },
    { word := "squeeze-repeats", letter := some 's' },
    { word := "truncate-set1", letter := some 't' },
    { word := "help" }, { word := "version" }]
  let isOther := s.has "c" || s.has "C"
  let deletes := s.has "d"
  let squeezes := s.has "s"
  let hint := "\nTry '" ++ i.name ++ " --help' for more information."
  match s.operands with
  | [] => i.misused "missing operand"
  | [first] =>
    if !deletes && !squeezes then
      i.refuse ("missing operand after " ++ quote first ++
        "\nTwo strings must be given when translating." ++ hint)
    if deletes && squeezes then
      i.refuse ("missing operand after " ++ quote first ++
        "\nTwo strings must be given when both deleting and squeezing repeats." ++ hint)
  | [_, second] =>
    if deletes && !squeezes then
      i.refuse ("extra operand " ++ quote second ++
        "\nOnly one string may be given when deleting without squeezing repeats." ++ hint)
  | _ :: _ :: third :: _ => i.misused ("extra operand " ++ quote third)
  let set ← setOf i 0 (s.operands.head?.getD "")
  let set := if isOther then ((List.range 256).map Char.ofNat).filter (!set.contains ·) else set
  let second ← (s.operands[1]?).mapM (setOf i set.length)
  let input := Octets.ofBytes (← i.readInput).toList
  let out ← match second with
    | none =>
      let kept := if deletes then input.filter (!set.contains ·) else input
      pure (if deletes then kept else squeezed set kept)
    | some second => do
      if deletes then pure (squeezed second (input.filter (!set.contains ·)))
      else
        match second.getLast? with
        | none => i.refuse "when not truncating set1, string2 must be non-empty"
        | some last =>
          let pairs := (if s.has "t" then set.zip second
            else set.zip (second ++ List.replicate (set.length - second.length) last)).reverse
          let translated := input.map fun c => (pairs.lookup c).getD c
          pure (if squeezes then squeezed second translated else translated)
  Works.writeBytes (Octets.toBytes out)

end FirmwareKit.Host.Tools
