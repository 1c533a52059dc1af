/-! Switches on the command lines of the system's programs: letters behind a dash, which
can stand together, and words behind two dashes, which can be shortened. A value
is attached or is the next argument. Operands can stand between switches, and after
two dashes there are only operands. -/

namespace FirmwareKit.Host

/-- A switch by its word, its letter, and if it has a value; `none` if the value is optional. -/
structure Switch where
  word : String := ""
  letter : Option Char := none
  hasValue : Option Bool := some false
  deriving DecidableEq, Repr

/-- The name of a switch: its letter, or else its word. -/
def Switch.name (s : Switch) : String :=
  match s.letter with
  | some c => String.singleton c
  | none => s.word

/-- What is wrong with the switches of a command line. -/
inductive SwitchFault where
  | unknownLetter (letter : Char)
  | letterWithoutValue (letter : Char)
  | unknownWord (word : String)
  | ambiguousWord (word : String) (possible : List String)
  | wordWithoutValue (word : String)
  | wordWithValue (word : String)
  deriving DecidableEq, Repr

namespace SwitchFault

def message : SwitchFault → String
  | unknownLetter c => "invalid option -- '" ++ String.singleton c ++ "'"
  | letterWithoutValue c => "option requires an argument -- '" ++ String.singleton c ++ "'"
  | unknownWord word => "unrecognized option '--" ++ word ++ "'"
  | ambiguousWord word possible =>
    "option '--" ++ word ++ "' is ambiguous; possibilities:" ++
      String.join (possible.map fun w => " '--" ++ w ++ "'")
  | wordWithoutValue word => "option '--" ++ word ++ "' requires an argument"
  | wordWithValue word => "option '--" ++ word ++ "' doesn't allow an argument"

end SwitchFault

/-- A command line that has been read: its switches with their values, and its operands. -/
structure Switched where
  given : List (String × String) := []
  operands : List String := []
  deriving DecidableEq, Repr

namespace Switched

/-- The switch is given. -/
def has (s : Switched) (name : String) : Bool :=
  s.given.any (·.1 == name)

/-- The last value of a switch. -/
def value? (s : Switched) (name : String) : Option String :=
  (s.given.reverse.find? (·.1 == name)).map (·.2)

end Switched

/-- The letters of one argument, where `next` is the argument behind it. Besides the switches it
says if that argument was taken for a value. -/
def readLetters (switches : List Switch) (next : Option String) :
    List Char → Except SwitchFault (List (String × String) × Bool)
  | [] => .ok ([], false)
  | c :: rest =>
    match switches.find? (·.letter == some c) with
    | none => .error (.unknownLetter c)
    | some s =>
      match s.hasValue, rest, next with
      | some false, _, _ =>
        (readLetters switches next rest).map fun (given, used) => ((s.name, "") :: given, used)
      | some true, [], none => .error (.letterWithoutValue c)
      | some true, [], some value => .ok ([(s.name, value)], true)
      | _, rest, _ => .ok ([(s.name, String.ofList rest)], false)

/-- A word with an attached value, where `next` is the argument behind it. -/
def readWord (switches : List Switch) (next : Option String) (text : List Char) :
    Except SwitchFault (String × String × Bool) :=
  let word := String.ofList (text.takeWhile (· != '='))
  let attached := match text.dropWhile (· != '=') with
    | [] => none
    | _ :: value => some (String.ofList value)
  let known := switches.filter (·.word != "")
  let possible := match known.find? (·.word == word) with
    | some s => [s]
    | none => known.filter (·.word.startsWith word)
  match possible with
  | [] => .error (.unknownWord word)
  | s :: more =>
    if more.any (·.name != s.name) then
      .error (.ambiguousWord word (possible.map (·.word)))
    else
      match s.hasValue, attached, next with
      | some false, some _, _ => .error (.wordWithValue s.word)
      | some true, none, none => .error (.wordWithoutValue s.word)
      | some true, none, some value => .ok (s.name, value, true)
      | _, _, _ => .ok (s.name, attached.getD "", false)

/-- Reads a command line. -/
def readSwitches (switches : List Switch) : List String → Except SwitchFault Switched
  | [] => .ok {}
  | argument :: rest =>
    match argument.toList with
    | ['-', '-'] => .ok { operands := rest }
    | '-' :: '-' :: text =>
      match readWord switches rest.head? text with
      | .error fault => .error fault
      | .ok (name, value, used) =>
        (if used then readSwitches switches rest.tail else readSwitches switches rest).map fun s =>
          { s with given := (name, value) :: s.given }
    | '-' :: c :: text =>
      match readLetters switches rest.head? (c :: text) with
      | .error fault => .error fault
      | .ok (given, used) =>
        (if used then readSwitches switches rest.tail else readSwitches switches rest).map fun s =>
          { s with given := given ++ s.given }
    | _ =>
      (readSwitches switches rest).map fun s => { s with operands := argument :: s.operands }
termination_by arguments => arguments.length
decreasing_by all_goals simp only [List.length_cons, List.length_tail]; omega

end FirmwareKit.Host
