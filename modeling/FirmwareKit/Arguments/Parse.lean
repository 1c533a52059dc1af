import FirmwareKit.Arguments.Problem
import FirmwareKit.Text.Similarity

/-! Reading a command line. Options are read from the left; the value of one that
takes a value is attached with an equals sign or is the next argument that does
not look like an option. An option counts once it has its value, and counts only
once. Nothing is an option behind two dashes. -/

namespace FirmwareKit.Arguments

/-- The options read so far with their values, in order, and the one that waits for its value or
to be counted. -/
structure Seen where
  used : List (Opt × String) := []
  pending : Option (Opt × Option String) := none
  deriving DecidableEq, Repr

namespace Seen

/-- The options that count. -/
def options (s : Seen) : List Opt :=
  s.used.map (·.1)

/-- The option counts already. -/
def has (s : Seen) (o : Opt) : Bool :=
  s.options.contains o

/-- The value of an option. -/
def value? (s : Seen) (o : Opt) : Option String :=
  (s.used.find? (·.1 == o)).map (·.2)

/-- An option waits for its value. -/
def isWaiting (s : Seen) : Bool :=
  match s.pending with
  | some (_, none) => true
  | _ => false

/-- Counts an option with its value. What counts then, and what is wrong with it: a second time
takes the first one back, and no value can be empty. -/
def count (page : Page) (o : Opt) (value : String) (s : Seen) : Seen × Option Problem :=
  if s.has o then ({ s with used := s.used.filter (·.1 != o) }, some (.repeated page o))
  else
    ({ s with used := s.used ++ [(o, value)] },
      if o.value.isSome && value.isEmpty then some (.missingValue o) else none)

/-- Counts the option that waits. -/
def settle (page : Page) (s : Seen) : Seen × Option Problem :=
  match s.pending with
  | none => (s, none)
  | some (o, none) => ({ s with pending := none }, some (.missingValue o))
  | some (o, some value) => count page o value { s with pending := none }

/-- Counts the option that waits, and then another one. -/
def add (page : Page) (o : Opt) (value : String) (s : Seen) : Except Problem Seen :=
  match s.settle page with
  | (_, some problem) => .error problem
  | (s, none) =>
    if o = .help then .error (.help page)
    else if o = .version then .error .version
    else
      match s.count page o value with
      | (_, some problem) => .error problem
      | (s, none) => .ok s

/-- Counts the option that waits, and lets another one wait. -/
def await (page : Page) (o : Opt) (s : Seen) : Except Problem Seen :=
  match s.settle page with
  | (_, some problem) => .error problem
  | (s, none) => .ok { s with pending := some (o, none) }

end Seen

/-- The name and the attached value of a long option. -/
def splitLong (text : List Char) : String × Option String :=
  let name := String.ofList (text.takeWhile (· != '='))
  match text.dropWhile (· != '=') with
  | [] => (name, none)
  | _ :: value => (name, some (String.ofList value))

/-- The command named in the rest of a line that has an option much like a word, the earliest. -/
def commandTip? (word : String) (rest : List String) : Option Tip :=
  let candidates := Page.commands.filterMap fun c =>
    match (Text.alike word (c.options.map (·.long))).getLast?, rest.findIdx? (· == c.word) with
    | some long, some place => some (place, c.word, long)
    | _, _ => none
  (candidates.mergeSort fun a b => a.1 ≤ b.1).head?.map fun (_, command, long) =>
    .optionOfCommand command long

/-- The problem of a long option that the page does not have. -/
def unknownLong (page : Page) (name : String) (s : Seen) (rest : List String) : Problem :=
  let used := (s.settle page).1.options
  match (Text.alike name (page.options.map (·.long))).getLast? with
  | some long =>
    let hinted := page.options.filter fun o => o.long == long && !used.contains o
    .unknownArgument page ("--" ++ name) (some (.similarOption long)) (used ++ hinted)
  | none =>
    let tip := if page = .top then commandTip? name rest else none
    .unknownArgument page ("--" ++ name) tip used

/-- Reads a long option. -/
def readLong (page : Page) (text : List Char) (rest : List String) (s : Seen) :
    Except Problem Seen :=
  let (name, attached) := splitLong text
  match page.options.find? (·.long == name) with
  | none => .error (unknownLong page name s rest)
  | some o =>
    match o.value, attached with
    | some _, some value => s.add page o value
    | some _, none => s.await page o
    | none, none => s.add page o ""
    | none, some value => .error (.unneededValue page value o s.options)

/-- Reads the letters of short options. -/
def readShort (page : Page) : List Char → Seen → Except Problem Seen
  | [], s => .ok s
  | letter :: more, s =>
    match page.options.find? (·.short == some letter) with
    | none => .error (.unknownArgument page (String.ofList ['-', letter]) none [])
    | some o =>
      match s.add page o "" with
      | .error problem => .error problem
      | .ok s => readShort page more s

/-- The problem of an argument that is no option; `trailing` says that it stands behind two
dashes. -/
def unexpected (page : Page) (trailing : Bool) (argument : String) : Problem :=
  if page = .top then
    if trailing && (Page.ofWord? argument).isSome then
      .unknownArgument page argument (some (.commandBehindDashes argument)) []
    else
      match Text.alike argument (Page.commands.map (·.word)) with
      | [] => .unknownCommand page argument none
      | words => .unknownCommand page argument (some (.similarCommands words))
  else .unknownArgument page argument none []

/-- What a line amounts to: the options of the page, or a command with the rest of the line. -/
inductive Line where
  | options (seen : Seen)
  | command (page : Page) (rest : List String)
  deriving DecidableEq, Repr

/-- Counts the option that waits at the end of a line. -/
def atEnd (page : Page) (s : Seen) : Except Problem Line :=
  match s.settle page with
  | (_, some problem) => .error problem
  | (s, none) => .ok (.options s)

/-- Reads a line from the left. -/
def readLine (page : Page) : List String → Seen → Except Problem Line
  | [], s => atEnd page s
  | argument :: rest, s =>
    match if page = .top && !s.isWaiting then Page.ofWord? argument else none with
    | some command => .ok (.command command rest)
    | none =>
      match argument.toList with
      | '-' :: '-' :: [] =>
        match rest with
        | [] => atEnd page s
        | argument :: _ => .error (unexpected page true argument)
      | '-' :: '-' :: text =>
        match readLong page text rest s with
        | .error problem => .error problem
        | .ok s => readLine page rest s
      | '-' :: letter :: letters =>
        match readShort page (letter :: letters) s with
        | .error problem => .error problem
        | .ok s => readLine page rest s
      | _ =>
        match s.pending with
        | some (o, none) => readLine page rest { s with pending := some (o, some argument) }
        | _ => .error (unexpected page false argument)

/-- The help that a list of command words asks for; help itself has no further commands. -/
def helpFor : Page → List String → Problem
  | page, [] => .help page
  | page, word :: words =>
    match if page = .top then Page.ofWord? word else none with
    | some command => helpFor command words
    | none => .unknownCommand page word none

end FirmwareKit.Arguments
