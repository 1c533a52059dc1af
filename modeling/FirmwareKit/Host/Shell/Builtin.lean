import FirmwareKit.Host.Condition
import FirmwareKit.Host.Formatted
import FirmwareKit.Host.Shell.Field
import FirmwareKit.Host.Shell.State
import FirmwareKit.Signal

/-! Commands that the shell carries out itself, apart from those that run other commands. Each gives
its code. -/

namespace FirmwareKit.Host.Shell

/-- The directories of programs, and the programs that are found in a place among them. -/
def programDirs : List String := ["/usr/bin", "/bin"]

/-- What a name of a command leads to. -/
inductive Located where
  | program (path : String) (run : Invocation → Ran)
  | denied
  | missing

/-- The program at a path, if it is one of the system's. -/
def programAt? (programs : Programs) (path : String) : Option (Invocation → Ran) :=
  programDirs.findSome? fun dir =>
    let start := dir ++ "/"
    if path.startsWith start then programs (path.drop start.length).toString else none

/-- Looks for a program. -/
def State.locate (s : State) (command : String) : Located :=
  if command.contains '/' then
    match programAt? s.programs command, s.files.find .target ⟨command⟩ with
    | some run, _ => .program command run
    | none, .error .notFound | none, .error .notDirectory => .missing
    | none, _ => .denied
  else
    let look (dir : String) : Option Located :=
      let dir := (String.ofList (dir.toList.reverse.dropWhile (· == '/')).reverse)
      let path := if dir.isEmpty then command else dir ++ "/" ++ command
      match programAt? s.programs path with
      | some run => some (.program path run)
      | none => if s.files.isFile ⟨path⟩ then some .denied else none
    let found := (((s.value? "PATH").getD "").splitOn ":").filterMap look
    match found.find? fun
      | .program .. => true
      | _ => false with
    | some program => program
    | none => found.head?.getD .missing

namespace Builtin

/-- The switches in front of other arguments. -/
def letters (allowed : String) : List String → Runs (List Char × List String)
  | [] => return ([], [])
  | "--" :: rest => return ([], rest)
  | "-" :: rest => return ([], "-" :: rest)
  | arg :: rest =>
    match arg.toList with
    | '-' :: cs => do
      for c in cs do
        if !allowed.contains c then fail ("Illegal option -" ++ String.singleton c)
      let (more, rest) ← letters allowed rest
      return (cs ++ more, rest)
    | _ => return ([], arg :: rest)

/-- The number that digits stand for. -/
def number (text : String) : Runs Nat := do
  match text.toNat? with
  | some n =>
    if text.toList.all Char.isDigit && n < Nat.pow 2 31 then return n
    else fail ("Illegal number: " ++ text)
  | none => fail ("Illegal number: " ++ text)

/-- A text between single quotes. -/
def quoted (text : String) : String :=
  "'" ++ "'\"'\"'".intercalate (text.splitOn "'") ++ "'"

/-- Prints arguments. -/
def echo (args : List String) : Runs Nat := do
  let (args, ending) := match args with
    | "-n" :: rest => (rest, "")
    | _ => (args, "\n")
  let rec go : List String → List Char × Bool
    | [] => ([], false)
    | arg :: rest =>
      let octets := Octets.ofText arg
      let (out, ended) := Formatted.unescape true (octets.length + 1) octets
      if ended || rest.isEmpty then (out, ended)
      else
        let (more, ended) := go rest
        (out ++ ' ' :: more, ended)
  let (out, ended) := go args
  let text := Octets.toBytes out ++ (if ended then "" else ending).toUTF8
  writeBytes 1 text
  return 0

/-- Prints arguments in a format. -/
def printf (args : List String) : Runs Nat := do
  let (_, args) ← letters "" args
  match args with
  | [] => fail "usage: printf format [arg ...]"
  | format :: args =>
    let p := Formatted.print true format args
    for warning in p.warnings do complain warning
    writeBytes 1 p.output
    match p.problem with
    | some problem => fail problem
    | none => return if p.warnings.isEmpty then 0 else 1

/-- Tests a condition. -/
def test (args : List String) : Runs Nat := do
  match Condition.ofShell (← get).files args with
  | .ok holds => return if holds then 0 else 1
  | .error problem => fail problem

/-- Tests a condition in brackets. -/
def bracket (args : List String) : Runs Nat :=
  if args.getLast? = some "]" then test args.dropLast else fail "missing ]"

/-- A path with its dots resolved by name, seen from a directory. -/
def resolved (here : String) (path : String) : String :=
  let start := if path.startsWith "/" then [] else (Path.mk here).names
  let names := (Path.mk path).names.foldl (fun names name =>
    if name = ".." then names.dropLast else names ++ [name]) start
  "/" ++ "/".intercalate names

/-- Changes the directory. -/
def cd (args : List String) : Runs Nat := do
  let (given, args) ← letters "LP" args
  let s ← get
  let (wanted, shows) := match args.head? with
    | none => ((s.value? "HOME").getD "", false)
    | some "-" => ((s.value? "OLDPWD").getD "", true)
    | some dir => (dir, false)
  let starts := if wanted.isEmpty || wanted.startsWith "/" || wanted.startsWith "." then [""]
    else ((s.value? "CDPATH").getD "").splitOn ":"
  let enter? (start : String) : Option (List String × String × Bool) :=
    let path := if start.isEmpty then wanted else start ++ "/" ++ wanted
    let place := if given.getLast? = some 'P' then path else resolved s.directory path
    match s.files.locate .target ⟨place⟩ with
    | .ok (names, some (.dir _)) =>
      some (names, if given.getLast? = some 'P' then "/" ++ "/".intercalate names else place,
        !start.isEmpty)
    | _ => none
  if wanted.isEmpty then
    if shows then writeText 1 (s.directory ++ "\n")
    return 0
  match (if starts.contains "" then starts else starts ++ [""]).findSome? enter? with
  | none => fail ("can't cd to " ++ wanted)
  | some (names, directory, isElsewhere) =>
    modify fun s => { s with directory, files := { s.files with cwd := names } }
    change "OLDPWD" fun v => { v with value := some s.directory, isExported := true }
    change "PWD" fun v => { v with value := some directory, isExported := true }
    if shows || isElsewhere then writeText 1 (directory ++ "\n")
    return 0

/-- Prints the directory. -/
def pwd (args : List String) : Runs Nat := do
  let (given, _) ← letters "LP" args
  let s ← get
  let place := if given.getLast? = some 'P' then "/" ++ "/".intercalate s.files.cwd
    else s.directory
  writeText 1 (place ++ "\n")
  return 0

/-- Variables in the order of their names, with the word that declares them. -/
def declare (word : String) (isShown : Variable → Bool) : Runs Unit := do
  for (name, v) in Node.byName (← get).bindings do
    if isShown v then
      writeText 1 (word ++ name ++ (match v.value with
        | some value => "=" ++ quoted value
        | none => "") ++ "\n")

/-- Marks variables, which can get values. -/
def mark (word : String) (isMarked : Variable → Bool) (how : Variable → Variable)
    (args : List String) : Runs Nat := do
  let (given, args) ← letters "p" args
  if args.isEmpty || given.contains 'p' then
    declare (word ++ " ") isMarked
    return 0
  for arg in args do
    let cs := arg.toList
    let name := String.ofList (cs.takeWhile (· != '='))
    if !isName name then fail (name ++ ": bad variable name")
    if name.length < cs.length then assign name (String.ofList (cs.drop (name.length + 1)))
    change name how
  return 0

/-- Gives variables of a function their own values. -/
def localNames (args : List String) : Runs Nat := do
  if (← get).hidden.isEmpty then fail "not in a function"
  for arg in args do
    let cs := arg.toList
    let name := String.ofList (cs.takeWhile (· != '='))
    if !isName name then fail (name ++ ": bad variable name")
    let s ← get
    match s.hidden with
    | [] => pure ()
    | hidden :: more =>
      if !hidden.any (·.1 == name) then
        set { s with hidden := ((name, s.bindings.lookup name) :: hidden) :: more }
    if name.length < cs.length then assign name (String.ofList (cs.drop (name.length + 1)))
  return 0

/-- Forgets variables or functions. -/
def unset (args : List String) : Runs Nat := do
  let (given, args) ← letters "vf" args
  for name in args do
    if given.getLast? = some 'f' then
      modify fun s => { s with functions := s.functions.filter (·.1 != name) }
    else
      if !isName name then fail (name ++ ": bad variable name")
      if (((← get).bindings.lookup name).map (·.isReadOnly)).getD false then
        fail (name ++ ": is read only")
      modify fun s => { s with bindings := s.bindings.filter (·.1 != name) }
  return 0

/-- The options of the shell by their letters, if they have one. -/
def optionNames : List (String × Char) :=
  [("errexit", 'e'), ("noglob", 'f'), ("ignoreeof", 'I'), ("interactive", 'i'), ("monitor", 'm'),
    ("noexec", 'n'), ("stdin", 's'), ("xtrace", 'x'), ("verbose", 'v'), ("vi", 'V'), ("emacs", 'E'),
    ("noclobber", 'C'), ("allexport", 'a'), ("notify", 'b'), ("nounset", 'u'),
    ("privileged", 'p'), ("nolog", '\x00'),
    ("debug", '\x01')]

/-- Sets or clears an option. -/
def setOption (isOn : Bool) (c : Char) : Runs Unit :=
  modify fun s =>
    { s with
      options :=
        (optionNames.map (·.2)).filter fun d => if d = c then isOn else s.options.contains d }

/-- Reads options; gives what follows them, and if parameters are meant even if there are none. -/
def readOptions : List String → Runs (List String × Bool)
  | [] => return ([], false)
  | "--" :: rest => return (rest, true)
  | "-" :: rest => return (rest, !rest.isEmpty)
  | arg :: rest =>
    match arg.toList with
    | sign :: c :: cs =>
      if sign != '-' && sign != '+' then return (arg :: rest, true)
      else do
        let isOn := sign == '-'
        let named := (c :: cs).contains 'o'
        for c in (c :: cs).filter (· != 'o') do
          if !(optionNames.any (·.2 == c)) then
            fail ("Illegal option " ++ String.ofList [sign, c])
          setOption isOn c
        if !named then readOptions rest
        else
          match rest with
          | [] =>
            if isOn then writeText 1 "Current option settings\n"
            for (name, c) in optionNames do
              let on := (← get).has c
              if isOn then
                writeText 1 (name ++ String.ofList (List.replicate (16 - name.length) ' ') ++
                  (if on then "on\n" else "off\n"))
              else writeText 1 ((if on then "set -o " else "set +o ") ++ name ++ "\n")
            return ([], false)
          | name :: rest =>
            match optionNames.lookup name with
            | some c => setOption isOn c
            | none => fail ("Illegal option " ++ String.singleton sign ++ "o " ++ name)
            readOptions rest
    | _ => return (arg :: rest, true)

/-- Sets options and parameters. -/
def setAll (args : List String) : Runs Nat := do
  if args.isEmpty then
    declare "" fun v => v.value.isSome
    return 0
  let (parameters, isMeant) ← readOptions args
  if isMeant then modify fun s => { s with parameters, letter := 0 }
  return 0

/-- Drops parameters. -/
def shift (args : List String) : Runs Nat := do
  let count ← match args with
    | [] => pure 1
    | text :: _ => number text
  if (← get).parameters.length < count then fail "can't shift that many"
  modify fun s => { s with parameters := s.parameters.drop count, letter := 0 }
  return 0

/-- The names of signals as the shell knows them. -/
def signalNames : List (Nat × String) :=
  (0, "EXIT") :: (signals.map fun (n, name, _) => (n, if n = 16 then "16" else name))

/-- The name of a signal. -/
def nameOfSignal (n : Nat) : String :=
  (signalNames.lookup n).getD (toString n)

/-- The signal that a text names. -/
def signal? (text : String) : Option Nat :=
  if !text.isEmpty && text.toList.all Char.isDigit then
    text.toNat?.bind fun n => if n ≤ lastSignal then some n else none
  else (signalNames.find? fun (_, name) => name == text.toUpper).map (·.1)

/-- Sets or prints what is done at signals. -/
def trap (args : List String) : Runs Nat := do
  let (_, args) ← letters "" args
  match args with
  | [] =>
    let traps := (← get).traps.mergeSort fun a b => a.1 ≤ b.1
    for (n, action) in traps do
      writeText 1 ("trap -- " ++ quoted action ++ " " ++ nameOfSignal n ++ "\n")
    return 0
  | first :: rest =>
    let (action, names) := if rest.isEmpty then (none, args)
      else (if first = "-" then none else some first, rest)
    for name in names do
      match signal? name with
      | none =>
        writeText 2 ("trap: " ++ name ++ ": bad trap\n")
        return 1
      | some n =>
        modify fun s =>
          let others := s.traps.filter (·.1 != n)
          { s with traps := match action with
            | some action => (n, action) :: others
            | none => others }
    return 0

/-- A signal reaches the shell. -/
def meet (signal : Nat) : Runs Unit := do
  match (← get).traps.lookup signal with
  | some "" => pure ()
  | some _ =>
    if signal = 9 then throw (.killed 9)
    else modify fun s => { s with pending := s.pending ++ [signal] }
  | none => if !isIgnoredSignal signal then throw (.killed signal)

/-- A signal is sent to the shell, which is not met by a part of the script that runs on its own. -/
def deliver (signal : Nat) : Runs Unit := do
  if (← get).isSubshell then modify fun s => { s with sent := s.sent ++ [signal] }
  else meet signal

/-- The shell meets the signals that were sent to it from elsewhere. -/
def receive : Runs Unit := do
  let s ← get
  if !s.isSubshell then
    set { s with sent := [] }
    for signal in s.sent do meet signal

/-- How signals are sent. -/
def killUsage : String :=
  "Usage: kill [-s sigspec | -signum | -sigspec] [pid | job]... or\nkill -l [exitstatus]"

/-- Sends signals to the programs with some numbers. -/
def send (signal : Nat) : List String → Runs Nat
  | [] => return 0
  | text :: more => do
    let pid ← number text
    if pid = ownNumber then
      deliver signal
      send signal more
    else
      complain "No such process\n"
      let _ ← send signal more
      return 1

/-- Sends signals, or names them. -/
def kill (args : List String) : Runs Nat := do
  let named (text : String) : Option Nat :=
    match text.toList with
    | '-' :: cs => if cs.isEmpty then none else signal? (String.ofList cs)
    | _ => none
  let list (rest : List String) : Runs Nat := do
    match rest with
    | [] =>
      writeText 1 "0\n"
      for n in List.range 32 do
        if 0 < n then writeText 1 (nameOfSignal n ++ "\n")
      return 0
    | text :: _ =>
      let n ← number text
      let n := if 128 < n then n - 128 else n
      if 0 < n && n ≤ lastSignal then
        writeText 1 (nameOfSignal n ++ "\n")
        return 0
      else fail ("invalid signal number or exit status: " ++ text)
  match args with
  | [] => fail killUsage
  | first :: rest =>
    if !first.startsWith "-" then send 15 args
    else
      match named first, first with
      | some signal, _ => if rest.isEmpty then fail killUsage else send signal rest
      | none, "-s" =>
        match rest with
        | [] => fail "No arg for -s option"
        | name :: rest =>
          match signal? name with
          | none => fail ("invalid signal number or name: " ++ name)
          | some signal => if rest.isEmpty then fail killUsage else send signal rest
      | none, _ =>
        let (given, rest) ← letters "l" args
        if given.contains 'l' then list rest
        else if rest.isEmpty then fail killUsage
        else send 15 rest

/-- Waits for scripts in the background. -/
def wait (args : List String) : Runs Nat := do
  match args.getLast? with
  | none => return 0
  | some text =>
    let n ← number text
    return ((← get).jobs.lookup n).getD 127

/-- The characters of a line of the input as items, and if the line has its end. Backslashes keep
characters from being separators unless they are `raw`. -/
def readLine (raw : Bool) : List Char → List Item × Nat × Bool
  | [] => ([], 0, false)
  | '\n' :: _ => ([], 1, true)
  | c :: rest =>
    let plain : List Item × Nat × Bool :=
      let (items, count, ended) := readLine raw rest
      (.char c false true :: items, count + 1, ended)
    if c = '\\' && !raw then
      match rest with
      | [] => ([], 1, false)
      | '\n' :: rest =>
        let (items, count, ended) := readLine raw rest
        (items, count + 2, ended)
      | d :: rest =>
        let (items, count, ended) := readLine raw rest
        (.char d true false :: items, count + 2, ended)
    else plain

/-- Cuts items into so many texts, the last of which has all that is left. -/
def divided (separators : List Char) : Nat → List Item → List String
  | 0, _ => []
  | n + 1, items =>
    let isSeparator : Item → Bool
      | .char c _ splits => splits && separators.contains c
      | _ => false
    let isBlank : Item → Bool
      | .char c _ splits => splits && separators.contains c && Item.isBlank c
      | _ => false
    let items := items.dropWhile isBlank
    if n = 0 then
      match Item.cut separators none false items with
      | [] => [""]
      | [cells] => [String.ofList (cells.map (·.char))]
      | _ => [Item.text (items.reverse.dropWhile isBlank).reverse]
    else
      let first := items.takeWhile fun i => !isSeparator i
      let rest := (items.drop first.length).dropWhile isBlank
      let rest := match rest with
        | i :: more => if isSeparator i && first.length < items.length then more else rest
        | [] => []
      Item.text first :: divided separators n rest

/-- Reads a line into variables. -/
def read (args : List String) : Runs Nat := do
  let (given, names) ← letters "rp" args
  let names := if given.contains 'p' then names.drop 1 else names
  if names.isEmpty then fail "arg count"
  let (bytes, _) ← unread 0
  let octets := Octets.ofBytes bytes.toList
  let (items, count, ended) := readLine (given.contains 'r') octets
  passBytes 0 count
  let separators := ((← get).value? "IFS").getD " \t\n"
  let texts := divided separators.toList names.length items
  for (name, text) in names.zip texts do
    if !isName name then fail (name ++ ": bad variable name")
    assign name (Text.showBytes (Octets.toBytes text.toList))
  return if ended then 0 else 1

/-- The permissions that a mask leaves to someone. -/
def permissions (mask shift : Nat) : String :=
  let left := 7 - mask / Nat.pow 8 shift % 8
  (if left / 4 = 1 then "r" else "") ++ (if left / 2 % 2 = 1 then "w" else "") ++
    (if left % 2 = 1 then "x" else "")

/-- Sets or prints the permissions that new files do not get. -/
def umask (args : List String) : Runs Nat := do
  let (given, args) ← letters "S" args
  let mask := (← get).mask
  match args with
  | [] =>
    if given.contains 'S' then
      writeText 1 ("u=" ++ permissions mask 2 ++ ",g=" ++ permissions mask 1 ++ ",o=" ++
        permissions mask 0 ++ "\n")
    else
      let digits := Nat.toDigits 8 mask
      writeText 1 (String.ofList (List.replicate (4 - digits.length) '0' ++ digits) ++ "\n")
    return 0
  | text :: _ =>
    if text.toList.all Char.isDigit then
      if !(text.toList.all Formatted.isOctal) then fail ("Illegal number: " ++ text)
      modify fun s => { s with mask := Formatted.number 8 text.toList % 512 }
      return 0
    else fail ("Illegal mode: " ++ text)

/-- Reads the next of the options that a script was given. -/
def getopts (args : List String) : Runs Nat := do
  match args with
  | known :: name :: given =>
    let s ← get
    let given := if given.isEmpty then s.parameters else given
    let index := (((s.value? "OPTIND").bind String.toNat?).getD 1) - 1
    let quiet := known.startsWith ":"
    let put (name value : String) : Runs Unit := do
      change name fun v => { v with value := some value }
    let finish (index letter : Nat) (found : String) : Runs Nat := do
      put "OPTIND" (toString (index + 1))
      modify fun s => { s with letter }
      if !isName name then fail (name ++ ": bad variable name")
      assign name found
      return 0
    let word := (given[index]?).getD ""
    let letter := if s.letter = 0 || word.length ≤ s.letter then 1 else s.letter
    if !word.startsWith "-" || word = "-" || word = "--" then
      let _ ← finish (if word = "--" then index + 1 else index) 0 "?"
      modify fun s => { s with bindings := s.bindings.filter (·.1 != "OPTARG") }
      return 1
    else
      let c := (word.toList[letter]?).getD '?'
      let isLast := letter + 1 = word.length
      let next := if isLast then index + 1 else index
      let nextLetter := if isLast then 0 else letter + 1
      let after := match known.toList.dropWhile (· != c) with
        | _ :: after => some after
        | [] => none
      match if c = ':' then none else after with
      | none =>
        if quiet then put "OPTARG" (String.singleton c)
        else
          writeText 2 ("Illegal option -" ++ String.singleton c ++ "\n")
          modify fun s => { s with bindings := s.bindings.filter (·.1 != "OPTARG") }
        finish next nextLetter "?"
      | some (':' :: _) =>
        if !isLast then
          put "OPTARG" (String.ofList (word.toList.drop (letter + 1)))
          finish (index + 1) 0 (String.singleton c)
        else
          match given[index + 1]? with
          | some value =>
            put "OPTARG" value
            finish (index + 2) 0 (String.singleton c)
          | none =>
            if quiet then
              put "OPTARG" (String.singleton c)
              finish next 0 ":"
            else
              writeText 2 ("No arg for -" ++ String.singleton c ++ " option\n")
              modify fun s => { s with bindings := s.bindings.filter (·.1 != "OPTARG") }
              finish next 0 "?"
      | some _ =>
        put "OPTARG" ""
        finish next nextLetter (String.singleton c)
  | _ => fail "Usage: getopts optstring var [arg...]"

/-- Leaves loops. -/
def leaveLoops (flow : Nat → Flow) (args : List String) : Runs Nat := do
  let levels ← match args with
    | [] => pure 1
    | text :: _ => do
      let n ← number text
      if n = 0 then fail ("Illegal number: " ++ text)
      pure n
  match min levels (← get).loops with
  | 0 => return 0
  | n => throw (flow n)

/-- The code that a command is told to end with, or that of the last command. -/
def codeOf (args : List String) : Runs Nat := do
  match args with
  | [] => return (← get).code
  | text :: _ => return (← number text) % 256

/-- Commands that find other commands in directories need not be told of them. -/
def hash (args : List String) : Runs Nat := do
  let (_, args) ← letters "rv" args
  let mut code := 0
  for name in args do
    match (← get).locate name with
    | .program .. => pure ()
    | _ =>
      complain (name ++ ": not found")
      code := 1
  return code

end Builtin

/-- The commands of the shell that run no other commands. -/
def builtins : List (String × (List String → Runs Nat)) :=
  [(":", fun _ => return 0), ("[", Builtin.bracket),
    ("break", Builtin.leaveLoops .broken), ("cd", Builtin.cd), ("chdir", Builtin.cd),
    ("continue", Builtin.leaveLoops .continued), ("echo", Builtin.echo),
    ("exit", fun args => do throw (.left (← Builtin.codeOf args))),
    ("export", Builtin.mark "export" (·.isExported) fun v => { v with isExported := true }),
    ("false", fun _ => return 1), ("getopts", Builtin.getopts), ("hash", Builtin.hash),
    ("kill", Builtin.kill), ("local", Builtin.localNames), ("printf", Builtin.printf),
    ("pwd", Builtin.pwd), ("read", Builtin.read),
    ("readonly", Builtin.mark "readonly" (·.isReadOnly) fun v => { v with isReadOnly := true }),
    ("return", fun args => do throw (.returned (← Builtin.codeOf args))), ("set", Builtin.setAll),
    ("shift", Builtin.shift), ("test", Builtin.test), ("trap", Builtin.trap),
    ("true", fun _ => return 0), ("umask", Builtin.umask), ("unset", Builtin.unset),
    ("wait", Builtin.wait)]

/-- The commands of the shell that run other commands. -/
def runners : List String := [".", "command", "eval", "exec", "type"]

end FirmwareKit.Host.Shell
