import FirmwareKit.Host.Shell.Arithmetic
import FirmwareKit.Host.Shell.Builtin

/-! Running scripts. Every stage of a pipeline is run after the one before it has ended, and a
script in the background before what follows it. -/

namespace FirmwareKit.Host.Shell

/-- What an action comes to, be it a reason to skip what follows. -/
def attempt {α : Type} (action : Runs α) : Runs (Except Flow α) :=
  fun s => let (result, s) := action.run s; (.ok result, s)

/-- Sets the code of the last command. -/
def setCode (code : Nat) : Runs Unit :=
  modify fun s => { s with code }

/-- The characters that cut what comes from parameters. -/
def State.separators (s : State) : String :=
  (s.value? "IFS").getD " \t\n"

/-- What stands between parameters that are taken together. -/
def State.joint (s : State) : String :=
  match s.value? "IFS" with
  | none => " "
  | some text => String.ofList (text.toList.take 1)

/-- The items of a value. -/
def valueItems (quoted splits : Bool) (text : String) : List Item :=
  if quoted then .quotes :: Item.ofText text true false else Item.ofText text false splits

/-- The items of all parameters. -/
def State.allItems (s : State) (name : String) (quoted splits : Bool) : List Item :=
  if splits && (name = "@" || !quoted) then
    [Item.divide].intercalate (s.parameters.map (valueItems quoted true))
  else if s.parameters.isEmpty && !quoted then []
  else valueItems quoted false (s.joint.intercalate s.parameters)

/-- All parameters are meant. -/
def isAll (name : String) : Bool :=
  name = "@" || name = "*"

/-- What a loop does when its body was not run to its end. -/
inductive Turn where
  | next
  | out
  | over (flow : Flow)

/-- What a loop does at a reason to skip what follows. -/
def Turn.of : Flow → Turn
  | .broken n => if 1 < n then .over (.broken (n - 1)) else .out
  | .continued n => if 1 < n then .over (.continued (n - 1)) else .next
  | flow => .over flow

/-- Why a file cannot be opened, or made. -/
def openReason (makes : Bool) (fault : Files.Fault) : String :=
  match fault with
  | .notFound | .notDirectory => if makes then "Directory nonexistent" else "No such file"
  | _ => fault.reason

/-- The descriptor that a path stands for. -/
def descriptorOf? (path : String) : Option Nat :=
  match path with
  | "/dev/stdin" => some 0
  | "/dev/stdout" => some 1
  | "/dev/stderr" => some 2
  | _ => if path.startsWith "/dev/fd/" then (path.drop 8).toString.toNat? else none

/-- Lets a descriptor lead where another one leads. -/
def copyDescriptor (number source : Nat) : Runs Bool := do
  match (← get).descriptors.lookup source with
  | some index =>
    modify fun s =>
      { s with descriptors := (number, index) :: s.descriptors.filter (·.1 != number) }
    return true
  | none =>
    complain (toString source ++ ": Bad file descriptor")
    return false

/-- Lets a descriptor lead to a file. Says if that is possible. -/
def redirect (number : Nat) (direction : Direction) (path : String) : Runs Bool := do
  let s ← get
  let makes := direction != .read
  let refuse (fault : Files.Fault) : Runs Bool := do
    complain ((if makes then "cannot create " else "cannot open ") ++ path ++ ": " ++
      openReason makes fault)
    return false
  match descriptorOf? path, s.files.locate (if makes then .newFile else .target) ⟨path⟩ with
  | some source, _ => copyDescriptor number source
  | none, found =>
    if path = Invocation.emptyFile then
      openAt number .nothing
      return true
    else
      match found with
      | .error fault => refuse fault
      | .ok (_, some (.dir _)) =>
        if makes then refuse .isDirectory
        else
          openAt number .directory
          return true
      | .ok (_, some .locked) => refuse (if makes then .isDirectory else .permissionDenied)
      | .ok (names, node) =>
        if node.isNone && !makes then refuse .notFound
        else
          let files := if node.isNone || direction = .write then s.files.put names (.file .empty)
            else s.files
          set { s with files }
          openAt number (.file names 0 (direction = .append))
          return true

/-- What a name of a command is, in words; none if it is nothing. -/
def State.describe? (s : State) (name : String) : Option String :=
  if keywords.contains name then some (name ++ " is a shell keyword")
  else if (s.functions.lookup name).isSome then some (name ++ " is a shell function")
  else if Reads.specialNames.contains name then some (name ++ " is a special shell builtin")
  else if (builtins.lookup name).isSome || runners.contains name then
    some (name ++ " is a shell builtin")
  else
    match s.locate name with
    | .program path _ => some (name ++ " is " ++ path)
    | .denied => if name.contains '/' then some (name ++ " is " ++ name) else none
    | .missing => none

/-- How a command can be called by its name; none if it cannot. -/
def State.path? (s : State) (name : String) : Option String :=
  if keywords.contains name || (s.functions.lookup name).isSome ||
      (builtins.lookup name).isSome || runners.contains name || name = "times" then some name
  else
    match s.locate name with
    | .program path _ => some path
    | .denied => if name.contains '/' then some name else none
    | .missing => none

/-- Runs a program, passes on what it does, and tells how it ended. -/
def startProgram (name : String) (arguments : List String) (program : Invocation → Ran) :
    Runs (Option Termination) := do
  let s ← get
  let (input, readsFile) ← unread 0
  let ran := program
    { name, arguments, files := s.files, environment := s.environment, input, readsFile
      readsDirectory := s.readsDirectory 0 }
  let ran := if (s.descriptor? 1).isNone then ran.withoutOutput name else ran
  modify fun s => { s with files := { ran.files with cwd := s.files.cwd } }
  passBytes 0 ran.taken
  for chunk in ran.chunks do
    writeBytes (if chunk.stream == .output then 1 else 2) chunk.bytes
  return ran.ended

/-- Tells that a signal has ended something, and gives the code for that. -/
def tellSignal (signal : Nat) : Runs Nat := do
  if signal != 2 && signal != 13 then writeText 2 (signalText signal ++ "\n")
  return 128 + signal

/-- Runs a program as a command; gives its code. -/
def runProgram (name : String) (arguments : List String) (program : Invocation → Ran) :
    Runs Nat := do
  match ← startProgram name arguments program with
  | none => return 0
  | some (.exited code) => return code
  | some (.signalled signal) => tellSignal signal

/-- Runs a program by its name, or tells why that is not possible. -/
def runNamed (name : String) (arguments : List String) : Runs Nat := do
  match (← get).locate name with
  | .program _ run => runProgram name arguments run
  | .denied =>
    complain (name ++ ": Permission denied")
    return 126
  | .missing =>
    complain (name ++ ": not found")
    return 127

/-- Runs an action as a condition. -/
def testing (isTested : Bool) (action : Runs Unit) : Runs Unit :=
  keeping (·.isTested) (fun old s => { s with isTested := old }) do
    modify fun s => { s with isTested := s.isTested || isTested }
    action

/-- Ends the shell if a failure does that. -/
def checkFailure : Runs Unit := do
  let s ← get
  if s.has 'e' && !s.isTested && s.code != 0 then throw (.left s.code)

/-- Sets the line that a command stands at. -/
def setLine (line : Nat) : Runs Unit :=
  modify fun s => { s with line }

/-- Describes commands. -/
def callType (args : List String) : Runs Nat := do
  let s ← get
  let texts := args.map fun name => (s.describe? name).getD (name ++ ": not found")
  writeText 1 (String.join (texts.map (· ++ "\n")))
  return if args.any fun name => (s.describe? name).isNone then 127 else 0

/-- Runs a program in the place of the shell. -/
def callLast (args : List String) : Runs Nat := do
  match args with
  | [] => return 0
  | name :: rest =>
    match (← get).locate name with
    | .program _ run =>
      let ended ← startProgram name rest run
      modify fun s => { s with traps := [] }
      throw (match ended with
        | none => .left 0
        | some (.exited code) => .left code
        | some (.signalled signal) => .killed signal)
    | .denied =>
      complain (name ++ ": Permission denied")
      throw (.left 126)
    | .missing =>
      complain (name ++ ": not found")
      throw (.left 127)

/-- Counts a loop while it is run. -/
def inLoop (action : Runs Unit) : Runs Unit :=
  keeping (·.loops) (fun old s => { s with loops := old }) do
    modify fun s => { s with loops := s.loops + 1 }
    action

/-- The text of a sum. -/
def compute (text : String) : Runs String := do
  let s ← get
  let refuse {α : Type} (fault : Arithmetic.Fault) : Runs α :=
    fail (match fault with
      | .misread problem => "arithmetic expression: " ++ problem ++ ": \"" ++ text ++ "\""
      | .illegalNumber number => "Illegal number: " ++ number)
  let look (name : String) : Option String := s.parameter? name
  match Arithmetic.read text with
  | .error fault => refuse fault
  | .ok sum =>
    match Arithmetic.eval (fun name => (look name).getD "") sum [] with
    | .error fault => refuse fault
    | .ok (n, given) =>
      for (name, n) in given.reverse do assign name (toString n)
      return toString n

mutual

/-- The items of a word. `splits` tells that the word is cut into fields, and `inner` that it is
itself what a parameter comes to. -/
def expand (fuel : Nat) (splits inner : Bool) (word : Word) : Runs (List Item) := do
  match fuel with
  | 0 => return []
  | fuel + 1 =>
    match word with
    | [] => return []
    | .text quoted text :: more =>
      let first := valueItems quoted (splits && inner) text
      return first ++ (← expand fuel splits inner more)
    | .parameter quoted name use argument :: more =>
      let first ← parameter fuel quoted splits name use argument
      return first ++ (← expand fuel splits inner more)
    | .output quoted script :: more =>
      let text ← capture fuel script
      return valueItems quoted splits text ++ (← expand fuel splits inner more)
    | .arithmetic quoted expression :: more =>
      let text ← compute (Item.text (← expand fuel false false expression))
      return valueItems quoted splits text ++ (← expand fuel splits inner more)

/-- The items that a parameter comes to. -/
def parameter (fuel : Nat) (quoted splits : Bool) (name : String) (use : Use) (word : Word) :
    Runs (List Item) := do
  match fuel with
  | 0 => return []
  | fuel + 1 =>
    let s ← get
    let value := if isAll name then
        if s.parameters.isEmpty then none else some (s.joint.intercalate s.parameters)
      else s.parameter? name
    let found := if isAll name then s.allItems name quoted splits
      else valueItems quoted splits (value.getD "")
    let needed : Runs Unit := do
      if value.isNone && s.has 'u' && !isAll name then fail (name ++ ": parameter not set")
    match use with
    | .bad => fail "Bad substitution"
    | .value =>
      needed
      return found
    | .length =>
      needed
      let count := if isAll name then s.parameters.length else (value.getD "").utf8ByteSize
      return valueItems quoted splits (toString count)
    | .trim fromEnd longest =>
      needed
      let cells := Item.cells (← expand fuel false false word)
      return valueItems quoted splits (Pattern.trim fromEnd longest cells (value.getD ""))
    | .substitute how nullToo =>
      let isThere := match value with
        | none => false
        | some text => !(nullToo && text.isEmpty)
      match how, isThere with
      | .alternative, false => return if quoted then [.quotes] else []
      | .alternative, true | .default, false =>
        let items ← expand fuel splits (!quoted) word
        return if quoted then .quotes :: items else items
      | .assigned, false =>
        let text := Item.text (← expand fuel false false word)
        if !isName name then fail (name ++ ": bad variable name")
        assign name text
        return valueItems quoted splits text
      | .alarm, false =>
        let text := Item.text (← expand fuel false false word)
        fail (name ++ ": " ++
          if !word.isEmpty then text
          else if nullToo then "parameter not set or null" else "parameter not set")
      | _, true => return found

/-- The output of a script, without the newlines at its end. -/
def capture (fuel : Nat) (script : Script) : Runs String := do
  match fuel with
  | 0 => return ""
  | fuel + 1 =>
    let code := (← get).code
    let index := (← get).opened.size
    modify fun s => { s with opened := s.opened.push (.gathered .empty) }
    let result ← inSubshell fuel do
      modify fun s =>
        { s with
          isTested := false
          descriptors := (1, index) :: s.descriptors.filter (·.1 != 1) }
      runAll fuel script
    modify fun s => { s with outputCode := result, code }
    Builtin.receive
    match (← get).opened[index]? with
    | some (.gathered bytes) =>
      let text := (Text.showBytes bytes).toList.filter (· != '\x00')
      return String.ofList (text.reverse.dropWhile (· == '\n')).reverse
    | _ => return ""

/-- Runs an action on its own, with what is to be done at its end; gives its code. -/
def inSubshell (fuel : Nat) (action : Runs Unit) : Runs Nat := do
  match fuel with
  | 0 => return 2
  | fuel + 1 =>
    match ← apart (finish fuel action) with
    | .error (.killed signal) => setCode (← tellSignal signal)
    | .error (.left code) => setCode code
    | _ => pure ()
    return (← get).code

/-- Runs a shell to its end. -/
def finish (fuel : Nat) (action : Runs Unit) : Runs Unit := do
  match fuel with
  | 0 => pure ()
  | fuel + 1 =>
    match ← attempt action with
    | .ok () => pure ()
    | .error flow =>
      match flow with
      | .left code | .returned code => setCode code
      | .failed => setCode 2
      | .killed _ => throw flow
      | .broken _ | .continued _ => pure ()
    match (← get).traps.lookup 0 with
    | none | some "" => pure ()
    | some text =>
      let code := (← get).code
      modify fun s => { s with traps := s.traps.filter (·.1 != 0), loops := 0 }
      runText fuel text
      setCode code

/-- The fields of a word. -/
def fields (fuel : Nat) (word : Word) : Runs (List String) := do
  match fuel with
  | 0 => return []
  | fuel + 1 =>
    let word := Word.withHome ((← get).value? "HOME") false true word
    let items ← expand fuel true false word
    let s ← get
    return (Item.fields s.separators items).flatMap fun cells =>
      if s.has 'f' then [String.ofList (cells.map (·.char))] else Pattern.paths s.files cells

/-- The fields of words. -/
def allFields (fuel : Nat) (words : List Word) : Runs (List String) := do
  match fuel with
  | 0 => return []
  | fuel + 1 =>
    match words with
    | [] => return []
    | word :: more =>
      let first ← fields fuel word
      return first ++ (← allFields fuel more)

/-- Where redirections lead. -/
def targets (fuel : Nat) (redirects : List Redirect) : Runs (List (Nat × Direction × String)) := do
  match fuel with
  | 0 => return []
  | fuel + 1 =>
    match redirects with
    | [] => return []
    | .mk number direction word :: more =>
      let s ← get
      let word := match direction with
        | .here => ((plainText? word <|> some (Reads.literalText word)).bind fun text =>
            text.toNat?.bind (s.texts.lookup ·)).getD []
        | _ => Word.withHome (s.value? "HOME") false true word
      let text := Item.text (← expand fuel false false word)
      return (number, direction, text) :: (← targets fuel more)

/-- Carries out redirections, and says if all are possible. -/
def redirectAll (fuel : Nat) (found : List (Nat × Direction × String)) : Runs Bool := do
  match fuel with
  | 0 => return false
  | fuel + 1 =>
    match found with
    | [] => return true
    | (number, direction, text) :: more =>
      let isDone ← match direction with
        | .here => do
          openAt number (.text text.toUTF8 0)
          pure true
        | .copy =>
          if text = "-" then do
            modify fun s => { s with descriptors := s.descriptors.filter (·.1 != number) }
            pure true
          else
            match text.toNat? with
            | some source => copyDescriptor number source
            | none => fail "Bad fd number"
        | _ => redirect number direction text
      if isDone then redirectAll fuel more else return false

/-- Gives variables values, and says which they were in words of the script. -/
def assignAll (fuel : Nat) (isExported : Bool) (assignments : List (String × Word)) :
    Runs (List String) := do
  match fuel with
  | 0 => return []
  | fuel + 1 =>
    match assignments with
    | [] => return []
    | (name, word) :: more =>
      let word := Word.withHome ((← get).value? "HOME") true true word
      let text := Item.text (← expand fuel false false word)
      assign name text
      if isExported then change name fun v => { v with isExported := true }
      return (name ++ "=" ++ text) :: (← assignAll fuel isExported more)

/-- Runs a simple command. -/
def simple (fuel : Nat) (assignments : List (String × Word)) (words : List Word)
    (redirects : List Redirect) : Runs Unit := do
  match fuel with
  | 0 => pure ()
  | fuel + 1 =>
    modify fun s => { s with outputCode := 0 }
    let args ← allFields fuel words
    let errors := (← get).descriptors.lookup 2
    let trace (texts : List String) : Runs Unit := do
      let s ← get
      if s.has 'x' then
        keepingDescriptors do
          modify fun s =>
            { s with
              descriptors := (errors.map fun index => (2, index)).toList ++
                s.descriptors.filter (·.1 != 2) }
          writeText 2 ((s.value? "PS4").getD "" ++ " ".intercalate texts ++ "\n")
    let found ← targets fuel redirects
    let bare := args.dropWhile (· == "command")
    let isSpecial := match args.head? with
      | some name => Reads.specialNames.contains name
      | none => false
    let work : Runs Unit := do
      if !(← redirectAll fuel found) then
        setCode 2
        if isSpecial then throw .failed
      else
        match args with
        | [] =>
          let texts ← assignAll fuel false assignments
          if !texts.isEmpty then trace texts
          modify fun s => { s with code := s.outputCode }
        | name :: rest =>
          let isKept := isSpecial && !((← get).functions.lookup name).isSome
          let old := (← get).bindings
          let texts ← assignAll fuel (!isKept) assignments
          trace (texts ++ args)
          let result ← attempt (call fuel true isSpecial name rest)
          if !isKept then
            for (name, _) in assignments do
              modify fun s =>
                { s with
                  bindings := match old.lookup name with
                    | some v => State.assoc name v s.bindings
                    | none => s.bindings.filter (·.1 != name) }
          match result with
          | .ok code => setCode code
          | .error flow => throw flow
    if bare = ["exec"] then work else keepingDescriptors work

/-- Runs a command; gives its code. `usesFunctions` tells that the script can have defined it, and
`isSpecial` that its mistakes end the shell. -/
def call (fuel : Nat) (usesFunctions isSpecial : Bool) (name : String) (args : List String) :
    Runs Nat := do
  match fuel with
  | 0 => return 2
  | fuel + 1 =>
    let guarded (action : Runs Nat) : Runs Nat := do
      modify fun s => { s with hasLost := false }
      match ← attempt (naming name action) with
      | .ok code =>
        if (← get).hasLost then
          naming name (complain (name ++ ": I/O error"))
          modify fun s => { s with hasLost := false }
          return code ||| 1
        else return code
      | .error .failed => if isSpecial then throw .failed else return 2
      | .error flow => throw flow
    let functions := (← get).functions
    match if usesFunctions then functions.lookup name else none with
    | some body => callFunction fuel body args
    | none =>
      match builtins.lookup name with
      | some run => guarded (run args)
      | none =>
        match name with
        | "command" => guarded (callBare fuel args)
        | "eval" =>
          guarded do
            setCode 0
            runText fuel (" ".intercalate args)
            return (← get).code
        | "." => guarded (callFile fuel args)
        | "exec" => guarded (callLast args)
        | "type" => guarded (callType args)
        | _ => runNamed name args

/-- Runs a command that the script has not defined, or describes one. -/
def callBare (fuel : Nat) (args : List String) : Runs Nat := do
  match fuel with
  | 0 => return 2
  | fuel + 1 =>
    let (given, args) ← Builtin.letters "pvV" args
    match args with
    | [] => return 0
    | name :: rest =>
      if given.contains 'V' then callType args
      else if given.contains 'v' then
        match (← get).path? name with
        | some path =>
          writeText 1 (path ++ "\n")
          return 0
        | none => return 127
      else
        let outer := (← get).command
        keeping (·.command) (fun _ s => { s with command := outer }) do
          modify fun s => { s with command := none }
          call fuel false false name rest

/-- Runs a function. -/
def callFunction (fuel : Nat) (body : Command) (args : List String) : Runs Nat := do
  match fuel with
  | 0 => return 2
  | fuel + 1 =>
    let old ← get
    if maxCalls ≤ old.hidden.length then
      fail ("Maximum function recursion depth (" ++ toString maxCalls ++ ") reached")
    set { old with
      parameters := args, hidden := [] :: old.hidden, loops := 0, letter := 0 }
    let result ← attempt (run fuel body)
    modify fun s =>
      let bindings := (s.hidden.head?.getD []).foldl (fun bindings (name, v) =>
        match v with
        | some v => State.assoc name v bindings
        | none => bindings.filter (·.1 != name)) s.bindings
      { s with
        bindings, parameters := old.parameters, hidden := old.hidden, loops := old.loops
        letter := old.letter }
    match result with
    | .ok () => return (← get).code
    | .error (.returned code) => return code
    | .error flow => throw flow

/-- Runs a script that stands in a file. -/
def callFile (fuel : Nat) (args : List String) : Runs Nat := do
  match fuel with
  | 0 => return 2
  | fuel + 1 =>
    match args with
    | [] => return 0
    | path :: _ =>
      let s ← get
      if !path.contains '/' then fail (path ++ ": not found")
      match if path = Invocation.emptyFile then .ok .empty else s.files.readBytes ⟨path⟩ with
      | .error .isDirectory => return 0
      | .error fault => fail ("cannot open " ++ path ++ ": " ++ openReason false fault)
      | .ok bytes =>
        setCode 0
        match ← attempt (naming path (runText fuel (Text.showBytes bytes))) with
        | .ok () => return (← get).code
        | .error (.returned code) => return code
        | .error flow => throw flow

/-- Runs a text as a script. -/
def runText (fuel : Nat) (text : String) : Runs Unit := do
  match fuel with
  | 0 => pure ()
  | fuel + 1 =>
    keeping (·.line) (fun line s => { s with line }) do
      let count := (← get).textCount
      runSource fuel { rest := text.toList, count }

/-- Runs what is left of a script, line by line. -/
def runSource (fuel : Nat) (source : Source) : Runs Unit := do
  match fuel with
  | 0 => pure ()
  | fuel + 1 =>
    match source.next with
    | .error mistake =>
      modify fun s => { s with line := mistake.line }
      fail mistake.text
    | .ok (none, _) => pure ()
    | .ok (some script, rest) =>
      modify fun s => { s with texts := rest.texts ++ s.texts, textCount := rest.count }
      runAll fuel script
      runSource fuel { rest with texts := [] }

/-- Runs commands one after the other. -/
def runAll (fuel : Nat) (script : Script) : Runs Unit := do
  match fuel with
  | 0 => pure ()
  | fuel + 1 =>
    match script with
    | [] => pure ()
    | command :: more =>
      if !(← get).has 'n' then
        run fuel command
        runAll fuel more

/-- Does what is to be done at signals. -/
def attend (fuel : Nat) (signals : List Nat) : Runs Unit := do
  match fuel with
  | 0 => pure ()
  | fuel + 1 =>
    match signals with
    | [] => pure ()
    | signal :: more =>
      match (← get).traps.lookup signal with
      | none | some "" => pure ()
      | some text =>
        let code := (← get).code
        runText fuel text
        setCode code
      attend fuel more

/-- Runs a command. -/
def run (fuel : Nat) (command : Command) : Runs Unit := do
  match fuel with
  | 0 => pure ()
  | fuel + 1 =>
    match command with
    | .simple line assignments words redirects =>
      setLine line
      simple fuel assignments words redirects
      checkFailure
    | .pipeline stages =>
      pipeline fuel none stages
      checkFailure
    | .not c =>
      testing true (run fuel c)
      modify fun s => { s with code := if s.code = 0 then 1 else 0 }
    | .both first second =>
      testing true (run fuel first)
      if (← get).code = 0 then run fuel second
    | .either first second =>
      testing true (run fuel first)
      if (← get).code != 0 then run fuel second
    | .background c =>
      let code ← inSubshell fuel do
        openAt 0 .nothing
        run fuel c
      modify fun s =>
        { s with code := 0, jobs := (ownNumber + s.jobs.length + 1, code) :: s.jobs }
    | .group body => runAll fuel body
    | .subshell line body =>
      setLine line
      let _ ← inSubshell fuel (runAll fuel body)
      checkFailure
    | .redirected line c redirects =>
      setLine line
      let found ← targets fuel redirects
      keepingDescriptors do
        if ← redirectAll fuel found then run fuel c
        else
          setCode 2
          checkFailure
    | .choice condition body otherwise =>
      testing true (runAll fuel condition)
      if (← get).code = 0 then runAll fuel body
      else if otherwise.isEmpty then setCode 0
      else runAll fuel otherwise
    | .loop _ untilTrue condition body =>
      inLoop (loop fuel untilTrue condition body 0)
    | .each line name words body =>
      setLine line
      let values ← match words with
        | some words => allFields fuel words
        | none => do pure (← get).parameters
      setCode 0
      inLoop (each fuel name values body)
    | .select line word cases =>
      setLine line
      let word := Word.withHome ((← get).value? "HOME") false true word
      let text := Item.text (← expand fuel false false word)
      select fuel text cases
    | .define name body =>
      modify fun s => { s with functions := State.assoc name body s.functions }
      setCode 0
    Builtin.receive
    let signals := (← get).pending
    if !signals.isEmpty then
      modify fun s => { s with pending := [] }
      attend fuel signals

/-- Runs the stages of a pipeline, the first one on the output of a stage before it. -/
def pipeline (fuel : Nat) (input : Option Nat) (stages : List Command) : Runs Unit := do
  match fuel with
  | 0 => pure ()
  | fuel + 1 =>
    match stages with
    | [] => pure ()
    | stage :: more =>
      let output := (← get).opened.size
      if !more.isEmpty then
        modify fun s => { s with opened := s.opened.push (.gathered .empty) }
      let given := (input.map ((0 : Nat), ·)).toList ++
        if more.isEmpty then [] else [((1 : Nat), output)]
      let _ ← inSubshell fuel do
        modify fun s =>
          { s with
            descriptors := given ++ s.descriptors.filter fun (n, _) => !given.any (·.1 == n) }
        run fuel stage
      if !more.isEmpty then
        modify fun s =>
          { s with
            opened := s.opened.modify output fun
              | .gathered bytes => .text bytes 0
              | opened => opened }
        pipeline fuel (some output) more

/-- Runs a loop with a condition. -/
def loop (fuel : Nat) (untilTrue : Bool) (condition body : Script) (code : Nat) : Runs Unit := do
  match fuel with
  | 0 => pure ()
  | fuel + 1 =>
    let result ← attempt (testing true (runAll fuel condition))
    let isDone := ((← get).code = 0) == untilTrue
    let turn ← match result with
      | .error flow => pure (Turn.of flow)
      | .ok () =>
        if isDone then do
          setCode code
          return
        else
          match ← attempt (runAll fuel body) with
          | .ok () => pure .next
          | .error flow => pure (Turn.of flow)
    match turn with
    | .next => loop fuel untilTrue condition body (← get).code
    | .out => setCode 0
    | .over flow => throw flow

/-- Runs a loop over values. -/
def each (fuel : Nat) (name : String) (values : List String) (body : Script) : Runs Unit := do
  match fuel with
  | 0 => pure ()
  | fuel + 1 =>
    match values with
    | [] => pure ()
    | value :: more =>
      assign name value
      let turn ← match ← attempt (runAll fuel body) with
        | .ok () => pure Turn.next
        | .error flow => pure (Turn.of flow)
      match turn with
      | .next => each fuel name more body
      | .out => setCode 0
      | .over flow => throw flow

/-- Runs the commands of the first case that fits a text. -/
def select (fuel : Nat) (text : String) (cases : List (List Word × Script)) : Runs Unit := do
  match fuel with
  | 0 => pure ()
  | fuel + 1 =>
    match cases with
    | [] => setCode 0
    | (patterns, body) :: more =>
      if ← fitsAny fuel text patterns then
        setCode 0
        runAll fuel body
      else select fuel text more

/-- A text fits one of some patterns. -/
def fitsAny (fuel : Nat) (text : String) (patterns : List Word) : Runs Bool := do
  match fuel with
  | 0 => return false
  | fuel + 1 =>
    match patterns with
    | [] => return false
    | pattern :: more =>
      let cells := Item.cells (← expand fuel false false pattern)
      if Pattern.matchesText cells text then return true else fitsAny fuel text more

end

end FirmwareKit.Host.Shell
