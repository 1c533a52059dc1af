import FirmwareKit.Host.Shell.Start
import FirmwareKit.Host.Tools.Lines
import FirmwareKit.Host.Tools.Printing

/-! Programs that start other programs, or find them. -/

namespace FirmwareKit.Host.Tools

/-- Looks for a program with the variables of an environment. -/
def locate (programs : Programs) (files : Files) (environment : List (String × String))
    (name : String) : Shell.Located :=
  let environment := match environment.lookup "PATH" with
    | some _ => environment
    | none => ("PATH", "/bin:/usr/bin") :: environment
  (Shell.State.start programs { name := "", arguments := [], files, environment }).locate name

/-- The environment and the command that arguments describe. -/
def readEnvironment (environment : List (String × String)) :
    List String → Except SwitchFault (List (String × String) × List String)
  | [] => .ok (environment, [])
  | "-" :: rest | "-i" :: rest | "--ignore-environment" :: rest => readEnvironment [] rest
  | ["-u"] => .error (.letterWithoutValue 'u')
  | "-u" :: name :: rest => readEnvironment (environment.filter (·.1 != name)) rest
  | "--" :: rest => .ok (environment, rest)
  | arg :: rest =>
    match arg.toList with
    | '-' :: c :: cs =>
      if c = '-' then .error (.unknownWord (String.ofList cs)) else .error (.unknownLetter c)
    | _ => .ok (environment, arg :: rest)

/-- Runs a program with a changed environment. -/
def env (programs : Programs) (i : Invocation) : Ran :=
  match readEnvironment i.environment i.arguments with
  | .error fault => i.run (i.misused fault.message 125)
  | .ok (environment, args) =>
    let given := args.takeWhile (·.contains '=')
    let environment := given.foldl (fun all arg =>
      let name := String.ofList (arg.toList.takeWhile (· != '='))
      Shell.State.assoc name (String.ofList (arg.toList.drop (name.length + 1))) all) environment
    match args.drop given.length with
    | [] => i.run (environment.forM fun (name, value) => Works.write (name ++ "=" ++ value ++ "\n"))
    | name :: rest =>
      let refuse (fault : Files.Fault) (code : Nat) : Ran :=
        i.run (i.refuse ("'" ++ name ++ "': " ++ fault.reason) code)
      match locate programs i.files environment name with
      | .program _ run => run { i with name, arguments := rest, environment }
      | .denied => refuse .permissionDenied 126
      | .missing => refuse .notFound 127

/-- Finds programs in the directories of programs. -/
def which (programs : Programs) (i : Invocation) : Works Unit := do
  let s ← i.switches [{ letter := some 'a' }, { letter := some 's' }] 2
  let dirs := ((i.environment.lookup "PATH").getD "").splitOn ":"
  if s.operands.isEmpty then Works.setCode 1
  for name in s.operands do
    let found := if name.contains '/' then
        if ["/usr/bin/", "/bin/"].any fun dir =>
            name.startsWith dir && (programs (name.drop dir.length).toString).isSome then [name]
        else []
      else (dirs.filter fun dir =>
        (dir = "/usr/bin" || dir = "/bin") && (programs name).isSome).map (· ++ "/" ++ name)
    let found := if s.has "a" then found else found.take 1
    if found.isEmpty then Works.setCode 1
    for path in found do Works.write (path ++ "\n")

/-- Runs a program by the arguments that follow some number of others. -/
def runRest (programs : Programs) (skipped : Nat) (i : Invocation) : Ran :=
  match i.arguments.drop skipped with
  | [] => i.run (i.misused "missing operand" 125)
  | name :: rest =>
    match locate programs i.files i.environment name with
    | .program _ run => run { i with name, arguments := rest }
    | .denied =>
      i.run (i.refuse ("failed to run command " ++ quote name ++ ": Permission denied") 126)
    | .missing =>
      i.run (i.refuse ("failed to run command " ++ quote name ++ ": No such file or directory") 127)

/-- The words of a text; quotes and backslashes keep blanks from ending a word. `current` is the
word that is being read, in reverse. -/
def quotedWords (current : Option (List Char)) : (quote : Option Char) → List Char →
    Except Char (List String)
  | some q, [] => .error q
  | none, [] => .ok (current.map fun cs => String.ofList cs.reverse).toList
  | some q, c :: rest =>
    if c = q then quotedWords (some (current.getD [])) none rest
    else quotedWords (some (c :: current.getD [])) (some q) rest
  | none, '\\' :: c :: rest => quotedWords (some (c :: current.getD [])) none rest
  | none, c :: rest =>
    if c = '\'' || c = '"' then quotedWords (some (current.getD [])) (some c) rest
    else if c = ' ' || c = '\t' || c = '\n' then
      (quotedWords none none rest).map
        ((current.map fun cs => String.ofList cs.reverse).toList ++ ·)
    else quotedWords (some (c :: current.getD [])) none rest

/-- Lists of at most so many elements. -/
def chunked {α : Type} (size : Nat) : (fuel : Nat) → List α → List (List α)
  | 0, _ => []
  | _, [] => []
  | fuel + 1, elements => elements.take size :: chunked size fuel (elements.drop size)

/-- The switches of `xargs`. -/
def argumentSwitches : List Switch :=
  [{ word := "max-args", letter := some 'n', hasValue := some true },
    { letter := some 'I', hasValue := some true },
    { word := "max-lines", letter := some 'L', hasValue := some true },
    { word := "null", letter := some '0' }, { word := "no-run-if-empty", letter := some 'r' },
    { word := "verbose", letter := some 't' }, { word := "help" }, { word := "version" }]

/-- The number of arguments in front of the command of `xargs`. -/
def frontLength : List String → Nat
  | [] => 0
  | "--" :: _ => 1
  | arg :: rest =>
    match arg.toList with
    | ['-', c] =>
      if "nIL".toList.contains c then
        match rest with
        | [] => 1
        | _ :: more => 2 + frontLength more
      else 1 + frontLength rest
    | '-' :: _ => 1 + frontLength rest
    | _ => 0

/-- Runs a program on the words of the input. -/
def xargs (programs : Programs) (i : Invocation) : Works Unit := do
  let front := i.arguments.take (frontLength i.arguments)
  let command := match i.arguments.drop front.length with
    | [] => ["echo"]
    | command => command
  let s ← Invocation.switches { i with arguments := front } argumentSwitches
  let text := Text.showBytes (← i.readInput)
  let lines := (text.splitOn "\n").filter fun line => !line.toList.all fun c => c = ' ' || c = '\t'
  let words (text : String) : Works (List String) := do
    match quotedWords none none text.toList with
    | .ok words => return words
    | .error q =>
      i.refuse ("unmatched " ++ (if q = '"' then "double" else "single") ++
        " quote; by default quotes are special to xargs unless you use the -0 option")
  let groups ← match s.value? "I" with
    | some mark => pure (lines.map fun line =>
        let line := String.ofList (line.toList.dropWhile fun c => c = ' ' || c = '\t')
        command.map (·.replace mark line))
    | none => do
      let groups ← match (s.value? "L").bind String.toNat? with
        | some size => do
          let rows ← lines.mapM words
          pure ((chunked (max 1 size) rows.length rows).map List.flatten)
        | none => do
          let all ← if s.has "0" then
              pure ((text.splitOn "\x00").filter (!·.isEmpty))
            else words text
          let size := max 1 (((s.value? "n").bind String.toNat?).getD (all.length + 1))
          pure (chunked size all.length all)
      let groups := if groups.isEmpty && !s.has "r" then [[]] else groups
      pure (groups.map (command ++ ·))
  for args in groups do
    if s.has "t" then Works.warn (" ".intercalate args ++ "\n")
    let name := args.head?.getD ""
    let w ← get
    match locate programs w.files i.environment name with
    | .denied => i.refuse (name ++ ": " ++ Files.Fault.permissionDenied.reason) 126
    | .missing => i.refuse (name ++ ": " ++ Files.Fault.notFound.reason) 127
    | .program _ run =>
      let ran := run { i with
        name, arguments := args.tail, files := w.files, input := .empty, readsFile := false }
      set { w with files := ran.files, chunks := ran.chunks.reverse ++ w.chunks }
      match ran.ended with
      | none => pure ()
      | some (.exited 255) => i.refuse (name ++ ": exited with status 255; aborting") 124
      | some (.exited _) => Works.setCode 123
      | some (.signalled signal) =>
        i.refuse (name ++ ": terminated by signal " ++ toString signal) 125

end FirmwareKit.Host.Tools
