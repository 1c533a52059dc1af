import FirmwareKit.Host.Shell.Run

/-! Starting a shell: its options, where its script stands, and what it leaves behind. -/

namespace FirmwareKit.Host.Shell

/-- Where a script stands. -/
inductive Origin where
  | argument
  | input
  | file
  deriving DecidableEq, Repr

/-- How many steps a shell can take. -/
def maxSteps : Nat := 1000000

/-- The variables that a shell starts with. -/
def initialVariables (environment : List (String × String)) : List (String × Variable) :=
  let own := [("IFS", " \t\n"), ("OPTIND", "1"),
    ("PATH", "/usr/local/sbin:/usr/local/bin:/usr/sbin:/usr/bin:/sbin:/bin"), ("PPID", "1"),
    ("PS1", "# "), ("PS2", "> "), ("PS4", "+ ")]
  let start := own.map fun (name, value) => (name, ({ value := some value } : Variable))
  (environment.filter fun (name, _) => isName name && name != "IFS").foldl
    (fun all (name, value) => State.assoc name { value := some value, isExported := true } all)
    start

/-- The state that a shell starts in. -/
def State.start (programs : Programs) (i : Invocation) : State :=
  let physical := "/" ++ "/".intercalate i.files.cwd
  let directory := match i.environment.lookup "PWD" with
    | some path =>
      match path.startsWith "/", i.files.locate .target ⟨path⟩ with
      | true, .ok (names, some _) => if names = i.files.cwd then path else physical
      | _, _ => physical
    | none => physical
  { files := i.files
    programs
    name := i.name
    line := 0
    bindings :=
      State.assoc "PWD" { value := some directory, isExported := true }
        (initialVariables i.environment)
    opened := #[.text i.input 0, .stream .output, .stream .errors]
    directory }

/-- Reads the options of a command line; tells if the script is an argument. -/
def readArguments (fromArgument : Bool) : List String → Runs (List String × Bool)
  | [] => return ([], fromArgument)
  | "-" :: rest => return (rest, fromArgument)
  | "--" :: rest => return (rest, fromArgument)
  | arg :: rest =>
    match arg.toList with
    | sign :: cs =>
      if (sign != '-' && sign != '+') then return (arg :: rest, fromArgument)
      else do
        let isOn := sign == '-'
        for c in cs.filter fun c => c != 'o' && c != 'c' && c != 'l' do
          if !(Builtin.optionNames.any (·.2 == c)) then
            fail ("Illegal option " ++ String.ofList [sign, c])
          Builtin.setOption isOn c
        let fromArgument := fromArgument || cs.contains 'c'
        if !cs.contains 'o' then readArguments fromArgument rest
        else
          match rest with
          | [] => return ([], fromArgument)
          | name :: rest =>
            match Builtin.optionNames.lookup name with
            | some c => Builtin.setOption isOn c
            | none => fail ("Illegal option " ++ String.singleton sign ++ "o " ++ name)
            readArguments fromArgument rest
    | [] => return (arg :: rest, fromArgument)

/-- Runs what a command line asks for. -/
def main (i : Invocation) : Runs Unit := do
  let (rest, fromArgument) ← readArguments false i.arguments
  match fromArgument, rest with
  | true, [] => fail "-c requires an argument"
  | true, script :: names =>
    modify fun s =>
      { s with name := names.head?.getD s.name, parameters := names.tail, line := 1 }
    runText maxSteps script
  | false, rest =>
    if rest.isEmpty || (← get).has 's' then
      let (bytes, _) ← unread 0
      passBytes 0 bytes.size
      modify fun s => { s with parameters := rest, line := 1 }
      runText maxSteps (Text.showBytes bytes)
    else
      let path := rest.head?.getD ""
      match (← get).files.readBytes ⟨path⟩ with
      | .error .isDirectory => pure ()
      | .error fault => fail ("cannot open " ++ path ++ ": " ++ openReason false fault)
      | .ok bytes =>
        modify fun s => { s with name := path, parameters := rest.tail, line := 1 }
        runText maxSteps (Text.showBytes bytes)

/-- Runs a shell. -/
def start (programs : Programs) (i : Invocation) : Ran :=
  let (result, s) : Except Flow Unit × State :=
    (ExceptT.run (finish maxSteps (main i))).run (State.start programs i)
  { files := { s.files with cwd := i.files.cwd }
    chunks := s.chunks.reverse
    ended := match result with
      | .error (.killed signal) => some (.signalled signal)
      | .error (.left code) => if code = 0 then none else some (.exited code)
      | _ => if s.code = 0 then none else some (.exited s.code)
    taken := match s.opened.toList.head? with
      | some (.text _ position) => position
      | _ => 0 }

end FirmwareKit.Host.Shell
