import FirmwareKit.Arguments.Help

/-! Why a command line is not carried out: it asks for help or the version, or it does
not fit the grammar. -/

namespace FirmwareKit.Arguments

/-- A hint behind an error. -/
inductive Tip where
  | similarOption (long : String)
  | optionOfCommand (command long : String)
  | similarCommands (words : List String)
  | commandBehindDashes (word : String)
  deriving DecidableEq, Repr

namespace Tip

def message : Tip → Marked
  | similarOption long =>
    [.plain "a similar argument exists: '", .valid ("--" ++ long), .plain "'"]
  | optionOfCommand command long =>
    [.plain "'", .valid (command ++ " --" ++ long), .plain "' exists"]
  | similarCommands words =>
    .plain (match words with
      | [_] => "a similar subcommand exists: "
      | _ => "some similar subcommands exist: ") ::
    ((words.map fun w => [.plain "'", .valid w, .plain "'"]).intersperse [.plain ", "]).flatten
  | commandBehindDashes word =>
    [.plain "subcommand '", .valid word, .plain "' exists; to use it, remove the '", .invalid "--",
      .plain "' before it"]

end Tip

/-- Why a command line is not carried out. -/
inductive Problem where
  | help (page : Page)
  | version
  | missingValue (option : Opt)
  | repeated (page : Page) (option : Opt)
  /-- A value is attached to an option without one; `before` are the options before it. -/
  | unneededValue (page : Page) (value : String) (option : Opt) (before : List Opt)
  | unknownArgument (page : Page) (argument : String) (tip : Option Tip) (used : List Opt)
  | unknownCommand (page : Page) (word : String) (tip : Option Tip)
  deriving DecidableEq, Repr

namespace Problem

/-- The command line asks for a text, and that is no error. -/
def isRequest : Problem → Bool
  | help _ | version => true
  | _ => false

/-- Where to find help. -/
def pointer : Marked :=
  [.plain "\nFor more information, try '", .literal "--help", .plain "'.\n"]

/-- An error with a hint, the usage and a pointer to the help; the help command has no help. -/
def report (page : Page) (what : Marked) (tip : Option Tip) (usage : Marked) : Marked :=
  [.fault "error:", .plain " "] ++ what ++ [.plain "\n\n"] ++
    (match tip with
      | some tip => [.plain "  ", .valid "tip:", .plain " "] ++ tip.message ++ [.plain "\n\n"]
      | none => []) ++
    usage ++ [.plain "\n"] ++
    match page with
    | .help => []
    | _ => pointer

def message : Problem → Marked
  | help page => page.helpText
  | version => [.plain (programName ++ " " ++ programVersion ++ "\n")]
  | missingValue option =>
    [.fault "error:", .plain " a value is required for '", .invalid option.display,
      .plain "' but none was supplied\n"] ++ pointer
  | repeated page option =>
    report page
      [.plain "the argument '", .invalid option.display, .plain "' cannot be used multiple times"]
      none (page.usage [] false)
  | unneededValue page value option before =>
    let used := if before.contains option then before else before ++ [option]
    report page
      ([.plain "unexpected value '", .invalid value, .plain "' for '"] ++ option.phrase ++
        [.plain "' found; no more were expected"])
      none (page.usage used (before.any sharedOptions.contains))
  | unknownArgument page argument tip used =>
    report page [.plain "unexpected argument '", .invalid argument, .plain "' found"] tip
      (page.usage used false)
  | unknownCommand page word tip =>
    report page [.plain "unrecognized subcommand '", .invalid word, .plain "'"] tip
      (page.usage [] false)

/-- The exit code of the program: a request succeeds. -/
def code (p : Problem) : Nat :=
  if p.isRequest then 0 else 2

end Problem

end FirmwareKit.Arguments
