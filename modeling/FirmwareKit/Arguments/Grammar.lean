/-! The commands of the program and their options. -/

namespace FirmwareKit.Arguments

/-- The name of the program. -/
def programName : String := "esper-helper"

/-- The version of the program. -/
def programVersion : String := "0.1.0"

/-- What the program is for. -/
def programAbout : String :=
  "Build helpers for the Esper firmware: localized string checker and dependency patcher"

/-- An option: its long name, the letter it has besides, the name of the value that it takes, and
what it is for. -/
structure Opt where
  long : String
  short : Option Char := none
  value : Option String := none
  about : String
  deriving DecidableEq, Repr

namespace Opt

/-- The long form, with the name of a value in angle brackets. -/
def display (o : Opt) : String :=
  "--" ++ o.long ++ match o.value with
    | some name => " <" ++ name ++ ">"
    | none => ""

def root : Opt where
  long := "root"
  value := some "ROOT"
  about := "Project root directory (defaults to the current directory)"

def verbose : Opt where
  long := "verbose"
  short := some 'v'
  about := "Enable verbose output"

def langRoot : Opt where
  long := "lang-root"
  value := some "LANG_ROOT"
  about := "Translation table directory, relative to the root (overrides config file)"

def strict : Opt where
  long := "strict"
  about := "Exit with status 1 when untranslated strings are found"

def dryRun : Opt where
  long := "dry-run"
  about := "Print the commands instead of running them"

def help : Opt where
  long := "help"
  short := some 'h'
  about := "Print help"

def version : Opt where
  long := "version"
  short := some 'V'
  about := "Print version"

end Opt

/-- The options that commands share; they are named together. -/
def sharedOptions : List Opt := [.root, .verbose]

/-- The program as a whole, one of its commands, or the command that prints help. -/
inductive Page where
  | top | check | patch | init | help
  deriving DecidableEq, Repr

namespace Page

/-- The commands, in the order in which they are listed. -/
def commands : List Page := [check, patch, init, help]

/-- The word that selects a command. -/
def word : Page → String
  | top => ""
  | check => "check"
  | patch => "patch"
  | init => "init"
  | help => "help"

def about : Page → String
  | top => programAbout
  | check => "Check that every localized string is present in every translation table"
  | patch => "Apply dependency patches that have not been applied yet"
  | init => "Initialize a new .esperrc.json configuration file"
  | help => "Print this message or the help of the given subcommand(s)"

def options : Page → List Opt
  | top => [.help, .version]
  | check => [.root, .verbose, .langRoot, .strict, .help]
  | patch => [.root, .verbose, .dryRun, .help]
  | init => [.help]
  | help => []

/-- The command that a word selects. -/
def ofWord? (word : String) : Option Page :=
  commands.find? (·.word == word)

/-- The program's name and the command's word. -/
def call (p : Page) : String :=
  match p with
  | top => programName
  | _ => programName ++ " " ++ p.word

/-- What can follow the command. -/
def arguments : Page → String
  | top => " [COMMAND]"
  | check | patch => " [OPTIONS]"
  | init => ""
  | help => " [COMMAND]..."

end Page

end FirmwareKit.Arguments
