import FirmwareKit.Arguments.Request
import FirmwareKit.Command.Printed
import FirmwareKit.Config.Discovery
import FirmwareKit.Issue
import FirmwareKit.Sources
import FirmwareKit.Summary
import FirmwareKit.Table.Load

/-! The check command. It resolves the project's root and settings, loads all tables,
walks the sources, and compares the keys used in them with the tables. What it
prints on the way is kept with its outcome, whether that is a summary or a
failure. -/

namespace FirmwareKit

namespace Check

/-- All that a check needs to know about a project. -/
structure Project where
  config : Config
  root : Path
  langDir : Path
  ignores : List Glob
  deriving DecidableEq, Repr

/-- The project with settings, seen from its root. -/
def Project.ofConfig (options : Options) (root : Path) (config : Config) :
    Except Failure Project :=
  match config.ignoreGlobs with
  | .error problem => .error (.configInvalid problem)
  | .ok ignores =>
    let langRoot := match options.langRoot with
      | some dir => dir.text
      | none => config.langRoot
    .ok { config, root, langDir := root.join langRoot, ignores }

/-- The project that options lead to. A verbose check names its settings file. -/
def resolve (files : Files) (options : Options) : Printed Project :=
  match files.absoluteRoot options.root with
  | .error e => ⟨[], .error e⟩
  | .ok root =>
    match Config.load files root with
    | .error e => ⟨[], .error e⟩
    | .ok ⟨config, source⟩ =>
      let notices := match source with
        | some path =>
          if options.verbose then
            [.line .errors [.strong .cyan "info:", .plain (" Using config " ++ path.text)]]
          else []
        | none => []
      ⟨notices, Project.ofConfig options root config⟩

/-- The use of which calls a project's sources are searched for. -/
def Project.extractor (p : Project) : Extractor :=
  ⟨p.config.callName, p.config.exemptionMarker⟩

/-- The language directory is there. -/
def Project.hasLangDir (p : Project) (files : Files) : Bool :=
  files.isDir p.langDir

/-- What a scan says about places it skipped. -/
def skippedNotices (verbose : Bool) (skipped : Nat) : List Notice :=
  if skipped = 0 then []
  else
    [.line .errors
      [.plain ("Warning: " ++ toString skipped ++ " path(s) skipped due to access errors" ++
        if verbose then "" else " (use -v for details)")]]

/-- The tables and source files of a project. The sources are walked in any case; a failure of the
tables keeps only their count from being printed. -/
def load (files : Files) (p : Project) (verbose : Bool) : Printed (List Table × Sources) :=
  let complaints := if verbose then Sources.complaints files p.root else []
  let sources := Sources.scan files p.root p.config.sourceExtensions p.ignores
  match Table.readDir files p.langDir p.config.langExtension with
  | .error e => ⟨complaints, .error e⟩
  | .ok tables => ⟨complaints ++ skippedNotices verbose sources.skipped, .ok (tables, sources)⟩

/-- What a check found in loaded tables and sources; `race` decides between unreadable sources. -/
def compare (race : Nat) (files : Files) (p : Project) (tables : List Table) (sources : Sources) :
    Except Failure CheckSummary :=
  (Sources.usages files p.extractor race sources.files).map fun usages =>
    { langDir := p.langDir
      langDirMissing := false
      issues := Issue.missing tables usages
      filesChecked := sources.files.length
      tablesChecked := tables.length }

/-- The findings in a project; none if its language directory is missing. -/
def examine (race : Nat) (files : Files) (p : Project) (verbose : Bool) : Printed CheckSummary :=
  if p.hasLangDir files then
    match load files p verbose with
    | ⟨notices, .error e⟩ => ⟨notices, .error e⟩
    | ⟨notices, .ok (tables, sources)⟩ => ⟨notices, compare race files p tables sources⟩
  else
    ⟨[], .ok
      { langDir := p.langDir, langDirMissing := true, issues := [], filesChecked := 0
        tablesChecked := 0 }⟩

/-- A whole check. -/
def run (race : Nat) (files : Files) (options : Options) : Printed CommandResult :=
  match resolve files options with
  | ⟨notices, .error e⟩ => ⟨notices, .error e⟩
  | ⟨notices, .ok p⟩ =>
    let start := if options.verbose then [Notice.say ("Checking " ++ p.root.text)] else []
    let found := examine race files p options.verbose
    ⟨notices ++ start ++ found.notices,
      found.outcome.map fun summary => ⟨.check summary, options.strict⟩⟩

end Check

end FirmwareKit
