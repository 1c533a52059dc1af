import FirmwareKit.Notice
import FirmwareKit.Summary
import FirmwareKit.Text.Width

/-! The printed form of a summary. Warnings go to the error stream, everything else
to the output. A verbose warning is followed by the source line with a caret
under the call, padded by the columns of the text before it. A padding can be too
wide to be made: the report ends there, with what it has printed until then. -/

namespace FirmwareKit.Report

/-- A warning that the language directory is missing. -/
def langDirMissing (langDir : Path) : Notice :=
  .line .errors [.tinted .orange ("Warning: Language directory not found: " ++ langDir.text)]

/-- A warning about one untranslated key. -/
def warning (issue : Issue) : Notice :=
  let location := issue.context.location
  .line .errors
    [.tinted .orange "Warning: Untranslated string ",
     .tinted .white ("'" ++ issue.key ++ "'"),
     .tinted .orange (" missing in " ++ issue.table.text ++ ", first usage in " ++ location.file ++
       ":" ++ toString location.line)]

/-- As many blanks. -/
def blanks (n : Nat) : String :=
  String.ofList (List.replicate n ' ')

/-- How wide a padding can be. -/
def maxPadding : Nat := 65535

/-- The columns of the text before a call. -/
def padding (context : SourceContext) : Nat :=
  Text.width (context.sourceLine.toList.take (context.location.column - 1))

/-- The padding of the caret can be made. -/
def isPaddable (context : SourceContext) : Bool :=
  padding context ≤ maxPadding

/-- The line with the caret under the call. -/
def pointer (margin : String) (context : SourceContext) : Notice :=
  .line .errors [.plain (margin ++ " "), .tinted .blue "|",
    .plain (" " ++ blanks (padding context)), .tinted .yellow "^"]

/-- The source line of an issue between two margins, the second with a caret under the call if that
can be padded. -/
def excerpt (context : SourceContext) : List Notice :=
  let number := toString context.location.line
  let margin := blanks number.length
  let bar := Piece.tinted .blue "|"
  [.line .errors [.plain (margin ++ " "), bar],
   .line .errors [.tinted .blue number, .plain " ", bar, .plain (" " ++ context.sourceLine)]] ++
  if isPaddable context then [pointer margin context] else []

/-- The warning about an issue, with the excerpt when verbose. -/
def issue (verbose : Bool) (i : Issue) : List Notice :=
  warning i :: if verbose then excerpt i.context else []

/-- The warning about an issue is printed to its end. -/
def isIssueComplete (verbose : Bool) (i : Issue) : Bool :=
  !verbose || isPaddable i.context

/-- The warnings about issues, up to the first that is not printed to its end. -/
def issues (verbose : Bool) : List Issue → List Notice
  | [] => []
  | i :: more => issue verbose i ++ if isIssueComplete verbose i then issues verbose more else []

/-- The confirmation of a check without issues. -/
def success : Notice :=
  .line .output [.tinted .green "No untranslated strings detected"]

/-- How much a check looked at. -/
def statistics (s : CheckSummary) : Notice :=
  .say (toString s.issues.length ++ " untranslated string(s) across " ++ toString s.tablesChecked ++
    " table(s), " ++ toString s.filesChecked ++ " source file(s) checked")

/-- The report of a check is printed to its end. -/
def isCheckComplete (verbose : Bool) (s : CheckSummary) : Bool :=
  s.langDirMissing || s.issues.all (isIssueComplete verbose)

def check (verbose : Bool) (s : CheckSummary) : List Notice :=
  if s.langDirMissing then [langDirMissing s.langDir]
  else
    issues verbose s.issues ++ (if s.issues.isEmpty then [success] else []) ++
      if verbose && isCheckComplete verbose s then [statistics s] else []

/-- A confirmation behind a check mark. -/
def done (text : String) : Notice :=
  .line .output [.tinted .green "✓", .plain " ", .tinted .green text]

/-- What became of one patch; a dry run has said so already. -/
def patched (verbose dryRun : Bool) : Patch.Spec × Patch.Outcome → List Notice
  | (spec, .alreadyApplied) =>
    if verbose then [.say ("Skipping " ++ spec.dependencyDir.text ++ ": already patched")] else []
  | (spec, .applied) =>
    if dryRun then []
    else [done ("Applied " ++ spec.patch.text ++ " to " ++ spec.target.text)]

def patch (verbose : Bool) (s : PatchSummary) : List Notice :=
  s.results.flatMap (patched verbose s.dryRun)

/-- The printed form of a summary. -/
def notices (verbose : Bool) : Summary → List Notice
  | .check s => check verbose s
  | .patch s => patch verbose s
  | .init path => [done ("Created " ++ path.text)]

/-- The summary is printed to its end. -/
def isComplete (verbose : Bool) : Summary → Bool
  | .check s => isCheckComplete verbose s
  | .patch _ | .init _ => true

end FirmwareKit.Report
