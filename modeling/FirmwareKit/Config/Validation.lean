import FirmwareKit.Config.Basic
import FirmwareKit.Glob
import FirmwareKit.Text.Blank

/-! Settings that make sense: every ignored path is a pattern, the lookup call has a
name, and the marker is not empty, since an empty one stands in every line. -/

namespace FirmwareKit.Config

/-- What is wrong with settings. -/
inductive Problem where
  | badIgnore (pattern : String) (error : Glob.SyntaxError)
  | emptyCallName
  | emptyMarker
  deriving DecidableEq, Repr

namespace Problem

def message : Problem → String
  | badIgnore pattern error =>
    "Invalid glob pattern in 'ignores': \"" ++ pattern ++ "\": " ++ error.message
  | emptyCallName => "'callName' must not be empty"
  | emptyMarker => "'exemptionMarker' must not be empty"

end Problem

/-- The patterns of a list of texts, or the first text that is none. -/
def globs : List String → Except Problem (List Glob)
  | [] => .ok []
  | text :: more =>
    match Glob.parse text with
    | .error e => .error (.badIgnore text e)
    | .ok g => (globs more).map (g :: ·)

/-- The patterns of the ignored paths. -/
def ignoreGlobs (c : Config) : Except Problem (List Glob) :=
  globs c.ignores

/-- The first problem of the settings, if there is one. -/
def validate (c : Config) : Except Problem Unit :=
  match c.ignoreGlobs with
  | .error e => .error e
  | .ok _ =>
    if Text.isBlankText c.callName then .error .emptyCallName
    else if c.exemptionMarker.isEmpty then .error .emptyMarker
    else .ok ()

end FirmwareKit.Config
