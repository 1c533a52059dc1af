import FirmwareKit.Table
import FirmwareKit.Usage

/-! Untranslated strings. A key that is used and that a table lacks is an issue,
reported once for each key and table name, at the key's first use. -/

namespace FirmwareKit

/-- A used key that one table lacks, with the first use of the key. -/
structure Issue where
  key : String
  table : Path
  context : SourceContext
  deriving DecidableEq, Repr

namespace Issue

/-- A key together with the name of a table that lacks it. -/
abbrev Report := String × String

/-- The issues of one use, when those in `seen` are reported already; and what is reported then. -/
def ofUsage (u : Usage) : List Report → List Table → List Issue × List Report
  | seen, [] => ([], seen)
  | seen, t :: tables =>
    if t.contains u.key || seen.contains (u.key, t.name) then ofUsage u seen tables
    else
      let (issues, seen) := ofUsage u ((u.key, t.name) :: seen) tables
      (⟨u.key, t.path, u.context⟩ :: issues, seen)

/-- The issues of uses in the order of their scan, when those in `seen` are reported already. -/
def ofUsages (tables : List Table) : List Report → List Usage → List Issue
  | _, [] => []
  | seen, u :: usages =>
    let (issues, seen) := ofUsage u seen tables
    issues ++ ofUsages tables seen usages

/-- Every key and table name that do not agree, at the first use of the key. -/
def missing (tables : List Table) (usages : List Usage) : List Issue :=
  ofUsages tables [] usages

end Issue

end FirmwareKit
