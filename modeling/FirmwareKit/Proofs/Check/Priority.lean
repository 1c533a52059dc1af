import FirmwareKit.Proofs.Check.Exact
import FirmwareKit.Proofs.Config.Loading

/-! The order of what can go wrong in a check. Root and settings come before the language
directory, that directory and its listing before the tables in it, and the tables before the
sources; the first fault is the outcome, and where there is none the report is. A check that
fails has printed nothing of a report. -/

namespace FirmwareKit.Check

open Report

/-- What decides the outcome of a check. -/
inductive Stage where
  | root | settings | langDir | listing | tables | sources | report
  deriving DecidableEq, Repr

/-- The root of a check cannot be made absolute: it has no text, or it starts in a working directory
that has been removed. -/
inductive RootFault (files : Files) (options : Options) : Failure → Prop
  | empty (noText : (options.root.getD ⟨"."⟩).text = "") : RootFault files options .emptyRoot
  | removed (someText : (options.root.getD ⟨"."⟩).text ≠ "")
      (relative : (options.root.getD ⟨"."⟩).isAbsolute = false) (gone : files.hasHere = false) :
    RootFault files options (.rootUnresolved (options.root.getD ⟨"."⟩) .notFound)

/-- The project that options describe: the settings are those for its root, and the directory that
is named in the options comes before the one in the settings. -/
structure IsProject (files : Files) (options : Options) (p : Project) : Prop where
  root : files.absoluteRoot options.root = .ok p.root
  settings : Config.IsFor files p.root p.config
  langDir : p.langDir = p.root.join ((options.langRoot.map Path.text).getD p.config.langRoot)
  ignores : p.config.ignoreGlobs = .ok p.ignores

/-- The fault of a file in the language directory that is taken for a table. -/
abbrev Project.TableFault (p : Project) (files : Files) (name : String) (e : Failure) : Prop :=
  Table.Fault files p.langDir p.config.langExtension name e

/-- The fault of a kept source file, given by the names that lead to it. -/
abbrev Project.SourceFault (p : Project) (files : Files) (names : List String) (e : Failure) :
    Prop :=
  Sources.Fault files p.root p.config.sourceExtensions p.ignores names e

/-- What a check of a project comes to, by the first case that applies. -/
inductive ProjectVerdict (files : Files) (p : Project) (strict : Bool) :
    Stage → Except Failure CommandResult → Prop
  | langDir (missing : p.hasLangDir files = false) :
    ProjectVerdict files p strict .langDir (.ok ⟨.check ⟨p.langDir, true, [], 0, 0⟩, strict⟩)
  | listing {fault : Files.Fault} (there : p.hasLangDir files = true)
      (unlisted : files.list p.langDir = .error fault) :
    ProjectVerdict files p strict .listing (.error (.directoryUnlistable p.langDir fault))
  | tables {name : String} {e : Failure} (there : p.hasLangDir files = true)
      (fault : Table.FirstFault files p.langDir p.config.langExtension name e) :
    ProjectVerdict files p strict .tables (.error e)
  | sources {names : List String} {e : Failure} (there : p.hasLangDir files = true)
      (listed : ∃ inside, files.list p.langDir = .ok inside)
      (loaded : ∀ name e, ¬ p.TableFault files name e) (fault : p.SourceFault files names e) :
    ProjectVerdict files p strict .sources (.error e)
  | report {summary : CheckSummary} {found : List Finding} (there : p.hasLangDir files = true)
      (listed : ∃ inside, files.list p.langDir = .ok inside)
      (loaded : ∀ name e, ¬ p.TableFault files name e)
      (read : ∀ names e, ¬ p.SourceFault files names e) (exact : Exact files p found)
      (present : summary.langDirMissing = false)
      (issues : summary.issues = found.map Finding.issue) :
    ProjectVerdict files p strict .report (.ok ⟨.check summary, strict⟩)

/-- What a check comes to, by the first case that applies. -/
inductive Verdict (files : Files) (options : Options) :
    Stage → Except Failure CommandResult → Prop
  | root {e : Failure} (fault : RootFault files options e) :
    Verdict files options .root (.error e)
  | settings {root : Path} {e : Failure} (absolute : files.absoluteRoot options.root = .ok root)
      (fault : Config.LoadFault files root e) :
    Verdict files options .settings (.error e)
  | project {p : Project} {stage : Stage} {outcome : Except Failure CommandResult}
      (isProject : IsProject files options p)
      (verdict : ProjectVerdict files p options.strict stage outcome) :
    Verdict files options stage outcome

variable {race : Nat} {files : Files} {options : Options} {p q : Project}

/-! ### The cases exclude one another -/

theorem rootFault_iff {e : Failure} :
    RootFault files options e ↔ files.absoluteRoot options.root = .error e := by
  constructor
  · rintro (noText | ⟨someText, relative, gone⟩)
    · rw [Files.absoluteRoot, Path.absolute?, noText]
      rfl
    · simp [Files.absoluteRoot, Path.absolute?, someText, relative, gone]
  · intro h
    unfold Files.absoluteRoot Path.absolute? at h
    dsimp only at h
    split at h
    · next hpath =>
      split_ifs at h with hkept
      rw [Bool.or_eq_true, not_or, Bool.not_eq_true, Bool.not_eq_true] at hkept
      cases h
      refine .removed (fun hempty => ?_) hkept.1 hkept.2
      simp [hempty] at hpath
    · next hnone =>
      cases h
      refine .empty ?_
      by_contra hne
      simp [hne] at hnone

theorem resolve_of_rootFault {e : Failure} (h : RootFault files options e) :
    (resolve files options).outcome = .error e := by
  rw [resolve, rootFault_iff.1 h]

theorem resolve_of_loadFault {root : Path} {e : Failure}
    (habsolute : files.absoluteRoot options.root = .ok root)
    (h : Config.LoadFault files root e) : (resolve files options).outcome = .error e := by
  rw [resolve, habsolute]
  simp only [h.load_eq]

theorem IsProject.resolve_eq (h : IsProject files options p) :
    (resolve files options).outcome = .ok p := by
  unfold resolve
  rw [h.root]
  simp only [h.settings.load_eq, Project.ofConfig, h.ignores]
  obtain ⟨config, root, langDir, ignores⟩ := p
  have hdir : langDir = root.join ((options.langRoot.map Path.text).getD config.langRoot) :=
    h.langDir
  cases hlang : options.langRoot with
  | none | some => simp [hlang, hdir]

theorem IsProject.unique (h : IsProject files options p) (h' : IsProject files options q) :
    p = q := by
  have heq := h.resolve_eq
  rw [h'.resolve_eq] at heq
  exact (Except.ok.inj heq).symm

theorem exists_projectVerdict (race : Nat) (hroot : files.root.Proper) (p : Project)
    (verbose strict : Bool) :
    ∃ stage, ProjectVerdict files p strict stage
      ((examine race files p verbose).outcome.map fun s => ⟨.check s, strict⟩) := by
  cases hdir : p.hasLangDir files with
  | false =>
    refine ⟨.langDir, ?_⟩
    rw [examine, if_neg (by simp [hdir])]
    exact .langDir hdir
  | true =>
    cases hexamined : (examine race files p verbose).outcome with
    | ok summary =>
      obtain ⟨tables, us, htables, hus, hmissing, -⟩ := examine_of_ok hdir hexamined
      obtain ⟨found, hexact, -, hissues⟩ := exists_exact hroot hdir hexamined
      exact ⟨.report, .report hdir (Table.listed_of_readDir htables)
        (Table.not_fault_of_readDir htables) (Sources.not_fault_of_usages hroot hus) hexact
        hmissing hissues⟩
    | error e =>
      rw [examine, if_pos hdir] at hexamined
      unfold load at hexamined
      cases htables : Table.readDir files p.langDir p.config.langExtension with
      | error e' =>
        rw [htables] at hexamined
        cases hexamined
        cases hlist : files.list p.langDir with
        | error fault =>
          rw [Table.readDir_of_unlistable hdir hlist] at htables
          cases htables
          exact ⟨.listing, .listing hdir hlist⟩
        | ok inside =>
          obtain ⟨name, hfault⟩ := Table.firstFault_of_readDir hroot ⟨inside, hlist⟩ htables
          exact ⟨.tables, .tables hdir hfault⟩
      | ok tables =>
        rw [htables] at hexamined
        obtain ⟨names, hfault⟩ := Sources.exists_fault_of_usages hroot
          (eq_error_of_map hexamined)
        exact ⟨.sources, .sources hdir (Table.listed_of_readDir htables)
          (Table.not_fault_of_readDir htables) hfault⟩

/-- Settings that are loaded make a project: their ignored paths need no second validation. -/
theorem exists_isProject {root : Path} {config : Config}
    (habsolute : files.absoluteRoot options.root = .ok root) (h : Config.IsFor files root config) :
    ∃ p, IsProject files options p := by
  obtain ⟨ignores, hignores⟩ := h.exists_ignoreGlobs
  exact ⟨⟨config, root, root.join ((options.langRoot.map Path.text).getD config.langRoot), ignores⟩,
    habsolute, h, rfl, hignores⟩

theorem exists_verdict (race : Nat) (hroot : files.root.Proper) (options : Options) :
    ∃ stage, Verdict files options stage (run race files options).outcome := by
  cases habsolute : files.absoluteRoot options.root with
  | error e =>
    have hfault := rootFault_iff.2 habsolute
    refine ⟨.root, ?_⟩
    rw [outcome_run_of_error (resolve_of_rootFault hfault)]
    exact .root hfault
  | ok root =>
    rcases Config.load_cases files root with ⟨e, -, hfault⟩ | ⟨loaded, -, hfor⟩
    · refine ⟨.settings, ?_⟩
      rw [outcome_run_of_error (resolve_of_loadFault habsolute hfault)]
      exact .settings habsolute hfault
    · obtain ⟨p, hp⟩ := exists_isProject habsolute hfor
      obtain ⟨stage, hverdict⟩ := exists_projectVerdict race hroot p options.verbose options.strict
      refine ⟨stage, ?_⟩
      rw [outcome_run_of_ok hp.resolve_eq]
      exact .project hp hverdict

theorem exists_tables (hroot : files.root.Proper)
    (hlisted : ∃ inside, files.list p.langDir = .ok inside)
    (hloaded : ∀ name e, ¬ p.TableFault files name e) :
    ∃ tables, Table.readDir files p.langDir p.config.langExtension = .ok tables := by
  cases htables : Table.readDir files p.langDir p.config.langExtension with
  | ok tables => exact ⟨tables, rfl⟩
  | error e =>
    obtain ⟨name, hfirst⟩ := Table.firstFault_of_readDir hroot hlisted htables
    exact absurd hfirst.fault (hloaded name e)

/-- Where it comes to the sources, each that is at fault can be the one that is told of. -/
theorem Verdict.exists_race {outcome : Except Failure CommandResult} (hroot : files.root.Proper)
    (h : Verdict files options .sources outcome) :
    ∃ race, (run race files options).outcome = outcome := by
  cases h with
  | project isProject verdict =>
    cases verdict with
    | sources there listed loaded fault =>
      obtain ⟨tables, htables⟩ := exists_tables hroot listed loaded
      obtain ⟨race, hrace⟩ := Sources.exists_race_of_fault hroot fault
      refine ⟨race, ?_⟩
      rw [outcome_run_of_ok isProject.resolve_eq, examine, if_pos there, load]
      simp only [htables, compare]
      rw [hrace]
      rfl

/-- A fault that a check ends with is none of its report. -/
theorem Verdict.ne_overflow {stage : Stage} {e : Failure}
    (h : Verdict files options stage (.error e)) : e ≠ .formattingOverflow := by
  cases h with
  | root fault => cases fault <;> simp
  | settings _ fault => cases fault <;> simp
  | project _ verdict =>
    cases verdict with
    | listing => simp
    | tables _ fault => cases fault.fault <;> simp
    | sources _ _ _ fault => cases fault; simp

/-! ### How a check ends -/

/-- The line that a command which fails ends with. -/
def errorLine (e : Failure) : Notice :=
  .line .errors [.plain ("Error: " ++ e.message)]

section Start

variable {marks : Stream → Bool} {arguments : List String}

theorem start_of_error {e : Failure} (hroot : files.root.Proper)
    (harguments : Request.parse arguments = .ok (.check options))
    (h : (run race files options).outcome = .error e) :
    Program.start marks race files arguments =
      ⟨(run race files options).notices ++ [errorLine e], 2, files⟩ := by
  have hne : e ≠ .formattingOverflow := by
    obtain ⟨stage, hverdict⟩ := exists_verdict race hroot options
    rw [h] at hverdict
    exact hverdict.ne_overflow
  simp only [Program.start, harguments, Program.carryOut, Program.report, h]
  rfl

end Start

/-! ### A project with three faults -/

/-- A source file that is no text, a table that is cut off, and one that is no text. -/
def faulty : Files where
  root := .dir
    [("a.c", .file ⟨#[0xff]⟩), ("e.lang", .file "\x7b".toByteArray), ("f.lang", .file ⟨#[0xff]⟩)]
  cwd := []

def faultyOptions (verbose : Bool) : Options :=
  { root := some ⟨"/"⟩, langRoot := some ⟨"/"⟩, strict := true, verbose }

/-- A project at the root directory, without settings. -/
theorem isProject_of_find {f : Files} {options : Options} {langDir : Path}
    (hhere : f.hasHere = true) (hcwd : f.cwd = []) (hroot : options.root = some ⟨"/"⟩)
    (hlang : options.langRoot = some langDir) (habsolute : langDir.isAbsolute = true)
    (hsettings : f.find .target ⟨"/.esperrc.json"⟩ = .error .notFound) :
    IsProject f options ⟨.default, ⟨"/"⟩, langDir, []⟩ where
  root := by
    have hpath : Path.absolute? ⟨"/"⟩ ⟨"/"⟩ = some ⟨"/"⟩ := by decide +kernel
    have hat : f.here = ⟨"/"⟩ := by simp [Files.here, hcwd, String.intercalate_nil]
    refine Files.absoluteRoot_of_absolute? ?_ hhere
    rw [hat, hroot]
    exact hpath
  settings := by
    refine .default ?_
    rw [Config.find, show Path.ancestors ⟨"/"⟩ = [⟨"/"⟩] by decide +kernel]
    simp [Config.findIn, Path.join, Config.fileName, Files.isThere, hsettings, Except.toOption]
  langDir := by
    rw [Path.isAbsolute, beq_iff_eq] at habsolute
    simp [hlang, Path.join, habsolute]
  ignores := rfl

theorem faulty_find :
    faulty.find .target ⟨"/"⟩ = .ok faulty.root ∧
      faulty.find .target ⟨"/e.lang"⟩ = .ok (.file "\x7b".toByteArray) ∧
      faulty.find .target ⟨"/.esperrc.json"⟩ = .error .notFound := by
  simp +decide [Files.find, Files.locate, Files.start, Files.piecesOf, Path.pieces, Files.resolve,
    faulty, Node.at?, Node.child?, Node.lookup]

theorem faulty_isProject (verbose : Bool) :
    IsProject faulty (faultyOptions verbose) sampleProject :=
  isProject_of_find rfl rfl rfl rfl (by decide +kernel) faulty_find.2.2

theorem faulty_firstFault : Table.FirstFault faulty ⟨"/"⟩ "lang" "e.lang"
    (.tableMalformed ⟨"/e.lang"⟩ ⟨.eofObject, ⟨1, 1⟩⟩) := by
  have hlist : faulty.list ⟨"/"⟩ = .ok ["a.c", "e.lang", "f.lang"] := by
    rw [Files.list, faulty_find.1]
    rfl
  have hwanted : Table.IsWanted faulty ⟨"/"⟩ "lang" "e.lang" := by
    refine ⟨⟨_, hlist, by simp⟩, ?_⟩
    rw [show Path.join ⟨"/"⟩ "e.lang" = ⟨"/e.lang"⟩ by decide +kernel, Table.isTable, Files.isFile,
      faulty_find.2.1, sample_extension?.2]
    rfl
  constructor
  · have hrun : Json.Reader.names.run "\x7b".toList = .error ⟨.eofObject, [], 0⟩ := by cbv
    have hjson : Json.parse Json.Reader.names "\x7b" = .error ⟨.eofObject, ⟨1, 1⟩⟩ := by
      rw [Json.parse, hrun]
      rfl
    exact .malformed hwanted (Files.readText_of_find faulty_find.2.1) hjson
  · intro other e h
    obtain ⟨⟨names, hnames, hother⟩, htable⟩ := h.wanted
    rw [hlist] at hnames
    cases hnames
    rcases (by simpa using hother : other = "a.c" ∨ other = "e.lang" ∨ other = "f.lang") with
      rfl | rfl | rfl
    · rw [Table.isTable, show Path.join ⟨"/"⟩ "a.c" = ⟨"/a.c"⟩ by decide +kernel,
        sample_extension?.1] at htable
      simp at htable
    · exact le_rfl
    · decide

theorem faulty_proper : faulty.root.Proper := by
  refine .dir _ (by decide) ?_ ?_
  · simp only [List.forall_mem_cons]
    exact ⟨by simp [Node.IsName], by simp [Node.IsName], by simp [Node.IsName], by simp⟩
  · simp only [List.forall_mem_cons]
    exact ⟨.file _, .file _, .file _, by simp⟩

theorem faulty_isDir : faulty.isDir ⟨"/"⟩ = true := by
  rw [Files.isDir, faulty_find.1]
  rfl

/-- A language directory that may not be listed. -/
def locked : Files where
  root := .dir [("lang", .locked)]
  cwd := []

end FirmwareKit.Check
