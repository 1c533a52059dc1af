import FirmwareKit.Command.Check
import FirmwareKit.Proofs.Files.Access
import FirmwareKit.Proofs.Report.Warnings

/-! What a check does before its report. It says nothing about issues until then, and
its findings are those of the comparison of the loaded tables with the uses in the
scanned sources. -/

namespace FirmwareKit.Check

open Report

variable {race : Nat} {files : Files} {options : Options} {p : Project}

/-- What a check says before it looks at the files of a project. -/
def opening (files : Files) (options : Options) (p : Project) : List Notice :=
  (resolve files options).notices ++
    if options.verbose then [Notice.say ("Checking " ++ p.root.text)] else []

/-! ### What is printed on the way -/

theorem head?_resolve (files : Files) (options : Options) :
    ∀ n ∈ (resolve files options).notices, n.stream = .errors ∧ n.text.head? = some 'i' := by
  unfold resolve
  split
  · simp
  · split
    · simp
    · next config source _ =>
      cases source with
      | none => simp
      | some path =>
        cases options.verbose with
        | false => simp
        | true =>
          intro n hn
          obtain rfl := List.mem_singleton.1 hn
          exact ⟨rfl, rfl⟩

theorem isRemark_resolve (files : Files) (options : Options) :
    ∀ n ∈ (resolve files options).notices, IsRemark n := by
  intro n hn
  obtain ⟨hstream, hhead⟩ := head?_resolve files options n hn
  exact isRemark_of_head hstream hhead (by decide)

theorem isRemark_complaints (files : Files) (base : Path) :
    ∀ n ∈ Sources.complaints files base, IsRemark n := by
  intro n hn
  obtain ⟨⟨path, fault⟩, -, rfl⟩ := List.mem_map.1 hn
  exact isRemark_of_head rfl (c := 'w') rfl (by decide)

/-- The warning about skipped places goes on with their number, not with a word. -/
theorem isRemark_skippedNotices (verbose : Bool) (skipped : Nat) :
    ∀ n ∈ skippedNotices verbose skipped, IsRemark n := by
  unfold skippedNotices
  split
  · simp
  · intro n hn
    obtain rfl := List.mem_singleton.1 hn
    obtain ⟨d, rest, hdigits, hd⟩ := exists_digit skipped
    refine ⟨rfl, isAside_of_errors rfl 9 (by decide) ?_⟩
    rw [Notice.text_line]
    simp only [List.flatMap_cons, Piece.plain, String.toList_append, hdigits]
    show some d ≠ some 'U'
    rw [ne_eq, Option.some.injEq]
    rintro rfl
    exact absurd hd (by decide)

theorem isRemark_load (files : Files) (p : Project) (verbose : Bool) :
    ∀ n ∈ (load files p verbose).notices, IsRemark n := by
  have hcomplaints : ∀ n ∈ if verbose then Sources.complaints files p.root else [],
      IsRemark n := by
    cases verbose with
    | false => simp
    | true => exact isRemark_complaints files p.root
  unfold load
  cases Table.readDir files p.langDir p.config.langExtension with
  | error e => exact hcomplaints
  | ok tables => exact List.forall_mem_append.2 ⟨hcomplaints, isRemark_skippedNotices _ _⟩

theorem isRemark_examine (race : Nat) (files : Files) (p : Project) (verbose : Bool) :
    ∀ n ∈ (examine race files p verbose).notices, IsRemark n := by
  have hload := isRemark_load files p verbose
  unfold examine
  split
  · split
    · next heq =>
      rw [heq] at hload
      exact hload
    · next heq =>
      rw [heq] at hload
      exact hload
  · simp

/-- The line that a verbose check starts with. -/
theorem isQuiet_start (root : Path) : IsQuiet (Notice.say ("Checking " ++ root.text)) := by
  have hstart : ("Checking " ++ root.text).toList =
      'C' :: ("hecking ".toList ++ root.text.toList) :=
    String.toList_append
  have hhead : (Notice.say ("Checking " ++ root.text)).text.head? = some 'C' :=
    Notice.head?_text_line hstart
  refine IsAside.isQuiet_of_head (isAside_of_output rfl ?_) hhead (by decide)
  rw [hhead]
  decide

theorem isQuiet_run (race : Nat) (files : Files) (options : Options) :
    ∀ n ∈ (run race files options).notices, IsQuiet n := by
  have hresolve := isRemark_resolve files options
  unfold run
  split
  · next heq =>
    rw [heq] at hresolve
    exact fun n hn => (hresolve n hn).isQuiet
  · next p heq =>
    rw [heq] at hresolve
    refine List.forall_mem_append.2 ⟨List.forall_mem_append.2
      ⟨fun n hn => (hresolve n hn).isQuiet, ?_⟩,
      fun n hn => (isRemark_examine race files p _ n hn).isQuiet⟩
    cases options.verbose with
    | false => simp
    | true =>
      intro n hn
      obtain rfl := List.mem_singleton.1 hn
      exact isQuiet_start p.root

theorem isAside_run (race : Nat) (files : Files) (options : Options) :
    ∀ n ∈ (run race files options).notices, IsAside n :=
  fun n hn => (isQuiet_run race files options n hn).1

/-! ### What is found -/

theorem examine_of_ok {summary : CheckSummary} {verbose : Bool} (hdir : p.hasLangDir files)
    (h : (examine race files p verbose).outcome = .ok summary) :
    ∃ tables us, Table.readDir files p.langDir p.config.langExtension = .ok tables ∧
      Sources.usages files p.extractor race
        (Sources.scan files p.root p.config.sourceExtensions p.ignores).files = .ok us ∧
      summary.langDirMissing = false ∧ summary.issues = Issue.missing tables us := by
  rw [examine, if_pos hdir] at h
  unfold load at h
  cases htables : Table.readDir files p.langDir p.config.langExtension with
  | error e =>
    rw [htables] at h
    cases h
  | ok tables =>
    rw [htables] at h
    obtain ⟨us, hus, rfl⟩ := exists_of_map_eq_ok h
    exact ⟨tables, us, rfl, hus, rfl, rfl⟩

theorem outcome_run_of_error {e : Failure} (h : (resolve files options).outcome = .error e) :
    (run race files options).outcome = .error e := by
  unfold run
  split
  · next heq =>
    rw [heq] at h
    exact congrArg Except.error (Except.error.inj h)
  · next heq =>
    rw [heq] at h
    cases h

theorem outcome_run_of_ok (h : (resolve files options).outcome = .ok p) :
    (run race files options).outcome =
      (examine race files p options.verbose).outcome.map fun s => ⟨.check s, options.strict⟩ := by
  unfold run
  split
  · next heq =>
    rw [heq] at h
    cases h
  · next heq =>
    rw [heq] at h
    cases h
    rfl

theorem notices_run_of_ok (h : (resolve files options).outcome = .ok p) :
    (run race files options).notices =
      opening files options p ++ (examine race files p options.verbose).notices := by
  unfold run
  split
  · next heq =>
    rw [heq] at h
    cases h
  · next heq =>
    rw [heq] at h
    cases h
    rw [opening, heq]

theorem run_of_ok {result : CommandResult} (hp : (resolve files options).outcome = .ok p)
    (h : (run race files options).outcome = .ok result) :
    ∃ summary, (examine race files p options.verbose).outcome = .ok summary ∧
      result = ⟨.check summary, options.strict⟩ := by
  rw [outcome_run_of_ok hp] at h
  obtain ⟨summary, hsummary, rfl⟩ := exists_of_map_eq_ok h
  exact ⟨summary, hsummary, rfl⟩

end FirmwareKit.Check
