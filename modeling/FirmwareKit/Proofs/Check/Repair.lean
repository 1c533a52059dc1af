import FirmwareKit.Proofs.Check.Priority
import FirmwareKit.Proofs.Sources.Rewritten

/-! Checks of a project whose tables are rewritten. What a check finds in a table depends on the
sources and on the keys of that table alone, so keys that are added take just their own issues
away, and the others stay as they are and in their order. -/

namespace FirmwareKit

variable {places : List String → Prop} {f g : Files}

open Files

/-! ### Settings that are not rewritten -/

/-- The settings for a directory are still those of the same file, which is not rewritten. -/
theorem Config.IsFor.rewritten {start : Path} {config : Config} (h : IsFor f start config)
    (hg : RewrittenAt places f g) (hsettings : ∀ path place, find f start = some path →
      f.place? path = some place → ¬ places place) : IsFor g start config := by
  have hfind : find g start = find f start :=
    findIn_congr fun dir _ => ⟨(hg.sameKind _).isThere_eq, (hg.sameKind _).isThere_eq⟩
  cases h with
  | written found readable parsed valid =>
    have hread := hg.readText_eq (fun place => hsettings _ place found) readable
    exact .written (hfind.trans found) hread parsed valid
  | default missing => exact .default (hfind.trans missing)

namespace Table

variable {dir : Path} {extension : String} {tables : List Table}

/-- A table as its file has it now. -/
def reloaded (g : Files) (t : Table) : Table :=
  match read g t.path with
  | .ok new => new
  | .error _ => t

theorem reloaded_of_read {t new : Table} (h : read g t.path = .ok new) : reloaded g t = new := by
  rw [reloaded, h]

theorem readAll_reloaded {paths : List Path} (h : readAll f paths = .ok tables)
    (hloads : ∀ t ∈ tables, ∃ new, read g t.path = .ok new) :
    readAll g paths = .ok (tables.map (reloaded g)) := by
  induction paths generalizing tables with
  | nil =>
    cases h
    rfl
  | cons path paths ih =>
    rw [readAll] at h
    split at h
    · cases h
    · next t hread =>
      obtain ⟨more, hmore, rfl⟩ := exists_of_map_eq_ok h
      obtain ⟨⟨new, hnew⟩, hnews⟩ := List.forall_mem_cons.1 hloads
      rw [List.map_cons, reloaded_of_read hnew]
      rw [path_of_read hread] at hnew
      simp only [readAll, hnew, ih hmore hnews, Except.map]

/-- The same files are tables, and each has what is in it now. -/
theorem readDir_rewritten (h : RewrittenAt places f g) (hf : f.root.Proper) (hg : g.root.Proper)
    (htables : readDir f dir extension = .ok tables)
    (hloads : ∀ t ∈ tables, ∃ new, read g t.path = .ok new) :
    readDir g dir extension = .ok (tables.map (reloaded g)) := by
  unfold readDir at htables ⊢
  split at htables
  · next hdir =>
    split at htables
    · cases htables
    · next names hlist =>
      obtain ⟨names', hlist', hmem⟩ := h.exists_list hlist
      have hsorted : names'.mergeSort (· ≤ ·) = names.mergeSort (· ≤ ·) := by
        refine List.Subset.antisymm_of_pairwise
          (Node.mergeSort_names_pairwise (names_of_list hg hlist').1)
          (Node.mergeSort_names_pairwise (names_of_list hf hlist).1) ?_ ?_
        · exact fun name hname => List.mem_mergeSort.2 ((hmem name).1 (List.mem_mergeSort.1 hname))
        · exact fun name hname => List.mem_mergeSort.2 ((hmem name).2 (List.mem_mergeSort.1 hname))
      have hwanted : isTable g extension = isTable f extension := by
        funext path
        rw [isTable, isTable, (h.sameKind path).isFile_eq]
      rw [(h.sameKind dir).isDir_eq, if_pos hdir, hlist']
      simp only [hsorted, hwanted]
      exact readAll_reloaded htables hloads
  · cases htables

end Table

namespace Check

open Report

variable {race race' : Nat} {options : Options} {p : Project}

/-- At the place is a file that holds a table of the project. -/
def Project.IsTablePlace (p : Project) (files : Files) (place : List String) : Prop :=
  ∃ t, IsTable files p t ∧ files.place? t.path = some place

/-- Nothing is rewritten but files that hold tables of the project. None of them is a kept source
file or holds the settings, and all of them hold tables again. -/
structure Reworked (f g : Files) (p : Project) : Prop where
  rewritten : RewrittenAt (p.IsTablePlace f) f g
  sources : ∀ names place, p.Keeps f names →
    f.place? (Sources.joinNames p.root names) = some place → ¬ p.IsTablePlace f place
  settings : ∀ path place, Config.find f p.root = some path →
    f.place? path = some place → ¬ p.IsTablePlace f place
  loads : ∀ t, IsTable f p t → ∃ new, Table.read g t.path = .ok new

/-- The tables have the keys that they had and those that are added. -/
def Project.Gains (p : Project) (f g : Files) (added : Path → String → Bool) : Prop :=
  ∀ t new, IsTable f p t → Table.read g t.path = .ok new →
    ∀ key, new.contains key = (t.contains key || added t.path key)

theorem IsTable.read_eq {t : Table} (h : IsTable f p t) : Table.read f t.path = .ok t := by
  obtain ⟨_, -, name, -, -, hread⟩ := h
  rwa [Table.path_of_read hread]

theorem outcome_examine_of_ok {tables : List Table} {us : List Usage} {verbose : Bool}
    (hdir : p.hasLangDir f = true)
    (htables : Table.readDir f p.langDir p.config.langExtension = .ok tables)
    (hus : Sources.usages f p.extractor race
      (Sources.scan f p.root p.config.sourceExtensions p.ignores).files = .ok us) :
    (examine race f p verbose).outcome = .ok
      { langDir := p.langDir
        langDirMissing := false
        issues := Issue.missing tables us
        filesChecked :=
          (Sources.scan f p.root p.config.sourceExtensions p.ignores).files.length
        tablesChecked := tables.length } := by
  rw [examine, if_pos hdir, load, htables]
  simp only [compare, hus, Except.map]

theorem isProject_reworked (hp : IsProject f options p) (h : Reworked f g p) :
    IsProject g options p where
  root := by
    rw [← hp.root, h.rewritten.samePlaces.absoluteRoot_eq]
  settings := hp.settings.rewritten h.rewritten h.settings
  langDir := hp.langDir
  ignores := hp.ignores

/-- Another check compares the same uses with the tables as they are now. -/
theorem examine_reworked {before : CheckSummary} {verbose : Bool} (race' : Nat)
    (hf : f.root.Proper) (hg : g.root.Proper) (h : Reworked f g p)
    (hbefore : (examine race f p verbose).outcome = .ok before) :
    ∃ tables us, (∀ t ∈ tables, IsTable f p t) ∧ (tables.map Table.name).Nodup ∧
      before.issues = Issue.missing tables us ∧
      (examine race' g p verbose).outcome =
        .ok { before with issues := Issue.missing (tables.map (Table.reloaded g)) us } := by
  have hdir' : p.hasLangDir g = p.hasLangDir f := (h.rewritten.sameKind p.langDir).isDir_eq
  cases hdir : p.hasLangDir f with
  | false =>
    rw [hdir] at hdir'
    rw [examine, if_neg (by simp [hdir])] at hbefore
    cases hbefore
    refine ⟨[], [], by simp, .nil, rfl, ?_⟩
    rw [examine, if_neg (by simp [hdir'])]
    rfl
  | true =>
    rw [hdir] at hdir'
    obtain ⟨tables, us, htables, hus, -, -⟩ := examine_of_ok hdir hbefore
    have htable : ∀ t ∈ tables, IsTable f p t := fun t => (Table.mem_readDir htables t).1
    have hnodup : (tables.map Table.name).Nodup :=
      List.pairwise_map.2 ((Table.readDir_pairwise hf htables).imp ne_of_lt)
    have htables' := Table.readDir_rewritten h.rewritten hf hg htables
      fun t ht => h.loads t (htable t ht)
    have hus' : Sources.usages g p.extractor race'
        (Sources.scan g p.root p.config.sourceExtensions p.ignores).files = .ok us := by
      rw [Sources.scan_rewritten h.rewritten hf hg]
      refine Sources.usages_rewritten h.rewritten (fun path hpath place => ?_)
        (Sources.usages_of_ok hus race')
      obtain ⟨kept, -, hmem, hfiles⟩ :=
        Sources.scan_files hf p.root p.config.sourceExtensions p.ignores
      rw [hfiles] at hpath
      obtain ⟨names, hnames, rfl⟩ := List.mem_map.1 hpath
      exact h.sources names place ((hmem names).1 hnames)
    rw [outcome_examine_of_ok hdir htables hus, Except.ok.injEq] at hbefore
    subst hbefore
    refine ⟨tables, us, htable, hnodup, rfl, ?_⟩
    rw [outcome_examine_of_ok hdir' htables' hus', Sources.scan_rewritten h.rewritten hf hg,
      List.length_map]

section Issues

variable {tables : List Table} {us : List Usage}

theorem reloaded_spec (htables : ∀ t ∈ tables, IsTable f p t) (h : Reworked f g p) :
    ∀ t ∈ tables, Table.read g t.path = .ok (Table.reloaded g t) ∧
      (Table.reloaded g t).name = t.name ∧ (Table.reloaded g t).path = t.path := by
  intro t ht
  have htable := htables t ht
  obtain ⟨new, hnew⟩ := h.loads t htable
  rw [Table.reloaded_of_read hnew]
  have hname := Table.nameOf?_of_read hnew
  rw [Table.nameOf?, h.rewritten.isNamed_eq] at hname
  exact ⟨hnew, Option.some.inj (hname.symm.trans (Table.nameOf?_of_read htable.read_eq)),
    Table.path_of_read hnew⟩

/-- Added keys take their issues away and no others. -/
theorem missing_of_gains (us : List Usage) {added : Path → String → Bool}
    (htables : ∀ t ∈ tables, IsTable f p t) (hnodup : (tables.map Table.name).Nodup)
    (h : Reworked f g p) (hgains : p.Gains f g added) :
    Issue.missing (tables.map (Table.reloaded g)) us =
      (Issue.missing tables us).filter fun i => !added i.table i.key := by
  have hspec := reloaded_spec htables h
  rw [← Issue.filter_missing_map hnodup (fun t ht => (hspec t ht).2.1)
    fun t ht => (hspec t ht).2.2]
  · exact (List.filter_eq_self.2 fun _ _ => rfl).symm
  · intro u _ t ht
    rw [hgains t _ (htables t ht) (hspec t ht).1, Issue.between, Bool.not_or, Bool.and_true]

/-- The issues about a table that keeps its keys stay, whatever becomes of the others. -/
theorem missing_of_same_keys {t new : Table} (htables : ∀ t ∈ tables, IsTable f p t)
    (hnodup : (tables.map Table.name).Nodup) (h : Reworked f g p) (ht : IsTable f p t)
    (hnew : Table.read g t.path = .ok new) (hkeys : ∀ key, new.contains key = t.contains key) :
    (Issue.missing (tables.map (Table.reloaded g)) us).filter (fun i => i.table = t.path) =
      (Issue.missing tables us).filter fun i => i.table = t.path := by
  have hspec := reloaded_spec htables h
  refine Issue.filter_missing_map hnodup (fun t ht => (hspec t ht).2.1)
    (fun t ht => (hspec t ht).2.2) fun u _ s hs => ?_
  rw [Issue.between]
  by_cases hpath : s.path = t.path
  · have hst : s = t := by
      have hread := (htables s hs).read_eq
      rw [hpath, ht.read_eq] at hread
      exact (Except.ok.inj hread).symm
    rw [hst, Table.reloaded_of_read hnew, hkeys]
  · simp [hpath]

end Issues

/-- A check without issues ends well, even a strict one. -/
theorem carryOut_of_no_issues {summary : CheckSummary} (marks : Stream → Bool)
    (hrun : (run race g options).outcome = .ok ⟨.check summary, options.strict⟩)
    (hnone : summary.issues = []) :
    (Program.carryOut marks race g (.check options)).outcome = .ok .success ∧
      (Program.carryOut marks race g (.check options)).notices.filter isUntranslated = [] ∧
      (Program.carryOut marks race g (.check options)).notices.filter isConfirmation =
        if summary.langDirMissing then [] else [success] := by
  obtain ⟨hwarnings, hconfirmations⟩ := filter_asides (isAside_run race g options)
  obtain ⟨huntranslated, hconfirmed⟩ := filter_check_of_no_issues hnone options.verbose
  rw [Program.carryOut, report_of_complete hrun (isCheckComplete_of_no_issues hnone _)]
  refine ⟨?_, ?_, ?_⟩
  · simp [CommandResult.exitStatus, CommandResult.issueCount, hnone]
  · rw [List.filter_append, hwarnings, List.nil_append]
    exact huntranslated
  · rw [List.filter_append, hconfirmations, List.nil_append]
    exact hconfirmed

/-- If tables are rewritten and load again, another check ends well, with the same counts. Where
the tables gain keys its issues are the old ones without those whose key their table gained, in the
same order; and if these are all of them, it confirms that there are none, unless there is no
language directory. The issues about one table depend on its own keys alone. -/
theorem run_reworked {result : CommandResult} (marks : Stream → Bool) (race' : Nat)
    (hf : f.root.Proper)
    (hg : g.root.Proper) (hp : IsProject f options p)
    (hresult : (run race f options).outcome = .ok result) (h : Reworked f g p) :
    ∃ before after : CheckSummary, result = ⟨.check before, options.strict⟩ ∧
      (run race' g options).outcome = .ok ⟨.check after, options.strict⟩ ∧
      after = { before with issues := after.issues } ∧
      (∀ added, p.Gains f g added →
        after.issues = before.issues.filter (fun i => !added i.table i.key) ∧
        ((∀ i ∈ before.issues, added i.table i.key = true) → after.issues = [] ∧
          (Program.carryOut marks race' g (.check options)).outcome = .ok .success ∧
          (Program.carryOut marks race' g (.check options)).notices.filter isUntranslated = [] ∧
          (Program.carryOut marks race' g (.check options)).notices.filter isConfirmation =
            if before.langDirMissing then [] else [success])) ∧
      ∀ t new, IsTable f p t → Table.read g t.path = .ok new →
        (∀ key, new.contains key = t.contains key) →
        after.issues.filter (fun i => i.table = t.path) =
          before.issues.filter fun i => i.table = t.path := by
  obtain ⟨before, hbefore, rfl⟩ := run_of_ok hp.resolve_eq hresult
  obtain ⟨tables, us, htables, hnodup, hissues, hafter⟩ :=
    examine_reworked race' hf hg h hbefore
  have hrun : (run race' g options).outcome = .ok
      ⟨.check { before with issues := Issue.missing (tables.map (Table.reloaded g)) us },
        options.strict⟩ := by
    rw [outcome_run_of_ok (isProject_reworked hp h).resolve_eq, hafter]
    rfl
  refine ⟨before, _, rfl, hrun, rfl, fun added hgains => ?_, fun t new ht hnew hkeys => ?_⟩
  · have hgained := missing_of_gains us htables hnodup h hgains
    rw [← hissues] at hgained
    refine ⟨hgained, fun hall => ?_⟩
    have hnone : Issue.missing (tables.map (Table.reloaded g)) us = [] := by
      rw [hgained, List.filter_eq_nil_iff]
      exact fun i hi => by simp [hall i hi]
    have hends := carryOut_of_no_issues marks hrun hnone
    exact ⟨hnone, hends⟩
  · rw [hissues]
    exact missing_of_same_keys htables hnodup h ht hnew hkeys

/-! ### A table that gains its key -/

/-- The sample with the key in its table. -/
def mended : Files :=
  sample.put ["e.lang"] (.file "\x7b\"k\":1\x7d".toByteArray)

theorem sample_isProject : IsProject sample sampleOptions sampleProject where
  root := sample_absoluteRoot
  settings := .default sample_config
  langDir := by
    show (⟨"/"⟩ : Path) = Path.join ⟨"/"⟩ "/"
    decide +kernel
  ignores := rfl

theorem sample_place? : sample.place? ⟨"/a.c"⟩ = some ["a.c"] ∧
    sample.place? ⟨"/e.lang"⟩ = some ["e.lang"] := by
  simp +decide [place?, locate, Files.start, piecesOf, Path.pieces, Files.resolve, sample, Node.at?,
    Node.child?, Node.lookup, Except.toOption]

theorem sample_isTable_iff {t : Table} :
    IsTable sample sampleProject t ↔ t = ⟨"e.lang", ⟨"/e.lang"⟩, []⟩ := by
  rw [IsTable, ← Table.mem_readDir sample_tables, List.mem_singleton]

theorem sample_isTablePlace_iff {place : List String} :
    sampleProject.IsTablePlace sample place ↔ place = ["e.lang"] := by
  simp only [Project.IsTablePlace, sample_isTable_iff, exists_eq_left, sample_place?.2,
    Option.some.injEq, eq_comm]

theorem mended_root : mended.root = .dir
    [("a.c", .file "localized_string(\"k\")".toByteArray),
      ("e.lang", .file "\x7b\"k\":1\x7d".toByteArray)] := by
  rfl

theorem mended_proper : mended.root.Proper := by
  rw [mended_root]
  refine .dir _ (by decide) ?_ ?_
  · simp only [List.forall_mem_cons]
    exact ⟨by simp [Node.IsName], by simp [Node.IsName], by simp⟩
  · simp only [List.forall_mem_cons]
    exact ⟨.file _, .file _, by simp⟩

theorem mended_read :
    Table.read mended ⟨"/e.lang"⟩ = .ok ⟨"e.lang", ⟨"/e.lang"⟩, ["k"]⟩ := by
  have hfind (aim : Files.Aim) : mended.find aim ⟨"/e.lang"⟩ =
      .ok (.file "\x7b\"k\":1\x7d".toByteArray) := by
    simp +decide [Files.find, locate, Files.start, piecesOf, Path.pieces, Files.resolve,
      mended_root, Node.at?, Node.child?, Node.lookup]
  have hjson : Json.parse Json.Reader.names "\x7b\"k\":1\x7d" = .ok ["k"] := by cbv
  have hname : (Path.mk "/e.lang").fileName? = some "e.lang" := by decide +kernel
  simp only [Table.read, readText_of_find (hfind .target), hjson, Table.nameOf?, isNamed,
    hfind .entry, if_true, hname]

theorem mended_reworked : Reworked sample mended sampleProject := by
  have hfile : sample.root.FileAt ["e.lang"] := by
    intro n hn
    cases hn
    rfl
  have hchanged : FileChanged ["e.lang"] sample mended :=
    @fileChanged_insert sample [] "e.lang" _ ⟨_, rfl⟩ hfile
  refine ⟨⟨rfl, fun names hnames => ?_, fun names hnames => ?_⟩, ?_, ?_, fun t ht => ?_⟩
  · rw [sample_isTablePlace_iff] at hnames
    exact hchanged.elsewhere names hnames
  · rw [sample_isTablePlace_iff] at hnames
    subst hnames
    exact ⟨_, _, rfl, rfl⟩
  · intro names place hkept hplace
    obtain ⟨kept, -, hmem, hfiles⟩ := Sources.scan_files sample_proper sampleProject.root
      sampleProject.config.sourceExtensions sampleProject.ignores
    have hsource := List.mem_map_of_mem (f := Sources.joinNames sampleProject.root)
      ((hmem names).2 hkept)
    rw [← hfiles, sample_sources] at hsource
    rw [List.mem_singleton.1 hsource, sample_place?.1] at hplace
    cases hplace
    rw [sample_isTablePlace_iff]
    decide
  · intro path place hfind
    rw [show sampleProject.root = ⟨"/"⟩ from rfl, sample_config] at hfind
    cases hfind
  · obtain rfl := sample_isTable_iff.1 ht
    exact ⟨_, mended_read⟩

theorem run_reworked_mended :
    sample.root.Proper ∧ mended.root.Proper ∧ IsProject sample sampleOptions sampleProject ∧
      (run 0 sample sampleOptions).outcome = .ok ⟨.check sampleSummary, true⟩ ∧
      Reworked sample mended sampleProject ∧
      (Program.carryOut (fun _ => false) 0 mended (.check sampleOptions)).notices.filter
        isConfirmation = [success] := by
  obtain ⟨before, after, hbefore, -, -, hgains, -⟩ := run_reworked (fun _ => false) 0 sample_proper
    mended_proper sample_isProject (sample_run 0) mended_reworked
  cases hbefore
  have hadded : sampleProject.Gains sample mended fun _ key => decide (key = "k") := by
    intro t new ht hnew key
    obtain rfl := sample_isTable_iff.1 ht
    rw [mended_read] at hnew
    cases hnew
    simp [Table.contains]
  obtain ⟨-, hrepaired⟩ := hgains _ hadded
  obtain ⟨-, -, -, hconfirmed⟩ := hrepaired (by decide)
  exact ⟨sample_proper, mended_proper, sample_isProject, sample_run 0, mended_reworked, hconfirmed⟩

end Check

end FirmwareKit
