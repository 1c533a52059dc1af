import FirmwareKit.Proofs.Check.Repair
import FirmwareKit.Proofs.Config.Nearest
import FirmwareKit.Proofs.Files.Directories

/-! What a check looks at. In trees without links it is the directories, what decides about the
settings, the wanted files of the language directory and the kept sources, with their bytes;
whatever else there is has no influence on what the check prints and on how it ends. -/

namespace FirmwareKit

open Files Node

variable {f g : Files}

/-! ### Settings -/

namespace Config

/-- Trees that have the same entries of a name have them for the same paths. -/
theorem isThere_join_eq {name : String} (hf : f.root.LinkFree) (h : f.SamePlaces g)
    (hname : IsName name) (hholds : ∀ dir, Holds g.root dir name ↔ Holds f.root dir name)
    (dir : Path) : g.isThere (dir.join name) = f.isThere (dir.join name) := by
  rw [Bool.eq_iff_iff, isThere_iff, isThere_iff]
  simp only [h.place?_eq]
  refine exists_congr fun place => ?_
  rw [exists_and_left, exists_and_left]
  refine and_congr_right fun hplace => ?_
  obtain ⟨front, rfl⟩ := exists_front_of_join hf hname hplace
  exact hholds front

theorem find_eq_of_holds (hf : f.root.LinkFree) (h : f.SamePlaces g)
    (hholds : ∀ dir name, name = fileName ∨ name = ".git" →
      (Holds g.root dir name ↔ Holds f.root dir name)) (start : Path) :
    find g start = find f start := by
  have hsame {name : String} (hname : name = fileName ∨ name = ".git") (dir : Path) :
      g.isThere (dir.join name) = f.isThere (dir.join name) :=
    isThere_join_eq hf h (isFileName_of_decides hname).1 (fun dir => hholds dir name hname) dir
  exact findIn_congr fun dir _ => ⟨hsame (.inl rfl) dir, hsame (.inr rfl) dir⟩

theorem isThere_of_findIn {dirs : List Path} {path : Path} (h : findIn f dirs = some path) :
    f.isThere path = true := by
  induction dirs with
  | nil => cases h
  | cons dir dirs ih =>
    rw [findIn] at h
    split at h
    · next hthere =>
      cases h
      exact hthere
    · split at h
      · cases h
      · exact ih h

theorem load_congr {start : Path} (hfind : find g start = find f start)
    (hread : ∀ path, find f start = some path → g.readText path = f.readText path) :
    load g start = load f start := by
  rw [load, load, hfind]
  cases hpath : find f start with
  | none => rfl
  | some path => simp only [read, hread path hpath]

end Config

/-! ### A whole project -/

namespace Check

variable {options : Options} {p : Project}

/-- A file of the language directory is taken for a table; the node is the file, with its bytes and
whether it is called by a text. -/
def Project.HasTable (p : Project) (files : Files) (name : String) (node : Node) : Prop :=
  Table.IsWanted files p.langDir p.config.langExtension name ∧
    files.node? (p.langDir.join name) = some node

/-- Names lead from the root to a source file that is kept, and the node is that file. -/
def Project.HasSource (p : Project) (files : Files) (names : List String) (node : Node) : Prop :=
  p.Keeps files names ∧ files.node? (Sources.joinNames p.root names) = some node

/-- The tables and sources of a project are the same in both trees. -/
structure Project.SameInputs (p : Project) (f g : Files) : Prop where
  tables : ∀ name node, p.HasTable g name node ↔ p.HasTable f name node
  sources : ∀ names node, p.HasSource g names node ↔ p.HasSource f names node

theorem exists_hasTable {name : String} :
    Table.IsWanted f p.langDir p.config.langExtension name ↔ ∃ node, p.HasTable f name node := by
  refine ⟨fun h => ?_, fun ⟨_, h⟩ => h.1⟩
  have htable := h.2
  rw [Table.isTable, Bool.and_eq_true] at htable
  obtain ⟨node, hnode, -⟩ := exists_node?_of_isFile htable.1
  exact ⟨node, h, hnode⟩

theorem exists_hasSource {names : List String} :
    p.Keeps f names ↔ ∃ node, p.HasSource f names node := by
  refine ⟨fun h => ?_, fun ⟨_, h⟩ => h.1⟩
  have hkeeps := h.2
  simp only [Sources.keeps, Bool.and_eq_true] at hkeeps
  obtain ⟨node, hnode, -⟩ := exists_node?_of_isFile hkeeps.1.1
  exact ⟨node, h, hnode⟩

namespace Project.SameInputs

theorem readDir_eq (h : p.SameInputs f g) (hf : f.root.Proper) (hg : g.root.Proper)
    (hlinks : f.root.LinkFree) (hlinks' : g.root.LinkFree) (hplaces : f.SamePlaces g) :
    Table.readDir g p.langDir p.config.langExtension =
      Table.readDir f p.langDir p.config.langExtension := by
  refine Table.readDir_congr hf hg (hplaces.isDir_eq _) (hplaces.exists_list_iff _)
    (fun name => ?_) fun name hname => ?_
  · rw [exists_hasTable, exists_hasTable]
    exact exists_congr (h.tables name)
  · obtain ⟨node, htable⟩ := exists_hasTable.1 hname
    have hnode := htable.2
    have hnode' := ((h.tables name node).2 htable).2
    exact ⟨readText_of_node? hnode hnode', isNamed_congr hlinks hlinks' (hnode'.trans hnode.symm)⟩

theorem scan_eq (h : p.SameInputs f g) (hf : f.root.Proper) (hg : g.root.Proper)
    (hbars : Sources.SameBars f g p.root) :
    Sources.scan g p.root p.config.sourceExtensions p.ignores =
      Sources.scan f p.root p.config.sourceExtensions p.ignores := by
  refine Sources.scan_congr hf hg (fun names => ?_) (hbars.skipped_eq _ _)
  have hkept : p.Keeps g names ↔ p.Keeps f names := by
    rw [exists_hasSource, exists_hasSource]
    exact exists_congr (h.sources names)
  exact hkept

theorem usages_eq (h : p.SameInputs f g) (hf : f.root.Proper) :
    Sources.usages g p.extractor race
        (Sources.scan f p.root p.config.sourceExtensions p.ignores).files =
      Sources.usages f p.extractor race
        (Sources.scan f p.root p.config.sourceExtensions p.ignores).files := by
  obtain ⟨kept, -, hmem, hfiles⟩ :=
    Sources.scan_files hf p.root p.config.sourceExtensions p.ignores
  refine Sources.usages_congr fun path hpath => ?_
  rw [hfiles] at hpath
  obtain ⟨names, hnames, rfl⟩ := List.mem_map.1 hpath
  obtain ⟨node, hsource⟩ := exists_hasSource.1 ((hmem names).1 hnames)
  exact readText_of_node? hsource.2 ((h.sources names node).2 hsource).2

/-- What is found in a project depends on its tables and sources alone, and on the race between the
readers of the sources. -/
theorem examine_eq (h : p.SameInputs f g) (hf : f.root.Proper) (hg : g.root.Proper)
    (hlinks : f.root.LinkFree) (hlinks' : g.root.LinkFree) (hplaces : f.SamePlaces g)
    (hbars : Sources.SameBars f g p.root) (race : Nat) (verbose : Bool) :
    examine race g p verbose = examine race f p verbose := by
  have hdir : p.hasLangDir g = p.hasLangDir f := hplaces.isDir_eq _
  have hload : load g p verbose = load f p verbose := by
    rw [load, load, hbars.complaints_eq, h.scan_eq hf hg hbars,
      h.readDir_eq hf hg hlinks hlinks' hplaces]
  rw [examine, examine, hdir, hload]
  split
  · cases hcase : Table.readDir f p.langDir p.config.langExtension with
    | error e => simp only [load, hcase]
    | ok tables => simp only [load, hcase, compare, h.usages_eq hf]
  · rfl

end Project.SameInputs

/-! ### A file that is neither a table nor a source -/

section Stray

variable {front : List String} {name : String}

theorem hasTable_of_fileChanged {other : String} {node : Node} (hf : f.root.Proper)
    (hlinks : f.root.LinkFree) (h : FileChanged (front ++ [name]) f g)
    (hlang : (Path.mk name).extension? ≠ some p.config.langExtension)
    (htable : p.HasTable f other node) : p.HasTable g other node := by
  obtain ⟨⟨hlisted, hwanted⟩, hnode⟩ := htable
  obtain ⟨place, hdir, hdirAt, hsome⟩ := mem_list_iff.1 hlisted
  obtain ⟨n, hat⟩ := Option.isSome_iff_exists.1 hsome
  have hother := hf.isName hat
  rw [Table.isTable, Bool.and_eq_true] at hwanted
  have hne : other ≠ name := by
    rintro rfl
    have hext := hwanted.2
    rw [beq_iff_eq, Path.extension?_join p.langDir hother] at hext
    exact hlang hext
  have hplace : f.place? (p.langDir.join other) ≠ some (front ++ [name]) := by
    intro hplace
    obtain ⟨_, heq⟩ := exists_front_of_join hlinks hother hplace
    exact hne (List.append_singleton_inj.1 heq).2.symm
  have hfile : node.isFile = true := by
    have hthere := hwanted.1
    rwa [isFile_eq, hnode] at hthere
  refine ⟨⟨mem_list_iff.2 ⟨place, by rw [h.samePlaces.place?_eq, hdir],
    (h.samePlaces.dirAt_iff place).2 hdirAt, ?_⟩, ?_⟩, h.node?_of_ne hplace hnode hfile⟩
  · rw [h.isSome_at? fun heq => hne (List.append_singleton_inj.1 heq).2, hsome]
  · rw [Table.isTable, (h.sameKind hplace).isFile_eq, Bool.and_eq_true]
    exact hwanted

theorem hasSource_of_fileChanged {names : List String} {node : Node} (hf : f.root.Proper)
    (hlinks : f.root.LinkFree) (hlinks' : g.root.LinkFree)
    (h : FileChanged (front ++ [name]) f g)
    (hsources : Sources.hasExtension p.config.sourceExtensions ⟨name⟩ = false)
    (hroot : f.place? p.root ≠ some (front ++ [name])) (hsource : p.HasSource f names node) :
    p.HasSource g names node := by
  obtain ⟨hkept, hnode⟩ := hsource
  obtain ⟨hsome, hkeeps⟩ := Sources.isKept_iff.1 hkept
  obtain ⟨n, hn⟩ := Option.isSome_iff_exists.1 hsome
  obtain ⟨m, hm, hat⟩ := Option.bind_eq_some_iff.1 hn
  obtain ⟨place, hplace, hbase⟩ := Option.bind_eq_some_iff.1 hm
  have hbelow : f.root.at? (place ++ names) = some n := by
    rw [at?_append, hbase, Option.bind_some, hat]
  have hpath : f.place? (Sources.joinNames p.root names) ≠ some (front ++ [name]) ∧
      place ++ names ≠ front ++ [name] := by
    rcases names.eq_nil_or_concat with rfl | ⟨above, last, rfl⟩
    · rw [List.append_nil]
      exact ⟨hroot, fun heq => hroot (by rw [hplace, heq])⟩
    · rw [List.concat_eq_append] at hbelow hkeeps ⊢
      rw [← List.append_assoc] at hbelow ⊢
      have hlast := hf.isName hbelow
      rw [Sources.keeps, Sources.joinNames_concat] at hkeeps
      simp only [Bool.and_eq_true] at hkeeps
      have hne : last ≠ name := by
        rintro rfl
        have hext := hkeeps.1.2
        rw [Sources.hasExtension, Path.extension?_join _ hlast] at hext
        exact Bool.noConfusion (hsources.symm.trans hext)
      rw [Sources.joinNames_concat]
      refine ⟨fun hplace => ?_, fun heq => hne (List.append_singleton_inj.1 heq).2⟩
      obtain ⟨_, heq⟩ := exists_front_of_join hlinks hlast hplace
      exact hne (List.append_singleton_inj.1 heq).2.symm
  have hfile : node.isFile = true := by
    simp only [Sources.keeps, Bool.and_eq_true] at hkeeps
    have hthere := hkeeps.1.1
    rwa [isFile_eq, hnode] at hthere
  have hnode' := h.node?_of_ne hpath.1 hnode hfile
  refine ⟨Sources.isKept_iff.2 ⟨?_, ?_⟩, hnode'⟩
  · have hsome' := h.isSome_at? hpath.2
    rw [hbelow] at hsome'
    obtain ⟨n', hat'⟩ := Option.isSome_iff_exists.1 hsome'
    rw [at?_append] at hat'
    rw [node?, h.samePlaces.place?_eq, hplace, Option.bind_some, hat']
    rfl
  · rw [Sources.keeps, Sources.ignored, (h.sameKind hpath.1).isFile_eq,
      isNamed_congr hlinks hlinks' (hnode'.trans hnode.symm)]
    exact hkeeps

/-- A project does not notice a file that is made, changed or removed, if its name is neither that
of a table nor that of a source. -/
theorem sameInputs_of_fileChanged (hf : f.root.Proper) (hg : g.root.Proper)
    (hlinks : f.root.LinkFree) (hlinks' : g.root.LinkFree)
    (h : FileChanged (front ++ [name]) f g)
    (hlang : (Path.mk name).extension? ≠ some p.config.langExtension)
    (hsources : Sources.hasExtension p.config.sourceExtensions ⟨name⟩ = false)
    (hroot : f.place? p.root ≠ some (front ++ [name])) : p.SameInputs f g where
  tables _ _ := ⟨hasTable_of_fileChanged hg hlinks' h.symm hlang,
    hasTable_of_fileChanged hf hlinks h hlang⟩
  sources _ _ := ⟨hasSource_of_fileChanged hg hlinks' hlinks h.symm hsources
    (by rwa [h.samePlaces.place?_eq]), hasSource_of_fileChanged hf hlinks hlinks' h hsources hroot⟩

end Stray

/-! ### Two trees -/

/-- The trees agree on what a check looks at: on the directories and which of them are locked, on
what decides which settings file holds, on the one that does, and on the tables and sources of the
project that it leads to. -/
structure Agree (f g : Files) (options : Options) : Prop where
  cwd_eq : g.cwd = f.cwd
  dirAt_iff : ∀ names, g.root.DirAt names ↔ f.root.DirAt names
  locked_iff : ∀ names, g.root.at? names = some .locked ↔ f.root.at? names = some .locked
  holds_iff : ∀ dir name, name = Config.fileName ∨ name = ".git" →
    (Config.Holds g.root dir name ↔ Config.Holds f.root dir name)
  settings : ∀ root path bytes, f.absoluteRoot options.root = .ok root →
    Config.find f root = some path → f.readBytes path = .ok bytes → g.readBytes path = .ok bytes
  inputs : ∀ p, IsProject f options p → p.SameInputs f g

section Agree

variable {root : Path}

theorem Agree.samePlaces (h : Agree f g options) (hf : f.root.LinkFree) (hg : g.root.LinkFree) :
    f.SamePlaces g :=
  samePlaces_of_dirAt_iff hf hg h.cwd_eq h.dirAt_iff h.locked_iff

/-- The settings are the same, since a settings file that has no bytes is a directory. -/
theorem Agree.load_eq (h : Agree f g options) (hf : f.root.LinkFree) (hg : g.root.LinkFree)
    (hroot : f.absoluteRoot options.root = .ok root) :
    Config.load g root = Config.load f root := by
  have hplaces := h.samePlaces hf hg
  refine Config.load_congr (Config.find_eq_of_holds hf hplaces h.holds_iff root)
    fun path hfind => readText_congr ?_
  rcases isFile_or_isDir hf (Config.isThere_of_findIn hfind) with hfile | hdir
  · obtain ⟨bytes, hbytes⟩ := exists_readBytes_of_isFile hfile
    rw [h.settings root path bytes hroot hfind hbytes, hbytes]
  · exact hplaces.readBytes_eq hdir

theorem Agree.resolve_eq (h : Agree f g options) (hf : f.root.LinkFree) (hg : g.root.LinkFree)
    (hroot : f.absoluteRoot options.root = .ok root) :
    resolve g options = resolve f options := by
  simp only [resolve, (h.samePlaces hf hg).absoluteRoot_eq, hroot, h.load_eq hf hg hroot]

end Agree

/-- What the options are resolved to is the project that they describe. -/
theorem isProject_of_resolve (h : (resolve f options).outcome = .ok p) :
    IsProject f options p := by
  cases habsolute : f.absoluteRoot options.root with
  | error e =>
    rw [resolve_of_rootFault (rootFault_iff.2 habsolute)] at h
    cases h
  | ok root =>
    rcases Config.load_cases f root with ⟨e, -, hfault⟩ | ⟨loaded, -, hfor⟩
    · rw [resolve_of_loadFault habsolute hfault] at h
      cases h
    · obtain ⟨q, hq⟩ := exists_isProject habsolute hfor
      rw [hq.resolve_eq] at h
      cases h
      exact hq

theorem run_congr {race' : Nat} (hresolve : resolve g options = resolve f options)
    (hexamine : ∀ p, (resolve f options).outcome = .ok p →
      examine race' g p options.verbose = examine race f p options.verbose) :
    run race' g options = run race f options := by
  rw [run, run, hresolve]
  split
  · rfl
  · next p hp =>
    rw [hexamine p (by rw [hp])]

/-- Checks that come to the same are reported alike. -/
theorem start_congr {race' : Nat} {arguments : List String} (marks : Stream → Bool)
    (harguments : Request.parse arguments = .ok (.check options))
    (h : run race' g options = run race f options) :
    (Program.start marks race' g arguments).notices =
        (Program.start marks race f arguments).notices ∧
      (Program.start marks race' g arguments).code =
        (Program.start marks race f arguments).code := by
  simp only [Program.start, harguments, Program.carryOut, Program.report, h]
  cases (run race f options).outcome with
  | error e => cases e <;> exact ⟨rfl, rfl⟩
  | ok result =>
    cases hcomplete : Report.isComplete options.verbose result.summary <;> simp [hcomplete]

/-! ### The race between the readers -/

/-- No two kept sources are at fault. -/
def SingleFault (files : Files) (options : Options) : Prop :=
  ∀ p, IsProject files options p → ∀ names names' e e',
    p.SourceFault files names e → p.SourceFault files names' e' → e = e'

theorem examine_race (hf : f.root.Proper) (p : Project) (verbose : Bool) (race race' : Nat) :
    examine race' f p verbose = examine race f p verbose ∨
      (examine race' f p verbose).notices = (examine race f p verbose).notices ∧
        ∃ names names' e e', e ≠ e' ∧ p.SourceFault f names e ∧ p.SourceFault f names' e' ∧
          (examine race f p verbose).outcome = .error e ∧
          (examine race' f p verbose).outcome = .error e' := by
  unfold examine
  split
  · split
    · exact .inl rfl
    · next tables sources hload =>
      have hsources :
          sources = Sources.scan f p.root p.config.sourceExtensions p.ignores := by
        unfold load at hload
        cases htables : Table.readDir f p.langDir p.config.langExtension with
        | error e => simp [htables] at hload
        | ok _ =>
          rw [htables] at hload
          cases hload
          rfl
      subst hsources
      rcases Sources.usages_race hf race race' with
    hsame | ⟨_, _, e, e', hne, hfault, hfault', h, h'⟩
      · exact .inl (by rw [compare, compare, hsame])
      · exact .inr ⟨rfl, _, _, e, e', hne, hfault, hfault', by rw [compare, h]; rfl,
          by rw [compare, h']; rfl⟩
  · exact .inl rfl

/-- Races differ at most in which source at fault the check ends with. -/
theorem run_race (hf : f.root.Proper) (options : Options) (race race' : Nat) :
    run race' f options = run race f options ∨
      ¬ SingleFault f options ∧ (run race' f options).notices = (run race f options).notices ∧
        ∃ e e', (run race f options).outcome = .error e ∧
          (run race' f options).outcome = .error e' := by
  by_cases hsame : ∀ p, (resolve f options).outcome = .ok p →
      examine race' f p options.verbose = examine race f p options.verbose
  · exact .inl (run_congr rfl hsame)
  · simp only [not_forall] at hsame
    obtain ⟨p, hp, hexamine⟩ := hsame
    obtain ⟨hnotices, names, names', e, e', hne, hfault, hfault', herror, herror'⟩ :=
      (examine_race hf p options.verbose race race').resolve_left hexamine
    have hp' := isProject_of_resolve hp
    refine .inr ⟨fun hsingle => hne (hsingle p hp' _ _ _ _ hfault hfault'), ?_, e, e', ?_, ?_⟩
    · rw [notices_run_of_ok hp, notices_run_of_ok hp, hnotices]
    · rw [outcome_run_of_ok hp, herror]
      rfl
    · rw [outcome_run_of_ok hp, herror']
      rfl

/-- A race decides nothing but the last line, and that only if several sources are at fault. -/
theorem start_race {arguments : List String} (hf : f.root.Proper) (marks : Stream → Bool)
    (harguments : Request.parse arguments = .ok (.check options)) (race race' : Nat) :
    (Program.start marks race' f arguments).code = (Program.start marks race f arguments).code ∧
      (∀ palette, Notice.renderAll palette .output (Program.start marks race' f arguments).notices =
        Notice.renderAll palette .output (Program.start marks race f arguments).notices) ∧
      (SingleFault f options → (Program.start marks race' f arguments).notices =
        (Program.start marks race f arguments).notices) := by
  rcases run_race hf options race race' with hsame | ⟨hsingle, hnotices, e, e', herror, herror'⟩
  · obtain ⟨hnotices, hcode⟩ := start_congr marks harguments hsame
    exact ⟨hcode, fun palette => by rw [hnotices], fun _ => hnotices⟩
  · rw [start_of_error hf harguments herror, start_of_error hf harguments herror', hnotices]
    refine ⟨rfl, fun palette => ?_, fun h => absurd h hsingle⟩
    rw [Notice.renderAll, Notice.renderAll, List.filter_append, List.filter_append]
    rfl

theorem sample_linkFree : sample.root.LinkFree := by
  refine .dir _ ?_
  simp only [List.forall_mem_cons]
  exact ⟨.file _, .file _, by simp⟩

theorem sample_grounded : sample.Grounded := ⟨_, rfl⟩

theorem sample_root_place? : sample.place? ⟨"/"⟩ = some [] ∧ sample.place? ⟨"."⟩ = some [] := by
  simp +decide [place?, locate, piecesOf, Path.pieces, Files.resolve, sample, Except.toOption]

end Check

end FirmwareKit
