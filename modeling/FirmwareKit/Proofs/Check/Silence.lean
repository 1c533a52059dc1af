import FirmwareKit.Proofs.Check.Priority

/-! What a check says about sources when a table fails it. It walks the sources in any case,
and a verbose walk complains at once about every path that it cannot go on from: a root that is
not there, and directories that cannot be listed. Apart from these complaints nothing is said
about sources. -/

namespace FirmwareKit.Check

open Report

/-- The notice complains about a place that cannot be accessed. -/
def isComplaint (n : Notice) : Bool :=
  n.stream == .errors && "warning: Cannot access path: ".toList.isPrefixOf n.text

/-- The notice warns of a number of skipped places. -/
def IsSkipCount (n : Notice) : Prop :=
  n.stream = .errors ∧ ∃ (count : Nat) (rest : List Char),
    n.text = "Warning: ".toList ++ (toString count).toList ++ " path(s) skipped".toList ++ rest

/-- The notice says something about sources or the strings in them. -/
def IsAboutSources (n : Notice) : Prop :=
  isComplaint n = true ∨ IsSkipCount n ∨ isUntranslated n = true

variable {race : Nat} {files : Files} {options : Options} {p : Project}

/-! ### Notices that are told apart by their start -/

theorem head?_of_isComplaint {n : Notice} (h : isComplaint n = true) :
    n.text.head? = some 'w' := by
  rw [isComplaint, Bool.and_eq_true] at h
  obtain ⟨rest, htext⟩ := List.isPrefixOf_iff_prefix.1 h.2
  rw [← htext]
  rfl

theorem head?_of_isSkipCount {n : Notice} (h : IsSkipCount n) : n.text.head? = some 'W' := by
  obtain ⟨-, count, rest, htext⟩ := h
  rw [htext]
  rfl

theorem head?_of_isUntranslated {n : Notice} (h : isUntranslated n = true) :
    n.text.head? = some 'W' := by
  rw [isUntranslated, Bool.and_eq_true] at h
  obtain ⟨rest, htext⟩ := List.isPrefixOf_iff_prefix.1 h.2
  rw [← htext]
  rfl

theorem not_isAboutSources_of_output {n : Notice} (hn : n.stream = .output) :
    ¬ IsAboutSources n := by
  simp [IsAboutSources, isComplaint, IsSkipCount, isUntranslated, hn]

theorem not_isAboutSources_of_head {n : Notice} {c : Char} (h : n.text.head? = some c)
    (hsmall : c ≠ 'w') (hgreat : c ≠ 'W') : ¬ IsAboutSources n := by
  rintro (hcomplaint | hcount | huntranslated)
  · rw [head?_of_isComplaint hcomplaint] at h
    exact hsmall (Option.some.inj h).symm
  · rw [head?_of_isSkipCount hcount] at h
    exact hgreat (Option.some.inj h).symm
  · rw [head?_of_isUntranslated huntranslated] at h
    exact hgreat (Option.some.inj h).symm

/-- A complaint is neither of the warnings, which start with a capital letter. -/
theorem isComplaint_only {n : Notice} (h : isComplaint n = true) :
    ¬ IsSkipCount n ∧ isUntranslated n = false := by
  have hhead := head?_of_isComplaint h
  constructor
  · intro hcount
    simp [head?_of_isSkipCount hcount] at hhead
  · rw [Bool.eq_false_iff]
    intro huntranslated
    simp [head?_of_isUntranslated huntranslated] at hhead

theorem not_isAboutSources_opening (files : Files) (options : Options) (p : Project) :
    ∀ n ∈ opening files options p, ¬ IsAboutSources n := by
  refine List.forall_mem_append.2 ⟨fun n hn => ?_, ?_⟩
  · exact not_isAboutSources_of_head (head?_resolve files options n hn).2 (by decide) (by decide)
  · cases options.verbose with
    | false => simp
    | true =>
      intro n hn
      obtain rfl := List.mem_singleton.1 hn
      exact not_isAboutSources_of_output rfl

theorem not_isAboutSources_errorLine (e : Failure) : ¬ IsAboutSources (errorLine e) := by
  have hmessage : ("Error: " ++ e.message).toList = 'E' :: ("rror: ".toList ++ e.message.toList) :=
    String.toList_append
  exact not_isAboutSources_of_head (Notice.head?_text_line hmessage) (by decide) (by decide)

/-! ### The complaints of a verbose walk -/

theorem isComplaint_complaint (path : Path) (fault : Files.Fault) :
    isComplaint (Sources.complaint path fault) = true := by
  rw [isComplaint, Bool.and_eq_true]
  refine ⟨rfl, List.isPrefixOf_iff_prefix.2 ?_⟩
  rw [Sources.complaint, Notice.text_line]
  simp only [List.flatMap_cons, Piece.plain, Piece.strong, String.toList_append, List.append_assoc]
  exact ⟨_, rfl⟩

theorem mem_complaints_iff {base : Path} {n : Notice} : n ∈ Sources.complaints files base ↔
    ∃ path fault, .barred path fault ∈ Sources.walk files base ∧
      n = Sources.complaint path fault := by
  have hfault (v : Sources.Visit) (path : Path) (fault : Files.Fault) :
      v.fault? = some (path, fault) ↔ v = .barred path fault := by
    cases v <;> simp [Sources.Visit.fault?]
  simp only [Sources.complaints, List.mem_map, List.mem_filterMap, Prod.exists]
  constructor
  · rintro ⟨path, fault, ⟨v, hv, hbar⟩, rfl⟩
    exact ⟨path, fault, (hfault v path fault).1 hbar ▸ hv, rfl⟩
  · rintro ⟨path, fault, hv, rfl⟩
    exact ⟨path, fault, ⟨_, hv, rfl⟩, rfl⟩

/-- There is nothing to complain about if the base is there, and every directory that the walk comes
to can be listed. -/
theorem complaints_eq_nil_iff (hroot : files.root.Proper) {base : Path} :
    Sources.complaints files base = [] ↔
      files.isThere base = true ∧ ∀ names, ¬ Sources.IsBarred files base names := by
  rw [Sources.complaints, List.map_eq_nil_iff]
  cases hthere : files.isThere base with
  | false =>
    obtain ⟨fault, hwalk⟩ := Sources.walk_of_not_isThere hthere
    simp [hwalk, Sources.Visit.fault?]
  | true =>
    obtain ⟨barred, -, hmem, hpaths, -⟩ := Sources.walk_faults hroot hthere
    simp only [← hmem, true_and]
    rw [← List.map_eq_nil_iff (f := (·.1)), hpaths, List.map_eq_nil_iff,
      List.eq_nil_iff_forall_not_mem]

/-! ### Checks that a table fails -/

/-- The complaints that a check prints while it loads the tables. -/
def heard (files : Files) (options : Options) (p : Project) : List Notice :=
  if options.verbose then Sources.complaints files p.root else []

theorem heard_eq_nil_iff (hroot : files.root.Proper) : heard files options p = [] ↔
    options.verbose = false ∨
      files.isThere p.root = true ∧ ∀ names, ¬ Sources.IsBarred files p.root names := by
  cases hverbose : options.verbose with
  | false => simp [heard, hverbose]
  | true => simp [heard, hverbose, complaints_eq_nil_iff hroot]

theorem complaint_of_heard {n : Notice} (h : n ∈ heard files options p) :
    ∃ path fault, .barred path fault ∈ Sources.walk files p.root ∧
      n = Sources.complaint path fault := by
  unfold heard at h
  split at h
  · exact mem_complaints_iff.1 h
  · cases h

theorem isComplaint_heard {n : Notice} (h : n ∈ heard files options p) : isComplaint n = true := by
  obtain ⟨path, fault, -, rfl⟩ := complaint_of_heard h
  exact isComplaint_complaint path fault

/-- The first table at fault is the outcome, and complaints are all that comes before it. -/
theorem run_of_tableFault (race : Nat) (hroot : files.root.Proper) (hp : IsProject files options p)
    (hdir : p.hasLangDir files = true) (hfault : ∃ name e, p.TableFault files name e) :
    ∃ name e, Table.FirstFault files p.langDir p.config.langExtension name e ∧
      (run race files options).outcome = .error e ∧
      (run race files options).notices = opening files options p ++ heard files options p := by
  obtain ⟨name, e, hfault⟩ := hfault
  cases htables : Table.readDir files p.langDir p.config.langExtension with
  | ok tables => exact absurd hfault (Table.not_fault_of_readDir htables name e)
  | error e' =>
    obtain ⟨⟨names, hlist, -⟩, -⟩ := hfault.wanted
    obtain ⟨first, hfirst⟩ := Table.firstFault_of_readDir hroot ⟨names, hlist⟩ htables
    have hexamine : examine race files p options.verbose = ⟨heard files options p, .error e'⟩ := by
      rw [examine, if_pos hdir, load, htables, heard]
    refine ⟨first, e', hfirst, ?_, ?_⟩
    · rw [outcome_run_of_ok hp.resolve_eq, hexamine]
      rfl
    · rw [notices_run_of_ok hp.resolve_eq, hexamine]

/-- A check that a table fails ends with the first table at fault. It says nothing about sources
exactly if it is not verbose, or its root is there and every directory that its walk comes to can be
listed; otherwise it complains about what the walk could not go on from, and says nothing else. -/
theorem start_silent_iff {arguments : List String} (marks : Stream → Bool) (race : Nat)
    (hroot : files.root.Proper) (harguments : Request.parse arguments = .ok (.check options))
    (hp : IsProject files options p) (hdir : p.hasLangDir files = true)
    (hfault : ∃ name e, p.TableFault files name e) :
    (∃ name e, Table.FirstFault files p.langDir p.config.langExtension name e ∧
      (run race files options).outcome = .error e ∧
      (Program.start marks race files arguments).notices =
        opening files options p ++ heard files options p ++ [errorLine e]) ∧
      ((∀ n ∈ (Program.start marks race files arguments).notices, ¬ IsAboutSources n) ↔
        options.verbose = false ∨
          files.isThere p.root = true ∧ ∀ names, ¬ Sources.IsBarred files p.root names) ∧
      ∀ n ∈ (Program.start marks race files arguments).notices, IsAboutSources n →
        (∃ path fault, .barred path fault ∈ Sources.walk files p.root ∧
          n = Sources.complaint path fault) ∧ ¬ IsSkipCount n ∧ isUntranslated n = false := by
  obtain ⟨name, e, hfirst, houtcome, hnotices⟩ := run_of_tableFault race hroot hp hdir hfault
  have hstart : (Program.start marks race files arguments).notices =
      opening files options p ++ heard files options p ++ [errorLine e] := by
    rw [start_of_error hroot harguments houtcome, hnotices]
  have habout : ∀ n ∈ (Program.start marks race files arguments).notices, IsAboutSources n →
      n ∈ heard files options p := by
    intro n hn habout
    rw [hstart, List.append_assoc, List.mem_append, List.mem_append, List.mem_singleton] at hn
    rcases hn with hn | hn | rfl
    · exact absurd habout (not_isAboutSources_opening files options p n hn)
    · exact hn
    · exact absurd habout (not_isAboutSources_errorLine e)
  refine ⟨⟨name, e, hfirst, houtcome, hstart⟩, ?_, fun n hn h => ?_⟩
  · rw [← heard_eq_nil_iff hroot, List.eq_nil_iff_forall_not_mem]
    constructor
    · intro hsilent n hn
      refine hsilent n ?_ (.inl (isComplaint_heard hn))
      rw [hstart]
      simp [hn]
    · exact fun hnone n hn h => hnone n (habout n hn h)
  · have hheard := habout n hn h
    exact ⟨complaint_of_heard hheard, isComplaint_only (isComplaint_heard hheard)⟩

/-- The root directory is the only one of the sample, and it can be listed. -/
theorem faulty_not_isBarred (names : List String) : ¬ Sources.IsBarred faulty ⟨"/"⟩ names := by
  rintro ⟨node, hmet, hdir, fault, hlist⟩
  obtain ⟨root, hroot, hat⟩ := (Files.reached_iff faulty_proper).1 (Sources.met_iff.1 hmet).1
  rw [faulty_find.1] at hroot
  cases hroot
  cases names with
  | nil =>
    rw [show Sources.joinNames ⟨"/"⟩ [] = ⟨"/"⟩ from rfl, Files.list, faulty_find.1] at hlist
    cases hlist
  | cons name more =>
    obtain ⟨child, hchild, hmore⟩ := Option.bind_eq_some_iff.1 hat
    have hfile : ∃ bytes, child = .file bytes := by
      have hmem : (name, child) ∈ faulty.root.entries := Node.mem_of_lookup hchild
      simp only [faulty, Node.entries, List.mem_cons, Prod.mk.injEq, List.not_mem_nil,
        or_false] at hmem
      obtain ⟨-, rfl⟩ | ⟨-, rfl⟩ | ⟨-, rfl⟩ := hmem <;> exact ⟨_, rfl⟩
    obtain ⟨bytes, rfl⟩ := hfile
    cases more with
    | nil =>
      cases hmore
      cases hdir
    | cons next more => cases hmore

theorem start_silent_iff_faulty :
    faulty.root.Proper ∧
      Request.parse ["check", "--root=/", "--lang-root=/", "--strict", "-v"] =
        .ok (.check (faultyOptions true)) ∧
      ∀ n ∈ (Program.start (fun _ => false) 0 faulty
        ["check", "--root=/", "--lang-root=/", "--strict", "-v"]).notices, ¬ IsAboutSources n := by
  have harguments : Request.parse ["check", "--root=/", "--lang-root=/", "--strict", "-v"] =
      .ok (.check (faultyOptions true)) := by rfl
  have hsilent := start_silent_iff (fun _ => false) 0 faulty_proper harguments
    (faulty_isProject true) faulty_isDir ⟨_, _, faulty_firstFault.fault⟩
  have hthere : faulty.isThere sampleProject.root = true :=
    Files.isThere_iff_find.2 ⟨_, faulty_find.1⟩
  exact ⟨faulty_proper, harguments, hsilent.2.1.2 (.inr ⟨hthere, faulty_not_isBarred⟩)⟩

/-! ### A root that is not there -/

def strayOptions : Options :=
  { root := some ⟨"/gone"⟩, langRoot := some ⟨"/"⟩, verbose := true }

def strayProject : Project := ⟨.default, ⟨"/gone"⟩, ⟨"/"⟩, []⟩

theorem stray_find :
    faulty.find .target ⟨"/gone"⟩ = .error .notFound ∧
      faulty.find .target ⟨"/gone/.esperrc.json"⟩ = .error .notFound ∧
      faulty.find .target ⟨"/gone/.git"⟩ = .error .notFound ∧
      faulty.find .target ⟨"/.git"⟩ = .error .notFound := by
  simp +decide [Files.find, Files.locate, Files.start, Files.piecesOf, Path.pieces, Files.resolve,
    faulty, Node.at?, Node.child?, Node.lookup]

theorem stray_isProject : IsProject faulty strayOptions strayProject where
  root := by
    rw [Files.absoluteRoot, show faulty.here = ⟨"/"⟩ by decide +kernel,
      show Path.absolute? ⟨"/"⟩ (strayOptions.root.getD ⟨"."⟩) = some ⟨"/gone"⟩ by decide +kernel]
    rfl
  settings := by
    obtain ⟨-, hconfig, hgit, hgit'⟩ := stray_find
    refine .default ?_
    rw [Config.find, show Path.ancestors strayProject.root = [⟨"/gone"⟩, ⟨"/"⟩] by decide +kernel]
    simp [Config.findIn, Path.join, Config.fileName, Files.isThere, hconfig, hgit, hgit',
      faulty_find.2.2, Except.toOption]
  langDir := rfl
  ignores := rfl

/-- A verbose check whose root is not there complains about the root, and then fails for a table
that lies elsewhere. -/
theorem exists_heard :
    faulty.root.Proper ∧ IsProject faulty strayOptions strayProject ∧
      strayProject.hasLangDir faulty = true ∧ (∃ name e, strayProject.TableFault faulty name e) ∧
      Request.parse ["check", "--root=/gone", "--lang-root=/", "-v"] = .ok (.check strayOptions) ∧
      ∃ n ∈ (Program.start (fun _ => false) 0 faulty
        ["check", "--root=/gone", "--lang-root=/", "-v"]).notices, isComplaint n = true := by
  have hfault : ∃ name e, strayProject.TableFault faulty name e :=
    ⟨_, _, faulty_firstFault.fault⟩
  have harguments : Request.parse ["check", "--root=/gone", "--lang-root=/", "-v"] =
      .ok (.check strayOptions) := by rfl
  refine ⟨faulty_proper, stray_isProject, faulty_isDir, hfault, harguments, ?_⟩
  obtain ⟨_, e, -, houtcome, hnotices⟩ :=
    run_of_tableFault 0 faulty_proper stray_isProject faulty_isDir hfault
  have hheard : heard faulty strayOptions strayProject ≠ [] := by
    have hgone : faulty.isThere strayProject.root = false := by
      rw [Files.isThere, show strayProject.root = ⟨"/gone"⟩ from rfl, stray_find.1]
      rfl
    rw [ne_eq, heard_eq_nil_iff faulty_proper, hgone]
    simp [strayOptions]
  obtain ⟨n, rest, heq⟩ := List.exists_cons_of_ne_nil hheard
  have hn : n ∈ heard faulty strayOptions strayProject := by simp [heq]
  refine ⟨n, ?_, isComplaint_heard hn⟩
  rw [start_of_error faulty_proper harguments houtcome, hnotices]
  simp [hn]

end FirmwareKit.Check
