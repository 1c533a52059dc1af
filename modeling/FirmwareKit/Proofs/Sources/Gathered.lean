import FirmwareKit.Proofs.Sources.Walk

/-! The uses in the kept files. If all of them can be read, they are the uses of one file after the
other, whatever the race between the readers. Otherwise the race decides which of the files that
cannot be read is told of, and it can be any of them. -/

namespace FirmwareKit.Sources

open Files

variable {files : Files} {extractor : Extractor} {race : Nat} {paths : List Path}

theorem failure?_eq_some_iff {path : Path} {e : Failure} :
    failure? files path = some e ↔
      ∃ fault, files.readText path = .error fault ∧ e = .sourceUnreadable path fault := by
  rw [failure?]
  cases files.readText path <;> simp [eq_comm]

theorem failures_eq_nil_iff :
    paths.filterMap (failure? files) = [] ↔
      ∀ path ∈ paths, ∃ text, files.readText path = .ok text := by
  rw [List.filterMap_eq_nil_iff]
  refine forall₂_congr fun path _ => ?_
  rw [failure?]
  cases files.readText path <;> simp

/-- The uses that are gathered are those of one file after the other, if all can be read. -/
theorem usages_eq_ok_iff {us : List Usage} : usages files extractor race paths = .ok us ↔
    (∀ path ∈ paths, ∃ text, files.readText path = .ok text) ∧
      us = paths.flatMap (usesIn files extractor) := by
  rw [← failures_eq_nil_iff, usages]
  cases hfailures : paths.filterMap (failure? files) with
  | nil => simp [eq_comm]
  | cons e more =>
    have hlt : race % (e :: more).length < (e :: more).length := Nat.mod_lt _ (Nat.succ_pos _)
    simp only [List.getElem?_eq_getElem hlt, reduceCtorEq, false_and]

/-- If all can be read, there is nothing to race for. -/
theorem usages_of_ok {us : List Usage} (h : usages files extractor race paths = .ok us)
    (race' : Nat) : usages files extractor race' paths = .ok us :=
  usages_eq_ok_iff.2 (usages_eq_ok_iff.1 h)

/-- What a race ends with is the failure of a file that cannot be read. -/
theorem usages_of_error {e : Failure} (h : usages files extractor race paths = .error e) :
    ∃ path ∈ paths, ∃ fault, files.readText path = .error fault ∧
      e = .sourceUnreadable path fault := by
  unfold usages at h
  dsimp only at h
  split at h
  · next hfailure =>
    cases h
    obtain ⟨path, hpath, heq⟩ := List.mem_filterMap.1 (List.mem_of_getElem? hfailure)
    exact ⟨path, hpath, failure?_eq_some_iff.1 heq⟩
  · cases h

/-- Any of the files that cannot be read can be the one that a race ends with. -/
theorem exists_race {path : Path} {fault : Files.Fault} (hpath : path ∈ paths)
    (h : files.readText path = .error fault) :
    ∃ race, usages files extractor race paths = .error (.sourceUnreadable path fault) := by
  obtain ⟨race, hlt, hrace⟩ := List.mem_iff_getElem.1
    (List.mem_filterMap.2 ⟨path, hpath, failure?_eq_some_iff.2 ⟨fault, h, rfl⟩⟩)
  refine ⟨race, ?_⟩
  unfold usages
  simp only [Nat.mod_eq_of_lt hlt, List.getElem?_eq_getElem hlt, hrace]

theorem failure?_congr {f g : Files} {path : Path} (h : g.readText path = f.readText path) :
    failure? g path = failure? f path := by
  rw [failure?, failure?, h]

theorem usages_congr {f g : Files} (h : ∀ path ∈ paths, g.readText path = f.readText path) :
    usages g extractor race paths = usages f extractor race paths := by
  have hfailures : paths.filterMap (failure? g) = paths.filterMap (failure? f) :=
    List.filterMap_congr fun path hpath => failure?_congr (h path hpath)
  have huses : paths.flatMap (usesIn g extractor) = paths.flatMap (usesIn f extractor) :=
    List.flatMap_congr fun path hpath => by rw [usesIn, usesIn, h path hpath]
  rw [usages, usages, hfailures, huses]

/-! ### The kept files -/

section Scan

variable {base : Path} {extensions : List String} {ignores : List Glob}

/-- A kept file cannot be read as text. -/
inductive Fault (files : Files) (base : Path) (extensions : List String) (ignores : List Glob)
    (names : List String) : Failure → Prop
  | unreadable {fault : Files.Fault} (kept : IsKept files base extensions ignores names)
      (unread : files.readText (joinNames base names) = .error fault) :
    Fault files base extensions ignores names (.sourceUnreadable (joinNames base names) fault)

/-- Gathering the uses of scanned files fails for a kept file only. -/
theorem exists_fault_of_usages {e : Failure} (hroot : files.root.Proper)
    (h : usages files extractor race (scan files base extensions ignores).files = .error e) :
    ∃ names, Fault files base extensions ignores names e := by
  obtain ⟨places, -, hmem, hfiles⟩ := scan_files hroot base extensions ignores
  rw [hfiles] at h
  obtain ⟨path, hpath, fault, hread, rfl⟩ := usages_of_error h
  obtain ⟨names, hnames, rfl⟩ := List.mem_map.1 hpath
  exact ⟨names, .unreadable ((hmem names).1 hnames) hread⟩

theorem not_fault_of_usages {us : List Usage} (hroot : files.root.Proper)
    (h : usages files extractor race (scan files base extensions ignores).files = .ok us)
    (names : List String) (e : Failure) : ¬ Fault files base extensions ignores names e := by
  rintro ⟨kept, unread⟩
  obtain ⟨places, -, hmem, hfiles⟩ := scan_files hroot base extensions ignores
  rw [hfiles] at h
  obtain ⟨text, hread⟩ :=
    (usages_eq_ok_iff.1 h).1 _ (List.mem_map_of_mem ((hmem names).2 kept))
  rw [unread] at hread
  cases hread

/-- Any kept file that cannot be read can be the one that is told of. -/
theorem exists_race_of_fault {names : List String} {e : Failure} (hroot : files.root.Proper)
    (h : Fault files base extensions ignores names e) :
    ∃ race, usages files extractor race (scan files base extensions ignores).files = .error e := by
  obtain ⟨kept, unread⟩ := h
  obtain ⟨places, -, hmem, hfiles⟩ := scan_files hroot base extensions ignores
  rw [hfiles]
  exact exists_race (List.mem_map_of_mem ((hmem names).2 kept)) unread

/-- Races differ at most in the failure that they end with, which tells of one or another of the
files that cannot be read. -/
theorem usages_race (hroot : files.root.Proper) (race race' : Nat) :
    usages files extractor race' (scan files base extensions ignores).files =
        usages files extractor race (scan files base extensions ignores).files ∨
      ∃ names names' e e', e ≠ e' ∧ Fault files base extensions ignores names e ∧
        Fault files base extensions ignores names' e' ∧
        usages files extractor race (scan files base extensions ignores).files = .error e ∧
        usages files extractor race' (scan files base extensions ignores).files = .error e' := by
  cases husages : usages files extractor race (scan files base extensions ignores).files with
  | ok us => exact .inl (usages_of_ok husages race')
  | error e =>
    cases husages' : usages files extractor race' (scan files base extensions ignores).files with
    | ok us =>
      rw [usages_of_ok husages' race] at husages
      cases husages
    | error e' =>
      by_cases hsame : e = e'
      · exact .inl (by rw [hsame])
      obtain ⟨names, hfault⟩ := exists_fault_of_usages hroot husages
      obtain ⟨names', hfault'⟩ := exists_fault_of_usages hroot husages'
      exact .inr ⟨names, names', e, e', hsame, hfault, hfault', rfl, rfl⟩

end Scan

end FirmwareKit.Sources
