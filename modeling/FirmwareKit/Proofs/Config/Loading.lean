import FirmwareKit.Config.Discovery

/-! What becomes of the settings for a directory. The file found for it may fail in three
ways: it cannot be read, its text does not spell settings, or they make no sense. If it does
not fail, or if no file is found, there are settings, and their ignored paths are patterns. -/

namespace FirmwareKit.Config

/-- The file found for a directory has no settings to offer. -/
inductive LoadFault (files : Files) (start : Path) : Failure → Prop
  | unreadable {path : Path} {fault : Files.Fault} (found : find files start = some path)
      (unread : files.readText path = .error fault) :
    LoadFault files start (.configUnreadable path fault)
  | malformed {path : Path} {text : String} {error : Json.Error}
      (found : find files start = some path) (readable : files.readText path = .ok text)
      (unparsed : parse text = .error error) :
    LoadFault files start (.configMalformed path error)
  | invalid {path : Path} {text : String} {config : Config} {problem : Problem}
      (found : find files start = some path) (readable : files.readText path = .ok text)
      (parsed : parse text = .ok config) (refuted : config.validate = .error problem) :
    LoadFault files start (.configInvalid problem)

/-- The settings for a directory: those in the file found for it, or else the defaults. -/
inductive IsFor (files : Files) (start : Path) : Config → Prop
  | written {path : Path} {text : String} {config : Config}
      (found : find files start = some path) (readable : files.readText path = .ok text)
      (parsed : parse text = .ok config) (valid : config.validate = .ok ()) :
    IsFor files start config
  | default (missing : find files start = none) : IsFor files start .default

variable {files : Files} {start : Path}

/-! ### The search for a settings file -/

theorem findIn_congr {f g : Files} {dirs : List Path}
    (h : ∀ dir ∈ dirs, g.isThere (dir.join fileName) = f.isThere (dir.join fileName) ∧
      g.isThere (dir.join ".git") = f.isThere (dir.join ".git")) :
    findIn g dirs = findIn f dirs := by
  induction dirs with
  | nil => rfl
  | cons dir dirs ih =>
    obtain ⟨⟨hfile, hgit⟩, hmore⟩ := List.forall_mem_cons.1 h
    rw [findIn, findIn, hfile, hgit, ih hmore]

theorem exists_of_findIn {dirs : List Path} {path : Path} (h : findIn files dirs = some path) :
    ∃ dir ∈ dirs, path = dir.join fileName := by
  induction dirs with
  | nil => cases h
  | cons dir dirs ih =>
    rw [findIn] at h
    split at h
    · exact ⟨dir, List.mem_cons_self, (Option.some.inj h).symm⟩
    · split at h
      · cases h
      · obtain ⟨other, hother, hpath⟩ := ih h
        exact ⟨other, List.mem_cons_of_mem _ hother, hpath⟩

/-! ### What is made of it -/

theorem load_cases (files : Files) (start : Path) :
    (∃ e, load files start = .error e ∧ LoadFault files start e) ∨
      ∃ loaded, load files start = .ok loaded ∧ IsFor files start loaded.config := by
  unfold load
  split
  · next missing => exact .inr ⟨_, rfl, .default missing⟩
  · next path found =>
    unfold read
    split
    · next unread => exact .inl ⟨_, rfl, .unreadable found unread⟩
    · next readable =>
      split
      · next unparsed => exact .inl ⟨_, rfl, .malformed found readable unparsed⟩
      · next parsed =>
        split
        · next refuted => exact .inl ⟨_, rfl, .invalid found readable parsed refuted⟩
        · next valid => exact .inr ⟨_, rfl, .written found readable parsed valid⟩

theorem LoadFault.load_eq {e : Failure} (h : LoadFault files start e) :
    load files start = .error e := by
  cases h with
  | unreadable found unread => simp only [load, found, read, unread, Except.map]
  | malformed found readable unparsed =>
    simp only [load, found, read, readable, unparsed, Except.map]
  | invalid found readable parsed refuted =>
    simp only [load, found, read, readable, parsed, refuted, Except.map]

theorem IsFor.load_eq {config : Config} (h : IsFor files start config) :
    load files start = .ok ⟨config, find files start⟩ := by
  cases h with
  | written found readable parsed valid =>
    simp only [load, found, read, readable, parsed, valid, Except.map]
  | default missing => simp only [load, missing]

/-- Settings that are loaded have been validated, so their ignored paths are patterns. -/
theorem IsFor.exists_ignoreGlobs {config : Config} (h : IsFor files start config) :
    ∃ ignores, config.ignoreGlobs = .ok ignores := by
  cases h with
  | written _ _ _ valid =>
    unfold validate at valid
    split at valid
    · cases valid
    · next ignores heq => exact ⟨ignores, heq⟩
  | default => exact ⟨[], rfl⟩

end FirmwareKit.Config
