import FirmwareKit.Proofs.Config.Loading
import FirmwareKit.Proofs.Path.Above

/-! Where the search for settings stops. It goes up from a path, one directory after the other,
to the first that holds a settings file or a repository. If that one has settings, they are
found; if it has only a repository, or if no directory stops the search, none are. -/

namespace FirmwareKit.Config

variable {files : Files} {dirs : List Path} {start : Path}

/-- The directory stops the search: it holds a settings file or a repository. -/
def stops (files : Files) (dir : Path) : Bool :=
  files.isThere (dir.join fileName) || files.isThere (dir.join ".git")

/-- The search gets to a directory, having gone up some times past directories that did not
stop it. -/
structure Reaches (files : Files) (start : Path) (n : Nat) (dir : Path) : Prop where
  up_eq : start.up n = some dir
  passed : ∀ m < n, ∀ below, start.up m = some below →
    files.isThere (below.join fileName) = false ∧ files.isThere (below.join ".git") = false

theorem stops_eq_false_iff {dir : Path} : stops files dir = false ↔
    files.isThere (dir.join fileName) = false ∧ files.isThere (dir.join ".git") = false := by
  rw [stops, Bool.or_eq_false_iff]

/-- The search looks for settings in the first directory that stops it. -/
theorem findIn_eq (files : Files) (dirs : List Path) :
    findIn files dirs = (dirs.find? (stops files)).bind fun dir =>
      if files.isThere (dir.join fileName) then some (dir.join fileName) else none := by
  induction dirs with
  | nil => rfl
  | cons dir dirs ih =>
    rw [findIn]
    split
    · next hfile => rw [List.find?_cons_of_pos (by simp [stops, hfile])]; simp [hfile]
    · next hfile =>
      split
      · next hgit => rw [List.find?_cons_of_pos (by simp [stops, hgit])]; simp [hfile]
      · next hgit => rw [List.find?_cons_of_neg (by simp [stops, hfile, hgit]), ih]

theorem find?_ancestors_eq_some_iff {dir : Path} :
    start.ancestors.find? (stops files) = some dir ↔
      ∃ n, Reaches files start n dir ∧ stops files dir = true := by
  rw [List.find?_eq_some_iff_getElem]
  constructor
  · rintro ⟨hstops, n, hn, hdir, hbefore⟩
    refine ⟨n, ⟨?_, fun m hm below hbelow => ?_⟩, hstops⟩
    · rw [← Path.getElem?_ancestors]
      exact List.getElem?_eq_some_iff.2 ⟨hn, hdir⟩
    · rw [← Path.getElem?_ancestors] at hbelow
      obtain ⟨-, rfl⟩ := List.getElem?_eq_some_iff.1 hbelow
      exact stops_eq_false_iff.1 (by simpa using hbefore m hm)
  · rintro ⟨n, h, hstops⟩
    obtain ⟨hn, hdir⟩ :=
      List.getElem?_eq_some_iff.1 ((start.getElem?_ancestors n).trans h.up_eq)
    refine ⟨hstops, n, hn, hdir, fun m hm => ?_⟩
    have hbelow : start.up m = some start.ancestors[m] := by
      rw [← Path.getElem?_ancestors, List.getElem?_eq_getElem]
    simpa using stops_eq_false_iff.2 (h.passed m hm _ hbelow)

theorem find?_ancestors_eq_none_iff :
    start.ancestors.find? (stops files) = none ↔
      ∀ n dir, start.up n = some dir →
        files.isThere (dir.join fileName) = false ∧ files.isThere (dir.join ".git") = false := by
  simp only [List.find?_eq_none, List.mem_iff_getElem?, Path.getElem?_ancestors,
    Bool.not_eq_true, stops_eq_false_iff]
  exact ⟨fun h n dir hdir => h dir ⟨n, hdir⟩, fun h dir ⟨n, hdir⟩ => h n dir hdir⟩

/-- A settings file is found just if the search reaches its directory. -/
theorem find_eq_some_iff {path : Path} : find files start = some path ↔
    ∃ n dir, Reaches files start n dir ∧ files.isThere (dir.join fileName) = true ∧
      path = dir.join fileName := by
  rw [find, findIn_eq, Option.bind_eq_some_iff]
  constructor
  · rintro ⟨dir, hstop, hfound⟩
    obtain ⟨n, hreaches, -⟩ := find?_ancestors_eq_some_iff.1 hstop
    split at hfound
    · next hfile => exact ⟨n, dir, hreaches, hfile, (Option.some.inj hfound).symm⟩
    · cases hfound
  · rintro ⟨n, dir, hreaches, hfile, rfl⟩
    refine ⟨dir, find?_ancestors_eq_some_iff.2 ⟨n, hreaches, by simp [stops, hfile]⟩, ?_⟩
    rw [if_pos hfile]

/-- No settings file is found just if a repository without settings stops the search, or nothing
does. -/
theorem find_eq_none_iff : find files start = none ↔
    (∃ n dir, Reaches files start n dir ∧ files.isThere (dir.join fileName) = false ∧
      files.isThere (dir.join ".git") = true) ∨
    ∀ n dir, start.up n = some dir →
      files.isThere (dir.join fileName) = false ∧ files.isThere (dir.join ".git") = false := by
  rw [find, findIn_eq, Option.bind_eq_none_iff]
  constructor
  · intro hnone
    cases hstop : start.ancestors.find? (stops files) with
    | none => exact .inr (find?_ancestors_eq_none_iff.1 hstop)
    | some dir =>
      obtain ⟨n, hreaches, hstops⟩ := find?_ancestors_eq_some_iff.1 hstop
      have hfile : files.isThere (dir.join fileName) = false := by
        simpa using hnone dir hstop
      refine .inl ⟨n, dir, hreaches, hfile, ?_⟩
      simpa [stops, hfile] using hstops
  · rintro (⟨n, dir, hreaches, hfile, hgit⟩ | hpassed) other hstop
    · have hdir : start.ancestors.find? (stops files) = some dir :=
        find?_ancestors_eq_some_iff.2 ⟨n, hreaches, by simp [stops, hgit]⟩
      obtain rfl := Option.some.inj (hdir.symm.trans hstop)
      simp [hfile]
    · rw [find?_ancestors_eq_none_iff.2 hpassed] at hstop
      cases hstop

/-- The search for settings goes up from any path, absolute or relative, as often as the path has
parts and at most to the root or the empty path. It finds the settings file of the first directory
that has one, unless a repository, but no settings, was passed in an earlier one; a repository in
the same directory does not hide it. It finds none just if such a repository stops it, or nothing
does. -/
theorem find_first_above (files : Files) (start : Path) :
    (∀ n, (∃ dir, start.up n = some dir) ↔ n ≤ (Path.parts start.text.toList).length) ∧
    (∀ n dir, start.up n = some dir →
      Path.parts dir.text.toList =
        (Path.parts start.text.toList).take ((Path.parts start.text.toList).length - n) ∧
      dir.text.toList <+: start.text.toList ∧ dir.isAbsolute = start.isAbsolute ∧
      (n = (Path.parts start.text.toList).length →
        dir = start ∨ dir.text = if start.isAbsolute then "/" else "")) ∧
    (∀ path, find files start = some path ↔
      ∃ n dir, Reaches files start n dir ∧ files.isThere (dir.join fileName) = true ∧
        path = dir.join fileName) ∧
    (find files start = none ↔
      (∃ n dir, Reaches files start n dir ∧ files.isThere (dir.join fileName) = false ∧
        files.isThere (dir.join ".git") = true) ∨
      ∀ n dir, start.up n = some dir →
        files.isThere (dir.join fileName) = false ∧ files.isThere (dir.join ".git") = false) := by
  refine ⟨start.exists_up_iff, fun n dir hdir => ?_, fun path => find_eq_some_iff,
    find_eq_none_iff⟩
  obtain ⟨hparts, htext, habsolute, hend⟩ := Path.up_parts hdir
  refine ⟨hparts, htext, habsolute, fun hn => hend ?_⟩
  rw [hparts, hn, Nat.sub_self, List.take_zero]

end FirmwareKit.Config
