import FirmwareKit.Files.Basic
import FirmwareKit.Proofs.Files.Tree

/-! What a path leads to. In a proper tree it is proper again, and where a path leads to
something in the end, its last name is an entry. -/

namespace FirmwareKit

theorem exists_of_map_eq_ok {ε α β : Type} {r : Except ε α} {f : α → β} {b : β}
    (h : r.map f = .ok b) : ∃ a, r = .ok a ∧ f a = b := by
  cases r with
  | error e => cases h
  | ok a => exact ⟨a, rfl, Except.ok.inj h⟩

theorem eq_error_of_map {ε α β : Type} {r : Except ε α} {f : α → β} {e : ε}
    (h : r.map f = .error e) : r = .error e := by
  cases r with
  | error e' => exact congrArg Except.error (Except.error.inj h)
  | ok a => cases h

/-- The bytes of a text spell the text. -/
theorem fromUTF8?_toByteArray (text : String) :
    String.fromUTF8? text.toByteArray = some text := by
  rw [String.fromUTF8?, dif_pos text.isValidUTF8]
  rfl

namespace Files

theorem proper_of_resolve {root n : Node} {aim : Aim} {links : Nat} {here names : List String}
    {pieces : List String} (hroot : root.Proper)
    (h : resolve root aim links here pieces = .ok (names, some n)) : n.Proper := by
  fun_induction resolve root aim links here pieces with
  | case1 _ here =>
    rw [Except.ok.injEq, Prod.mk.injEq] at h
    exact hroot.at? h.2
  | case10 _ _ _ _ _ _ _ bytes =>
    cases h
    exact .file bytes
  | case12 _ _ _ _ _ _ _ bytes =>
    cases h
    exact .unnamed bytes
  | case14 =>
    cases h
    exact .locked
  | case16 _ _ _ _ _ _ _ _ _ target =>
    cases h
    exact .link target
  | case2 _ _ _ ih | case3 _ _ _ ih | case4 _ _ _ ih => exact ih h
  | case9 _ _ _ _ _ _ _ _ _ _ _ ih => exact ih h
  | case19 _ _ _ _ _ _ _ _ _ _ _ _ _ ih => exact ih h
  | case5 | case6 | case7 | case8 | case11 | case13 | case15 | case17 | case18 => cases h

/-- Links on the way are followed for the entry as well; only the last one is not. -/
theorem resolve_entry {root n : Node} {links : Nat} {here names : List String}
    {pieces : List String} (h : resolve root .target links here pieces = .ok (names, some n)) :
    ∃ names' n', resolve root .entry links here pieces = .ok (names', some n') := by
  have hnew (rest : List String) :
      ¬ (decide (Aim.entry = .newFile) && rest != [] && rest.all (· == "")) = true := by simp
  fun_induction resolve root .target links here pieces with
  | case1 _ here =>
    rw [resolve]
    exact ⟨_, _, h⟩
  | case2 _ _ _ ih | case3 _ _ _ ih | case4 _ _ _ ih =>
    rw [resolve]
    exact ih h
  | case9 _ _ _ _ _ _ _ _ hlen _ hat ih =>
    rw [resolve, if_neg (hnew _), if_neg hlen, hat]
    · exact ih h
    all_goals assumption
  | case10 _ _ _ _ _ _ hlen _ hat | case12 _ _ _ _ _ _ hlen _ hat =>
    rw [resolve, if_neg (hnew _), if_neg hlen, hat]
    · exact ⟨_, _, rfl⟩
    all_goals assumption
  | case14 _ _ _ _ _ _ _ _ hlen hat hlast =>
    rw [resolve, if_neg (hnew _), if_neg hlen, hat]
    · exact ⟨_, _, if_pos hlast⟩
    all_goals assumption
  | case16 _ _ _ _ _ _ _ _ _ _ _ hentry => simp at hentry
  | case19 here name rest _ _ _ _ hlen target hat _ links hempty ih =>
    rw [resolve, if_neg (hnew _), if_neg hlen, hat]
    · by_cases hlast : rest = []
      · exact ⟨_, _, if_pos (by simp [hlast])⟩
      · obtain ⟨names', n', hentry⟩ := ih h
        refine ⟨names', n', ?_⟩
        rw [← hentry]
        simp [hlast, hempty]
    all_goals assumption
  | case5 | case6 | case7 | case8 | case11 | case13 | case15 | case17 | case18 => cases h

theorem start_of_isAbsolute {files : Files} {path : Path} (h : path.isAbsolute = true) :
    files.start path = .ok [] :=
  if_pos h

/-- A path is followed from the root, or from the working directory. -/
theorem eq_of_start {files : Files} {path : Path} {here : List String}
    (h : files.start path = .ok here) : here = if path.isAbsolute then [] else files.cwd := by
  unfold start at h
  split at h
  · next habsolute =>
    cases h
    rw [if_pos habsolute]
  · next hrelative =>
    rw [if_neg hrelative]
    split at h <;> cases h
    rfl

theorem start_congr {files : Files} {p q : Path} (h : q.isAbsolute = p.isAbsolute) :
    files.start q = files.start p := by
  rw [start, start, h]

/-- What leads somewhere has a start. -/
theorem start_of_locate {files : Files} {aim : Aim} {path : Path}
    {place : List String × Option Node} (h : files.locate aim path = .ok place) :
    files.start path = .ok (if path.isAbsolute then [] else files.cwd) := by
  unfold locate at h
  split at h
  · cases h
  split at h
  · cases h
  split at h
  · cases h
  cases hstart : files.start path with
  | error e =>
    rw [hstart] at h
    cases h
  | ok here => rw [eq_of_start hstart]

/-- A text that can be a path is followed, whatever for. -/
theorem locate_eq_resolve {files : Files} {aim : Aim} {path : Path}
    {place : List String × Option Node} (h : files.locate aim path = .ok place) (aim' : Aim) :
    files.locate aim' path =
      resolve files.root aim' maxLinks (if path.isAbsolute then [] else files.cwd)
        (piecesOf path.text) := by
  have hstart := start_of_locate h
  unfold locate at h ⊢
  by_cases hnul : path.text.toList.contains '\x00'
  · rw [if_pos hnul] at h
    cases h
  rw [if_neg hnul] at h ⊢
  by_cases hempty : path.text.isEmpty
  · rw [if_pos hempty] at h
    cases h
  rw [if_neg hempty] at h ⊢
  by_cases hlong : maxPath < path.text.utf8ByteSize
  · rw [if_pos hlong] at h
    cases h
  rw [if_neg hlong, hstart]

theorem eq_ok_of_toOption {ε α : Type} {r : Except ε α} {a : α} (h : r.toOption = some a) :
    r = .ok a := by
  cases r with
  | error e => cases h
  | ok b => exact congrArg Except.ok (Option.some.inj h)

theorem find_eq_ok {files : Files} {aim : Aim} {path : Path} {n : Node} :
    files.find aim path = .ok n ↔ ∃ names, files.locate aim path = .ok (names, some n) := by
  unfold find
  split
  · next hlocate => simp [hlocate]
  · next hlocate => simp [hlocate]
  · next hlocate => simp [hlocate, eq_comm]

theorem proper_of_find {files : Files} {aim : Aim} {path : Path} {n : Node}
    (hroot : files.root.Proper) (h : files.find aim path = .ok n) : n.Proper := by
  obtain ⟨names, hlocate⟩ := find_eq_ok.1 h
  rw [locate_eq_resolve hlocate] at hlocate
  exact proper_of_resolve hroot hlocate

theorem find_entry {files : Files} {path : Path} {n : Node} (h : files.find .target path = .ok n) :
    ∃ n', files.find .entry path = .ok n' := by
  obtain ⟨names, hlocate⟩ := find_eq_ok.1 h
  have hresolve := hlocate
  rw [locate_eq_resolve hlocate] at hresolve
  obtain ⟨names', n', hentry⟩ := resolve_entry hresolve
  refine ⟨n', find_eq_ok.2 ⟨names', ?_⟩⟩
  rw [locate_eq_resolve hlocate, hentry]

theorem isThere_iff_find {files : Files} {path : Path} :
    files.isThere path = true ↔ ∃ n, files.find .target path = .ok n := by
  rw [isThere]
  cases files.find .target path <;> simp [Except.toOption]

theorem readText_of_find {files : Files} {path : Path} {text : String}
    (h : files.find .target path = .ok (.file text.toByteArray)) :
    files.readText path = .ok text := by
  rw [readText, readBytes, h]
  simp only [fromUTF8?_toByteArray]

end Files

end FirmwareKit
