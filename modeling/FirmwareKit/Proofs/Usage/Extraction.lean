import Mathlib.Tactic.Choose
import FirmwareKit.Proofs.Usage.Reading

/-! Extraction of uses from the text of a file. The uses on a line without the
marker are its leftmost call readings, a line with the marker has none, and the
uses of a file come by line and then by column. -/

namespace FirmwareKit

open Text

theorem Text.occurs_iff {word s : List Char} : occurs word s ↔ word <:+: s := by
  induction s with
  | nil => simp [occurs]
  | cons c s ih =>
    rw [List.infix_cons_iff, ← ih, occurs, Bool.or_eq_true, Option.isSome_iff_exists]
    simp only [after?_eq_some_iff, List.IsPrefix, eq_comm (a := c :: s)]

/-- Earlier in a file: on an earlier line, or on the same line and further left. -/
def Location.Before (a b : Location) : Prop :=
  a.line < b.line ∨ a.line = b.line ∧ a.column < b.column

/-- The use that a reading of a line stands for. -/
def Usage.Reading.usage (r : Usage.Reading) (file : String) (number : Nat) (line : List Char) :
    Usage :=
  ⟨String.ofList r.key, ⟨⟨file, number, r.start + 1⟩, String.ofList line⟩⟩

namespace Extractor

open Usage

variable (e : Extractor) (file : String)

theorem isExempt_iff {line : List Char} : e.isExempt line ↔ e.marker.toList <:+: line :=
  occurs_iff

/-- The readings that make the uses on a line: all leftmost ones, or none on an exempt line. -/
def IsFound (line : List Char) (rs : List Reading) : Prop :=
  if e.isExempt line then rs = [] else Leftmost e.callName.toList line 0 rs

theorem IsFound.unique {e : Extractor} {line : List Char} {rs rs' : List Reading}
    (h : e.IsFound line rs) (h' : e.IsFound line rs') : rs = rs' := by
  unfold IsFound at h h'
  split at h
  · rw [if_pos ‹_›] at h'
    rw [h, h']
  · rw [if_neg ‹_›] at h'
    exact h.unique h'

theorem exists_isFound (number : Nat) (line : List Char) :
    ∃ rs, e.IsFound line rs ∧ e.onLine file number line = rs.map (·.usage file number line) := by
  unfold IsFound onLine
  split
  · exact ⟨[], rfl, rfl⟩
  · obtain ⟨rs, hrs, hmap⟩ := exists_leftmost_calls e.callName.toList line 0 line (by simp) rfl
    refine ⟨rs, hrs, ?_⟩
    rw [hmap, List.map_map]
    rfl

/-- The uses on a line, from its readings. -/
theorem onLine_eq {number : Nat} {line : List Char} {rs : List Reading} (h : e.IsFound line rs) :
    e.onLine file number line = rs.map (·.usage file number line) := by
  obtain ⟨rs', hrs', hmap⟩ := e.exists_isFound file number line
  rw [hmap, h.unique hrs']

theorem onLines_eq (number : Nat) (ls : List (List Char)) :
    e.onLines file number ls =
      (ls.zipIdx number).flatMap fun (line, n) => e.onLine file n line := by
  induction ls generalizing number with
  | nil => rfl
  | cons line ls ih => rw [onLines, ih, List.zipIdx_cons, List.flatMap_cons]

theorem usages_eq (content : String) :
    e.usages file content =
      ((lines content.toList).zipIdx 1).flatMap fun (line, n) => e.onLine file n line :=
  e.onLines_eq file 1 _

/-- A use is found where a reading of an unexempt line is one of the leftmost. -/
theorem mem_usages_iff {content : String} {u : Usage} :
    u ∈ e.usages file content ↔
      ∃ i line rs r, (lines content.toList)[i]? = some line ∧ ¬ e.marker.toList <:+: line ∧
        Leftmost e.callName.toList line 0 rs ∧ r ∈ rs ∧ u = r.usage file (i + 1) line := by
  rw [usages_eq, List.mem_flatMap]
  constructor
  · rintro ⟨⟨line, n⟩, hmem, hu⟩
    obtain ⟨hle, hline⟩ := List.mk_mem_zipIdx_iff_le_and_getElem?_sub.1 hmem
    obtain ⟨rs, hrs, hmap⟩ := e.exists_isFound file n line
    change u ∈ e.onLine file n line at hu
    rw [hmap, List.mem_map] at hu
    obtain ⟨r, hr, rfl⟩ := hu
    unfold IsFound at hrs
    split at hrs
    · simp [hrs] at hr
    · next hne =>
      refine ⟨n - 1, line, rs, r, hline, e.isExempt_iff.not.1 hne, hrs, hr, ?_⟩
      rw [Nat.sub_add_cancel hle]
  · rintro ⟨i, line, rs, r, hline, hne, hrs, hr, rfl⟩
    refine ⟨(line, i + 1), ?_, ?_⟩
    · rw [List.mk_mem_zipIdx_iff_le_and_getElem?_sub]
      exact ⟨by omega, hline⟩
    · have hfound : e.IsFound line rs := by
        rw [IsFound, if_neg (e.isExempt_iff.not.2 hne)]
        exact hrs
      show r.usage file (i + 1) line ∈ e.onLine file (i + 1) line
      rw [e.onLine_eq file hfound]
      exact List.mem_map_of_mem hr

theorem line_of_mem_onLine {number : Nat} {line : List Char} {u : Usage}
    (hu : u ∈ e.onLine file number line) : u.context.location.line = number := by
  obtain ⟨rs, -, hmap⟩ := e.exists_isFound file number line
  rw [hmap, List.mem_map] at hu
  obtain ⟨r, -, rfl⟩ := hu
  rfl

/-- On one line the columns increase, since readings are not empty and do not overlap. -/
theorem onLine_pairwise (number : Nat) (line : List Char) :
    (e.onLine file number line).Pairwise
      fun u v => u.context.location.column < v.context.location.column := by
  obtain ⟨rs, hrs, hmap⟩ := e.exists_isFound file number line
  rw [hmap, List.pairwise_map]
  unfold IsFound at hrs
  split at hrs
  · simp [hrs]
  · refine hrs.apart.imp_of_mem fun {r r'} hr _ hstop => ?_
    have := (hrs.readings r hr).start_lt_stop
    show r.start + 1 < r'.start + 1
    omega

/-- The uses of a file come by line and then by column. -/
theorem usages_ordered (content : String) :
    (e.usages file content).Pairwise fun u v => u.context.location.Before v.context.location := by
  rw [usages_eq, List.pairwise_flatMap]
  constructor
  · rintro ⟨line, n⟩ -
    refine (e.onLine_pairwise file n line).imp_of_mem fun hu hv hlt => Or.inr ⟨?_, hlt⟩
    rw [e.line_of_mem_onLine file hu, e.line_of_mem_onLine file hv]
  · have hlt : (((lines content.toList).zipIdx 1).map Prod.snd).Pairwise (· < ·) := by
      rw [List.zipIdx_map_snd]
      exact List.pairwise_lt_range'
    refine (List.pairwise_map.1 hlt).imp fun {p q} hpq u hu v hv => Or.inl ?_
    rw [e.line_of_mem_onLine file hu, e.line_of_mem_onLine file hv]
    exact hpq

/-- The uses of a file are, line by line, the one list of leftmost call readings of every line
without the marker: each has the shortest key of its place, none overlaps another and no reading
starts in a gap. They come by line and then by column. -/
theorem usages_leftmost (content : String) :
    ∃ found : List Char → List Reading,
      (∀ line, e.marker.toList <:+: line → found line = []) ∧
      (∀ line, ¬ e.marker.toList <:+: line →
        ∀ rs, Leftmost e.callName.toList line 0 rs ↔ rs = found line) ∧
      e.usages file content =
        ((lines content.toList).zipIdx 1).flatMap
          (fun (line, number) => (found line).map (·.usage file number line)) ∧
      (e.usages file content).Pairwise fun u v => u.context.location.Before v.context.location := by
  choose found hfound hline using e.exists_isFound file 1
  refine ⟨found, fun line hmark => ?_, fun line hmark rs => ?_, ?_, e.usages_ordered file content⟩
  · have h := hfound line
    rwa [IsFound, if_pos (e.isExempt_iff.2 hmark)] at h
  · have h := hfound line
    rw [IsFound, if_neg (e.isExempt_iff.not.2 hmark)] at h
    exact ⟨fun hrs => hrs.unique h, fun hrs => hrs ▸ h⟩
  · rw [usages_eq]
    congr 1
    funext ⟨line, number⟩
    exact e.onLine_eq file (hfound line)

end Extractor

end FirmwareKit
