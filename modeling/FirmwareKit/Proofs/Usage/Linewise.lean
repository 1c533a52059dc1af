import FirmwareKit.Proofs.Usage.Plain
import FirmwareKit.Proofs.Usage.Written

/-! Extraction line by line. The uses of a text that follows a newline are found as in the text
alone, as many lines further down as there are newlines in front of it. How lines end makes no
difference, and a use depends on its own line only. -/

namespace FirmwareKit

open Text

/-- The use so many lines further down. -/
def Usage.down (n : Nat) (u : Usage) : Usage :=
  { u with context.location.line := u.context.location.line + n }

/-- A key is a part of the line that it is read from. -/
theorem Usage.IsReading.key_subset {name line : List Char} {r : Reading}
    (h : IsReading name line r) : r.key ⊆ line := by
  obtain ⟨w₁, w₂, w₃, -, -, -, htext⟩ := h.spells
  intro c hc
  have hmem : c ∈ (line.drop r.start).take (r.stop - r.start) := by
    rw [htext]
    simp [hc]
  exact List.mem_of_mem_drop (List.mem_of_mem_take hmem)

namespace Extractor

variable (e : Extractor) (file : String)

theorem onLine_add (number n : Nat) (line : List Char) :
    e.onLine file (number + n) line = (e.onLine file number line).map (Usage.down n) := by
  unfold onLine
  split
  · rfl
  · rw [List.map_map]
    rfl

theorem onLines_add (number n : Nat) (ls : List (List Char)) :
    e.onLines file (number + n) ls = (e.onLines file number ls).map (Usage.down n) := by
  induction ls generalizing number with
  | nil => rfl
  | cons line ls ih =>
    rw [onLines, onLines, onLine_add, Nat.add_right_comm, ih, List.map_append]

theorem onLines_append (number : Nat) (ls ls' : List (List Char)) :
    e.onLines file number (ls ++ ls') =
      e.onLines file number ls ++ e.onLines file (number + ls.length) ls' := by
  induction ls generalizing number with
  | nil => rfl
  | cons line ls ih =>
    rw [List.cons_append, onLines, onLines, ih, List.append_assoc, List.length_cons,
      Nat.add_right_comm, Nat.add_assoc]

theorem usages_append {a : String} (h : EndsLine a.toList) (b : String) :
    e.usages file (a ++ b) =
      e.usages file a ++ (e.usages file b).map (Usage.down (a.toList.count '\n')) := by
  obtain ⟨happend, hlength⟩ := h.lines_append b.toList
  rw [usages, String.toList_append, happend, onLines_append, onLines_add, hlength]
  rfl

theorem usages_withReturns {text : String} (h : ¬ ['\r', '\n'] <:+: text.toList) :
    e.usages file (String.ofList (withReturns text.toList)) = e.usages file text := by
  rw [usages, String.toList_ofList, lines_withReturns h]
  rfl

/-- The uses of a text without newlines are those on its line. -/
theorem usages_of_not_mem {line : List Char} (h : '\n' ∉ line) :
    e.usages file (String.ofList line) = e.onLine file 1 line := by
  rw [usages, String.toList_ofList]
  by_cases hne : line = []
  · simp [hne, onLines, onLine, Usage.calls_nil]
  · rw [lines_of_not_mem hne h, onLines, onLines, List.append_nil]

/-- A use is found on a line as it is found in that line alone. -/
theorem mem_usages_iff_line {content : String} {u : Usage} :
    u ∈ e.usages file content ↔ ∃ i line, (lines content.toList)[i]? = some line ∧
      ∃ v ∈ e.usages file (String.ofList line), v.down i = u := by
  have hline {line : List Char} {i : Nat} (h : (lines content.toList)[i]? = some line) :
      e.onLine file (i + 1) line = (e.usages file (String.ofList line)).map (Usage.down i) := by
    rw [e.usages_of_not_mem file (not_mem_of_mem_lines (List.mem_of_getElem? h)), Nat.add_comm,
      onLine_add]
  rw [usages_eq, List.mem_flatMap]
  constructor
  · rintro ⟨⟨line, n⟩, hmem, hu⟩
    obtain ⟨hle, hget⟩ := List.mk_mem_zipIdx_iff_le_and_getElem?_sub.1 hmem
    change u ∈ e.onLine file n line at hu
    rw [← Nat.sub_add_cancel hle, hline hget, List.mem_map] at hu
    exact ⟨n - 1, line, hget, hu⟩
  · rintro ⟨i, line, hget, hu⟩
    refine ⟨(line, i + 1), ?_, ?_⟩
    · rw [List.mk_mem_zipIdx_iff_le_and_getElem?_sub]
      exact ⟨by omega, hget⟩
    · show u ∈ e.onLine file (i + 1) line
      rw [hline hget, List.mem_map]
      exact hu

/-- No use spans a newline. -/
theorem newline_not_mem_of_mem_usages {content : String} {u : Usage}
    (h : u ∈ e.usages file content) :
    '\n' ∉ u.key.toList ∧ '\n' ∉ u.context.sourceLine.toList := by
  obtain ⟨i, line, rs, r, hget, -, hrs, hr, rfl⟩ := e.mem_usages_iff file |>.1 h
  have hline := not_mem_of_mem_lines (List.mem_of_getElem? hget)
  simp only [Usage.Reading.usage, String.toList_ofList]
  exact ⟨fun hkey => hline ((hrs.readings r hr).key_subset hkey), hline⟩

/-- Uses come line by line. A text behind a newline has its uses behind those in front of it, only
further down; carriage returns in front of all newlines change nothing, where there were none; and
every use is one of its own line alone, with no newline in its key or line. -/
theorem usages_linewise :
    (∀ a b : String, EndsLine a.toList → e.usages file (a ++ b) =
      e.usages file a ++ (e.usages file b).map (Usage.down (a.toList.count '\n'))) ∧
    (∀ text : String, ¬ ['\r', '\n'] <:+: text.toList →
      e.usages file (String.ofList (withReturns text.toList)) = e.usages file text) ∧
    ∀ (content : String) (u : Usage),
      (u ∈ e.usages file content ↔ ∃ i line, (lines content.toList)[i]? = some line ∧
        ∃ v ∈ e.usages file (String.ofList line), v.down i = u) ∧
      (u ∈ e.usages file content → '\n' ∉ u.key.toList ∧ '\n' ∉ u.context.sourceLine.toList) :=
  ⟨fun _ b h => e.usages_append file h b, fun _ h => e.usages_withReturns file h,
    fun _ _ => ⟨e.mem_usages_iff_line file, e.newline_not_mem_of_mem_usages file⟩⟩

/-- Lines that end in a newline alone; one has a carriage return in it, and a call spans two. -/
def brokenLines : String := "tr(\n\"a\")\n\rtr(\"b\")"

theorem usages_linewise_sample :
    EndsLine "x\r\ntr(\"a\")\n".toList ∧
      short.usages "m" ("x\r\ntr(\"a\")\n" ++ "\r\n tr(\"b\")\r") =
        [⟨"a", ⟨⟨"m", 2, 1⟩, "tr(\"a\")"⟩⟩, ⟨"b", ⟨⟨"m", 4, 2⟩, " tr(\"b\")\r"⟩⟩] ∧
      ¬ ['\r', '\n'] <:+: brokenLines.toList ∧
      short.usages "m" brokenLines = [⟨"b", ⟨⟨"m", 3, 2⟩, "\rtr(\"b\")"⟩⟩] ∧
      short.usages "m" (String.ofList (withReturns brokenLines.toList)) =
        [⟨"b", ⟨⟨"m", 3, 2⟩, "\rtr(\"b\")"⟩⟩] ∧
      '\n' ∉ "\rtr(\"b\")".toList := by
  have hends : EndsLine "x\r\ntr(\"a\")\n".toList := .inr (by decide)
  have hfree : ¬ ['\r', '\n'] <:+: brokenLines.toList := by decide +kernel
  have hfound : short.usages "m" brokenLines = [⟨"b", ⟨⟨"m", 3, 2⟩, "\rtr(\"b\")"⟩⟩] := by
    decide +kernel
  obtain ⟨happend, hreturns, hline⟩ := short.usages_linewise "m"
  exact ⟨hends, (happend _ _ hends).trans (by decide +kernel), hfree, hfound,
    (hreturns _ hfree).trans hfound,
    ((hline brokenLines _).2 (hfound ▸ List.mem_singleton_self _)).2⟩

end Extractor

end FirmwareKit
