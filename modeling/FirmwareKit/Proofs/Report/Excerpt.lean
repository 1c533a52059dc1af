import FirmwareKit.Proofs.Report.Warnings
import FirmwareKit.Proofs.Usage.Linewise

/-! The excerpt of a verbose warning. A column is counted in characters by the scanner and shown in
columns of the terminal under the source line. As a use has its column from the number of
characters before its call, the caret stands under the call if the text of as many characters
has the width of the blanks in front of the caret. -/

namespace FirmwareKit

open Text

namespace Usage

/-- What stands before a reading is as long as its start says, and a call with its key follows. -/
theorem IsReading.split {name line : List Char} {r : Reading} (h : IsReading name line r) :
    (line.take r.start).length = r.start ∧
      ∃ more, Starts name (line.drop r.start) r.key more := by
  have hlt := h.start_lt_stop
  have hle := h.stop_le
  exact ⟨List.length_take_of_le (by omega), _, h.starts⟩

end Usage

namespace Extractor

variable {e : Extractor} {file content : String} {u : Usage}

/-- The column of a use counts the characters before a call with its key. -/
theorem exists_call_at_column (h : u ∈ e.usages file content) :
    ∃ before rest, u.context.sourceLine.toList = before ++ rest ∧
      u.context.location.column = before.length + 1 ∧
      ∃ more, Usage.Starts e.callName.toList rest u.key.toList more := by
  obtain ⟨i, line, rs, r, -, -, hrs, hr, rfl⟩ := (e.mem_usages_iff file).1 h
  obtain ⟨hlength, hstarts⟩ := (hrs.readings r hr).split
  refine ⟨line.take r.start, line.drop r.start, ?_, ?_, ?_⟩
  · rw [List.take_append_drop, Usage.Reading.usage, String.toList_ofList]
  · rw [hlength]
    rfl
  · simpa only [Usage.Reading.usage, String.toList_ofList] using hstarts

end Extractor

namespace Report

/-- The bar stands behind the number and a blank, or behind as many blanks. -/
theorem getElem?_bar {front : List Char} {width : Nat} (h : front.length = width)
    (rest : List Char) : (front ++ ' ' :: '|' :: rest)[width + 1]? = some '|' := by
  rw [List.getElem?_append_right (by omega), show width + 1 - front.length = 1 by omega]
  rfl

/-- The padding has the width of the text before the call. -/
theorem padding_eq {context : SourceContext} {before rest : List Char}
    (hline : context.sourceLine.toList = before ++ rest)
    (hcolumn : context.location.column = before.length + 1) : padding context = width before := by
  rw [padding, hline, hcolumn, Nat.add_sub_cancel, List.take_left]

/-- The three lines of an excerpt when the call stands behind some text that is not too wide. -/
theorem text_excerpt {context : SourceContext} {before rest : List Char}
    (hline : context.sourceLine.toList = before ++ rest)
    (hcolumn : context.location.column = before.length + 1)
    (hwidth : padding context ≤ maxPadding) :
    (excerpt context).flatMap Notice.text =
      [(blanks (toString context.location.line).length).toList ++ " |".toList,
       (toString context.location.line).toList ++ " | ".toList ++ context.sourceLine.toList,
       (blanks (toString context.location.line).length).toList ++ " | ".toList ++
         List.replicate (width before) ' ' ++ ['^']].flatMap (· ++ ['\n']) := by
  have hpaddable : isPaddable context = true := decide_eq_true hwidth
  rw [excerpt, if_pos hpaddable]
  simp only [pointer, padding_eq hline hcolumn, List.cons_append, List.nil_append,
    List.flatMap_cons, List.flatMap_nil, Notice.text_line, Piece.plain, Piece.tinted,
    String.toList_append, blanks, String.toList_ofList, List.append_assoc, List.append_nil]
  rfl

/-- A verbose report of one issue goes to the error stream, with the excerpt behind the warning. -/
theorem renderAll_issue (i : Issue) :
    Notice.renderAll .plain .output (issue true i) = "" ∧
      Notice.renderAll .plain .errors (issue true i) =
        String.ofList ((warning i).text ++ (excerpt i.context).flatMap Notice.text) := by
  rw [issue, if_pos rfl, excerpt]
  cases isPaddable i.context <;> exact ⟨rfl, rfl⟩

/-- The caret of a verbose warning stands under the call if it can be padded that far. Three lines
follow the warning, with their bars one under the other: an empty one, the source line behind its
number, and one with the caret behind blanks of the width of what stands before the call. -/
theorem excerpt_points_at_call (e : Extractor) (file content : String) (u : Usage)
    (h : u ∈ e.usages file content) (table : Path) (hwidth : padding u.context ≤ maxPadding) :
    ∃ (before rest : List Char) (number top middle bottom : String),
      u.context.sourceLine.toList = before ++ rest ∧
      u.context.location.column = before.length + 1 ∧
      (∃ more, Usage.Starts e.callName.toList rest u.key.toList more) ∧
      number = toString u.context.location.line ∧
      Notice.renderAll .plain .output (issue true ⟨u.key, table, u.context⟩) = "" ∧
      Notice.renderAll .plain .errors (issue true ⟨u.key, table, u.context⟩) =
        Notice.renderAll .plain .errors [warning ⟨u.key, table, u.context⟩] ++
          (top ++ "\n" ++ middle ++ "\n" ++ bottom ++ "\n") ∧
      (∀ line ∈ [top, middle, bottom],
        '\n' ∉ line.toList ∧ line.toList[number.length + 1]? = some '|') ∧
      top = blanks number.length ++ " |" ∧
      middle = number ++ " | " ++ u.context.sourceLine ∧
      bottom = blanks number.length ++ " | " ++ blanks (width before) ++ "^" := by
  obtain ⟨before, rest, hline, hcolumn, hcall⟩ := Extractor.exists_call_at_column h
  refine ⟨before, rest, _, _, _, _, hline, hcolumn, hcall, rfl, (renderAll_issue _).1, ?_, ?_,
    rfl, rfl, rfl⟩
  · rw [(renderAll_issue _).2, text_excerpt hline hcolumn hwidth]
    apply String.toList_inj.1
    simp [Notice.renderAll, warning, Notice.line, Notice.text, blanks]
  · have hblanks (n : Nat) : '\n' ∉ (blanks n).toList := by
      simp [blanks, List.mem_replicate]
    have hnumber : '\n' ∉ (toString u.context.location.line).toList :=
      fun hmem => absurd (isDigit_of_mem_toString hmem) (by decide)
    obtain ⟨-, hsource⟩ := e.newline_not_mem_of_mem_usages file h
    have hmargin : (blanks (toString u.context.location.line).length).toList.length =
        (toString u.context.location.line).length := by
      rw [blanks, String.toList_ofList, List.length_replicate]
    simp only [List.forall_mem_cons, String.toList_append, List.append_assoc, List.mem_append,
      not_or]
    refine ⟨⟨⟨hblanks _, by decide⟩, getElem?_bar hmargin _⟩,
      ⟨⟨hnumber, by decide, hsource⟩, getElem?_bar String.length_toList _⟩,
      ⟨⟨hblanks _, by decide, hblanks _, by decide⟩, getElem?_bar hmargin _⟩, by simp⟩

/-- Nine empty lines and one with two calls behind wide characters, which ends in a carriage
return. -/
def wideText : String := "\n\n\n\n\n\n\n\n\n再生 tr(\"a\")tr(\"b\")\r\r\n"

/-- The second call on the tenth line. -/
def wideUsage : Usage := ⟨"b", ⟨⟨"m", 10, 11⟩, "再生 tr(\"a\")tr(\"b\")\r"⟩⟩

theorem excerpt_points_at_call_wide :
    wideUsage ∈ (Extractor.mk "tr" "?").usages "m" wideText ∧
      Notice.renderAll .plain .errors (issue true ⟨"b", ⟨"/e"⟩, wideUsage.context⟩) =
        "Warning: Untranslated string 'b' missing in /e, first usage in m:10\n" ++
          ("   |\n" ++ "10 | 再生 tr(\"a\")tr(\"b\")\r\n" ++ "   |             ^\n") := by
  have hfound : wideUsage ∈ (Extractor.mk "tr" "?").usages "m" wideText := by decide +kernel
  have hwidth : padding wideUsage.context ≤ maxPadding := by decide +kernel
  obtain ⟨before, rest, number, top, middle, bottom, hline, hcolumn, -, hnumber, -, hprinted, -,
    htop, hmiddle, hbottom⟩ := excerpt_points_at_call _ _ _ wideUsage hfound ⟨"/e"⟩
    hwidth
  have hbefore : before = wideUsage.context.sourceLine.toList.take 10 := by
    rw [hline, List.take_left' (by simpa [wideUsage] using hcolumn.symm)]
  refine ⟨hfound, hprinted.trans ?_⟩
  rw [htop, hmiddle, hbottom, hnumber, hbefore]
  decide +kernel

end Report

end FirmwareKit
