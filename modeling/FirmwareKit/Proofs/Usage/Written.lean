import FirmwareKit.Proofs.Text.Lines
import FirmwareKit.Proofs.Usage.Extraction

/-! Lines that are written from calls. A line is put together from gaps and from calls with
plain keys, and neither a gap nor a key has a quote in it. The first quote behind any place of a
gap is then the one that opens the next key, and what stands in front of it ends in the name of
that call and white space, so the name can be read there in one way only: no call starts in a gap,
whatever parts of the name stand in it. The scanner finds the calls that were written. -/

namespace FirmwareKit.Usage

open Text

/-- A call as it is written: a key without quotes, and the white space around the parentheses. -/
structure Written where
  beforeOpening : List Char
  afterOpening : List Char
  key : List Char
  beforeClosing : List Char
  blank_beforeOpening : Blanks beforeOpening
  blank_afterOpening : Blanks afterOpening
  plain : '"' ∉ key
  blank_beforeClosing : Blanks beforeClosing

/-- The text of a call. -/
def Written.text (name : List Char) (w : Written) : List Char :=
  name ++ w.beforeOpening ++ '(' :: w.afterOpening ++ '"' :: w.key ++ '"' :: w.beforeClosing ++
    [')']

/-- A call and the gap in front of it. -/
structure Segment where
  gap : List Char
  call : Written
  plain : '"' ∉ gap

/-- The text of segments, and what follows the last call. -/
def assemble (name : List Char) : List Segment → List Char → List Char
  | [], last => last
  | p :: segments, last => p.gap ++ (p.call.text name ++ assemble name segments last)

/-! ### Where a call can start -/

variable {name : List Char}

theorem blanks_nil : Blanks [] := List.forall_mem_nil _

theorem Blanks.append {w w' : List Char} (h : Blanks w) (h' : Blanks w') : Blanks (w ++ w') :=
  fun c hc => (List.mem_append.1 hc).elim (h c) (h' c)

theorem Blanks.not_mem {w : List Char} (h : Blanks w) {c : Char} (hc : isBlank c = false) :
    c ∉ w := by
  intro hmem
  rw [h c hmem] at hc
  cases hc

/-- Where a character is first, the text in front of it ends. -/
theorem append_cons_inj {a b s t : List Char} {c : Char} (ha : c ∉ a) (hb : c ∉ b)
    (h : a ++ c :: s = b ++ c :: t) : a = b ∧ s = t := by
  rcases List.append_eq_append_iff.1 h with ⟨more, rfl, h⟩ | ⟨more, rfl, h⟩ <;>
    cases more <;> simp_all

/-- White space at the end of a text is told apart from what stands in front of it. -/
theorem append_cons_inj_of_blanks {a b w w' : List Char} {c : Char} (hc : isBlank c = false)
    (hw : Blanks w) (hw' : Blanks w') (h : a ++ c :: w = b ++ c :: w') : a = b ∧ w = w' := by
  have hreverse : w.reverse ++ c :: a.reverse = w'.reverse ++ c :: b.reverse := by
    simpa using congrArg List.reverse h
  have hmem : c ∉ w.reverse := fun h => hw.not_mem hc (List.mem_reverse.1 h)
  have hmem' : c ∉ w'.reverse := fun h => hw'.not_mem hc (List.mem_reverse.1 h)
  obtain ⟨hspaces, hfront⟩ := append_cons_inj hmem hmem' hreverse
  exact ⟨List.reverse_inj.1 hfront, List.reverse_inj.1 hspaces⟩

/-- A name that is not blank has a last character that is no white space. -/
theorem exists_last_not_blank (h : ∃ c ∈ name, isBlank c = false) :
    ∃ front c back, name = front ++ c :: back ∧ isBlank c = false ∧ Blanks back := by
  induction name with
  | nil => simp at h
  | cons d name ih =>
    by_cases hname : ∃ c ∈ name, isBlank c = false
    · obtain ⟨front, c, back, rfl, hc, hback⟩ := ih hname
      exact ⟨d :: front, c, back, rfl, hc, hback⟩
    · have hblanks : Blanks name := by simpa [Blanks] using hname
      obtain ⟨c, hmem, hc⟩ := h
      rcases List.mem_cons.1 hmem with rfl | hmem
      · exact ⟨[], c, name, rfl, hc, hblanks⟩
      · exact absurd ⟨c, hmem, hc⟩ hname

/-- In front of the quote of a call, its name is read in one way only. -/
theorem eq_nil_of_head_eq (hname : ∃ c ∈ name, isBlank c = false) {back u₁ u₂ w₁ w₂ : List Char}
    (hu₁ : Blanks u₁) (hu₂ : Blanks u₂) (hw₁ : Blanks w₁) (hw₂ : Blanks w₂)
    (h : back ++ (name ++ u₁ ++ '(' :: u₂) = name ++ w₁ ++ '(' :: w₂) : back = [] := by
  obtain ⟨front, c, rest, rfl, hc, hrest⟩ := exists_last_not_blank hname
  rw [← List.append_assoc] at h
  obtain ⟨hnames, -⟩ := append_cons_inj_of_blanks (by decide) hu₂ hw₂ h
  have hends : back ++ front ++ c :: (rest ++ u₁) = front ++ c :: (rest ++ w₁) := by
    simpa using hnames
  obtain ⟨hfront, -⟩ := append_cons_inj_of_blanks hc (hrest.append hu₁) (hrest.append hw₁) hends
  exact List.append_left_eq_self.1 hfront

theorem call?_eq_none_iff {s : List Char} :
    call? name s = none ↔ ∀ key rest, ¬ Starts name s key rest := by
  refine ⟨call?_eq_none, fun h => Option.eq_none_iff_forall_ne_some.2 ?_⟩
  rintro ⟨key, rest⟩ hcall
  exact h key rest (starts_of_call? hcall).1

/-- No call starts in a gap in front of a call. -/
theorem call?_gap (hname : ∃ c ∈ name, isBlank c = false) (hquote : '"' ∉ name) (w : Written)
    {back : List Char} (hback : '"' ∉ back) (hne : back ≠ []) (rest : List Char) :
    call? name (back ++ (w.text name ++ rest)) = none := by
  rw [call?_eq_none_iff]
  rintro key rest' ⟨_, ⟨w₁, w₂, w₃, hw₁, hw₂, -, rfl⟩, h⟩
  have hmem {a b : List Char} (ha : Blanks a) (hb : Blanks b) : '"' ∉ name ++ a ++ '(' :: b := by
    simp [hquote, ha.not_mem (show isBlank '"' = false by decide),
      hb.not_mem (show isBlank '"' = false by decide)]
  have hgap := hmem w.blank_beforeOpening w.blank_afterOpening
  have hheads : back ++ (name ++ w.beforeOpening ++ '(' :: w.afterOpening) ++
      '"' :: (w.key ++ '"' :: w.beforeClosing ++ ')' :: rest) =
        name ++ w₁ ++ '(' :: w₂ ++ '"' :: (key ++ '"' :: w₃ ++ ')' :: rest') := by
    simpa [Written.text] using h
  obtain ⟨heq, -⟩ :=
    append_cons_inj (List.mem_append.not.2 (not_or.2 ⟨hback, hgap⟩)) (hmem hw₁ hw₂) hheads
  exact hne (eq_nil_of_head_eq hname w.blank_beforeOpening w.blank_afterOpening hw₁ hw₂ heq)

/-- Where no quote follows, no call starts. -/
theorem call?_of_not_mem {s : List Char} (h : '"' ∉ s) : call? name s = none := by
  rw [call?_eq_none_iff]
  rintro key rest ⟨_, ⟨w₁, w₂, w₃, -, -, -, rfl⟩, rfl⟩
  simp at h

/-- A key without quotes ends at the first quote. -/
theorem key?_plain {key w : List Char} (hkey : '"' ∉ key) (hw : Blanks w) (rest : List Char) :
    key? (key ++ '"' :: (w ++ ')' :: rest)) = some (key, rest) := by
  induction key with
  | nil =>
    have hclosing : closing? (w ++ ')' :: rest) = some rest :=
      closing?_eq_some_iff.2 ⟨w, hw, rfl⟩
    simp [key?, hclosing]
  | cons c key ih =>
    obtain ⟨hc, hkey⟩ := not_or.1 (List.mem_cons.not.1 hkey)
    simp [key?, Ne.symm hc, ih hkey]

/-- A written call is found where it starts. -/
theorem call?_text (name : List Char) (w : Written) (rest : List Char) :
    call? name (w.text name ++ rest) = some (w.key, rest) := by
  have hafter : after? name (w.text name ++ rest) = some (w.beforeOpening ++
      '(' :: w.afterOpening ++ '"' :: (w.key ++ '"' :: (w.beforeClosing ++ ')' :: rest))) := by
    rw [after?_eq_some_iff]
    simp [Written.text]
  rw [call?, hafter, Option.bind_some, opening?_eq_some_iff.2 ⟨_, _, w.blank_beforeOpening,
    w.blank_afterOpening, rfl⟩, Option.bind_some, key?_plain w.plain w.blank_beforeClosing]

/-! ### The calls of a written line -/

theorem calls_of_some {s key rest : List Char} (n : Nat) (h : call? name s = some (key, rest)) :
    calls name n s = (n, key) :: calls name (n + (s.length - rest.length)) rest := by
  rw [calls]
  split
  · next hcall =>
    rw [h] at hcall
    cases hcall
    rfl
  · next hcall =>
    rw [h] at hcall
    cases hcall

theorem calls_nil (n : Nat) : calls name n [] = [] := by
  rw [calls]
  split
  · next hcall => simp [call?_of_not_mem] at hcall
  · rfl

theorem calls_cons_of_none {c : Char} {s : List Char} (n : Nat) (h : call? name (c :: s) = none) :
    calls name n (c :: s) = calls name (n + 1) s := by
  rw [calls]
  split
  · next hcall =>
    rw [h] at hcall
    cases hcall
  · rfl

/-- A gap in which no call starts is passed over. -/
theorem calls_append_of_none {gap s : List Char} (n : Nat)
    (h : ∀ back, back <:+ gap → back ≠ [] → call? name (back ++ s) = none) :
    calls name n (gap ++ s) = calls name (n + gap.length) s := by
  induction gap generalizing n with
  | nil => rfl
  | cons c gap ih =>
    have hfirst : call? name (c :: (gap ++ s)) = none := h _ List.suffix_rfl (by simp)
    rw [List.cons_append, calls_cons_of_none n hfirst,
      ih _ fun back hback => h back (hback.trans (List.suffix_cons c gap)), List.length_cons,
      Nat.add_assoc, Nat.add_comm 1]

/-- The scanner finds the written calls, each behind the text that stands in front of it. -/
theorem calls_assemble (hname : ∃ c ∈ name, isBlank c = false) (hquote : '"' ∉ name)
    (segments : List Segment) {last : List Char} (hlast : '"' ∉ last) (n : Nat) :
    calls name n (assemble name segments last) =
      segments.mapIdx fun i p =>
        (n + (assemble name (segments.take i) p.gap).length, p.call.key) := by
  induction segments generalizing n with
  | nil =>
    have hnone : calls name n (last ++ []) = calls name (n + last.length) [] :=
      calls_append_of_none n fun back hback _ =>
        call?_of_not_mem (by simpa using fun h => hlast (hback.subset h))
    rw [List.append_nil] at hnone
    rw [assemble, hnone, calls_nil, List.mapIdx_nil]
  | cons p segments ih =>
    have hgap := calls_append_of_none (s := p.call.text name ++ assemble name segments last) n
      fun back hback hne =>
        call?_gap hname hquote p.call (fun h => p.plain (hback.subset h)) hne _
    rw [assemble, hgap, calls_of_some _ (call?_text name p.call _), ih, List.mapIdx_cons]
    simp [assemble, Nat.add_assoc]

end FirmwareKit.Usage

namespace FirmwareKit

open Text Usage

/-- The uses on a line that is written from calls are these calls, with their keys as they are
written and in their order, each at the column behind the text in front of it. Gaps and keys may
hold the call name, parts of it or parentheses. -/
theorem Extractor.usages_written (e : Extractor) (file : String) (segments : List Segment)
    {last : List Char} (hname : ∃ c ∈ e.callName.toList, isBlank c = false)
    (hquote : '"' ∉ e.callName.toList) (hlast : '"' ∉ last)
    (hline : '\n' ∉ assemble e.callName.toList segments last)
    (hmarker : ¬ e.marker.toList <:+: assemble e.callName.toList segments last) :
    e.usages file (String.ofList (assemble e.callName.toList segments last)) =
      segments.mapIdx fun i p =>
        ⟨String.ofList p.call.key,
          ⟨⟨file, 1, (assemble e.callName.toList (segments.take i) p.gap).length + 1⟩,
            String.ofList (assemble e.callName.toList segments last)⟩⟩ := by
  set line := assemble e.callName.toList segments last with hdef
  have hfound := calls_assemble hname hquote segments hlast 0
  rw [← hdef] at hfound
  rw [usages, String.toList_ofList]
  by_cases hne : line = []
  · -- nothing is written on an empty line
    have hsegments : segments = [] := by
      cases segments with
      | nil => rfl
      | cons p segments =>
        rw [hdef, assemble] at hne
        simp [Written.text] at hne
    rw [hne, hsegments]
    rfl
  · rw [Text.lines_of_not_mem hne hline, onLines, onLines, List.append_nil, onLine,
      if_neg (e.isExempt_iff.not.2 hmarker), hfound, List.mapIdx_eq_zipIdx_map,
      List.mapIdx_eq_zipIdx_map, List.map_map]
    simp only [Nat.zero_add]
    rfl

/-- A call name that overlaps itself and holds a parenthesis. -/
def knotted : Extractor where
  callName := "f(f"
  marker := "skip"

/-- Gaps and keys that hold the name, parts of it and parentheses. -/
def knottedSegments : List Segment :=
  [{ gap := "é f(f(f(".toList
     call :=
      { beforeOpening := [' ']
        afterOpening := []
        key := "f(f(".toList
        beforeClosing := ['\t']
        blank_beforeOpening := by simp [Blanks]; decide
        blank_afterOpening := by simp [Blanks]
        plain := by decide
        blank_beforeClosing := by simp [Blanks]; decide }
     plain := by decide },
   { gap := "f(".toList
     call :=
      { beforeOpening := []
        afterOpening := []
        key := ['再']
        beforeClosing := []
        blank_beforeOpening := by simp [Blanks]
        blank_afterOpening := by simp [Blanks]
        plain := by decide
        blank_beforeClosing := by simp [Blanks] }
     plain := by decide }]

/-- The line of the segments. -/
def knottedLine : String := "é f(f(f(f(f (\"f(f(\"\t)f(f(f(\"再\")f(f("

theorem usages_written_knotted :
    (∃ c ∈ knotted.callName.toList, isBlank c = false) ∧ '"' ∉ knotted.callName.toList ∧
      '"' ∉ "f(f(".toList ∧
      '\n' ∉ assemble knotted.callName.toList knottedSegments "f(f(".toList ∧
      ¬ knotted.marker.toList <:+: assemble knotted.callName.toList knottedSegments "f(f(".toList ∧
      knotted.usages "m" knottedLine =
        [⟨"f(f(", ⟨⟨"m", 1, 9⟩, knottedLine⟩⟩, ⟨"再", ⟨⟨"m", 1, 24⟩, knottedLine⟩⟩] := by
  have hname : ∃ c ∈ knotted.callName.toList, isBlank c = false := ⟨'f', by decide, rfl⟩
  have hquote : '"' ∉ knotted.callName.toList := by decide
  have hlast : '"' ∉ "f(f(".toList := by decide
  have hline : '\n' ∉ assemble knotted.callName.toList knottedSegments "f(f(".toList := by decide
  have hmarker :
      ¬ knotted.marker.toList <:+: assemble knotted.callName.toList knottedSegments "f(f(".toList :=
    knotted.isExempt_iff.not.1 (by decide)
  have hfound := knotted.usages_written "m" knottedSegments hname hquote hlast hline hmarker
  have htext : String.ofList (assemble knotted.callName.toList knottedSegments "f(f(".toList) =
      knottedLine := by
    decide +kernel
  rw [htext] at hfound
  exact ⟨hname, hquote, hlast, hline, hmarker, hfound.trans (by decide +kernel)⟩

end FirmwareKit
