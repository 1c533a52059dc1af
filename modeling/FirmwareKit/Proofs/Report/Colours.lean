import Mathlib.Data.List.Basic
import FirmwareKit.Host.Environment
import FirmwareKit.Proofs.Patch.Journey
import FirmwareKit.Proofs.Report.Warnings

/-! Colours change nothing but themselves. A style sequence is an escape character, a bracket
and what stands up to an `m`. Texts without an escape character bring no sequences along, so with
the sequences deleted a coloured report is the report without colours, and so are the lines of a
dry run. -/

namespace FirmwareKit

namespace Text

/-- What follows the first `m`, if all characters before it are of a class. -/
def behindEnd? (inside : Char → Bool) : List Char → Option (List Char)
  | [] => none
  | c :: rest => if c = 'm' then some rest else if inside c then behindEnd? inside rest else none

theorem length_of_behindEnd? {inside : Char → Bool} {s rest : List Char}
    (h : behindEnd? inside s = some rest) : rest.length < s.length := by
  induction s with
  | nil => cases h
  | cons c s ih =>
    rw [behindEnd?] at h
    rw [List.length_cons]
    split at h
    · cases h
      exact Nat.lt_succ_self _
    · split at h
      · exact Nat.lt_succ_of_lt (ih h)
      · cases h

/-- A text without its style sequences, in which characters of a class may stand. -/
def unstyled (inside : Char → Bool) : List Char → List Char
  | [] => []
  | '\x1b' :: '[' :: rest =>
    match _h : behindEnd? inside rest with
    | some behind => unstyled inside behind
    | none => '\x1b' :: '[' :: unstyled inside rest
  | c :: rest => c :: unstyled inside rest
termination_by s => s.length
decreasing_by
  · have := length_of_behindEnd? _h
    simp only [List.length_cons]
    omega
  all_goals
    simp only [List.length_cons]
    omega

/-- The text brings no sequences along. -/
def EscapeFree (text : String) : Prop :=
  '\x1b' ∉ text.toList

variable {inside : Char → Bool}

theorem unstyled_append_of_not_mem {s : List Char} (h : '\x1b' ∉ s) (t : List Char) :
    unstyled inside (s ++ t) = s ++ unstyled inside t := by
  induction s with
  | nil => rfl
  | cons c s ih =>
    obtain ⟨hc, hs⟩ := not_or.1 (List.mem_cons.not.1 h)
    rw [List.cons_append, unstyled, ih hs, List.cons_append]
    rintro rest rfl
    exact absurd rfl hc

theorem behindEnd?_append {code : List Char} (h : ∀ c ∈ code, c ≠ 'm' ∧ inside c = true)
    (t : List Char) : behindEnd? inside (code ++ 'm' :: t) = some t := by
  induction code with
  | nil => rfl
  | cons c code ih =>
    obtain ⟨⟨hm, hc⟩, hcode⟩ := List.forall_mem_cons.1 h
    rw [List.cons_append, behindEnd?, if_neg hm, if_pos hc, ih hcode]

theorem unstyled_sequence {code : List Char} (h : ∀ c ∈ code, c ≠ 'm' ∧ inside c = true)
    (t : List Char) :
    unstyled inside ('\x1b' :: '[' :: (code ++ 'm' :: t)) = unstyled inside t := by
  rw [unstyled, behindEnd?_append h]

theorem unstyled_flatMap {α : Type} {f g : α → List Char} {l : List α}
    (h : ∀ a ∈ l, ∀ t, unstyled inside (f a ++ t) = g a ++ unstyled inside t) (t : List Char) :
    unstyled inside (l.flatMap f ++ t) = l.flatMap g ++ unstyled inside t := by
  induction l with
  | nil => rfl
  | cons a l ih =>
    obtain ⟨ha, hl⟩ := List.forall_mem_cons.1 h
    rw [List.flatMap_cons, List.flatMap_cons, List.append_assoc, List.append_assoc, ha, ih hl]

/-! ### Texts without an escape character -/

instance (text : String) : Decidable (EscapeFree text) :=
  inferInstanceAs (Decidable (¬ _))

@[simp] theorem escapeFree_append {s t : String} :
    EscapeFree (s ++ t) ↔ EscapeFree s ∧ EscapeFree t := by
  simp [EscapeFree]

@[simp] theorem escapeFree_repr (n : Nat) : EscapeFree n.repr :=
  fun h => absurd (Report.isDigit_of_mem_toString h) (by decide)

@[simp] theorem escapeFree_blanks (n : Nat) : EscapeFree (Report.blanks n) := by
  simp [EscapeFree, Report.blanks, List.mem_replicate]

end Text

open Text

variable {inside : Char → Bool}

/-! ### Styled text -/

/-- The characters of colour codes are of the class. -/
def HoldsCodes (inside : Char → Bool) : Prop :=
  ∀ c, c.isDigit = true ∨ c = ';' → inside c = true

theorem Style.exists_start (s : Style) (full : Bool) :
    ∃ code, s.start full = '\x1b' :: '[' :: (code ++ ['m']) ∧
      ∀ c ∈ code, c.isDigit = true ∨ c = ';' := by
  have hcode : (((if s.bold then "1;" else "") ++ s.colour.code full).toList.all fun c =>
      c.isDigit || c == ';') = true := by
    obtain ⟨colour, bold⟩ := s
    cases colour <;> cases bold <;> cases full <;> rfl
  refine ⟨_, rfl, fun c hc => ?_⟩
  simpa using List.all_eq_true.1 hcode c hc

theorem HoldsCodes.unstyled_start (h : HoldsCodes inside) (s : Style) (full : Bool)
    (t : List Char) : unstyled inside (s.start full ++ t) = unstyled inside t := by
  obtain ⟨code, hstart, hcode⟩ := s.exists_start full
  rw [hstart, List.cons_append, List.cons_append, List.append_assoc, List.singleton_append]
  refine unstyled_sequence (fun c hc => ⟨?_, h c (hcode c hc)⟩) t
  rintro rfl
  exact absurd (hcode _ hc) (by decide)

theorem HoldsCodes.unstyled_reset (h : HoldsCodes inside) (t : List Char) :
    unstyled inside (styleReset ++ t) = unstyled inside t := by
  have hcode : ∀ c ∈ ['0'], c ≠ 'm' ∧ inside c = true := by simpa using h '0' (.inl rfl)
  exact unstyled_sequence hcode t

theorem restarting_of_not_mem {start s : List Char} (h : '\x1b' ∉ s) : restarting start s = s := by
  induction s with
  | nil => rfl
  | cons c s ih =>
    obtain ⟨hc, hs⟩ := not_or.1 (List.mem_cons.not.1 h)
    rw [restarting, ih hs]
    rintro rest rfl
    exact absurd rfl hc

theorem Piece.unstyled_render (h : HoldsCodes inside) (palette : Palette) {p : Piece}
    (hp : EscapeFree p.text) (t : List Char) :
    unstyled inside (p.render palette ++ t) = p.text.toList ++ unstyled inside t := by
  have hstyled (s : Style) (full : Bool) :
      unstyled inside (s.start full ++ restarting (s.start full) p.text.toList ++ styleReset ++ t) =
        p.text.toList ++ unstyled inside t := by
    -- there is no reset in the text after which the style would start again
    rw [List.append_assoc, List.append_assoc, h.unstyled_start, restarting_of_not_mem hp,
      unstyled_append_of_not_mem hp, h.unstyled_reset]
  obtain ⟨text, style⟩ := p
  cases style with
  | none => cases palette <;> exact unstyled_append_of_not_mem hp t
  | some s =>
    cases palette with
    | plain => exact unstyled_append_of_not_mem hp t
    | sixteen => exact hstyled s false
    | full => exact hstyled s true

namespace Notice

/-- No piece of the notice brings sequences along. -/
def IsClean (n : Notice) : Prop :=
  ∀ p ∈ n.pieces, EscapeFree p.text

@[simp] theorem isClean_line {stream : Stream} {pieces : List Piece} :
    (line stream pieces).IsClean ↔ ∀ p ∈ pieces, EscapeFree p.text := by
  have hnewline : EscapeFree "\n" := by decide
  simp [IsClean, line, Piece.plain, or_imp, forall_and, hnewline]

theorem IsClean.unstyled_render {n : Notice} (hn : n.IsClean) (h : HoldsCodes inside)
    (palette : Palette) (t : List Char) :
    unstyled inside (n.render palette ++ t) = n.text ++ unstyled inside t := by
  refine unstyled_flatMap (fun p hp t => ?_) t
  rw [Piece.unstyled_render h palette (hn p hp), Piece.render_plain]

/-- With a palette, notices say what they say without colours: the sequences deleted, the same
reaches each stream, and every notice says the same at its place. -/
structure SameText (inside : Char → Bool) (palette : Palette) (notices : List Notice) : Prop where
  stream_eq : ∀ stream,
    String.ofList (unstyled inside (renderAll palette stream notices).toList) =
      renderAll .plain stream notices
  map_eq : (notices.map fun n => (n.stream, unstyled inside (n.render palette))) =
    notices.map fun n => (n.stream, n.render .plain)

theorem sameText_of_isClean (h : HoldsCodes inside) (palette : Palette) {notices : List Notice}
    (hclean : ∀ n ∈ notices, n.IsClean) : SameText inside palette notices where
  stream_eq stream := by
    have hstream : ∀ n ∈ notices.filter (·.stream == stream), ∀ t,
        unstyled inside (n.render palette ++ t) = n.text ++ unstyled inside t := fun n hn =>
      (hclean n (List.mem_of_mem_filter hn)).unstyled_render h palette
    have hall := unstyled_flatMap hstream []
    rw [List.append_nil, unstyled, List.append_nil] at hall
    rw [renderAll, String.toList_ofList, hall]
    rfl
  map_eq := List.map_congr_left fun n hn => by
    have hrender := (hclean n hn).unstyled_render h palette []
    rw [List.append_nil, unstyled, List.append_nil] at hrender
    rw [hrender, text]

end Notice

/-! ### What is reported -/

/-- The text fields of an issue. -/
def Issue.texts (i : Issue) : List String :=
  [i.key, i.table.text, i.context.location.file, i.context.sourceLine]

/-- The text fields of a patch. -/
def Patch.Spec.texts (s : Patch.Spec) : List String :=
  [s.dependencyDir.text, s.target.text, s.patch.text, s.sentinel.text]

/-- The text fields of a summary. -/
def Summary.texts : Summary → List String
  | .check s => s.langDir.text :: s.issues.flatMap Issue.texts
  | .patch s => s.results.flatMap fun result => result.1.texts
  | .init path => [path.text]

namespace Report

theorem isClean_issue {i : Issue} (h : ∀ t ∈ i.texts, EscapeFree t) (verbose : Bool) :
    ∀ n ∈ issue verbose i, n.IsClean := by
  simp only [Issue.texts, List.forall_mem_cons] at h
  obtain ⟨hkey, htable, hfile, hsource, -⟩ := h
  have hwarning : (warning i).IsClean := by
    simp +decide [warning, Piece.tinted, hkey, htable, hfile]
  have hexcerpt : ∀ n ∈ excerpt i.context, n.IsClean := by
    simp +decide [excerpt, pointer, Piece.plain, Piece.tinted, hsource]
  refine List.forall_mem_cons.2 ⟨hwarning, ?_⟩
  cases verbose with
  | false => simp
  | true => exact hexcerpt

theorem isClean_check {s : CheckSummary} (hdir : EscapeFree s.langDir.text)
    (hissues : ∀ i ∈ s.issues, ∀ t ∈ i.texts, EscapeFree t) (verbose : Bool) :
    ∀ n ∈ check verbose s, n.IsClean := by
  intro n hn
  rw [check] at hn
  split at hn
  · obtain rfl := List.mem_singleton.1 hn
    simp +decide [langDirMissing, Piece.tinted, hdir]
  · rw [List.mem_append, List.mem_append] at hn
    rcases hn with (hn | hn) | hn
    · obtain ⟨i, hi, hn⟩ := exists_mem_of_mem_issues hn
      exact isClean_issue (hissues i hi) verbose n hn
    · split at hn
      · obtain rfl := List.mem_singleton.1 hn
        simp +decide [success, Piece.tinted]
      · cases hn
    · split at hn
      · obtain rfl := List.mem_singleton.1 hn
        simp +decide [statistics, Notice.say, Piece.plain]
      · cases hn

theorem isClean_done {text : String} (h : EscapeFree text) : (done text).IsClean := by
  simp +decide [done, Piece.plain, Piece.tinted, h]

theorem isClean_patched {s : Patch.Spec} (h : ∀ t ∈ s.texts, EscapeFree t) (verbose dryRun : Bool)
    (outcome : Patch.Outcome) : ∀ n ∈ patched verbose dryRun (s, outcome), n.IsClean := by
  simp only [Patch.Spec.texts, List.forall_mem_cons] at h
  obtain ⟨hdir, htarget, hpatch, -⟩ := h
  intro n hn
  cases outcome with
  | alreadyApplied =>
    rw [patched] at hn
    split at hn
    · obtain rfl := List.mem_singleton.1 hn
      simp +decide [Notice.say, Piece.plain, hdir]
    · cases hn
  | applied =>
    rw [patched] at hn
    split at hn
    · cases hn
    · obtain rfl := List.mem_singleton.1 hn
      exact isClean_done (by simp +decide [htarget, hpatch])

theorem isClean_notices {summary : Summary} (h : ∀ t ∈ summary.texts, EscapeFree t)
    (verbose : Bool) : ∀ n ∈ notices verbose summary, n.IsClean := by
  cases summary with
  | check s =>
    obtain ⟨hdir, hissues⟩ := List.forall_mem_cons.1 h
    exact isClean_check hdir (List.forall_mem_flatMap.1 hissues) verbose
  | patch s =>
    refine List.forall_mem_flatMap.2 fun result hresult => ?_
    exact isClean_patched (List.forall_mem_flatMap.1 h result hresult) verbose s.dryRun result.2
  | init path =>
    have hpath : EscapeFree path.text := h _ List.mem_cons_self
    refine List.forall_mem_singleton.2 (isClean_done ?_)
    simp +decide [hpath]

end Report

/-! ### Lines of a dry run -/

/-- The texts that a call is made with. -/
def Patch.Call.texts : Patch.Call → List String
  | .execute command => command.program :: command.args
  | .touch path => [path.text]

theorem escapeFree_display {c : ShellCommand} (hprogram : EscapeFree c.program)
    (hargs : ∀ arg ∈ c.args, EscapeFree arg) : EscapeFree c.display := by
  obtain ⟨program, args⟩ := c
  induction args generalizing program with
  | nil => exact hprogram
  | cons arg args ih =>
    obtain ⟨harg, hargs⟩ := List.forall_mem_cons.1 hargs
    exact ih (program ++ " " ++ arg) (by simp +decide [hprogram, harg]) hargs

theorem Host.isClean_dryEnvironment {call : Patch.Call} (h : ∀ t ∈ call.texts, EscapeFree t)
    (files : Files) : ∀ n ∈ (dryEnvironment.answer call files).notices, n.IsClean := by
  cases call with
  | execute command =>
    obtain ⟨hprogram, hargs⟩ := List.forall_mem_cons.1 h
    have hdisplay := escapeFree_display hprogram hargs
    simp +decide [Patch.Environment.answer, dryEnvironment, Piece.plain, Piece.tinted, hdisplay]
  | touch path =>
    have hpath : EscapeFree path.text := h _ List.mem_cons_self
    simp +decide [Patch.Environment.answer, dryEnvironment, Piece.plain, Piece.tinted, hpath]

/-! ### Colours and text -/

/-- Colours never change what is said. Whatever is reported of a command, and whatever calls the
dry environment tells of, with every palette the texts are those without colours once the
sequences are deleted, as long as no text field has an escape character. What may stand in a
sequence can be read widely or narrowly, if only it includes the characters of colour codes. -/
theorem colours_keep_text (hinside : HoldsCodes inside) (palette : Palette) :
    (∀ (result : CommandResult) (verbose : Bool),
      (∀ t ∈ result.summary.texts, EscapeFree t) →
      Notice.SameText inside palette (Report.notices verbose result.summary)) ∧
    ∀ (calls : List Patch.Call) (files : Files),
      (∀ call ∈ calls, ∀ t ∈ call.texts, EscapeFree t) →
      Notice.SameText inside palette
        (calls.flatMap fun call => (Host.dryEnvironment.answer call files).notices) := by
  constructor
  · intro result verbose h
    exact Notice.sameText_of_isClean hinside palette (Report.isClean_notices h verbose)
  · intro calls files h
    refine Notice.sameText_of_isClean hinside palette ?_
    exact List.forall_mem_flatMap.2 fun call hcall =>
      Host.isClean_dryEnvironment (h call hcall) files

/-- A finding whose texts look like the ends of sequences. -/
def bracketed : CommandResult where
  summary := .check
    { langDir := ⟨"/[m"⟩
      langDirMissing := false
      issues := [⟨"[0m", ⟨"/[m/1;m"⟩, ⟨⟨"m", 7, 2⟩, "mtr(\"[0m\")"⟩⟩]
      filesChecked := 1
      tablesChecked := 1 }
  exitOnIssues := false

theorem colours_keep_text_bracketed :
    HoldsCodes (fun _ => true) ∧ (∀ t ∈ bracketed.summary.texts, EscapeFree t) ∧
      Notice.renderAll .full .errors (Report.notices false bracketed.summary) =
        "\x1b[38;2;255;135;0mWarning: Untranslated string \x1b[0m\x1b[37m'[0m'\x1b[0m" ++
          "\x1b[38;2;255;135;0m missing in /[m/1;m, first usage in m:7\x1b[0m\n" ∧
      String.ofList (unstyled (fun _ => true)
          (Notice.renderAll .full .errors (Report.notices false bracketed.summary)).toList) =
        "Warning: Untranslated string '[0m' missing in /[m/1;m, first usage in m:7\n" ∧
      Notice.SameText (fun _ => true) .sixteen (Report.notices true bracketed.summary) ∧
      Notice.SameText (fun _ => true) .full
        (Host.dryEnvironment.answer (.touch ⟨"/[m"⟩) ⟨.emptyDir, []⟩).notices := by
  have hcodes : HoldsCodes (fun _ => true) := fun _ _ => rfl
  have hfree : ∀ t ∈ bracketed.summary.texts, EscapeFree t := by decide
  obtain ⟨hreport, hdry⟩ := colours_keep_text hcodes .full
  refine ⟨hcodes, hfree, by decide +kernel, ?_, (colours_keep_text hcodes .sixteen).1 _ _ hfree, ?_⟩
  · rw [(hreport bracketed false hfree).stream_eq .errors]
    decide +kernel
  · simpa using hdry [.touch ⟨"/[m"⟩] ⟨.emptyDir, []⟩ (by decide)

end FirmwareKit
