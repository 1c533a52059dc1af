import FirmwareKit.Report

/-! What the report of a check says by its text alone. The notices on the error stream
that start as warnings of untranslated strings are the warnings about the issues, and
the output has the confirmation only if there are none. -/

namespace FirmwareKit

theorem Piece.render_plain (p : Piece) : p.render .plain = p.text.toList := by
  obtain ⟨text, style⟩ := p
  cases style <;> rfl

namespace Notice

/-- The text of a notice without colours. -/
def text (n : Notice) : List Char :=
  n.render .plain

theorem text_line (stream : Stream) (pieces : List Piece) :
    (line stream pieces).text = pieces.flatMap (·.text.toList) ++ ['\n'] := by
  rw [text, render, funext Piece.render_plain, line, List.flatMap_append]
  rfl

theorem head?_text_line {stream : Stream} {piece : Piece} {pieces : List Piece} {c : Char}
    {rest : List Char} (h : piece.text.toList = c :: rest) :
    (line stream (piece :: pieces)).text.head? = some c := by
  rw [text_line, List.flatMap_cons, h]
  rfl

end Notice

namespace Report

/-- The notice warns of an untranslated string. -/
def isUntranslated (n : Notice) : Bool :=
  n.stream == .errors && "Warning: Untranslated string ".toList.isPrefixOf n.text

/-- The notice confirms that all strings are translated. -/
def isConfirmation (n : Notice) : Bool :=
  n.stream == .output && n.text == "No untranslated strings detected\n".toList

/-- The notice says nothing about issues. -/
def IsAside (n : Notice) : Prop :=
  isUntranslated n = false ∧ isConfirmation n = false

theorem filter_asides {l : List Notice} (h : ∀ n ∈ l, IsAside n) :
    l.filter isUntranslated = [] ∧ l.filter isConfirmation = [] := by
  rw [List.filter_eq_nil_iff, List.filter_eq_nil_iff]
  refine ⟨fun n hn => ?_, fun n hn => ?_⟩
  · rw [(h n hn).1]
    exact Bool.false_ne_true
  · rw [(h n hn).2]
    exact Bool.false_ne_true

/-! ### Notices that are told apart by one character -/

theorem isAside_of_errors {n : Notice} (hn : n.stream = .errors) (i : Nat) (hi : i < 29)
    (h : n.text[i]? ≠ "Warning: Untranslated string ".toList[i]?) : IsAside n := by
  constructor
  · rw [isUntranslated, Bool.and_eq_false_iff]
    right
    rw [Bool.eq_false_iff]
    intro hstart
    obtain ⟨rest, htext⟩ := List.isPrefixOf_iff_prefix.1 hstart
    rw [← htext, List.getElem?_append_left (by exact hi)] at h
    exact h rfl
  · rw [isConfirmation, hn]
    rfl

theorem isAside_of_head {n : Notice} {c : Char} (hn : n.stream = .errors)
    (h : n.text.head? = some c) (hc : c ≠ 'W') : IsAside n := by
  refine isAside_of_errors hn 0 (by decide) ?_
  rw [← List.head?_eq_getElem?, h]
  exact fun heq => hc (Option.some.inj heq)

theorem isAside_of_output {n : Notice} (hn : n.stream = .output) (h : n.text.head? ≠ some 'N') :
    IsAside n := by
  constructor
  · rw [isUntranslated, hn]
    rfl
  · rw [isConfirmation, Bool.and_eq_false_iff]
    right
    rw [beq_eq_false_iff_ne]
    intro htext
    rw [htext] at h
    exact h rfl

/-- A number is printed as digits. -/
theorem isDigit_of_mem_toString {n : Nat} {c : Char} (h : c ∈ (toString n).toList) :
    c.isDigit = true := by
  have htoList : (toString n).toList = Nat.toDigits 10 n := Nat.toList_repr
  rw [htoList] at h
  exact Nat.isDigit_of_mem_toDigits (by decide) (by decide) h

theorem exists_digit (n : Nat) : ∃ d rest, (toString n).toList = d :: rest ∧ d.isDigit := by
  have htoList : (toString n).toList = Nat.toDigits 10 n := Nat.toList_repr
  obtain ⟨d, rest, heq⟩ := List.exists_cons_of_ne_nil (Nat.toDigits_ne_nil (n := n) (b := 10))
  exact ⟨d, rest, htoList.trans heq,
    isDigit_of_mem_toString (n := n) (htoList.trans heq ▸ List.mem_cons_self)⟩

theorem isUntranslated_warning (i : Issue) : isUntranslated (warning i) = true := by
  rw [isUntranslated, Bool.and_eq_true]
  refine ⟨rfl, List.isPrefixOf_iff_prefix.2 ?_⟩
  rw [warning, Notice.text_line, List.flatMap_cons, List.append_assoc]
  exact List.prefix_append _ _

/-- The lines of an excerpt, of which the last is not always there. -/
theorem mem_excerpt {context : SourceContext} {n : Notice} (h : n ∈ excerpt context) :
    (∃ more, n = .line .errors
        (.plain (blanks (toString context.location.line).length ++ " ") :: more)) ∨
      ∃ more, n = .line .errors (.tinted .blue (toString context.location.line) :: more) := by
  rw [excerpt, List.mem_append, List.mem_cons, List.mem_singleton] at h
  rcases h with (rfl | rfl) | h
  · exact .inl ⟨_, rfl⟩
  · exact .inr ⟨_, rfl⟩
  · split at h
    · exact .inl ⟨_, List.mem_singleton.1 h⟩
    · cases h

theorem isAside_excerpt (context : SourceContext) : ∀ n ∈ excerpt context, IsAside n := by
  obtain ⟨d, rest, hdigits, hd⟩ := exists_digit context.location.line
  have hnumber : d ≠ 'W' := by
    rintro rfl
    exact absurd hd (by decide)
  have hmargin : ∃ more, (blanks (toString context.location.line).length ++ " ").toList =
      ' ' :: more := by
    rw [String.toList_append, blanks, String.toList_ofList]
    cases (toString context.location.line).length with
    | zero => exact ⟨[], rfl⟩
    | succ n => exact ⟨_, rfl⟩
  obtain ⟨more, hmargin⟩ := hmargin
  intro n hn
  obtain ⟨_, rfl⟩ | ⟨_, rfl⟩ := mem_excerpt hn
  · exact isAside_of_head rfl (Notice.head?_text_line hmargin) (by decide)
  · exact isAside_of_head rfl (Notice.head?_text_line hdigits) hnumber

/-- The line with statistics starts with a number. -/
theorem head?_statistics (s : CheckSummary) :
    ∃ d, (statistics s).text.head? = some d ∧ d.isDigit = true := by
  obtain ⟨d, rest, hdigits, hd⟩ := exists_digit s.issues.length
  refine ⟨d, ?_, hd⟩
  rw [statistics, Notice.say, Notice.text_line]
  simp only [List.flatMap_cons, Piece.plain, String.toList_append, hdigits]
  rfl

theorem isAside_statistics (s : CheckSummary) : IsAside (statistics s) := by
  obtain ⟨d, hhead, hd⟩ := head?_statistics s
  refine isAside_of_output rfl ?_
  rw [hhead, ne_eq, Option.some.injEq]
  rintro rfl
  exact absurd hd (by decide)

theorem isAside_langDirMissing (langDir : Path) : IsAside (langDirMissing langDir) := by
  refine isAside_of_errors rfl 9 (by decide) ?_
  rw [langDirMissing, Notice.text_line]
  simp only [List.flatMap_cons, Piece.tinted, String.toList_append, List.append_assoc]
  show some 'L' ≠ some 'U'
  decide

/-! ### Notices that are no part of a report -/

/-- The notice has the text of statistics. -/
def IsStatistics (n : Notice) : Prop :=
  n.stream = .output ∧ ∃ s, n.text = (statistics s).text

/-- The notice neither says anything about issues nor counts what was looked at. -/
def IsQuiet (n : Notice) : Prop :=
  IsAside n ∧ ¬ IsStatistics n

/-- The notice goes to the error stream and says nothing about issues. -/
def IsRemark (n : Notice) : Prop :=
  n.stream = .errors ∧ IsAside n

theorem IsRemark.isQuiet {n : Notice} (h : IsRemark n) : IsQuiet n := by
  refine ⟨h.2, fun hstatistics => ?_⟩
  rw [IsStatistics, h.1] at hstatistics
  cases hstatistics.1

theorem isRemark_of_head {n : Notice} {c : Char} (hn : n.stream = .errors)
    (h : n.text.head? = some c) (hc : c ≠ 'W') : IsRemark n :=
  ⟨hn, isAside_of_head hn h hc⟩

theorem IsAside.isQuiet_of_head {n : Notice} {c : Char} (h : IsAside n)
    (hn : n.text.head? = some c) (hc : c.isDigit = false) : IsQuiet n := by
  refine ⟨h, ?_⟩
  rintro ⟨-, s, htext⟩
  obtain ⟨d, hhead, hd⟩ := head?_statistics s
  rw [htext, hhead, Option.some.injEq] at hn
  rw [hn, hc] at hd
  cases hd

/-! ### The report of a check -/

theorem filter_issue (verbose : Bool) (i : Issue) :
    (issue verbose i).filter isUntranslated = [warning i] ∧
      (issue verbose i).filter isConfirmation = [] := by
  have haside : ∀ n ∈ if verbose then excerpt i.context else [], IsAside n := by
    cases verbose with
    | false => simp
    | true => exact isAside_excerpt i.context
  constructor
  · rw [issue, List.filter_cons_of_pos (isUntranslated_warning i), (filter_asides haside).1]
  · rw [issue, List.filter_cons_of_neg (by exact Bool.false_ne_true), (filter_asides haside).2]

/-- What is printed about issues is printed about one of them. -/
theorem exists_mem_of_mem_issues {verbose : Bool} {found : List Issue} {n : Notice}
    (h : n ∈ issues verbose found) : ∃ i ∈ found, n ∈ issue verbose i := by
  induction found with
  | nil => cases h
  | cons i found ih =>
    rw [issues, List.mem_append] at h
    rcases h with h | h
    · exact ⟨i, List.mem_cons_self, h⟩
    · split at h
      · obtain ⟨j, hj, hn⟩ := ih h
        exact ⟨j, List.mem_cons_of_mem _ hj, hn⟩
      · cases h

/-- The warnings about the first issues are printed, and those about all of them if each can be
printed to its end. -/
theorem exists_filter_issues (verbose : Bool) (found : List Issue) :
    ∃ n, (issues verbose found).filter isUntranslated = (found.take n).map warning ∧
      ((∀ i ∈ found, isIssueComplete verbose i = true) → found.length ≤ n) := by
  induction found with
  | nil => exact ⟨0, rfl, fun _ => Nat.le_refl 0⟩
  | cons i found ih =>
    obtain ⟨n, hfilter, hall⟩ := ih
    rw [issues, List.filter_append, (filter_issue verbose i).1]
    cases hcomplete : isIssueComplete verbose i with
    | false =>
      refine ⟨1, rfl, fun h => ?_⟩
      rw [h i List.mem_cons_self] at hcomplete
      cases hcomplete
    | true =>
      refine ⟨n + 1, ?_, fun h => ?_⟩
      · rw [if_pos rfl, hfilter]
        rfl
      · exact Nat.succ_le_succ (hall fun i hi => h i (List.mem_cons_of_mem _ hi))

theorem filter_isConfirmation_issues (verbose : Bool) (found : List Issue) :
    (issues verbose found).filter isConfirmation = [] := by
  induction found with
  | nil => rfl
  | cons i found ih =>
    rw [issues, List.filter_append, (filter_issue verbose i).2, List.nil_append]
    split
    · exact ih
    · rfl

theorem isIssueComplete_of_isCheckComplete {s : CheckSummary} {verbose : Bool}
    (h : s.langDirMissing = false) (hcomplete : isCheckComplete verbose s = true) :
    ∀ i ∈ s.issues, isIssueComplete verbose i = true := by
  rwa [isCheckComplete, h, Bool.false_or, List.all_eq_true] at hcomplete

/-- Behind the issues a report says nothing more about them, except that there are none. -/
theorem check_eq {s : CheckSummary} (h : s.langDirMissing = false) (verbose : Bool) :
    ∃ asides, (∀ n ∈ asides, IsAside n) ∧ check verbose s =
      issues verbose s.issues ++ (if s.issues = [] then [success] else []) ++ asides := by
  refine ⟨if verbose && isCheckComplete verbose s then [statistics s] else [], ?_, ?_⟩
  · split
    · simpa using isAside_statistics s
    · simp
  · simp only [check, h, Bool.false_eq_true, if_false, List.isEmpty_iff]

theorem filter_isUntranslated_check {s : CheckSummary} (h : s.langDirMissing = false)
    {verbose : Bool} (hcomplete : isCheckComplete verbose s = true) :
    (check verbose s).filter isUntranslated = s.issues.map warning := by
  obtain ⟨asides, haside, heq⟩ := check_eq h verbose
  have hsuccess : (if s.issues = [] then [success] else []).filter isUntranslated = [] := by
    split <;> rfl
  obtain ⟨n, hfilter, hall⟩ := exists_filter_issues verbose s.issues
  rw [heq, List.filter_append, List.filter_append, (filter_asides haside).1, hsuccess,
    List.append_nil, List.append_nil, hfilter,
    List.take_of_length_le (hall (isIssueComplete_of_isCheckComplete h hcomplete))]

theorem filter_isConfirmation_check {s : CheckSummary} (h : s.langDirMissing = false)
    (verbose : Bool) :
    (check verbose s).filter isConfirmation = if s.issues = [] then [success] else [] := by
  obtain ⟨asides, haside, heq⟩ := check_eq h verbose
  rw [heq, List.filter_append, List.filter_append, (filter_asides haside).2,
    filter_isConfirmation_issues, List.append_nil, List.nil_append]
  split <;> rfl

/-- A check without issues is printed to its end. -/
theorem isCheckComplete_of_no_issues {s : CheckSummary} (h : s.issues = []) (verbose : Bool) :
    isCheckComplete verbose s = true := by
  rw [isCheckComplete, h, List.all_nil, Bool.or_true]

/-- Without issues a check warns of nothing untranslated, and confirms that unless it did not look
for any. -/
theorem filter_check_of_no_issues {s : CheckSummary} (h : s.issues = []) (verbose : Bool) :
    (check verbose s).filter isUntranslated = [] ∧
      (check verbose s).filter isConfirmation = if s.langDirMissing then [] else [success] := by
  cases hmissing : s.langDirMissing with
  | false =>
    rw [filter_isUntranslated_check hmissing (isCheckComplete_of_no_issues h verbose),
      filter_isConfirmation_check hmissing, h]
    exact ⟨rfl, rfl⟩
  | true =>
    rw [check, if_pos hmissing]
    exact filter_asides (by simpa using isAside_langDirMissing s.langDir)

end Report

end FirmwareKit
