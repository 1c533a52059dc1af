import Mathlib.Data.List.Basic
import FirmwareKit.Text.Line

/-! The lines of texts that are put together. A text that is empty or ends in a newline has as many
lines as newlines, and whatever follows it has its lines behind those. A carriage return in front
of every newline changes no line, unless one was there before. -/

namespace FirmwareKit.Text

/-- The text is empty or ends in a newline. -/
def EndsLine (s : List Char) : Prop :=
  s = [] ∨ s.getLast? = some '\n'

/-- The text with a carriage return in front of every newline. -/
def withReturns (s : List Char) : List Char :=
  s.flatMap fun c => if c = '\n' then ['\r', '\n'] else [c]

/-- The character does not belong to the ending of a line. -/
def InLine (c : Char) (rest : List Char) : Prop :=
  c ≠ '\n' ∧ ∀ more, c = '\r' → rest ≠ '\n' :: more

theorem lines_cons {c : Char} {rest : List Char} (h : InLine c rest) :
    lines (c :: rest) =
      match lines rest with
      | [] => [[c]]
      | line :: more => (c :: line) :: more :=
  lines.eq_4 c rest h.1 h.2

theorem lines_eq_nil_iff {s : List Char} : lines s = [] ↔ s = [] := by
  fun_cases lines s <;> simp

/-- A text without a newline is one line, unless it is empty. -/
theorem lines_of_not_mem {s : List Char} (hne : s ≠ []) (h : '\n' ∉ s) : lines s = [s] := by
  induction s with
  | nil => exact absurd rfl hne
  | cons c s ih =>
    obtain ⟨hc, hs⟩ := not_or.1 (List.mem_cons.not.1 h)
    have hline : InLine c s := ⟨Ne.symm hc, fun _ _ heq => hs (heq ▸ List.mem_cons_self)⟩
    rw [lines_cons hline]
    cases s with
    | nil => rw [lines_nil]
    | cons d s => rw [ih (by simp) hs]

theorem not_mem_of_mem_lines {s line : List Char} (h : line ∈ lines s) : '\n' ∉ line := by
  fun_induction lines s generalizing line with
  | case1 => simp at h
  | case2 rest ih | case3 rest ih =>
    rcases List.mem_cons.1 h with rfl | h
    · simp
    · exact ih h
  | case4 c rest hc =>
    obtain rfl := List.mem_singleton.1 h
    simpa using Ne.symm hc
  | case5 c rest hc _ first more heq ih =>
    rw [heq] at ih
    rcases List.mem_cons.1 h with rfl | h
    · exact List.mem_cons.not.2 (not_or.2 ⟨Ne.symm hc, ih List.mem_cons_self⟩)
    · exact ih (List.mem_cons_of_mem _ h)

theorem EndsLine.of_cons {c : Char} {s : List Char} (h : EndsLine (c :: s)) : EndsLine s := by
  cases s with
  | nil => exact .inl rfl
  | cons d s => exact .inr (by simpa [EndsLine] using h)

/-- The lines of what follows a newline come behind those in front of it, and there are as many of
these as newlines. -/
theorem EndsLine.lines_append {a : List Char} (h : EndsLine a) (b : List Char) :
    lines (a ++ b) = lines a ++ lines b ∧ (lines a).length = a.count '\n' := by
  fun_induction lines a with
  | case1 => exact ⟨rfl, rfl⟩
  | case2 rest ih =>
    obtain ⟨happend, hlength⟩ := ih h.of_cons
    rw [List.cons_append, lines_newline, happend, List.length_cons, hlength]
    simp
  | case3 rest ih =>
    obtain ⟨happend, hlength⟩ := ih h.of_cons.of_cons
    rw [List.cons_append, List.cons_append, lines_return_newline, happend, List.length_cons,
      hlength]
    simp
  | case4 c rest hc _ hnil =>
    obtain rfl := lines_eq_nil_iff.1 hnil
    rcases h with h | h
    · cases h
    · exact absurd (Option.some.inj h) hc
  | case5 c rest hc hreturn line more heq ih =>
    obtain ⟨happend, hlength⟩ := ih h.of_cons
    have hne : rest ≠ [] := fun hnil => by simp [hnil] at heq
    have hline : InLine c (rest ++ b) := by
      refine ⟨hc, fun after hc' hafter => ?_⟩
      obtain ⟨d, rest, rfl⟩ := List.exists_cons_of_ne_nil hne
      obtain ⟨rfl, -⟩ := List.cons.inj hafter
      exact hreturn rest hc' rfl
    rw [List.cons_append, lines_cons hline, happend, heq]
    rw [heq] at hlength
    exact ⟨rfl, by rw [List.count_cons_of_ne hc, ← hlength]; rfl⟩

theorem withReturns_cons_of_ne {c : Char} (hc : c ≠ '\n') (rest : List Char) :
    withReturns (c :: rest) = c :: withReturns rest := by
  rw [withReturns, List.flatMap_cons, if_neg hc]
  rfl

theorem withReturns_ne_newline (s more : List Char) : withReturns s ≠ '\n' :: more := by
  cases s with
  | nil => simp [withReturns]
  | cons c s =>
    by_cases hc : c = '\n'
    · simp [withReturns, hc]
    · simp [withReturns_cons_of_ne hc, hc]

/-- Carriage returns in front of newlines make no difference, where there were none. -/
theorem lines_withReturns {s : List Char} (h : ¬ ['\r', '\n'] <:+: s) :
    lines (withReturns s) = lines s := by
  have hmore {c : Char} {rest : List Char} (h : ¬ ['\r', '\n'] <:+: c :: rest) :
      ¬ ['\r', '\n'] <:+: rest := fun hrest => h (hrest.trans (List.suffix_cons c rest).isInfix)
  fun_induction lines s with
  | case1 => rfl
  | case2 rest ih => rw [← ih (hmore h), ← lines_return_newline]; rfl
  | case3 rest => exact absurd ⟨[], rest, rfl⟩ h
  | case4 c rest hc _ heq ih | case5 c rest hc _ _ _ heq ih =>
    rw [withReturns_cons_of_ne hc, lines_cons ⟨hc, fun more _ => withReturns_ne_newline rest more⟩,
      ih (hmore h), heq]

end FirmwareKit.Text
