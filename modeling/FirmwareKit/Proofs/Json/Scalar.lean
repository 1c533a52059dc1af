import Mathlib.Data.List.Basic
import FirmwareKit.Proofs.Json.Layout

/-! The grammar of JSON values without brackets: words, numbers and strings. A value that is passed
over is not looked into, so a number can have any size, and a string can have escapes that stand
for no character. A string that is read has to be spelled. -/

namespace FirmwareKit.Json

/-! ### Numbers -/

/-- One or more digits. -/
def Digits (t : List Char) : Prop :=
  t ≠ [] ∧ ∀ c ∈ t, c.isDigit = true

/-- Digits without a leading zero. -/
inductive IsWhole : List Char → Prop
  | zero : IsWhole ['0']
  | digits {c : Char} {ds : List Char} (nonzero : c ≠ '0') (first : c.isDigit = true)
    (more : ∀ d ∈ ds, d.isDigit = true) : IsWhole (c :: ds)

/-- Nothing, or a point and digits. -/
inductive IsFraction : List Char → Prop
  | absent : IsFraction []
  | present {ds : List Char} (digits : Digits ds) : IsFraction ('.' :: ds)

/-- Nothing, or a letter, an optional sign and digits. -/
inductive IsExponent : List Char → Prop
  | absent : IsExponent []
  | present {e : Char} {sign ds : List Char} (letter : e = 'e' ∨ e = 'E')
    (signed : sign = [] ∨ sign = ['+'] ∨ sign = ['-']) (digits : Digits ds) :
    IsExponent (e :: (sign ++ ds))

/-- The text of a number of any size. -/
inductive IsNumber : List Char → Prop
  | mk {sign w f e : List Char} (signed : sign = [] ∨ sign = ['-']) (whole : IsWhole w)
    (fraction : IsFraction f) (exponent : IsExponent e) : IsNumber (sign ++ (w ++ (f ++ e)))

/-- No digit starts the text. -/
def NoDigit (s : List Char) : Prop :=
  ∀ c, s.head? = some c → c.isDigit = false

theorem digits_append {ds rest : List Char} (hds : ∀ d ∈ ds, d.isDigit = true)
    (hrest : NoDigit rest) : digits (ds ++ rest) = (ds, rest) := by
  have hstop : rest.takeWhile Char.isDigit = [] ∧ rest.dropWhile Char.isDigit = rest := by
    cases rest with
    | nil => exact ⟨rfl, rfl⟩
    | cons c rest =>
      have hc := hrest c rfl
      exact ⟨List.takeWhile_cons_of_neg (by simp [hc]), List.dropWhile_cons_of_neg (by simp [hc])⟩
  rw [digits, List.takeWhile_append_of_pos hds, List.dropWhile_append_of_pos hds, hstop.1, hstop.2,
    List.append_nil]

theorem EndsValue.noDigit {rest : List Char} (h : EndsValue rest) : NoDigit rest := by
  intro c hc
  rcases h c hc with hspace | rfl | rfl | rfl
  · simp only [isSpace, Bool.or_eq_true, decide_eq_true_eq] at hspace
    rcases hspace with ((rfl | rfl) | rfl) | rfl <;> rfl
  all_goals rfl

theorem IsExponent.noDigit_append {t rest : List Char} (h : IsExponent t) (hrest : EndsValue rest) :
    NoDigit (t ++ rest) := by
  cases h with
  | absent => exact hrest.noDigit
  | present letter =>
    intro c hc
    obtain rfl := Option.some.inj hc
    rcases letter with rfl | rfl <;> rfl

theorem IsExponent.head?_append_ne {t rest : List Char} (h : IsExponent t)
    (hrest : EndsValue rest) : (t ++ rest).head? ≠ some '.' := by
  cases h with
  | absent =>
    intro hc
    rcases hrest _ hc with hspace | hend | hend | hend <;> cases ‹_›
  | present letter => rcases letter with rfl | rfl <;> simp

theorem IsFraction.noDigit_append {t rest : List Char} (h : IsFraction t) (hrest : NoDigit rest) :
    NoDigit (t ++ rest) := by
  cases h with
  | absent => exact hrest
  | present =>
    intro c hc
    obtain rfl := Option.some.inj hc
    rfl

namespace Numeral

variable (atEnd : Cause) {t rest : List Char}

theorem readWhole_append (h : IsWhole t) (hrest : NoDigit rest) :
    readWhole atEnd (t ++ rest) = .ok (t, rest) := by
  cases h with
  | zero =>
    cases rest with
    | nil => rfl
    | cons d rest => simp [readWhole, hrest d rfl]
  | digits nonzero first more =>
    simp only [List.cons_append, readWhole, if_neg nonzero, if_pos first,
      digits_append more hrest]

theorem readExponent_append (h : IsExponent t) : ∃ exponent, ∀ rest, EndsValue rest →
    readExponent atEnd (t ++ rest) = .ok (exponent, rest) := by
  cases h with
  | absent =>
    refine ⟨none, fun rest hrest => ?_⟩
    cases rest with
    | nil => rfl
    | cons c rest =>
      have hletter : ¬ (decide (c = 'e') || decide (c = 'E')) = true := by
        rcases hrest c rfl with hspace | rfl | rfl | rfl
        · intro hc
          simp only [Bool.or_eq_true, decide_eq_true_eq] at hc
          rcases hc with rfl | rfl <;> cases hspace
        all_goals decide
      rw [List.nil_append, readExponent, if_neg hletter]
  | @present e sign ds letter signed digits =>
    obtain ⟨hne, hds⟩ := digits
    have hsign : ∃ negative, ∀ rest, readSign (sign ++ ds ++ rest) = (negative, ds ++ rest) := by
      rcases signed with rfl | rfl | rfl
      · obtain ⟨d, ds, rfl⟩ := List.exists_cons_of_ne_nil hne
        have hd := hds d List.mem_cons_self
        refine ⟨false, fun rest => ?_⟩
        rw [List.nil_append, List.cons_append, readSign.eq_3]
        all_goals
          rintro _ heq
          obtain ⟨rfl, -⟩ := List.cons.inj heq
          cases hd
      · exact ⟨false, fun _ => rfl⟩
      · exact ⟨true, fun _ => rfl⟩
    obtain ⟨negative, hsign⟩ := hsign
    refine ⟨some (negative, ds), fun rest hrest => ?_⟩
    have hletter : (decide (e = 'e') || decide (e = 'E')) = true := by
      rcases letter with rfl | rfl <;> rfl
    rw [List.cons_append, readExponent, if_pos hletter, hsign]
    simp only [digits_append hds hrest.noDigit]
    obtain ⟨d, ds, rfl⟩ := List.exists_cons_of_ne_nil hne
    rfl

theorem readFraction_append (h : IsFraction t) : ∃ fraction, ∀ rest, NoDigit rest →
    rest.head? ≠ some '.' → readFraction atEnd (t ++ rest) = .ok (fraction, rest) := by
  cases h with
  | absent =>
    refine ⟨none, fun rest _ hpoint => ?_⟩
    unfold readFraction
    split
    · next heq =>
      rw [List.nil_append] at heq
      rw [heq] at hpoint
      exact absurd rfl hpoint
    · rfl
  | @present ds digits =>
    obtain ⟨hne, hds⟩ := digits
    refine ⟨some ds, fun rest hdigit _ => ?_⟩
    rw [List.cons_append, readFraction, digits_append hds hdigit]
    obtain ⟨d, ds, rfl⟩ := List.exists_cons_of_ne_nil hne
    rfl

theorem readUnsigned_append (negative : Bool) {w f e : List Char} (whole : IsWhole w)
    (fraction : IsFraction f) (exponent : IsExponent e) : ∃ n, ∀ rest, EndsValue rest →
      readUnsigned atEnd negative (w ++ (f ++ e) ++ rest) = .ok (n, rest) := by
  obtain ⟨fraction', hfraction⟩ := readFraction_append atEnd fraction
  obtain ⟨exponent', hexponent'⟩ := readExponent_append atEnd exponent
  refine ⟨⟨negative, w, fraction', exponent'⟩, fun rest hrest => ?_⟩
  have hexponent := exponent.noDigit_append hrest
  rw [List.append_assoc, List.append_assoc, readUnsigned,
    readWhole_append atEnd whole (fraction.noDigit_append hexponent)]
  simp only [hfraction _ hexponent (exponent.head?_append_ne hrest), hexponent' _ hrest]

end Numeral

/-- A number starts with its sign or with a digit. -/
theorem IsNumber.starts {t : List Char} (h : IsNumber t) :
    ∃ c more, t = c :: more ∧ (c = '-' ∨ c.isDigit = true) := by
  obtain ⟨rfl | rfl, whole, -, -⟩ := h
  · cases whole with
    | zero => exact ⟨'0', _, rfl, .inr rfl⟩
    | digits nonzero first more => exact ⟨_, _, rfl, .inr first⟩
  · exact ⟨'-', _, rfl, .inl rfl⟩

/-- A number is read in the same way whatever follows it. -/
theorem IsNumber.read_append {t : List Char} (h : IsNumber t) (atEnd : Cause) :
    ∃ n, ∀ rest, EndsValue rest → Numeral.read atEnd (t ++ rest) = .ok (n, rest) := by
  obtain ⟨rfl | rfl, whole, fraction, exponent⟩ := h
  · obtain ⟨n, hn⟩ := Numeral.readUnsigned_append atEnd false whole fraction exponent
    refine ⟨n, fun rest hrest => ?_⟩
    rw [List.nil_append, Numeral.read.eq_2, hn rest hrest]
    rintro _ heq
    cases whole with
    | zero => simp at heq
    | digits nonzero first more =>
      obtain ⟨rfl, -⟩ := List.cons.inj heq
      cases first
  · obtain ⟨n, hn⟩ := Numeral.readUnsigned_append atEnd true whole fraction exponent
    exact ⟨n, hn⟩

/-! ### Strings -/

/-- The text between the quotes of a string; its escapes can stand for half of a character. -/
inductive IsQuotable : List Char → Prop
  | nil : IsQuotable []
  | raw {c : Char} {t : List Char} (quote : c ≠ '"') (escape : c ≠ '\\')
    (plain : isControl c = false) (more : IsQuotable t) : IsQuotable (c :: t)
  | letter {e c : Char} {t : List Char} (escape : escaped? e = some c) (more : IsQuotable t) :
    IsQuotable ('\\' :: e :: t)
  | hex {a b c d : Char} {n : Nat} {t : List Char} (digits : hexFour? a b c d = some n)
    (more : IsQuotable t) : IsQuotable ('\\' :: 'u' :: a :: b :: c :: d :: t)

theorem IsQuotable.skipString_append {t : List Char} (h : IsQuotable t) (rest : List Char) :
    skipString (t ++ '"' :: rest) = .ok rest := by
  induction h with
  | nil => rw [List.nil_append, skipString]
  | raw quote escape plain _ ih =>
    rw [List.cons_append, skipString.eq_7, plain]
    · exact ih
    all_goals simp [quote, escape]
  | @letter e _ _ escape _ ih =>
    have hu : e ≠ 'u' := by
      rintro rfl
      cases escape
    rw [List.cons_append, List.cons_append, skipString.eq_5, escape]
    · exact ih
    all_goals simp [hu]
  | hex digits _ ih =>
    simp only [List.cons_append, skipString.eq_3, digits]
    exact ih

theorem Spells.isQuotable_append {t u : List Char} {c : Char} (h : Spells t c)
    (hu : IsQuotable u) : IsQuotable (t ++ u) := by
  cases h with
  | raw quote escape plain => exact .raw quote escape plain hu
  | letter escape => exact .letter escape hu
  | hex digits => exact .hex digits hu
  | pair digits digits' => exact .hex digits (.hex digits' hu)

theorem SpellsAll.isQuotable {t s : List Char} (h : SpellsAll t s) : IsQuotable t := by
  induction h with
  | nil => exact .nil
  | cons first _ ih => exact first.isQuotable_append ih

/-- A string that is read up to its closing quote is spelled; half a character is never read. -/
theorem IsQuotable.spellsAll_of_stringBody {t s rest rest' : List Char} (h : IsQuotable t)
    (hs : stringBody (t ++ '"' :: rest) = .ok (s, rest')) : rest' = rest ∧ SpellsAll t s := by
  cases h with
  | nil =>
    rw [List.nil_append, stringBody] at hs
    cases hs
    exact ⟨rfl, .nil⟩
  | raw quote escape plain more =>
    rw [List.cons_append, stringBody.eq_7, plain] at hs
    · obtain ⟨_, hmore, heq⟩ := ok_of_map hs
      cases heq
      obtain ⟨rfl, hspells⟩ := more.spellsAll_of_stringBody hmore
      exact ⟨rfl, .cons (.raw quote escape plain) hspells⟩
    all_goals simp [quote, escape]
  | @letter e _ _ escape more =>
    have hu : e ≠ 'u' := by
      rintro rfl
      cases escape
    rw [List.cons_append, List.cons_append, stringBody.eq_5, escape] at hs
    · obtain ⟨_, hmore, heq⟩ := ok_of_map hs
      cases heq
      obtain ⟨rfl, hspells⟩ := more.spellsAll_of_stringBody hmore
      exact ⟨rfl, .cons (.letter escape) hspells⟩
    all_goals simp [hu]
  | hex digits more =>
    simp only [List.cons_append, stringBody.eq_3, digits] at hs
    split at hs
    · cases hs
    split at hs
    · next notLow high =>
      -- the other half has to follow
      cases more with
      | nil => cases hs
      | raw _ escape =>
        split at hs
        · next heq =>
          rw [List.cons_append] at heq
          exact absurd (List.cons.inj heq).1 escape
        · cases hs
      | letter escape =>
        split at hs
        · next heq =>
          simp only [List.cons_append, List.cons.injEq, true_and] at heq
          obtain ⟨rfl, -⟩ := heq
          cases escape
        · cases hs
      | hex digits' more =>
        simp only [List.cons_append, digits'] at hs
        split at hs
        · next low =>
          obtain ⟨_, hmore, heq⟩ := ok_of_map hs
          cases heq
          obtain ⟨rfl, hspells⟩ := more.spellsAll_of_stringBody hmore
          exact ⟨rfl, .cons (.pair digits digits' high low) hspells⟩
        · cases hs
    · next notLow notHigh =>
      obtain ⟨_, hmore, heq⟩ := ok_of_map hs
      cases heq
      obtain ⟨rfl, hspells⟩ := more.spellsAll_of_stringBody hmore
      exact ⟨rfl, .cons (.hex digits (by simpa using notLow) (by simpa using notHigh)) hspells⟩
termination_by t.length

theorem IsQuotable.stringBody_iff {t s rest rest' : List Char} (h : IsQuotable t) :
    stringBody (t ++ '"' :: rest) = .ok (s, rest') ↔ rest' = rest ∧ SpellsAll t s := by
  constructor
  · exact h.spellsAll_of_stringBody
  · rintro ⟨rfl, hspells⟩
    exact hspells.stringBody_append _

/-! ### Values without brackets -/

/-- The text of a value without brackets. -/
inductive IsScalar : List Char → Prop
  | null : IsScalar ['n', 'u', 'l', 'l']
  | isTrue : IsScalar ['t', 'r', 'u', 'e']
  | isFalse : IsScalar ['f', 'a', 'l', 's', 'e']
  | number {t : List Char} (number : IsNumber t) : IsScalar t
  | string {t : List Char} (quotable : IsQuotable t) : IsScalar ('"' :: (t ++ ['"']))

/-- The characters that stand between values, or open and close brackets. -/
def isStructural (c : Char) : Bool :=
  c = '[' || c = ']' || c = '{' || c = '}' || c = ',' || c = ':'

/-- Whatever is no sign and no digit does not start a number. -/
theorem ne_of_startsNumber {c d : Char} (hc : c = '-' ∨ c.isDigit = true)
    (hd : d ≠ '-' ∧ d.isDigit = false) : c ≠ d := by
  rintro rfl
  rcases hc with rfl | hdigit
  · exact hd.1 rfl
  · rw [hd.2] at hdigit
    cases hdigit

theorem IsScalar.starts {t : List Char} (h : IsScalar t) :
    ∃ c more, t = c :: more ∧ isSpace c = false ∧ isStructural c = false := by
  cases h with
  | null | isTrue | isFalse | string => exact ⟨_, _, rfl, rfl, rfl⟩
  | number number =>
    obtain ⟨c, more, rfl, hc⟩ := number.starts
    have hne {d : Char} := ne_of_startsNumber (d := d) hc
    refine ⟨c, more, rfl, ?_, ?_⟩
    · simp only [isSpace, Bool.or_eq_false_iff, decide_eq_false_iff_not]
      exact ⟨⟨⟨hne (by decide), hne (by decide)⟩, hne (by decide)⟩, hne (by decide)⟩
    · simp only [isStructural, Bool.or_eq_false_iff, decide_eq_false_iff_not]
      exact ⟨⟨⟨⟨⟨hne (by decide), hne (by decide)⟩, hne (by decide)⟩, hne (by decide)⟩,
        hne (by decide)⟩, hne (by decide)⟩

/-- A value without brackets is passed over. -/
theorem IsScalar.skipScalar_append {t rest : List Char} (h : IsScalar t) (hrest : EndsValue rest) :
    skipScalar (t ++ rest) = .ok rest := by
  cases h with
  | null | isTrue | isFalse => rfl
  | string quotable =>
    rw [List.cons_append, List.append_assoc]
    exact quotable.skipString_append rest
  | number number =>
    obtain ⟨n, hread⟩ := number.read_append .invalidNumber
    specialize hread rest hrest
    obtain ⟨c, more, rfl, hc⟩ := number.starts
    have hne {d : Char} := ne_of_startsNumber (d := d) hc
    rw [List.cons_append] at hread ⊢
    rw [skipScalar, if_neg (hne (by decide)), if_neg (hne (by decide)), if_neg (hne (by decide)),
      if_neg (hne (by decide)), if_pos (by simpa using hc), hread]
    rfl

end FirmwareKit.Json
