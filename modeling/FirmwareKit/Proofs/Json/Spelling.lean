import Mathlib.Data.List.Basic
import FirmwareKit.Json.Pretty
import FirmwareKit.Json.Quoted

/-! The spellings of a string. Between the quotes a character stands for itself, or is written
as an escape of one letter, of four hexadecimal digits, or of two surrogates. All spellings
are read alike, and the writer uses one of them for every character. -/

namespace FirmwareKit.Json

/-- The text is one way to write the character in a string. -/
inductive Spells : List Char → Char → Prop
  | raw {c : Char} (quote : c ≠ '"') (escape : c ≠ '\\') (plain : isControl c = false) :
    Spells [c] c
  | letter {e c : Char} (escape : escaped? e = some c) : Spells ['\\', e] c
  | hex {a b c d : Char} {n : Nat} (digits : hexFour? a b c d = some n)
      (notLow : isLowSurrogate n = false) (notHigh : isHighSurrogate n = false) :
    Spells ['\\', 'u', a, b, c, d] (Char.ofNat n)
  | pair {a b c d a' b' c' d' : Char} {n m : Nat} (digits : hexFour? a b c d = some n)
      (digits' : hexFour? a' b' c' d' = some m) (high : isHighSurrogate n = true)
      (low : isLowSurrogate m = true) :
    Spells ['\\', 'u', a, b, c, d, '\\', 'u', a', b', c', d'] (Char.ofNat (joinSurrogates n m))

/-- The text is one way to write the characters in a string. -/
inductive SpellsAll : List Char → List Char → Prop
  | nil : SpellsAll [] []
  | cons {t ts : List Char} {c : Char} {s : List Char} (first : Spells t c)
      (more : SpellsAll ts s) : SpellsAll (t ++ ts) (c :: s)

theorem isLowSurrogate_of_high {n : Nat} (h : isHighSurrogate n = true) :
    isLowSurrogate n = false := by
  simp only [isHighSurrogate, isLowSurrogate, Bool.and_eq_true, decide_eq_true_eq,
    Bool.and_eq_false_iff, decide_eq_false_iff_not] at h ⊢
  omega

/-- A spelled character is read, and then what follows it. -/
theorem Spells.stringBody_append {t : List Char} {c : Char} (h : Spells t c) (s : List Char) :
    stringBody (t ++ s) = (stringBody s).map fun p => (c :: p.1, p.2) := by
  cases h with
  | raw quote escape plain =>
    rw [List.singleton_append, stringBody.eq_7, plain]
    · rfl
    all_goals simp [quote, escape]
  | @letter e _ escape =>
    have hu : e ≠ 'u' := by
      rintro rfl
      cases escape
    rw [List.cons_append, List.singleton_append, stringBody.eq_5, escape]
    all_goals simp [hu]
  | hex digits notLow notHigh =>
    simp only [List.cons_append, List.nil_append, stringBody.eq_3, digits, notLow, notHigh,
      Bool.false_eq_true, if_false]
  | pair digits digits' high low =>
    simp only [List.cons_append, List.nil_append, stringBody.eq_3, digits, digits', high, low,
      isLowSurrogate_of_high high, Bool.false_eq_true, if_false, if_true]

/-- A spelled string is read up to its closing quote. -/
theorem SpellsAll.stringBody_append {t s : List Char} (h : SpellsAll t s) (rest : List Char) :
    stringBody (t ++ '"' :: rest) = .ok (s, rest) := by
  induction h with
  | nil => rw [List.nil_append, stringBody]
  | cons first _ ih =>
    rw [List.append_assoc, first.stringBody_append, ih]
    rfl

/-! ### The writer's spelling -/

theorem hexFour?_of_control : ∀ n < 0x20,
    hexFour? '0' '0' (Nat.digitChar (n / 16)) (Nat.digitChar (n % 16)) = some n := by
  decide

theorem spells_writeChar (c : Char) : Spells (writeChar c) c := by
  unfold writeChar
  split
  case h_8 quote escape _ _ _ _ _ =>
    split
    · next hcontrol =>
      have hlow : isLowSurrogate c.toNat = false := by
        simp [isLowSurrogate]
        omega
      have hhigh : isHighSurrogate c.toNat = false := by
        simp [isHighSurrogate]
        omega
      have hex := Spells.hex (hexFour?_of_control _ hcontrol) hlow hhigh
      rwa [Char.ofNat_toNat] at hex
    · next hplain => exact .raw quote escape (by simpa [isControl] using hplain)
  all_goals exact .letter rfl

theorem spellsAll_flatMap (s : List Char) : SpellsAll (s.flatMap writeChar) s := by
  induction s with
  | nil => exact .nil
  | cons c s ih => exact .cons (spells_writeChar c) ih

end FirmwareKit.Json
