import FirmwareKit.Proofs.Json.Scalar

/-! The numbers of JSON values. What a number is kept as depends on its text alone, and not on
what follows it. An integer that 64 bits hold is kept as itself, since the digits of such a number
are all taken; only a zero with a sign is kept as a float. -/

namespace FirmwareKit.Json

/-- The text of a number that is kept, and what it is kept as. -/
def IsNumeral (t : List Char) (n : Number) : Prop :=
  IsNumber t ∧ ∃ numeral, Numeral.read .eofValue t = .ok (numeral, []) ∧ numeral.value [] = .ok n

/-- The text of an integer of 64 bits, and what it is kept as. -/
inductive IsInteger : List Char → Number → Prop
  | unsigned {n : Nat} (fits : n < Nat.pow 2 64) : IsInteger (Nat.toDigits 10 n) (.unsigned n)
  | negative {n : Nat} (pos : 0 < n) (fits : n ≤ Nat.pow 2 63) :
    IsInteger ('-' :: Nat.toDigits 10 n) (.negative n)
  | negativeZero : IsInteger ['-', '0'] (.float (-Float.ofNat 0))

/-! ### Numbers in front of other text -/

namespace Numeral

/-- Text behind a number shows in its faults only. -/
theorem value_eq_ok_iff {numeral : Numeral} {rest : List Char} {n : Number} :
    numeral.value rest = .ok n ↔ numeral.value [] = .ok n := by
  obtain ⟨negative, whole, fraction, exponent⟩ := numeral
  -- the faults differ: a float that is too large and an exponent that is too large
  cases exponent with
  | none =>
    cases fraction with
    | none =>
      simp only [value]
      split_ifs
      · rfl
      · rfl
      · rfl
      · cases toFloat _ _ _ <;> simp
    | some fraction =>
      simp only [value]
      cases toFloat _ _ _ <;> simp
  | some exponent =>
    by_cases hread : (accumulate maxExponent 0 exponent.2).2 < exponent.2.length
    · cases fraction <;> simp only [value, if_pos hread] <;> split_ifs <;> simp
    · cases fraction <;> simp only [value, if_neg hread] <;> cases toFloat _ _ _ <;> simp

/-- The digits of a number within the limit are all taken. -/
theorem accumulate_eq {limit n : Nat} {ds : List Char} (h : Nat.ofDigitChars 10 ds n ≤ limit) :
    accumulate limit n ds = (Nat.ofDigitChars 10 ds n, ds.length) := by
  induction ds generalizing n with
  | nil => rfl
  | cons d ds ih =>
    rw [Nat.ofDigitChars_cons, Nat.mul_comm] at h ⊢
    have hle : n * 10 + (d.toNat - '0'.toNat) ≤ limit := by
      refine Nat.le_trans ?_ h
      rw [Nat.ofDigitChars_eq_ofDigitChars_zero]
      exact Nat.le_add_right_of_le (Nat.le_mul_of_pos_left _ (Nat.pow_pos (by decide)))
    rw [accumulate, if_neg (by omega), ih h]
    rfl

end Numeral

/-! ### Integers -/

/-- The first digit of a positive number is no zero. -/
theorem exists_toDigits_of_pos {n : Nat} (h : 0 < n) :
    ∃ c ds, Nat.toDigits 10 n = c :: ds ∧ c ≠ '0' := by
  induction n using Nat.strongRecOn with
  | ind n ih =>
    by_cases hlt : n < 10
    · refine ⟨Nat.digitChar n, [], Nat.toDigits_of_lt_base hlt, ?_⟩
      rw [ne_eq, Nat.digitChar_eq_zero]
      omega
    · obtain ⟨c, ds, heq, hc⟩ := ih (n / 10) (by omega) (by omega)
      exact ⟨c, _, by rw [Nat.toDigits_of_base_le (by decide) (by omega), heq]; rfl, hc⟩

theorem isWhole_toDigits (n : Nat) : IsWhole (Nat.toDigits 10 n) := by
  rcases Nat.eq_zero_or_pos n with rfl | hpos
  · exact .zero
  · obtain ⟨c, ds, heq, hc⟩ := exists_toDigits_of_pos hpos
    have hdigits : ∀ d ∈ c :: ds, d.isDigit = true := fun d hd =>
      Nat.isDigit_of_mem_toDigits (by decide) (by decide) (heq ▸ hd)
    obtain ⟨hfirst, hmore⟩ := List.forall_mem_cons.1 hdigits
    rw [heq]
    exact .digits hc hfirst hmore

/-- A number of digits only is read as these digits. -/
theorem IsWhole.readUnsigned_eq {w : List Char} (h : IsWhole w) (atEnd : Cause) (negative : Bool) :
    Numeral.readUnsigned atEnd negative w = .ok (⟨negative, w, none, none⟩, []) := by
  have hwhole := Numeral.readWhole_append atEnd h endsValue_nil.noDigit
  rw [List.append_nil] at hwhole
  rw [Numeral.readUnsigned, hwhole]
  rfl

theorem IsWhole.read_eq {w : List Char} (h : IsWhole w) (atEnd : Cause) :
    Numeral.read atEnd w = .ok (⟨false, w, none, none⟩, []) := by
  rw [Numeral.read.eq_2, h.readUnsigned_eq]
  rintro _ rfl
  cases h with
  | digits _ first => cases first

theorem IsWhole.isNumber {w sign : List Char} (h : IsWhole w) (hsign : sign = [] ∨ sign = ['-']) :
    IsNumber (sign ++ w) := by
  have hnumber := IsNumber.mk hsign h .absent .absent
  rwa [List.append_nil, List.append_nil] at hnumber

/-- Digits that 64 bits hold make the number. -/
theorem Numeral.value_toDigits {n : Nat} (negative : Bool) (h : n ≤ maxUnsigned) :
    (Numeral.mk negative (Nat.toDigits 10 n) none none).value [] =
      if !negative then .ok (.unsigned n)
      else if 0 < n && n ≤ Nat.pow 2 63 then .ok (.negative n)
      else .ok (.float (-Float.ofNat n)) := by
  have hall : accumulate maxUnsigned 0 (Nat.toDigits 10 n) = (n, (Nat.toDigits 10 n).length) := by
    rw [accumulate_eq, Nat.ofDigitChars_ten_toDigits]
    rwa [Nat.ofDigitChars_ten_toDigits]
  simp only [value, hall, Nat.sub_self, if_true]

theorem IsInteger.isNumeral {t : List Char} {n : Number} (h : IsInteger t n) : IsNumeral t n := by
  cases h with
  | @unsigned n fits =>
    have hwhole := isWhole_toDigits n
    refine ⟨hwhole.isNumber (.inl rfl), _, hwhole.read_eq _, ?_⟩
    rw [Numeral.value_toDigits false (Nat.le_pred_of_lt fits)]
    rfl
  | @negative n pos fits =>
    have hwhole := isWhole_toDigits n
    refine ⟨hwhole.isNumber (.inr rfl), _, hwhole.readUnsigned_eq _ true, ?_⟩
    have hmax : Nat.pow 2 63 ≤ Numeral.maxUnsigned := by decide
    have hheld : (0 < n && n ≤ Nat.pow 2 63) = true :=
      (Bool.and_eq_true _ _).mpr ⟨decide_eq_true pos, decide_eq_true fits⟩
    rw [Numeral.value_toDigits true (Nat.le_trans fits hmax), if_neg (by decide), if_pos hheld]
  | negativeZero => exact ⟨IsWhole.zero.isNumber (.inr rfl), _, rfl, rfl⟩

end FirmwareKit.Json
