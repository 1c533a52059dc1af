import Mathlib.Data.List.DropRight
import FirmwareKit.Proofs.Json.Scalar

/-! The grammar of JSON values. Lists and objects hold any number of parts, with commas between
them and any white space around these, to any depth. A value that is passed over is passed over to
its last character, whatever it is. -/

namespace FirmwareKit.Json

/-- One or more parts with commas between them and white space around these. -/
inductive Row : List (List Char) → List Char → Prop
  | last {p before after : List Char} (spaces : Spaces before) (spaces' : Spaces after) :
    Row [p] (before ++ (p ++ after))
  | cons {p before after more : List Char} {ps : List (List Char)} (spaces : Spaces before)
    (spaces' : Spaces after) (row : Row ps more) :
    Row (p :: ps) (before ++ (p ++ (after ++ ',' :: more)))

/-- Any number of parts between brackets. -/
inductive Enclosed (opening closing : Char) : List (List Char) → List Char → Prop
  | empty {b : List Char} (spaces : Spaces b) :
    Enclosed opening closing [] (opening :: (b ++ [closing]))
  | row {ps : List (List Char)} {t : List Char} (row : Row ps t) :
    Enclosed opening closing ps (opening :: (t ++ [closing]))

theorem Enclosed.starts {opening closing : Char} {ps : List (List Char)} {t : List Char}
    (h : Enclosed opening closing ps t) : ∃ more, t = opening :: more := by
  cases h with
  | empty | row => exact ⟨_, rfl⟩

/-- A member of an object as it is written: its name between quotes, a colon and its value. -/
structure Member where
  quoted : List Char
  beforeColon : List Char
  afterColon : List Char
  value : List Char
  quotable : IsQuotable quoted
  spaces_beforeColon : Spaces beforeColon
  spaces_afterColon : Spaces afterColon

/-- The text of a member. -/
def Member.text (m : Member) : List Char :=
  '"' :: (m.quoted ++ '"' :: (m.beforeColon ++ ':' :: (m.afterColon ++ m.value)))

/-- The text of a JSON value. -/
inductive IsValue : List Char → Prop
  | scalar {t : List Char} (scalar : IsScalar t) : IsValue t
  | array {ps : List (List Char)} {t : List Char} (items : ∀ p ∈ ps, IsValue p)
    (enclosed : Enclosed '[' ']' ps t) : IsValue t
  | object {ms : List Member} {t : List Char} (values : ∀ m ∈ ms, IsValue m.value)
    (enclosed : Enclosed '{' '}' (ms.map Member.text) t) : IsValue t

/-- A part starts with something that is neither white space nor the end of what it is part of. -/
def Begins (t : List Char) : Prop :=
  ∃ c more, t = c :: more ∧ isSpace c = false ∧ c ≠ ',' ∧ c ≠ ']' ∧ c ≠ '}'

theorem Member.begins (m : Member) : Begins m.text :=
  ⟨'"', _, rfl, rfl, by decide, by decide, by decide⟩

theorem IsValue.begins {t : List Char} (h : IsValue t) : Begins t := by
  cases h with
  | scalar scalar =>
    obtain ⟨c, more, rfl, hspace, hstructural⟩ := scalar.starts
    refine ⟨c, more, rfl, hspace, ?_, ?_, ?_⟩ <;> rintro rfl <;> cases hstructural
  | array _ enclosed =>
    obtain ⟨more, rfl⟩ := enclosed.starts
    exact ⟨'[', more, rfl, rfl, by decide, by decide, by decide⟩
  | object _ enclosed =>
    obtain ⟨more, rfl⟩ := enclosed.starts
    exact ⟨'{', more, rfl, rfl, by decide, by decide, by decide⟩

section Begins

variable {t b : List Char}

theorem Begins.skipSpace_append (h : Begins t) (rest : List Char) :
    skipSpace (t ++ rest) = t ++ rest := by
  obtain ⟨c, more, rfl, hc, -⟩ := h
  rw [List.cons_append, skipSpace_cons hc]

/-- White space in front of a part is skipped. -/
theorem Begins.skipSpace_spaces_append (h : Begins t) (hb : Spaces b) (rest : List Char) :
    skipSpace (b ++ (t ++ rest)) = t ++ rest := by
  rw [Json.skipSpace_append hb, h.skipSpace_append]

end Begins

/-! ### Values that are passed over -/

theorem skipSpace_skipSpace (s : List Char) : skipSpace (skipSpace s) = skipSpace s := by
  rw [skipSpace, skipSpace, List.dropWhile_idempotent]

theorem skipPart_skipSpace (b : Bracket) (up : List Bracket) (s : List Char) :
    skipPart b up (skipSpace s) = skipPart b up s := by
  cases b with
  | list => rw [skipPart, skipPart, skipValue_eq, skipValue_eq, skipSpace_skipSpace]
  | object => rw [skipPart, skipPart, skipName, skipName, skipSpace_skipSpace]

theorem endsValue_close (b : Bracket) (rest : List Char) : EndsValue (b.close :: rest) := by
  cases b with
  | list => exact endsValue_listEnd rest
  | object => exact endsValue_objectEnd rest

section Row

variable {b : Bracket} {up : List Bracket} {ps : List (List Char)} {t : List Char}

/-- The part is passed over, to what follows it between the brackets. -/
def Passed (b : Bracket) (up : List Bracket) (p : List Char) : Prop :=
  ∀ s rest, EndsValue rest → skipSpace s = p ++ rest →
    skipPart b up s = skipRest true (b :: up) rest

theorem skipRest_close {comma : Bool} {w : List Char} (hw : Spaces w) (rest : List Char) :
    skipRest comma (b :: up) (w ++ b.close :: rest) = skipRest true up rest := by
  have hspace : isSpace b.close = false := by cases b <;> rfl
  have hcomma : ¬ (b.close = ',') := by cases b <;> decide
  rw [skipRest_cons, skipSpace_append hw, skipSpace_cons hspace]
  simp [hcomma]

/-- Parts in a row are passed over, and with them the bracket behind. -/
theorem Row.skipPart_append (h : Row ps t) (hparts : ∀ p ∈ ps, Begins p ∧ Passed b up p)
    (rest : List Char) : skipPart b up (t ++ b.close :: rest) = skipRest true up rest := by
  induction h with
  | last spaces spaces' =>
    obtain ⟨hbegins, hpassed⟩ := hparts _ List.mem_cons_self
    rw [List.append_assoc, List.append_assoc, hpassed _ _ ((endsValue_close b rest).append spaces')
      (hbegins.skipSpace_spaces_append spaces _), skipRest_close spaces']
  | cons spaces spaces' _ ih =>
    obtain ⟨⟨hbegins, hpassed⟩, hmore⟩ := List.forall_mem_cons.1 hparts
    rw [List.append_assoc, List.append_assoc, List.append_assoc, List.cons_append,
      hpassed _ _ ((endsValue_comma _).append spaces') (hbegins.skipSpace_spaces_append spaces _),
      skipRest_cons, skipSpace_append spaces', skipSpace_cons rfl]
    exact ih hmore

theorem Row.begins (h : Row ps t) (hparts : ∀ p ∈ ps, Begins p) (rest : List Char) :
    ∃ c more, skipSpace (t ++ rest) = c :: more ∧ c ≠ ',' ∧ c ≠ ']' ∧ c ≠ '}' := by
  cases h with
  | last spaces | cons spaces =>
    have hbegins := hparts _ List.mem_cons_self
    rw [List.append_assoc, List.append_assoc, hbegins.skipSpace_spaces_append spaces]
    obtain ⟨c, more, rfl, -, hc⟩ := hbegins
    exact ⟨c, _, rfl, hc⟩

/-- What stands between brackets is passed over, and with it the bracket behind. -/
theorem Row.skipRest_append (h : Row ps t) (hparts : ∀ p ∈ ps, Begins p ∧ Passed b up p)
    (rest : List Char) :
    skipRest false (b :: up) (t ++ b.close :: rest) = skipRest true up rest := by
  obtain ⟨c, more, hskip, -, hlist, hobject⟩ :=
    h.begins (fun p hp => (hparts p hp).1) (b.close :: rest)
  have hclose : c ≠ b.close := by cases b <;> assumption
  rw [skipRest_cons, hskip]
  simp only [Bool.and_false, Bool.false_eq_true, if_false, hclose]
  rw [← hskip, skipPart_skipSpace, h.skipPart_append hparts]

end Row

/-- The value of a member is passed over with its name. -/
theorem Member.passed (m : Member) {up : List Bracket}
    (hvalue : ∀ stack s rest, EndsValue rest → skipSpace s = m.value ++ rest →
      skipValue stack s = skipRest true stack rest) (hbegins : Begins m.value) :
    Passed .object up m.text := by
  intro s rest hrest hs
  have hname : skipName s = .ok (m.afterColon ++ (m.value ++ rest)) := by
    rw [skipName, hs, Member.text]
    simp only [List.cons_append, List.append_assoc, m.quotable.skipString_append,
      skipSpace_append m.spaces_beforeColon, skipSpace_cons (show isSpace ':' = false by rfl)]
  rw [skipPart, hname]
  exact hvalue _ _ _ hrest (hbegins.skipSpace_spaces_append m.spaces_afterColon rest)

/-- A value of any depth is passed over, to what follows it. -/
theorem IsValue.skipValue_eq {t : List Char} (h : IsValue t) :
    ∀ stack s rest, EndsValue rest → skipSpace s = t ++ rest →
      skipValue stack s = skipRest true stack rest := by
  induction h with
  | scalar scalar =>
    intro stack s rest hrest hs
    have hskip := scalar.skipScalar_append hrest
    obtain ⟨c, more, rfl, -, hc⟩ := scalar.starts
    rw [Json.skipValue_eq, hs]
    split
    · next heq =>
      obtain ⟨rfl, -⟩ := List.cons.inj heq
      cases hc
    · next heq =>
      obtain ⟨rfl, -⟩ := List.cons.inj heq
      cases hc
    · rw [hskip]
  | array items enclosed ih =>
    intro stack s rest hrest hs
    rw [Json.skipValue_eq, hs]
    cases enclosed with
    | empty spaces =>
      simp only [List.cons_append, List.append_assoc, List.nil_append]
      exact skipRest_close (b := .list) spaces rest
    | row row =>
      simp only [List.cons_append, List.append_assoc, List.nil_append]
      refine row.skipRest_append (b := .list) (fun p hp => ⟨(items p hp).begins, ?_⟩) rest
      exact ih p hp (.list :: stack)
  | object values enclosed ih =>
    intro stack s rest hrest hs
    rw [Json.skipValue_eq, hs]
    generalize hps : List.map Member.text _ = ps at enclosed
    cases enclosed with
    | empty spaces =>
      simp only [List.cons_append, List.append_assoc, List.nil_append]
      exact skipRest_close (b := .object) spaces rest
    | row row =>
      simp only [List.cons_append, List.append_assoc, List.nil_append]
      refine row.skipRest_append (b := .object) (fun p hp => ?_) rest
      rw [← hps] at hp
      obtain ⟨m, hm, rfl⟩ := List.mem_map.1 hp
      exact ⟨m.begins, m.passed (ih m hm) (values m hm).begins⟩

end FirmwareKit.Json
