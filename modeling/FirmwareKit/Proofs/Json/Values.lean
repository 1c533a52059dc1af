import FirmwareKit.Proofs.Json.Integers
import FirmwareKit.Proofs.Json.Objects

/-! What the reader of values makes of a text. A value is written with any white space between its
parts and with any spelling of its strings, and brackets stand in it to some depth. The reader
takes off just the text of a value that is not too deep, and gives the value that was written. -/

namespace FirmwareKit.Json

/-- The text of a value without brackets, where a relation tells how numbers are written. -/
inductive WritesScalar (Num : List Char → Number → Prop) : List Char → Value → Prop
  | null : WritesScalar Num ['n', 'u', 'l', 'l'] .null
  | isTrue : WritesScalar Num ['t', 'r', 'u', 'e'] (.bool true)
  | isFalse : WritesScalar Num ['f', 'a', 'l', 's', 'e'] (.bool false)
  | number {t : List Char} {n : Number} (number : Num t n) : WritesScalar Num t (.number n)
  | string {t : List Char} {s : String} (string : IsString t s) : WritesScalar Num t (.string s)

/-- The text of a value with so many brackets open at once in it at most. -/
inductive Writes (Num : List Char → Number → Prop) : Nat → List Char → Value → Prop
  | scalar {depth : Nat} {t : List Char} {v : Value} (scalar : WritesScalar Num t v) :
    Writes Num depth t v
  | array {depth : Nat} {items : List (List Char × Value)} {t : List Char}
    (written : ∀ p ∈ items, Writes Num depth p.1 p.2)
    (enclosed : Enclosed '[' ']' (items.map Prod.fst) t) :
    Writes Num (depth + 1) t (.array (items.map Prod.snd))
  | object {depth : Nat} {members : List (NamedMember × Value)} {t : List Char}
    (written : ∀ m ∈ members, Writes Num depth m.1.value m.2)
    (enclosed : Enclosed '{' '}' (members.map fun m => m.1.text) t) :
    Writes Num (depth + 1) t (.object (members.map fun m => (m.1.name, m.2)))

section Writes

variable {Num Num' : List Char → Number → Prop} {depth : Nat} {t : List Char} {v : Value}

theorem WritesScalar.mono (h : WritesScalar Num t v) (hnum : ∀ t n, Num t n → Num' t n) :
    WritesScalar Num' t v := by
  cases h with
  | null => exact .null
  | isTrue => exact .isTrue
  | isFalse => exact .isFalse
  | number number => exact .number (hnum _ _ number)
  | string string => exact .string string

theorem Writes.mono (h : Writes Num depth t v) (hnum : ∀ t n, Num t n → Num' t n) :
    Writes Num' depth t v := by
  induction h with
  | scalar scalar => exact .scalar (scalar.mono hnum)
  | array _ enclosed ih => exact .array ih enclosed
  | object _ enclosed ih => exact .object ih enclosed

theorem WritesScalar.isScalar (h : WritesScalar Num t v) (hnum : ∀ t n, Num t n → IsNumber t) :
    IsScalar t := by
  cases h with
  | null => exact .null
  | isTrue => exact .isTrue
  | isFalse => exact .isFalse
  | number number => exact .number (hnum _ _ number)
  | string string =>
    obtain ⟨_, spelled, rfl⟩ := string
    exact .string spelled.isQuotable

/-- What is written is a value. -/
theorem Writes.isValue (h : Writes Num depth t v) (hnum : ∀ t n, Num t n → IsNumber t) :
    IsValue t := by
  induction h with
  | scalar scalar => exact .scalar (scalar.isScalar hnum)
  | array _ enclosed ih => exact .array (List.forall_mem_map.2 ih) enclosed
  | @object _ members _ _ enclosed ih =>
    have hms : (members.map fun m => m.1.toMember).map Member.text =
        members.map fun m => m.1.text := List.map_map
    exact .object (List.forall_mem_map.2 ih) (hms ▸ enclosed)

end Writes

/-! ### Values without brackets -/

section Scalar

variable {t rest rest' : List Char} {v : Value}

/-- A number is found with what it is kept as, whatever follows it. -/
theorem IsNumber.found_append (h : IsNumber t) :
    ∃ numeral : Numeral, (∀ n, IsNumeral t n ↔ numeral.value [] = .ok n) ∧
      ∀ rest, EndsValue rest →
        found (t ++ rest) = (numeral.value rest).map fun n => (.number n, rest) := by
  obtain ⟨numeral, hread⟩ := h.read_append .eofValue
  refine ⟨numeral, fun n => ?_, fun rest hrest => ?_⟩
  · have halone := hread [] endsValue_nil
    rw [List.append_nil] at halone
    simp [IsNumeral, h, halone]
  · specialize hread rest hrest
    obtain ⟨c, more, rfl, hc⟩ := h.starts
    have hne {d : Char} := ne_of_startsNumber (d := d) hc
    rw [List.cons_append] at hread ⊢
    rw [found, if_neg (hne (by decide)), if_neg (hne (by decide)), if_neg (hne (by decide)),
      if_neg (hne (by decide)), if_neg (hne (by decide)), if_neg (hne (by decide)),
      if_pos (by simpa using hc), hread]

/-- A value without brackets is read as what is written. -/
theorem WritesScalar.scalar_append (h : WritesScalar IsNumeral t v) (hrest : EndsValue rest) :
    Reader.scalar (t ++ rest) = .ok (v, rest) := by
  cases h with
  | null | isTrue | isFalse => rfl
  | number number =>
    obtain ⟨numeral, hvalue, hfound⟩ := number.1.found_append
    rw [Reader.scalar, hfound rest hrest, Numeral.value_eq_ok_iff.2 ((hvalue _).1 number)]
    rfl
  | @string _ s string =>
    obtain ⟨body, spelled, rfl⟩ := string
    have hbody := spelled.stringBody_append rest
    rw [List.cons_append, List.append_assoc, Reader.scalar]
    simp [found, hbody, Except.map]

/-- A value without brackets that is read is written so. -/
theorem IsScalar.writes_of_scalar (h : IsScalar t) (hrest : EndsValue rest)
    (hscalar : Reader.scalar (t ++ rest) = .ok (v, rest')) :
    rest' = rest ∧ WritesScalar IsNumeral t v := by
  suffices hwritten : ∃ w, WritesScalar IsNumeral t w by
    obtain ⟨w, hw⟩ := hwritten
    rw [hw.scalar_append hrest] at hscalar
    cases hscalar
    exact ⟨rfl, hw⟩
  cases h with
  | null => exact ⟨_, .null⟩
  | isTrue => exact ⟨_, .isTrue⟩
  | isFalse => exact ⟨_, .isFalse⟩
  | number number =>
    obtain ⟨numeral, hvalue, hfound⟩ := number.found_append
    rw [Reader.scalar, hfound rest hrest] at hscalar
    cases hkept : numeral.value rest with
    | error f =>
      rw [hkept] at hscalar
      cases hscalar
    | ok n => exact ⟨_, .number ((hvalue n).2 (Numeral.value_eq_ok_iff.1 hkept))⟩
  | @string body quotable =>
    rw [List.cons_append, List.append_assoc, Reader.scalar] at hscalar
    cases hbody : stringBody (body ++ '"' :: rest) with
    | error f => simp [found, hbody, Except.map] at hscalar
    | ok read =>
      obtain ⟨-, spelled⟩ := quotable.stringBody_iff.1 hbody
      exact ⟨_, .string ⟨body, by rwa [String.toList_ofList], rfl⟩⟩

end Scalar

/-! ### Values of any depth -/

namespace Reader

variable {depth : Nat} {t s rest rest' : List Char} {v : Value}

theorem value_run_scalar (hs : skipSpace s = t) (hlist : t.head? ≠ some '[')
    (hobject : t.head? ≠ some '{') : (value depth).run s = scalar t := by
  cases depth <;> rw [value] <;> simp only [hs] <;> split
  all_goals first | rfl | simp_all

theorem value_run_list {more : List Char} (hs : skipSpace s = '[' :: more) :
    (value (depth + 1)).run s =
      ((list (value depth)).run s).map fun p => (.array p.1, p.2) := by
  rw [value, list]
  simp only [hs]

theorem value_run_object {more : List Char} (hs : skipSpace s = '{' :: more) :
    (value (depth + 1)).run s =
      ((object .map (member (value depth)) []).run s).map fun p => (.object p.1.reverse, p.2) := by
  rw [value, object]
  simp only [hs]

theorem value_zero_run {c : Char} {more : List Char} (hc : c = '[' ∨ c = '{')
    (hs : skipSpace s = c :: more) : (value 0).run s ≠ .ok (v, rest) := by
  rw [value]
  rcases hc with rfl | rfl <;> simp [hs]

end Reader

section Members

variable {Means : List Char → Value → Prop} {read read' : List (String × Value)}
  {named : List NamedMember}

/-- What a member that is put in front of those read before leads to. -/
def Prepends (Means : List Char → Value → Prop) (read : List (String × Value)) (name : String)
    (t : List Char) (next : List (String × Value)) : Prop :=
  ∃ v, Means t v ∧ (name, v) :: read = next

theorem Reader.Reads.member {value : Reader Value} (h : value.Reads Means)
    (read : List (String × Value)) (name : String) :
    (Reader.member value read name).ReadsMember (Prepends Means read name) :=
  (h.map fun v => (name, v) :: read).afterColon

/-- Members are put in front of those read before one by one, so the last comes first. -/
theorem folds_prepends_iff : Folds (Prepends Means) read named read' ↔
    ∃ members : List (NamedMember × Value), members.map Prod.fst = named ∧
      (∀ m ∈ members, Means m.1.value m.2) ∧
      read' = (members.map fun m => (m.1.name, m.2)).reverse ++ read := by
  induction named generalizing read with
  | nil =>
    simp only [Folds, List.map_eq_nil_iff]
    constructor
    · rintro rfl
      exact ⟨[], rfl, by simp, rfl⟩
    · rintro ⟨_, rfl, -, rfl⟩
      rfl
  | cons n named ih =>
    constructor
    · rintro ⟨_, ⟨v, hv, rfl⟩, hfolds⟩
      obtain ⟨members, rfl, hmembers, rfl⟩ := ih.1 hfolds
      exact ⟨(n, v) :: members, rfl, List.forall_mem_cons.2 ⟨hv, hmembers⟩, by simp⟩
    · rintro ⟨members, hnamed, hmembers, rfl⟩
      obtain ⟨⟨_, v⟩, members, rfl, rfl, rfl⟩ := List.map_eq_cons_iff.1 hnamed
      obtain ⟨hv, hmore⟩ := List.forall_mem_cons.1 hmembers
      exact ⟨_, ⟨v, hv, rfl⟩, ih.2 ⟨members, rfl, hmore, by simp⟩⟩

/-- An object is read as its members, the last of them first. -/
theorem Reader.Reads.object_iff {value : Reader Value} (hvalue : value.Reads Means)
    {ms : List Member} {t s rest rest' : List Char} (hvalues : ∀ m ∈ ms, IsValue m.value)
    (h : Enclosed '{' '}' (ms.map Member.text) t) (hs : skipSpace s = t ++ rest) :
    (Reader.object .map (Reader.member value) []).run s = .ok (read, rest') ↔
      rest' = rest ∧ ∃ members : List (NamedMember × Value),
        members.map (fun m => m.1.toMember) = ms ∧ (∀ m ∈ members, Means m.1.value m.2) ∧
        read.reverse = members.map fun m => (m.1.name, m.2) := by
  rw [Reader.object_iff hvalue.member hvalues h hs]
  simp only [folds_prepends_iff, List.append_nil, List.reverse_eq_iff]
  constructor
  · rintro ⟨rfl, _, hms, members, rfl, hmembers, rfl⟩
    exact ⟨rfl, members, by rw [← hms, List.map_map]; rfl, hmembers, rfl⟩
  · rintro ⟨rfl, members, rfl, hmembers, rfl⟩
    exact ⟨rfl, _, by rw [List.map_map]; rfl, members, rfl, hmembers, rfl⟩

end Members

/-- Parts that mean something, one by one. -/
theorem forall₂_iff_exists_pairs {α β : Type} {R : α → β → Prop} {as : List α} {bs : List β} :
    List.Forall₂ R as bs ↔ ∃ pairs : List (α × β), pairs.map Prod.fst = as ∧
      pairs.map Prod.snd = bs ∧ ∀ p ∈ pairs, R p.1 p.2 := by
  constructor
  · intro h
    induction h with
    | nil => exact ⟨[], rfl, rfl, by simp⟩
    | @cons a b _ _ hab _ ih =>
      obtain ⟨pairs, rfl, rfl, hpairs⟩ := ih
      exact ⟨(a, b) :: pairs, rfl, rfl, List.forall_mem_cons.2 ⟨hab, hpairs⟩⟩
  · rintro ⟨pairs, rfl, rfl, hpairs⟩
    rw [List.forall₂_map_left_iff, List.forall₂_map_right_iff, List.forall₂_same]
    exact hpairs

section Values

variable {depth : Nat} {t s rest rest' : List Char} {v : Value}

theorem isNumber_of_isNumeral (t : List Char) (n : Number) (h : IsNumeral t n) : IsNumber t :=
  h.1

/-- No bracket starts a value without brackets. -/
theorem WritesScalar.not_structural {c : Char} {more : List Char} (hc : isStructural c = true) :
    ¬ WritesScalar IsNumeral (c :: more) v := by
  intro h
  obtain ⟨_, _, heq, -, hstructural⟩ := (h.isScalar isNumber_of_isNumeral).starts
  obtain ⟨rfl, -⟩ := List.cons.inj heq
  rw [hc] at hstructural
  cases hstructural

theorem IsScalar.value_iff (h : IsScalar t) (hrest : EndsValue rest)
    (hs : skipSpace s = t ++ rest) :
    (Reader.value depth).run s = .ok (v, rest') ↔ rest' = rest ∧ Writes IsNumeral depth t v := by
  obtain ⟨c, more, hstarts, -, hc⟩ := h.starts
  have hne {d : Char} (hd : isStructural d = true) : (t ++ rest).head? ≠ some d := by
    rw [hstarts]
    rintro heq
    cases heq
    rw [hd] at hc
    cases hc
  rw [Reader.value_run_scalar hs (hne rfl) (hne rfl)]
  constructor
  · intro hscalar
    exact (h.writes_of_scalar hrest hscalar).imp_right .scalar
  · rintro ⟨rfl, hwritten⟩
    cases hwritten with
    | scalar scalar => exact scalar.scalar_append hrest
    | array _ enclosed | object _ enclosed =>
      obtain ⟨_, heq⟩ := enclosed.starts
      rw [hstarts] at heq
      cases heq
      cases hc

/-- A list is read as its elements, if these are read to the depth that is left. -/
theorem Reader.Reads.value_list_iff (h : (Reader.value depth).Reads (Writes IsNumeral depth))
    {ps : List (List Char)} (hvalues : ∀ p ∈ ps, IsValue p) (henclosed : Enclosed '[' ']' ps t)
    (hs : skipSpace s = t ++ rest) :
    (Reader.value (depth + 1)).run s = .ok (v, rest') ↔
      rest' = rest ∧ Writes IsNumeral (depth + 1) t v := by
  obtain ⟨more, hmore⟩ := henclosed.starts
  rw [Reader.value_run_list (by rw [hs, hmore]; rfl), map_eq_ok_iff]
  constructor
  · rintro ⟨⟨as, _⟩, hrun, heq⟩
    cases heq
    obtain ⟨rfl, hall⟩ := (h.list_iff hvalues henclosed hs).1 hrun
    obtain ⟨items, rfl, rfl, hitems⟩ := forall₂_iff_exists_pairs.1 hall
    exact ⟨rfl, .array hitems henclosed⟩
  · rintro ⟨rfl, hwritten⟩
    -- the text can have been written in another way, with other parts
    cases hwritten with
    | scalar scalar => exact absurd (hmore ▸ scalar) (WritesScalar.not_structural rfl)
    | @array _ items _ written enclosed =>
      have hitems : ∀ p ∈ items.map Prod.fst, IsValue p :=
        List.forall_mem_map.2 fun p hp => (written p hp).isValue isNumber_of_isNumeral
      have hall := forall₂_iff_exists_pairs.2 ⟨items, rfl, rfl, written⟩
      exact ⟨(_, _), (h.list_iff hitems enclosed hs).2 ⟨rfl, hall⟩, rfl⟩
    | object _ enclosed =>
      obtain ⟨_, heq⟩ := enclosed.starts
      rw [hmore] at heq
      cases heq

/-- An object is read as its members, if their values are read to the depth that is left. -/
theorem Reader.Reads.value_object_iff (h : (Reader.value depth).Reads (Writes IsNumeral depth))
    {ms : List Member} (hvalues : ∀ m ∈ ms, IsValue m.value)
    (henclosed : Enclosed '{' '}' (ms.map Member.text) t) (hs : skipSpace s = t ++ rest) :
    (Reader.value (depth + 1)).run s = .ok (v, rest') ↔
      rest' = rest ∧ Writes IsNumeral (depth + 1) t v := by
  obtain ⟨more, hmore⟩ := henclosed.starts
  rw [Reader.value_run_object (by rw [hs, hmore]; rfl), map_eq_ok_iff]
  constructor
  · rintro ⟨⟨read, _⟩, hrun, heq⟩
    cases heq
    obtain ⟨rfl, members, rfl, hmembers, hread⟩ := (h.object_iff hvalues henclosed hs).1 hrun
    rw [List.map_map] at henclosed
    exact ⟨rfl, hread ▸ .object hmembers henclosed⟩
  · rintro ⟨rfl, hwritten⟩
    cases hwritten with
    | scalar scalar => exact absurd (hmore ▸ scalar) (WritesScalar.not_structural rfl)
    | array _ enclosed =>
      obtain ⟨_, heq⟩ := enclosed.starts
      rw [hmore] at heq
      cases heq
    | @object _ members _ written enclosed =>
      have hmembers : ∀ m ∈ members.map fun m => m.1.toMember, IsValue m.value :=
        List.forall_mem_map.2 fun m hm => (written m hm).isValue isNumber_of_isNumeral
      have htext : Enclosed '{' '}' ((members.map fun m => m.1.toMember).map Member.text) t := by
        rwa [List.map_map]
      refine ⟨((members.map fun m => (m.1.name, m.2)).reverse, _),
        (h.object_iff hmembers htext hs).2 ⟨rfl, members, rfl, written, List.reverse_reverse _⟩, ?_⟩
      rw [List.reverse_reverse]

/-- Nothing with brackets is read to the depth zero, and nothing is written so. -/
theorem value_zero_iff {c : Char} {more : List Char} (hc : c = '[' ∨ c = '{')
    (hs : skipSpace s = c :: more ++ rest) :
    (Reader.value 0).run s = .ok (v, rest') ↔
      rest' = rest ∧ Writes IsNumeral 0 (c :: more) v := by
  refine iff_of_false (Reader.value_zero_run hc hs) ?_
  rintro ⟨-, hwritten⟩
  cases hwritten with
  | scalar scalar =>
    refine WritesScalar.not_structural ?_ scalar
    rcases hc with rfl | rfl <;> rfl

/-- The reader of values takes off just what is written to its depth. -/
theorem Reader.value_reads (depth : Nat) : (Reader.value depth).Reads (Writes IsNumeral depth) := by
  induction depth with
  | zero =>
    refine ⟨fun ht hrest hs => ?_⟩
    cases ht with
    | scalar scalar => exact scalar.value_iff hrest hs
    | array _ enclosed =>
      obtain ⟨_, rfl⟩ := enclosed.starts
      exact value_zero_iff (.inl rfl) hs
    | object _ enclosed =>
      obtain ⟨_, rfl⟩ := enclosed.starts
      exact value_zero_iff (.inr rfl) hs
  | succ depth ih =>
    refine ⟨fun ht hrest hs => ?_⟩
    cases ht with
    | scalar scalar => exact scalar.value_iff hrest hs
    | array items enclosed => exact ih.value_list_iff items enclosed hs
    | object values enclosed => exact ih.value_object_iff values enclosed hs

end Values

/-! ### Names of members -/

/-- The text of an object. -/
def IsObject (t : List Char) : Prop :=
  ∃ ms : List Member, (∀ m ∈ ms, IsValue m.value) ∧ Enclosed '{' '}' (ms.map Member.text) t

section Names

variable {t before after : List Char} {text : String}

theorem skipSpace_eq_nil_iff {s : List Char} : skipSpace s = [] ↔ Spaces s :=
  List.dropWhile_eq_nil_iff

/-- Of an object that is not too deep all names are read, in their order. -/
theorem Reader.names_run_iff {ms : List Member} {s rest rest' : List Char} {keys : List String}
    (hvalues : ∀ m ∈ ms, IsValue m.value) (h : Enclosed '{' '}' (ms.map Member.text) t)
    (hs : skipSpace s = t ++ rest) :
    Reader.names.run s = .ok (keys, rest') ↔
      rest' = rest ∧ ∃ members : List (NamedMember × Value),
        members.map (fun m => m.1.toMember) = ms ∧
        (∀ m ∈ members, Writes IsNumeral (maxDepth - 1) m.1.value m.2) ∧
        keys = members.map fun m => m.1.name := by
  rw [Reader.names, Reader.map, map_eq_ok_iff]
  constructor
  · rintro ⟨⟨read, _⟩, hrun, heq⟩
    cases heq
    obtain ⟨rfl, members, hms, hmembers, hread⟩ :=
      ((Reader.value_reads _).object_iff hvalues h hs).1 hrun
    refine ⟨rfl, members, hms, hmembers, ?_⟩
    rw [← List.map_reverse, hread, List.map_map]
    rfl
  · rintro ⟨rfl, members, hms, hmembers, rfl⟩
    refine ⟨((members.map fun m => (m.1.name, m.2)).reverse, _),
      ((Reader.value_reads _).object_iff hvalues h hs).2
        ⟨rfl, members, hms, hmembers, List.reverse_reverse _⟩, ?_⟩
    dsimp only
    rw [List.map_reverse, List.reverse_reverse, List.map_map]
    rfl

theorem Reader.names_run_ne_ok {c : Char} {s more rest : List Char} {keys : List String}
    (hc : c ≠ '{') (hs : skipSpace s = c :: more) : Reader.names.run s ≠ .ok (keys, rest) := by
  rw [Reader.names, Reader.map, Reader.object]
  simp only [hs]
  split
  · next heq => exact absurd (List.cons.inj heq).1 hc
  · simp [Except.map]

/-- The names of a written object are read, whatever is written around it. -/
theorem parse_names_of_writes {members : List (String × Value)}
    (h : Writes IsInteger maxDepth t (.object members)) (hbefore : Spaces before)
    (hafter : Spaces after) (htext : text.toList = before ++ (t ++ after)) :
    parse Reader.names text = .ok (members.map Prod.fst) := by
  have hnumeral := h.mono fun _ _ => IsInteger.isNumeral
  have ht := hnumeral.isValue isNumber_of_isNumeral
  have hs : skipSpace text.toList = t ++ after :=
    htext ▸ ht.begins.skipSpace_spaces_append hbefore after
  cases hnumeral with
  | scalar scalar => cases scalar
  | @object _ members _ written enclosed =>
    have hvalues : ∀ m ∈ members.map fun m => m.1.toMember, IsValue m.value :=
      List.forall_mem_map.2 fun m hm => (written m hm).isValue isNumber_of_isNumeral
    have hmembers : Enclosed '{' '}' ((members.map fun m => m.1.toMember).map Member.text) t := by
      rwa [List.map_map]
    refine parse_eq_ok_iff.2 ⟨after, ?_, skipSpace_eq_nil_iff.2 hafter⟩
    refine (Reader.names_run_iff hvalues hmembers hs).2 ⟨rfl, members, rfl, written, ?_⟩
    rw [List.map_map]
    rfl

/-- No names are read of a value that is no object, or that is not all of the text. -/
theorem exists_parse_names_error (ht : IsValue t) (hbefore : Spaces before)
    (htext : text.toList = before ++ (t ++ after)) (h : ¬ IsObject t ∨ ¬ Spaces after) :
    ∃ error, parse Reader.names text = .error error := by
  have hs : skipSpace text.toList = t ++ after :=
    htext ▸ ht.begins.skipSpace_spaces_append hbefore after
  cases hparse : parse Reader.names text with
  | error error => exact ⟨error, rfl⟩
  | ok keys =>
    exfalso
    obtain ⟨rest, hrun, hskip⟩ := parse_eq_ok_iff.1 hparse
    by_cases hobject : IsObject t
    · obtain ⟨ms, hvalues, henclosed⟩ := hobject
      obtain ⟨rfl, -⟩ := (Reader.names_run_iff hvalues henclosed hs).1 hrun
      exact h.elim (absurd ⟨ms, hvalues, henclosed⟩) (absurd (skipSpace_eq_nil_iff.1 hskip))
    · obtain ⟨c, more, rfl, -⟩ := ht.begins
      have hc : c ≠ '{' := by
        rintro rfl
        exact hobject ht.of_brace
      exact Reader.names_run_ne_ok hc hs hrun

end Names

end FirmwareKit.Json
