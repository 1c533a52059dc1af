import Mathlib.Data.List.Pairwise
import FirmwareKit.Proofs.Json.Objects

/-! Records of named fields, and the laws of their spellings. An object describes a record if each
field has the value of its only member, or its default where it has no member. What an object
describes depends neither on the order of its members, nor on members of other names, nor on which
of its names a field goes by; a list of the first values describes what the object of those fields
describes; and an object that repeats a field describes nothing. -/

namespace FirmwareKit.Json

/-- A field of a record: the names of its members, what their values mean, the value that a record
has there, and the default, if the field can be absent. -/
structure NamedField (α : Type) where
  names : List String
  {β : Type}
  Means : List Char → β → Prop
  value : α → β
  default? : Option β

namespace NamedField

variable {α : Type}

/-- The values that the members of an object have for the field. -/
def given (f : NamedField α) (ms : List NamedMember) : List (List Char) :=
  (ms.filter fun m => m.name ∈ f.names).map fun m => m.value

/-- The record has the value of the field's only member, or the default if there is no member. -/
def Fits (f : NamedField α) (ms : List NamedMember) (a : α) : Prop :=
  (f.given ms = [] ∧ f.default? = some (f.value a)) ∨
    ∃ t, f.given ms = [t] ∧ f.Means t (f.value a)

end NamedField

/-- Every field of the record fits to the members. -/
def Describes {α : Type} (fields : List (NamedField α)) (ms : List NamedMember) (a : α) : Prop :=
  ∀ f ∈ fields, f.Fits ms a

/-- The text is one object with these members. -/
structure IsObjectText (ms : List NamedMember) (text : String) : Prop where
  values : ∀ m ∈ ms, IsValue m.value
  spelled : ∃ before t after, Spaces before ∧ Spaces after ∧
    Enclosed '{' '}' (ms.map fun m => m.text) t ∧ text.toList = before ++ (t ++ after)

/-- The text is one list of these values. -/
structure IsListText (ts : List (List Char)) (text : String) : Prop where
  values : ∀ t ∈ ts, IsValue t
  spelled : ∃ before t after, Spaces before ∧ Spaces after ∧
    Enclosed '[' ']' ts t ∧ text.toList = before ++ (t ++ after)

/-- All spellings of a record mean the same. -/
structure Lawful {α : Type} (fields : List (NamedField α)) (parse : String → Except Error α) :
    Prop where
  /-- An object is read as what its members describe. -/
  object : ∀ {ms text a}, IsObjectText ms text → (parse text = .ok a ↔ Describes fields ms a)
  /-- An object is read if no field has two members, if the members of fields mean something there,
  and if every field that has no default has a member. -/
  success : ∀ {ms text}, IsObjectText ms text → (∀ f ∈ fields, (f.given ms).length ≤ 1) →
    (∀ f ∈ fields, ∀ t ∈ f.given ms, ∃ b, f.Means t b) →
    (∀ f ∈ fields, f.default? = none → f.given ms ≠ []) → ∃ a, parse text = .ok a
  /-- The order of the members does not matter. -/
  permuted : ∀ {ms ms' text text' a}, IsObjectText ms text → IsObjectText ms' text' →
    ms.Perm ms' → (parse text = .ok a ↔ parse text' = .ok a)
  /-- A member of another name does not matter. -/
  unknown : ∀ {front m back text text' a}, IsObjectText (front ++ m :: back) text →
    IsObjectText (front ++ back) text' → (∀ f ∈ fields, m.name ∉ f.names) →
      (parse text = .ok a ↔ parse text' = .ok a)
  /-- Which of its names a field goes by does not matter. -/
  renamed : ∀ {front m m' back text text' f a}, IsObjectText (front ++ m :: back) text →
    IsObjectText (front ++ m' :: back) text' → f ∈ fields → m.name ∈ f.names → m'.name ∈ f.names →
      m.value = m'.value → (parse text = .ok a ↔ parse text' = .ok a)
  /-- A list of values is read as the object that gives them to the first fields. -/
  list : ∀ {ts ms text text' a}, IsListText ts text → IsObjectText ms text' →
    List.Forall₂ (fun (f : NamedField α) (m : NamedMember) => m.name ∈ f.names)
      (fields.take ts.length) ms → (ms.map fun m => m.value) = ts →
      (parse text = .ok a ↔ parse text' = .ok a)
  /-- An object in which a field has two members is refused. -/
  repeated : ∀ {ms text f}, IsObjectText ms text → f ∈ fields → 2 ≤ (f.given ms).length →
    ∃ e, parse text = .error e
  /-- An object in which a field without default has no member is refused. -/
  missing : ∀ {ms text f}, IsObjectText ms text → f ∈ fields → f.default? = none →
    f.given ms = [] → ∃ e, parse text = .error e

section Describes

variable {α : Type} {fields : List (NamedField α)} {f : NamedField α}
  {ms ms' front back : List NamedMember} {m : NamedMember} {a : α}

theorem NamedField.Fits.perm (h : f.Fits ms a) (hgiven : (f.given ms).Perm (f.given ms')) :
    f.Fits ms' a := by
  rcases h with ⟨hnone, hdefault⟩ | ⟨t, hone, hmeans⟩
  · rw [hnone] at hgiven
    exact .inl ⟨hgiven.nil_eq.symm, hdefault⟩
  · rw [hone] at hgiven
    exact .inr ⟨t, List.perm_singleton.1 hgiven.symm, hmeans⟩

/-- What an object describes depends on the values of its fields alone. -/
theorem describes_congr (h : ∀ f ∈ fields, (f.given ms).Perm (f.given ms')) :
    Describes fields ms a ↔ Describes fields ms' a :=
  ⟨fun hms f hf => (hms f hf).perm (h f hf), fun hms f hf => (hms f hf).perm (h f hf).symm⟩

theorem NamedField.given_append (f : NamedField α) (front back : List NamedMember) :
    f.given (front ++ back) = f.given front ++ f.given back := by
  simp [given]

theorem NamedField.given_cons_of_mem (h : m.name ∈ f.names) :
    f.given (m :: ms) = m.value :: f.given ms := by
  simp [given, h]

theorem NamedField.given_cons_of_not_mem (h : m.name ∉ f.names) :
    f.given (m :: ms) = f.given ms := by
  simp [given, h]

theorem NamedField.isValue_of_mem_given {t : List Char} (hvalues : ∀ m ∈ ms, IsValue m.value)
    (h : t ∈ f.given ms) : IsValue t := by
  obtain ⟨m, hm, rfl⟩ := List.mem_map.1 h
  exact hvalues m (List.mem_of_mem_filter hm)

/-- A field with two members fits nothing. -/
theorem NamedField.Fits.length_le (h : f.Fits ms a) : (f.given ms).length ≤ 1 := by
  rcases h with ⟨hnone, -⟩ | ⟨t, hone, -⟩
  · simp [hnone]
  · simp [hone]

theorem NamedField.Fits.exists_means {t : List Char} (h : f.Fits ms a) (ht : t ∈ f.given ms) :
    ∃ b, f.Means t b := by
  rcases h with ⟨hnone, -⟩ | ⟨t', hone, hmeans⟩
  · simp [hnone] at ht
  · obtain rfl : t = t' := by simpa [hone] using ht
    exact ⟨_, hmeans⟩

end Describes

/-! ### Shapes with slots -/

/-- A field together with its place in a draft and the reader of its values. -/
structure Slot (δ α : Type) extends NamedField α where
  reader : Reader β
  get : δ → Option β
  put : β → δ → δ
  reads : reader.Reads Means
  get_put : ∀ b d, get (put b d) = some b

/-- A slot for a string. -/
def Slot.string {δ α : Type} (names : List String) (value : α → String) (default? : Option String)
    (get : δ → Option String) (put : String → δ → δ) (get_put : ∀ s d, get (put s d) = some s) :
    Slot δ α where
  names
  Means := IsString
  value
  default?
  reader := .string
  get
  put
  reads := Reader.string_reads
  get_put

/-- A slot for a list. -/
def Slot.list {δ α β : Type} (names : List String) {item : Reader β} {Means : List Char → β → Prop}
    (reads : item.Reads Means) (value : α → List β) (default? : Option (List β))
    (get : δ → Option (List β)) (put : List β → δ → δ) (get_put : ∀ l d, get (put l d) = some l) :
    Slot δ α where
  names
  Means := IsList Means
  value
  default?
  reader := .list item
  get
  put
  reads := reads.list
  get_put

/-- The slots share no name, and neither is changed with the other. -/
structure Slot.Apart {δ α : Type} (s s' : Slot δ α) : Prop where
  names : ∀ name ∈ s.names, name ∉ s'.names
  get_put : ∀ b d, s.get (s'.put b d) = s.get d
  get_put' : ∀ b d, s'.get (s.put b d) = s'.get d

/-- The shape reads and completes drafts slot by slot. -/
structure Shape.HasSlots {δ α : Type} (shape : Shape δ α) (slots : List (Slot δ α)) : Prop where
  apart : slots.Pairwise Slot.Apart
  start : ∀ s ∈ slots, s.get shape.start = none
  member : ∀ s ∈ slots, ∀ name ∈ s.names, ∀ d, ∃ report,
    shape.member d name = Reader.field report (s.get d) s.reader fun b => s.put b d
  ignored : ∀ name, (∀ s ∈ slots, name ∉ s.names) → ∀ d,
    shape.member d name = (Reader.ignore d).afterColon
  inOrder : shape.inOrder = slots.map fun s d => s.reader.map fun b => s.put b d
  finish : ∀ d a, shape.finish d = .ok a ↔
    ∀ s ∈ slots, (s.get d).or s.default? = some (s.value a)
  exists_finish : ∀ d, (∀ s ∈ slots, s.default? = none → s.get d ≠ none) →
    ∃ a, shape.finish d = .ok a
  finishInOrder : ∀ n d a, (∀ s ∈ slots.drop n, s.get d = none) →
    (shape.finishInOrder n d = .ok a ↔ shape.finish d = .ok a)

/-- A member of the name leads to a draft in which the value of its slot is put, if that is empty;
a member without slot leads nowhere else. -/
def SlotStep {δ α : Type} (slots : List (Slot δ α)) (d : δ) (name : String) (t : List Char)
    (e : δ) : Prop :=
  (∃ s ∈ slots, name ∈ s.names ∧ s.get d = none ∧ ∃ b, s.Means t b ∧ s.put b d = e) ∨
    (∀ s ∈ slots, name ∉ s.names) ∧ e = d

section Slots

variable {δ α : Type} {slots : List (Slot δ α)} {s s' : Slot δ α} {d e : δ} {name : String}
  {ms : List NamedMember} {t : List Char}

theorem Slot.Apart.symm (h : Slot.Apart s s') : Slot.Apart s' s where
  names name hname hname' := h.names name hname' hname
  get_put := h.get_put'
  get_put' := h.get_put

/-- Slots of one list that are not the same are apart. -/
theorem Slot.apart_of_ne (h : slots.Pairwise Slot.Apart) (hs : s ∈ slots) (hs' : s' ∈ slots)
    (hne : s ≠ s') : Slot.Apart s s' := by
  have hsymm : Std.Symm (Slot.Apart : Slot δ α → Slot δ α → Prop) := ⟨fun _ _ => Slot.Apart.symm⟩
  exact h.forall hs hs' hne

theorem Slot.eq_of_name (h : slots.Pairwise Slot.Apart) (hs : s ∈ slots) (hs' : s' ∈ slots)
    (hname : name ∈ s.names) (hname' : name ∈ s'.names) : s = s' := by
  by_contra hne
  exact (Slot.apart_of_ne h hs hs' hne).names name hname hname'

theorem slotStep_iff (h : slots.Pairwise Slot.Apart) (hs : s ∈ slots) (hname : name ∈ s.names) :
    SlotStep slots d name t e ↔ s.get d = none ∧ ∃ b, s.Means t b ∧ s.put b d = e := by
  constructor
  · rintro (⟨s', hs', hname', hstep⟩ | ⟨hno, -⟩)
    · obtain rfl := Slot.eq_of_name h hs hs' hname hname'
      exact hstep
    · exact absurd hname (hno s hs)
  · exact fun hstep => .inl ⟨s, hs, hname, hstep⟩

/-- The value of a slot that was empty is that of the only member of its field; no other member
changes it, and no field has a second member. -/
theorem Folds.get_eq (h : slots.Pairwise Slot.Apart) (hs : s ∈ slots)
    (hfolds : Folds (SlotStep slots) d ms e) :
    (s.given ms = [] ∧ s.get e = s.get d) ∨
      s.get d = none ∧ ∃ t b, s.given ms = [t] ∧ s.Means t b ∧ s.get e = some b := by
  induction ms generalizing d with
  | nil =>
    obtain rfl := hfolds
    exact .inl ⟨rfl, rfl⟩
  | cons m ms ih =>
    obtain ⟨next, hstep, hmore⟩ := hfolds
    by_cases hname : m.name ∈ s.names
    · obtain ⟨hnone, b, hmeans, rfl⟩ := (slotStep_iff h hs hname).1 hstep
      rw [NamedField.given_cons_of_mem hname]
      rcases ih hmore with ⟨hgiven, hget⟩ | ⟨hempty, -⟩
      · exact .inr ⟨hnone, m.value, b, by rw [hgiven], hmeans, by rw [hget, s.get_put]⟩
      · rw [s.get_put] at hempty
        cases hempty
    · have hnext : s.get next = s.get d := by
        rcases hstep with ⟨s', hs', hname', -, b, -, rfl⟩ | ⟨-, rfl⟩
        · have hne : s ≠ s' := fun heq => hname (heq ▸ hname')
          exact (Slot.apart_of_ne h hs hs' hne).get_put b d
        · rfl
      rw [NamedField.given_cons_of_not_mem hname, ← hnext]
      exact ih hmore

/-- The slot has one member at most, which means something and finds the slot empty. -/
structure Slot.Open (s : Slot δ α) (d : δ) (ms : List NamedMember) : Prop where
  one : (s.given ms).length ≤ 1
  means : ∀ t ∈ s.given ms, ∃ b, s.Means t b
  empty : s.given ms ≠ [] → s.get d = none

theorem Slot.Open.of_given_eq_nil (h : s.given ms = []) : s.Open d ms where
  one := by simp [h]
  means := by simp [h]
  empty hne := absurd h hne

theorem Slot.Open.congr {ms' : List NamedMember} (h : s.Open d ms)
    (hgiven : s.given ms = s.given ms') (hget : s.get e = s.get d) : s.Open e ms' where
  one := hgiven ▸ h.one
  means := hgiven ▸ h.means
  empty := hget ▸ hgiven ▸ h.empty

/-- Members lead on if all slots are open to them. -/
theorem exists_folds (h : slots.Pairwise Slot.Apart) (hopen : ∀ s ∈ slots, s.Open d ms) :
    ∃ e, Folds (SlotStep slots) d ms e := by
  induction ms generalizing d with
  | nil => exact ⟨d, rfl⟩
  | cons m ms ih =>
    by_cases hknown : ∃ s ∈ slots, m.name ∈ s.names
    · obtain ⟨s, hs, hname⟩ := hknown
      obtain ⟨hone, hmeans, hempty⟩ := hopen s hs
      rw [NamedField.given_cons_of_mem hname] at hone hmeans hempty
      obtain ⟨b, hb⟩ := hmeans m.value List.mem_cons_self
      have hnone : s.get d = none := hempty (List.cons_ne_nil _ _)
      have hlast : s.given ms = [] := by simpa using hone
      have hopen' : ∀ s' ∈ slots, s'.Open (s.put b d) ms := by
        intro s' hs'
        by_cases heq : s' = s
        · rw [heq]
          exact .of_given_eq_nil hlast
        · -- the other slots have the same members left
          have hapart := Slot.apart_of_ne h hs' hs heq
          exact (hopen s' hs').congr
            (NamedField.given_cons_of_not_mem fun hname' => hapart.names _ hname' hname)
            (hapart.get_put b d)
      obtain ⟨e, he⟩ := ih hopen'
      exact ⟨e, s.put b d, .inl ⟨s, hs, hname, hnone, b, hb, rfl⟩, he⟩
    · have hno : ∀ s ∈ slots, m.name ∉ s.names := fun s hs hname => hknown ⟨s, hs, hname⟩
      obtain ⟨e, he⟩ := ih (d := d) fun s hs =>
        (hopen s hs).congr (NamedField.given_cons_of_not_mem (hno s hs)) rfl
      exact ⟨e, d, .inr ⟨hno, rfl⟩, he⟩

/-- Values of the first slots lead where the members of those names lead. -/
theorem foldsInOrder_iff (h : slots.Pairwise Slot.Apart) {first : List (Slot δ α)}
    (hfirst : first.Pairwise Slot.Apart) (hmem : ∀ s ∈ first, s ∈ slots)
    (hempty : ∀ s ∈ first, s.get d = none) {ts : List (List Char)}
    (hnames : List.Forall₂ (fun (s : Slot δ α) (m : NamedMember) => m.name ∈ s.names)
      (first.take ts.length) ms) (hvalues : (ms.map fun m => m.value) = ts) :
    FoldsInOrder (first.map fun s d t e => ∃ b, s.Means t b ∧ s.put b d = e) d ts e ↔
      Folds (SlotStep slots) d ms e := by
  induction first generalizing d ts ms with
  | nil =>
    obtain rfl : ms = [] := by simpa using hnames
    subst hvalues
    rfl
  | cons s first ih =>
    obtain ⟨hapart, hfirst⟩ := List.pairwise_cons.1 hfirst
    obtain ⟨hs, hmem⟩ := List.forall_mem_cons.1 hmem
    obtain ⟨hnone, hempty⟩ := List.forall_mem_cons.1 hempty
    subst hvalues
    cases ms with
    | nil => rfl
    | cons m ms =>
      cases hnames with | cons hname hnames
      refine exists_congr fun next => ?_
      rw [slotStep_iff h hs hname, and_iff_right hnone]
      refine and_congr_right fun hstep => ?_
      obtain ⟨b, -, rfl⟩ := hstep
      refine ih hfirst hmem (fun s' hs' => ?_) hnames rfl
      rw [(hapart s' hs').get_put', hempty s' hs']

/-- The slots behind those of the values stay as they are. -/
theorem FoldsInOrder.get_eq (h : slots.Pairwise Slot.Apart) {ts : List (List Char)}
    (hfolds : FoldsInOrder (slots.map fun s d t e => ∃ b, s.Means t b ∧ s.put b d = e) d ts e) :
    ∀ s ∈ slots.drop ts.length, s.get e = s.get d := by
  induction slots generalizing d ts with
  | nil => simp
  | cons s₀ slots ih =>
    obtain ⟨hapart, hslots⟩ := List.pairwise_cons.1 h
    cases ts with
    | nil =>
      obtain rfl := hfolds
      exact fun _ _ => rfl
    | cons t ts =>
      obtain ⟨_, ⟨b, -, rfl⟩, hmore⟩ := hfolds
      intro s hs
      rw [ih hslots hmore s hs, (hapart s (List.mem_of_mem_drop hs)).get_put']

end Slots

/-! ### Records that are read by slots -/

namespace Shape.HasSlots

variable {δ α : Type} {shape : Shape δ α} {slots : List (Slot δ α)} {a : α}
  {ms : List NamedMember} {t rest rest' s : List Char}

theorem readsMember (h : shape.HasSlots slots) (d : δ) (name : String) :
    (shape.member d name).ReadsMember (SlotStep slots d name) where
  run_iff hb ht hrest hs := by
    by_cases hknown : ∃ slot ∈ slots, name ∈ slot.names
    · obtain ⟨slot, hslot, hname⟩ := hknown
      obtain ⟨report, hmember⟩ := h.member slot hslot name hname d
      rw [hmember, (slot.reads.field report (slot.get d) _).run_iff hb ht hrest hs,
        slotStep_iff h.apart hslot hname]
    · have hno : ∀ slot ∈ slots, name ∉ slot.names := fun slot hslot hname =>
        hknown ⟨slot, hslot, hname⟩
      rw [h.ignored name hno, (Reader.ignore_reads d).afterColon.run_iff hb ht hrest hs]
      refine and_congr_right fun _ => ⟨fun heq => .inr ⟨hno, heq⟩, ?_⟩
      rintro (⟨slot, hslot, hname, -⟩ | ⟨-, heq⟩)
      · exact absurd hname (hno slot hslot)
      · exact heq

theorem reads_inOrder (h : shape.HasSlots slots) :
    List.Forall₂ (fun field Step => ∀ d, (field d).Reads (Step d)) shape.inOrder
      (slots.map fun s d t e => ∃ b, s.Means t b ∧ s.put b d = e) := by
  rw [h.inOrder, List.forall₂_map_left_iff, List.forall₂_map_right_iff, List.forall₂_same]
  exact fun slot _ d => slot.reads.map _

/-- An object describes what its members lead to. -/
theorem describes_iff (h : shape.HasSlots slots) (hvalues : ∀ m ∈ ms, IsValue m.value) :
    Describes (slots.map Slot.toNamedField) ms a ↔
      ∃ d, Folds (SlotStep slots) shape.start ms d ∧ shape.finish d = .ok a := by
  rw [Describes, List.forall_mem_map]
  constructor
  · intro hfits
    obtain ⟨d, hd⟩ := exists_folds h.apart fun s hs =>
      ⟨(hfits s hs).length_le, fun _ ht => (hfits s hs).exists_means ht, fun _ => h.start s hs⟩
    refine ⟨d, hd, (h.finish d a).2 fun s hs => ?_⟩
    rcases hd.get_eq h.apart hs with ⟨hnone, hget⟩ | ⟨-, t, b, hsome, hb, hget⟩
    · rcases hfits s hs with ⟨-, hdefault⟩ | ⟨t, hgiven, -⟩
      · rw [hget, h.start s hs, Option.none_or, hdefault]
      · simp [hnone] at hgiven
    · rcases hfits s hs with ⟨hgiven, -⟩ | ⟨t', hgiven, hmeans'⟩
      · simp [hsome] at hgiven
      · obtain rfl : t = t' := by simpa [hsome] using hgiven
        have hmem : t ∈ s.given ms := by simp [hsome]
        have ht : IsValue t := NamedField.isValue_of_mem_given hvalues hmem
        rw [hget, Option.some_or, s.reads.unique ht hb hmeans']
  · rintro ⟨d, hd, hfinish⟩ s hs
    have hvalue := (h.finish d a).1 hfinish s hs
    rcases hd.get_eq h.apart hs with ⟨hnone, hget⟩ | ⟨-, t, b, hsome, hb, hget⟩
    · rw [hget, h.start s hs, Option.none_or] at hvalue
      exact .inl ⟨hnone, hvalue⟩
    · rw [hget, Option.some_or, Option.some.injEq] at hvalue
      exact .inr ⟨t, hsome, hvalue ▸ hb⟩

/-- An object is read as what it describes. -/
theorem run_object_iff (h : shape.HasSlots slots) (hvalues : ∀ m ∈ ms, IsValue m.value)
    (ht : Enclosed '{' '}' (ms.map fun m => m.text) t) (hs : skipSpace s = t ++ rest) :
    shape.reader.run s = .ok (a, rest') ↔
      rest' = rest ∧ Describes (slots.map Slot.toNamedField) ms a := by
  have hmembers : ∀ m ∈ ms.map NamedMember.toMember, IsValue m.value := by
    simpa using hvalues
  rw [shape.reader_object_iff h.readsMember hmembers (by rwa [List.map_map]) hs,
    h.describes_iff hvalues]
  refine and_congr_right fun _ => ⟨?_, fun ⟨d, hd⟩ => ⟨ms, d, rfl, hd⟩⟩
  rintro ⟨named, d, hnamed, hd⟩
  rw [List.map_injective_iff.2 NamedMember.toMember_injective hnamed] at hd
  exact ⟨d, hd⟩

/-- A list is read as what the object that gives its values to the first fields describes. -/
theorem run_list_iff (h : shape.HasSlots slots) {ts : List (List Char)}
    (hvalues : ∀ t ∈ ts, IsValue t) (ht : Enclosed '[' ']' ts t)
    (hnames : List.Forall₂ (fun (s : Slot δ α) (m : NamedMember) => m.name ∈ s.names)
      (slots.take ts.length) ms) (hms : (ms.map fun m => m.value) = ts)
    (hs : skipSpace s = t ++ rest) :
    shape.reader.run s = .ok (a, rest') ↔
      rest' = rest ∧ Describes (slots.map Slot.toNamedField) ms a := by
  have hvalues' : ∀ m ∈ ms, IsValue m.value := fun m hm =>
    hvalues _ (hms ▸ List.mem_map_of_mem hm)
  rw [shape.reader_list_iff h.reads_inOrder hvalues ht hs, h.describes_iff hvalues']
  refine and_congr_right fun _ => exists_congr fun d => ?_
  rw [← foldsInOrder_iff h.apart h.apart (fun _ hs => hs) h.start hnames hms]
  refine and_congr_right fun hfolds => h.finishInOrder _ d a fun s hs => ?_
  rw [hfolds.get_eq h.apart s hs, h.start s (List.mem_of_mem_drop hs)]

theorem parse_object_iff (h : shape.HasSlots slots) {text : String} (ht : IsObjectText ms text) :
    parse shape.reader text = .ok a ↔ Describes (slots.map Slot.toNamedField) ms a := by
  obtain ⟨before, t, after, hbefore, hafter, henclosed, htext⟩ := ht.spelled
  have hvalues : ∀ m ∈ ms.map NamedMember.toMember, IsValue m.value := by simpa using ht.values
  have hvalue : IsValue t := .object hvalues (by rwa [List.map_map])
  exact parse_iff_of_run hafter fun _ => h.run_object_iff ht.values henclosed
    (htext ▸ hvalue.begins.skipSpace_spaces_append hbefore after)

theorem parse_list_iff (h : shape.HasSlots slots) {ts : List (List Char)} {text : String}
    (ht : IsListText ts text)
    (hnames : List.Forall₂ (fun (s : Slot δ α) (m : NamedMember) => m.name ∈ s.names)
      (slots.take ts.length) ms) (hms : (ms.map fun m => m.value) = ts) :
    parse shape.reader text = .ok a ↔ Describes (slots.map Slot.toNamedField) ms a := by
  obtain ⟨before, t, after, hbefore, hafter, henclosed, htext⟩ := ht.spelled
  have hvalue : IsValue t := .array ht.values henclosed
  exact parse_iff_of_run hafter fun _ => h.run_list_iff ht.values henclosed hnames hms
    (htext ▸ hvalue.begins.skipSpace_spaces_append hbefore after)

/-- A record is taken off the start of a text just as it is read alone. -/
theorem reads (h : shape.HasSlots slots) :
    shape.reader.Reads fun t a => parse shape.reader (String.ofList t) = .ok a := by
  suffices halone : shape.reader.Reads fun t a => shape.reader.run t = .ok (a, []) from halone.parse
  refine ⟨?_⟩
  intro t s rest rest' a ht _ hs
  have hself : skipSpace t = t ++ [] := by simpa using ht.begins.skipSpace_append []
  obtain ⟨c, more, rfl, -⟩ := id ht.begins
  by_cases hobject : c = '{'
  · subst hobject
    obtain ⟨ms, hvalues, henclosed⟩ := ht.of_brace
    rw [shape.reader_object_iff h.readsMember hvalues henclosed hs,
      shape.reader_object_iff h.readsMember hvalues henclosed hself, and_iff_right rfl]
  · by_cases hlist : c = '['
    · subst hlist
      obtain ⟨ts, hvalues, henclosed⟩ := ht.of_bracket
      rw [shape.reader_list_iff h.reads_inOrder hvalues henclosed hs,
        shape.reader_list_iff h.reads_inOrder hvalues henclosed hself, and_iff_right rfl]
    · exact iff_of_false (shape.not_reader_ok hs hobject hlist)
        fun hrun => shape.not_reader_ok hself hobject hlist hrun.2

/-- All spellings of a record that is read slot by slot mean the same. -/
theorem lawful (h : shape.HasSlots slots) :
    Lawful (slots.map Slot.toNamedField) (parse shape.reader) where
  object ht := h.parse_object_iff ht
  success {ms text} ht hone hmeans hmissing := by
    rw [List.forall_mem_map] at hone hmeans hmissing
    obtain ⟨d, hd⟩ := exists_folds h.apart fun s hs =>
      ⟨hone s hs, hmeans s hs, fun _ => h.start s hs⟩
    have hpresent : ∀ s ∈ slots, s.default? = none → s.get d ≠ none := by
      intro s hs hdefault
      rcases hd.get_eq h.apart hs with ⟨hnone, -⟩ | ⟨-, t, b, -, -, hget⟩
      · exact absurd hnone (hmissing s hs hdefault)
      · simp [hget]
    obtain ⟨a, ha⟩ := h.exists_finish d hpresent
    exact ⟨a, (h.parse_object_iff ht).2 ((h.describes_iff ht.values).2 ⟨d, hd, ha⟩)⟩
  permuted ht ht' hperm := by
    rw [h.parse_object_iff ht, h.parse_object_iff ht']
    exact describes_congr fun f _ => (hperm.filter _).map _
  unknown ht ht' hname := by
    rw [h.parse_object_iff ht, h.parse_object_iff ht']
    refine describes_congr fun f hf => ?_
    rw [f.given_append, f.given_append, NamedField.given_cons_of_not_mem (hname f hf)]
  renamed {front m m' back text text' f a} ht ht' hf hname hname' hvalue := by
    rw [h.parse_object_iff ht, h.parse_object_iff ht']
    refine describes_congr fun f' hf' => ?_
    obtain ⟨s, hs, rfl⟩ := List.mem_map.1 hf
    obtain ⟨s', hs', rfl⟩ := List.mem_map.1 hf'
    rw [NamedField.given_append, NamedField.given_append]
    by_cases heq : s' = s
    · rw [heq, NamedField.given_cons_of_mem hname, NamedField.given_cons_of_mem hname', hvalue]
    · have hapart := Slot.apart_of_ne h.apart hs hs' (Ne.symm heq)
      rw [NamedField.given_cons_of_not_mem (hapart.names _ hname),
        NamedField.given_cons_of_not_mem (hapart.names _ hname')]
  list ht ht' hnames hms := by
    rw [← List.map_take, List.forall₂_map_left_iff] at hnames
    rw [h.parse_list_iff ht hnames hms, h.parse_object_iff ht']
  repeated {ms text f} ht hf htwo := by
    cases hresult : parse shape.reader text with
    | error e => exact ⟨e, rfl⟩
    | ok a =>
      have hone := ((h.parse_object_iff ht).1 hresult f hf).length_le
      omega
  missing {ms text f} ht hf hdefault hnone := by
    cases hresult : parse shape.reader text with
    | error e => exact ⟨e, rfl⟩
    | ok a =>
      rcases (h.parse_object_iff ht).1 hresult f hf with ⟨-, hsome⟩ | ⟨t, hsome, -⟩
      · rw [hdefault] at hsome
        cases hsome
      · rw [hnone] at hsome
        cases hsome

end Shape.HasSlots

end FirmwareKit.Json
