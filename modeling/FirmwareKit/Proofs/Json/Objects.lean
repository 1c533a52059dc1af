import FirmwareKit.Proofs.Json.Decoding

/-! What readers make of objects and of lists of fields. The members of an object lead from one
draft to the next by their names, the values of a list by their places. Either way the text is
taken off whole, and it is refused if some step is. -/

namespace FirmwareKit.Json

/-! ### Objects -/

/-- A member whose name is spelled. -/
structure NamedMember extends Member where
  name : String
  spelled : SpellsAll quoted name.toList

theorem isQuotable_spelled (s : String) : IsQuotable (s.toList.flatMap writeChar) :=
  (spellsAll_flatMap _).isQuotable

theorem isValue_writeString (s : String) : IsValue (writeString s) :=
  .scalar (.string (isQuotable_spelled s))

/-- A member with its name as it is written, and nothing around the colon. -/
def NamedMember.written (name : String) (value : List Char) : NamedMember where
  quoted := name.toList.flatMap writeChar
  beforeColon := []
  afterColon := []
  value
  quotable := isQuotable_spelled name
  spaces_beforeColon := spaces_nil
  spaces_afterColon := spaces_nil
  name
  spelled := spellsAll_flatMap _

theorem SpellsAll.unique {t s s' : List Char} (h : SpellsAll t s) (h' : SpellsAll t s') :
    s = s' := by
  have hbody := h.stringBody_append []
  rw [h'.stringBody_append] at hbody
  cases hbody
  rfl

/-- The name of a member is told by its text. -/
theorem NamedMember.toMember_injective : Function.Injective NamedMember.toMember := by
  rintro ⟨m, name, spelled⟩ ⟨m', name', spelled'⟩ h
  obtain rfl : m = m' := h
  obtain rfl : name = name' := String.toList_inj.1 (spelled.unique spelled')
  rfl

theorem IsValue.of_brace {more : List Char} (h : IsValue ('{' :: more)) :
    ∃ ms : List Member, (∀ m ∈ ms, IsValue m.value) ∧
      Enclosed '{' '}' (ms.map Member.text) ('{' :: more) := by
  cases h with
  | scalar scalar =>
    obtain ⟨_, _, heq, -, hc⟩ := scalar.starts
    cases heq
    cases hc
  | array _ enclosed =>
    obtain ⟨_, heq⟩ := enclosed.starts
    cases heq
  | object values enclosed => exact ⟨_, values, enclosed⟩

/-- Members lead from one draft to another, each from where those before it led. -/
def Folds {δ : Type} (Step : δ → String → List Char → δ → Prop) :
    δ → List NamedMember → δ → Prop
  | d, [], e => d = e
  | d, m :: ms, e => ∃ next, Step d m.name m.value next ∧ Folds Step next ms e

section Objects

variable {δ : Type} {member : δ → String → Reader δ} {Step : δ → String → List Char → δ → Prop}
  {d e : δ} {m : Member} {ms : List Member} {t before rest rest' : List Char}

theorem members_eq_ok_iff {first : Bool} {s s' : List Char}
    (hnext : nextMember first s = .ok (.more s')) :
    members member first d s = .ok (e, rest') ↔ ∃ name out next out',
      stringBody s' = .ok (name, out) ∧ (member d (String.ofList name)).run out = .ok (next, out') ∧
        members member false next out' = .ok (e, rest') := by
  rw [members_eq, hnext]
  dsimp only
  cases stringBody s' with
  | error f => simp
  | ok found =>
    obtain ⟨name, out⟩ := found
    dsimp only
    cases hrun : (member d (String.ofList name)).run out with
    | error f =>
      simp only [reduceCtorEq, false_iff]
      rintro ⟨_, _, _, _, heq, hrun', -⟩
      cases heq
      rw [hrun] at hrun'
      cases hrun'
    | ok found' =>
      constructor
      · exact fun h => ⟨name, out, found'.1, found'.2, rfl, hrun, h⟩
      · rintro ⟨_, _, _, _, heq, hrun', h⟩
        cases heq
        rw [hrun] at hrun'
        cases hrun'
        exact h

theorem nextMember_text (m : Member) (hbefore : Spaces before) (rest : List Char) :
    nextMember true (before ++ (m.text ++ rest)) =
      .ok (.more (m.quoted ++ '"' ::
        (m.beforeColon ++ ':' :: (m.afterColon ++ (m.value ++ rest))))) := by
  rw [nextMember, m.begins.skipSpace_spaces_append hbefore, Member.text]
  simp

/-- A member is read if its name is spelled, and then the others behind it. -/
theorem Reader.ReadsMember.members_iff
    (hmember : ∀ d name, (member d name).ReadsMember (Step d name)) (hvalue : IsValue m.value)
    (hbefore : Spaces before) (hrest : EndsValue rest) :
    members member true d (before ++ (m.text ++ rest)) = .ok (e, rest') ↔
      ∃ name next, SpellsAll m.quoted name.toList ∧ Step d name m.value next ∧
        members member false next rest = .ok (e, rest') := by
  have hcolon : skipSpace (m.beforeColon ++ ':' :: (m.afterColon ++ (m.value ++ rest))) =
      ':' :: (m.afterColon ++ (m.value ++ rest)) := by
    rw [skipSpace_append m.spaces_beforeColon, skipSpace_cons rfl]
  have hrun {name : String} {next : δ} {out : List Char} :
      (member d name).run (m.beforeColon ++ ':' :: (m.afterColon ++ (m.value ++ rest))) =
        .ok (next, out) ↔ out = rest ∧ Step d name m.value next :=
    (hmember d name).run_iff m.spaces_afterColon hvalue hrest hcolon
  rw [members_eq_ok_iff (nextMember_text m hbefore rest)]
  simp only [m.quotable.stringBody_iff]
  constructor
  · rintro ⟨name, _, next, _, ⟨rfl, hspells⟩, hmember', hmore⟩
    obtain ⟨rfl, hstep⟩ := hrun.1 hmember'
    exact ⟨String.ofList name, next, by simpa using hspells, hstep, hmore⟩
  · rintro ⟨name, next, hspells, hstep, hmore⟩
    refine ⟨name.toList, _, next, rest, ⟨rfl, hspells⟩, ?_, hmore⟩
    rw [String.ofList_toList]
    exact hrun.2 ⟨rfl, hstep⟩

theorem Row.skipSpace_members (h : Row (ms.map Member.text) t) (rest : List Char) :
    ∃ more, skipSpace (t ++ rest) = '"' :: more := by
  generalize hps : ms.map Member.text = ps at h
  cases h with
  | last spaces | cons spaces =>
    obtain ⟨m, _, -, rfl, -⟩ := List.map_eq_cons_iff.1 hps
    rw [List.append_assoc, List.append_assoc, m.begins.skipSpace_spaces_append spaces]
    exact ⟨_, rfl⟩

theorem Row.members_comma (h : Row (ms.map Member.text) t) {after : List Char}
    (hafter : Spaces after) (rest : List Char) :
    members member false d (after ++ ',' :: (t ++ rest)) = members member true d (t ++ rest) := by
  obtain ⟨_, hskip⟩ := h.skipSpace_members rest
  rw [members_eq, members_eq, nextMember_comma hafter hskip]

/-- Members in a row are read if their names are spelled and their values lead on. -/
theorem Row.members_iff (hmember : ∀ d name, (member d name).ReadsMember (Step d name))
    (h : Row (ms.map Member.text) t) (hvalues : ∀ m ∈ ms, IsValue m.value) :
    members member true d (t ++ '}' :: rest) = .ok (e, rest') ↔
      rest' = '}' :: rest ∧
        ∃ named, named.map NamedMember.toMember = ms ∧ Folds Step d named e := by
  generalize hps : ms.map Member.text = ps at h
  induction h generalizing ms d with
  | last spaces spaces' =>
    obtain ⟨m, _, rfl, rfl, hnil⟩ := List.map_eq_cons_iff.1 hps
    obtain rfl := List.map_eq_nil_iff.1 hnil
    rw [List.append_assoc, List.append_assoc,
      Reader.ReadsMember.members_iff hmember (hvalues m List.mem_cons_self) spaces
        ((endsValue_objectEnd rest).append spaces')]
    simp only [members_stop spaces', Except.ok.injEq, Prod.mk.injEq]
    constructor
    · rintro ⟨name, _, hspells, hstep, rfl, rfl⟩
      exact ⟨rfl, [⟨m, name, hspells⟩], rfl, _, hstep, rfl⟩
    · rintro ⟨rfl, named, hnamed, hfolds⟩
      obtain ⟨n, _, rfl, rfl, hnil⟩ := List.map_eq_cons_iff.1 hnamed
      obtain rfl := List.map_eq_nil_iff.1 hnil
      obtain ⟨_, hstep, rfl⟩ := hfolds
      exact ⟨n.name, _, n.spelled, hstep, rfl, rfl⟩
  | cons spaces spaces' row ih =>
    obtain ⟨m, more, rfl, rfl, rfl⟩ := List.map_eq_cons_iff.1 hps
    obtain ⟨hvalue, hmore⟩ := List.forall_mem_cons.1 hvalues
    rw [List.append_assoc, List.append_assoc, List.append_assoc, List.cons_append,
      Reader.ReadsMember.members_iff hmember hvalue spaces ((endsValue_comma _).append spaces')]
    simp only [row.members_comma spaces', ih hmore rfl]
    constructor
    · rintro ⟨name, next, hspells, hstep, rfl, named, rfl, hfolds⟩
      exact ⟨rfl, ⟨m, name, hspells⟩ :: named, rfl, next, hstep, hfolds⟩
    · rintro ⟨rfl, named, hnamed, hfolds⟩
      obtain ⟨n, named', rfl, rfl, hnamed'⟩ := List.map_eq_cons_iff.1 hnamed
      obtain ⟨next, hstep, hfolds'⟩ := hfolds
      exact ⟨n.name, next, n.spelled, hstep, rfl, named', hnamed', hfolds'⟩

/-- What stands between the braces of an object is read to its end if the names of its members are
spelled and their values lead on. -/
theorem Enclosed.members_iff (hmember : ∀ d name, (member d name).ReadsMember (Step d name))
    (hvalues : ∀ m ∈ ms, IsValue m.value) (h : Enclosed '{' '}' (ms.map Member.text) t)
    {s : List Char} (hs : t ++ rest = '{' :: s) :
    (∃ out, members member true d s = .ok (e, out) ∧ closeObject out = .ok rest') ↔
      rest' = rest ∧ ∃ named, named.map NamedMember.toMember = ms ∧ Folds Step d named e := by
  generalize hps : ms.map Member.text = ps at h
  cases h with
  | empty spaces =>
    obtain rfl := List.map_eq_nil_iff.1 hps
    rw [List.cons_append, List.append_assoc] at hs
    obtain rfl := (List.cons.inj hs).2
    rw [List.singleton_append, members_stop spaces]
    constructor
    · rintro ⟨_, heq, hclose⟩
      cases heq
      rw [closeObject_of_end] at hclose
      cases hclose
      exact ⟨rfl, [], rfl, rfl⟩
    · rintro ⟨rfl, named, hnamed, hfolds⟩
      obtain rfl := List.map_eq_nil_iff.1 hnamed
      obtain rfl := hfolds
      exact ⟨_, rfl, closeObject_of_end _⟩
  | row row =>
    subst hps
    rw [List.cons_append, List.append_assoc] at hs
    obtain rfl := (List.cons.inj hs).2
    simp only [List.singleton_append, row.members_iff hmember hvalues]
    constructor
    · rintro ⟨_, ⟨rfl, hfolds⟩, hclose⟩
      rw [closeObject_of_end] at hclose
      cases hclose
      exact ⟨rfl, hfolds⟩
    · rintro ⟨rfl, hfolds⟩
      exact ⟨_, ⟨rfl, hfolds⟩, closeObject_of_end _⟩

theorem objectBody_eq_ok_iff {s : List Char} :
    objectBody member d s = .ok (e, rest') ↔
      ∃ out, members member true d s = .ok (e, out) ∧ closeObject out = .ok rest' := by
  rw [objectBody]
  cases members member true d s with
  | error f => simp
  | ok found =>
    constructor
    · intro h
      obtain ⟨_, hclose, heq⟩ := ok_of_map h
      cases heq
      exact ⟨found.2, rfl, hclose⟩
    · rintro ⟨_, heq, hclose⟩
      cases heq
      exact map_eq_ok_iff.2 ⟨rest', hclose, rfl⟩

/-- An object is read if its members are, whatever its layout. -/
theorem Reader.object_iff {expected : Expected}
    (hmember : ∀ d name, (member d name).ReadsMember (Step d name))
    (hvalues : ∀ m ∈ ms, IsValue m.value) (h : Enclosed '{' '}' (ms.map Member.text) t)
    {s : List Char} (hs : skipSpace s = t ++ rest) :
    (Reader.object expected member d).run s = .ok (e, rest') ↔
      rest' = rest ∧ ∃ named, named.map NamedMember.toMember = ms ∧ Folds Step d named e := by
  obtain ⟨inner, hinner⟩ := h.starts
  have hopening : t ++ rest = '{' :: (inner ++ rest) := by rw [hinner, List.cons_append]
  rw [← h.members_iff hmember hvalues hopening, Reader.object]
  simp only [hs, hopening, objectBody_eq_ok_iff]

end Objects

/-! ### Fields by name and in order -/

/-- Values of the first fields lead from one draft to another, each from where those before it
led. -/
def FoldsInOrder {δ : Type} :
    List (δ → List Char → δ → Prop) → δ → List (List Char) → δ → Prop
  | _, d, [], e => d = e
  | [], _, _ :: _, _ => False
  | Step :: steps, d, p :: ps, e => ∃ next, Step d p next ∧ FoldsInOrder steps next ps e

section Fields

variable {δ α : Type} {shape : Shape δ α} {fields : List (δ → Reader δ)}
  {steps : List (δ → List Char → δ → Prop)} {d e : δ} {a : α} {n : Nat}
  {ps : List (List Char)} {t rest rest' : List Char}

theorem Shape.complete_eq_ok_iff {closing : Char} {close : List Char → Except Fault (List Char)}
    {s : List Char} {r : Except Cause α} :
    complete closing close s r = .ok (a, rest') ↔ r = .ok a ∧ close s = .ok rest' := by
  cases r with
  | error cause => simp [complete]
  | ok b =>
    rw [complete, map_eq_ok_iff]
    constructor
    · rintro ⟨_, hclose, heq⟩
      cases heq
      exact ⟨rfl, hclose⟩
    · rintro ⟨heq, hclose⟩
      cases heq
      exact ⟨_, hclose, rfl⟩

theorem Shape.object_eq_ok_iff {s : List Char} :
    shape.object s = .ok (a, rest') ↔ ∃ d out, members shape.member true shape.start s =
      .ok (d, out) ∧ shape.finish d = .ok a ∧ closeObject out = .ok rest' := by
  rw [Shape.object]
  cases members shape.member true shape.start s with
  | error f => simp
  | ok found =>
    dsimp only
    rw [complete_eq_ok_iff]
    constructor
    · exact fun h => ⟨found.1, found.2, rfl, h⟩
    · rintro ⟨_, _, heq, h⟩
      cases heq
      exact h

/-- An object is read if its members lead to a draft that can be completed. -/
theorem Shape.reader_object_iff {Step : δ → String → List Char → δ → Prop}
    (hmember : ∀ d name, (shape.member d name).ReadsMember (Step d name)) {ms : List Member}
    (hvalues : ∀ m ∈ ms, IsValue m.value) (h : Enclosed '{' '}' (ms.map Member.text) t)
    {s : List Char} (hs : skipSpace s = t ++ rest) :
    shape.reader.run s = .ok (a, rest') ↔ rest' = rest ∧
      ∃ named d, named.map NamedMember.toMember = ms ∧ Folds Step shape.start named d ∧
        shape.finish d = .ok a := by
  obtain ⟨inner, hinner⟩ := h.starts
  have hopening : t ++ rest = '{' :: (inner ++ rest) := by rw [hinner, List.cons_append]
  rw [Shape.reader]
  simp only [hs, hopening, object_eq_ok_iff]
  constructor
  · rintro ⟨d, out, hout, hfinish, hclose⟩
    obtain ⟨rfl, named, hnamed, hfolds⟩ :=
      (h.members_iff hmember hvalues hopening).1 ⟨out, hout, hclose⟩
    exact ⟨rfl, named, d, hnamed, hfolds, hfinish⟩
  · rintro ⟨rfl, named, d, hnamed, hfolds, hfinish⟩
    obtain ⟨out, hout, hclose⟩ :=
      (h.members_iff hmember hvalues hopening).2 ⟨rfl, named, hnamed, hfolds⟩
    exact ⟨d, out, hout, hfinish, hclose⟩

/-! ### Fields in order -/

theorem fieldsInOrder_cons_eq_ok_iff {first : Bool} {s s' : List Char} {field : δ → Reader δ}
    (hnext : nextElement first s = .ok (.more s')) :
    fieldsInOrder first d s (field :: fields) = .ok ((n, e), rest') ↔ ∃ next out k,
      (field d).run s' = .ok (next, out) ∧
        fieldsInOrder false next out fields = .ok ((k, e), rest') ∧ n = k + 1 := by
  rw [fieldsInOrder, hnext]
  dsimp only
  cases (field d).run s' with
  | error f => simp
  | ok found =>
    obtain ⟨next, out⟩ := found
    dsimp only
    constructor
    · intro h
      obtain ⟨⟨⟨k, _⟩, _⟩, hmore, heq⟩ := ok_of_map h
      cases heq
      exact ⟨next, out, k, rfl, hmore, rfl⟩
    · rintro ⟨_, _, k, heq, hmore, rfl⟩
      cases heq
      exact map_eq_ok_iff.2 ⟨((k, e), rest'), hmore, rfl⟩

/-- The rest of a list is read in order up to its end, and the bracket is taken off. -/
def Ordered (first : Bool) (d : δ) (s : List Char) (fields : List (δ → Reader δ)) (n : Nat) (e : δ)
    (rest : List Char) : Prop :=
  ∃ out, fieldsInOrder first d s fields = .ok ((n, e), out) ∧ closeList out = .ok rest

theorem ordered_stop_iff {first : Bool} {w : List Char} (hw : Spaces w) :
    Ordered first d (w ++ ']' :: rest) fields n e rest' ↔ rest' = rest ∧ n = 0 ∧ d = e := by
  have hclose : closeList (w ++ ']' :: rest) = .ok rest := by
    rw [closeList, skipSpace_append hw, skipSpace_cons rfl]
    rfl
  have hstop : ∃ out, fieldsInOrder first d (w ++ ']' :: rest) fields = .ok ((0, d), out) ∧
      closeList out = .ok rest := by
    cases fields with
    | nil => exact ⟨_, rfl, hclose⟩
    | cons field fields =>
      refine ⟨']' :: rest, ?_, closeList_of_end rest⟩
      rw [fieldsInOrder, nextElement, skipSpace_append hw, skipSpace_cons rfl]
      rfl
  obtain ⟨out, hfields, hout⟩ := hstop
  rw [Ordered, hfields]
  constructor
  · rintro ⟨_, heq, hclose'⟩
    cases heq
    rw [hout] at hclose'
    cases hclose'
    exact ⟨rfl, rfl, rfl⟩
  · rintro ⟨rfl, rfl, rfl⟩
    exact ⟨out, rfl, hout⟩

/-- No list is read in order that has more values than there are fields. -/
theorem not_ordered_nil {first : Bool} {s more : List Char} {c : Char}
    (hs : skipSpace s = c :: more) (hc : c ≠ ']') :
    ¬ Ordered first d s ([] : List (δ → Reader δ)) n e rest' := by
  rintro ⟨_, heq, hclose⟩
  cases heq
  rw [closeList, hs] at hclose
  simp only [if_neg hc] at hclose
  split at hclose
  · split at hclose <;> cases hclose
  · cases hclose

theorem Begins.not_ordered_nil {first : Bool} {p before : List Char} (hp : Begins p)
    (hbefore : Spaces before) (rest : List Char) :
    ¬ Ordered first d (before ++ (p ++ rest)) ([] : List (δ → Reader δ)) n e rest' := by
  have hskip := hp.skipSpace_spaces_append hbefore rest
  obtain ⟨c, more, rfl, -, -, hend, -⟩ := hp
  exact Json.not_ordered_nil hskip hend

/-- A value is read as the next field, and then those behind it. -/
theorem Reader.Reads.ordered_iff {field : δ → Reader δ} {Step : δ → List Char → δ → Prop}
    (h : ∀ d, (field d).Reads (Step d)) {p before : List Char} (hp : IsValue p)
    (hbefore : Spaces before) (hrest : EndsValue rest) :
    Ordered true d (before ++ (p ++ rest)) (field :: fields) n e rest' ↔
      ∃ next k, Step d p next ∧ Ordered false next rest fields k e rest' ∧ n = k + 1 := by
  unfold Ordered
  simp only [fieldsInOrder_cons_eq_ok_iff (nextElement_begins hp.begins hbefore rest),
    (h d).run_iff hp hrest (hp.begins.skipSpace_append rest)]
  constructor
  · rintro ⟨out, ⟨next, _, k, ⟨rfl, hstep⟩, hmore, rfl⟩, hclose⟩
    exact ⟨next, k, hstep, ⟨out, hmore, hclose⟩, rfl⟩
  · rintro ⟨next, k, hstep, ⟨out, hmore, hclose⟩, rfl⟩
    exact ⟨out, ⟨next, rest, k, ⟨rfl, hstep⟩, hmore, rfl⟩, hclose⟩

theorem Row.ordered_comma (h : Row ps t) (hvalues : ∀ p ∈ ps, IsValue p) {after : List Char}
    (hafter : Spaces after) (rest : List Char) :
    Ordered false d (after ++ ',' :: (t ++ rest)) fields n e rest' ↔
      Ordered true d (t ++ rest) fields n e rest' := by
  obtain ⟨c, _, hskip, -, hend, -⟩ := h.begins (fun p hp => (hvalues p hp).begins) rest
  cases fields with
  | nil =>
    have hcomma : skipSpace (after ++ ',' :: (t ++ rest)) = ',' :: (t ++ rest) := by
      rw [skipSpace_append hafter, skipSpace_cons rfl]
    exact iff_of_false (not_ordered_nil hcomma (by decide)) (not_ordered_nil hskip hend)
  | cons field fields =>
    rw [Ordered, Ordered, fieldsInOrder, fieldsInOrder, h.nextElement_comma hvalues hafter]

/-- Values in a row are read in order if there are enough fields and each value has a meaning for
its field. -/
theorem Row.ordered_iff
    (hfields : List.Forall₂ (fun field Step => ∀ d, (field d).Reads (Step d)) fields steps)
    (h : Row ps t) (hvalues : ∀ p ∈ ps, IsValue p) :
    Ordered true d (t ++ ']' :: rest) fields n e rest' ↔
      rest' = rest ∧ n = ps.length ∧ FoldsInOrder steps d ps e := by
  induction h generalizing d n fields steps with
  | last spaces spaces' =>
    have hp := hvalues _ List.mem_cons_self
    rw [List.append_assoc, List.append_assoc]
    cases hfields with
    | nil => exact iff_of_false (hp.begins.not_ordered_nil spaces _) (by simp [FoldsInOrder])
    | cons hfield hmore =>
      rw [Reader.Reads.ordered_iff hfield hp spaces ((endsValue_listEnd rest).append spaces')]
      simp only [ordered_stop_iff spaces', FoldsInOrder]
      constructor
      · rintro ⟨next, _, hstep, ⟨rfl, rfl, rfl⟩, rfl⟩
        exact ⟨rfl, rfl, next, hstep, rfl⟩
      · rintro ⟨rfl, rfl, next, hstep, rfl⟩
        exact ⟨next, 0, hstep, ⟨rfl, rfl, rfl⟩, rfl⟩
  | cons spaces spaces' row ih =>
    obtain ⟨hp, hmore⟩ := List.forall_mem_cons.1 hvalues
    rw [List.append_assoc, List.append_assoc, List.append_assoc, List.cons_append]
    cases hfields with
    | nil => exact iff_of_false (hp.begins.not_ordered_nil spaces _) (by simp [FoldsInOrder])
    | cons hfield hfields =>
      rw [Reader.Reads.ordered_iff hfield hp spaces ((endsValue_comma _).append spaces')]
      simp only [row.ordered_comma hmore spaces', ih hfields hmore, FoldsInOrder]
      constructor
      · rintro ⟨next, _, hstep, ⟨rfl, rfl, hfolds⟩, rfl⟩
        exact ⟨rfl, rfl, next, hstep, hfolds⟩
      · rintro ⟨rfl, rfl, next, hstep, hfolds⟩
        exact ⟨next, _, hstep, ⟨rfl, rfl, hfolds⟩, rfl⟩

theorem Shape.list_eq_ok_iff {s : List Char} :
    shape.list s = .ok (a, rest') ↔ ∃ n d, Ordered true shape.start s shape.inOrder n d rest' ∧
      shape.finishInOrder n d = .ok a := by
  rw [Shape.list]
  unfold Ordered
  cases fieldsInOrder true shape.start s shape.inOrder with
  | error f => simp
  | ok found =>
    obtain ⟨⟨n, d⟩, out⟩ := found
    dsimp only
    rw [complete_eq_ok_iff]
    constructor
    · rintro ⟨hfinish, hclose⟩
      exact ⟨n, d, ⟨out, rfl, hclose⟩, hfinish⟩
    · rintro ⟨_, _, ⟨_, heq, hclose⟩, hfinish⟩
      cases heq
      exact ⟨hfinish, hclose⟩

/-- A list is read in order if its values lead to a draft that can be completed. -/
theorem Shape.reader_list_iff
    (hfields : List.Forall₂ (fun field Step => ∀ d, (field d).Reads (Step d)) shape.inOrder steps)
    (hvalues : ∀ p ∈ ps, IsValue p) (h : Enclosed '[' ']' ps t)
    {s : List Char} (hs : skipSpace s = t ++ rest) :
    shape.reader.run s = .ok (a, rest') ↔ rest' = rest ∧
      ∃ d, FoldsInOrder steps shape.start ps d ∧ shape.finishInOrder ps.length d = .ok a := by
  have hlist {inner : List Char} (ht : t = '[' :: (inner ++ [']'])) :
      shape.reader.run s = .ok (a, rest') ↔ ∃ n d,
        Ordered true shape.start (inner ++ ']' :: rest) shape.inOrder n d rest' ∧
          shape.finishInOrder n d = .ok a := by
    rw [ht, List.cons_append, List.append_assoc] at hs
    rw [Shape.reader]
    simp only [hs, List.singleton_append, list_eq_ok_iff]
  cases h with
  | empty spaces =>
    rw [hlist rfl]
    simp only [ordered_stop_iff spaces]
    constructor
    · rintro ⟨_, _, ⟨rfl, rfl, rfl⟩, hfinish⟩
      exact ⟨rfl, _, by cases steps <;> rfl, hfinish⟩
    · rintro ⟨rfl, d, hfolds, hfinish⟩
      obtain rfl : shape.start = d := by cases steps <;> exact hfolds
      exact ⟨_, _, ⟨rfl, rfl, rfl⟩, hfinish⟩
  | row row =>
    rw [hlist rfl]
    simp only [row.ordered_iff hfields hvalues]
    constructor
    · rintro ⟨_, d, ⟨rfl, rfl, hfolds⟩, hfinish⟩
      exact ⟨rfl, d, hfolds, hfinish⟩
    · rintro ⟨rfl, d, hfolds, hfinish⟩
      exact ⟨_, d, ⟨rfl, rfl, hfolds⟩, hfinish⟩

/-- A value that is neither an object nor a list has no fields. -/
theorem Shape.not_reader_ok {c : Char} {more s : List Char} (hs : skipSpace s = c :: more)
    (hobject : c ≠ '{') (hlist : c ≠ '[') : shape.reader.run s ≠ .ok (a, rest') := by
  rw [Shape.reader]
  simp only [hs]
  split
  · next heq => exact absurd (List.cons.inj heq).1 hobject
  · next heq => exact absurd (List.cons.inj heq).1 hlist
  · simp

end Fields

end FirmwareKit.Json
