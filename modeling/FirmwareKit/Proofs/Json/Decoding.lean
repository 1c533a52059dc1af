import Mathlib.Data.List.Forall2
import FirmwareKit.Proofs.Json.Grammar

/-! What readers make of values. On a text that starts with a JSON value, a reader either refuses
it or takes off just that value and gives what it means. Strings, lists and values that are passed
over are read so, and with them the members of an object and the fields of a list. -/

namespace FirmwareKit.Json

/-- From a text that starts with a value, the reader takes just that value off, and gives what it
means; it refuses what means nothing. -/
structure Reader.Reads {α : Type} (r : Reader α) (Means : List Char → α → Prop) : Prop where
  run_iff : ∀ {t s rest rest' : List Char} {a : α}, IsValue t → EndsValue rest →
    skipSpace s = t ++ rest → (r.run s = .ok (a, rest') ↔ rest' = rest ∧ Means t a)

/-- The same for a member's value and the colon in front of it. -/
structure Reader.ReadsMember {δ : Type} (r : Reader δ) (Step : List Char → δ → Prop) : Prop where
  run_iff : ∀ {b t s rest rest' : List Char} {d : δ}, Spaces b → IsValue t → EndsValue rest →
    skipSpace s = ':' :: (b ++ (t ++ rest)) →
      (r.run s = .ok (d, rest') ↔ rest' = rest ∧ Step t d)

theorem map_eq_ok_iff {α β : Type} {r : Except Fault α} {f : α → β} {b : β} :
    r.map f = .ok b ↔ ∃ a, r = .ok a ∧ f a = b := by
  refine ⟨ok_of_map, ?_⟩
  rintro ⟨a, rfl, rfl⟩
  rfl

theorem parse_eq_ok_iff {α : Type} {r : Reader α} {text : String} {a : α} :
    parse r text = .ok a ↔ ∃ rest, r.run text.toList = .ok (a, rest) ∧ skipSpace rest = [] := by
  rw [parse]
  cases r.run text.toList with
  | error f => simp
  | ok found =>
    obtain ⟨b, rest⟩ := found
    simp only [Except.ok.injEq, Prod.mk.injEq]
    cases hskip : skipSpace rest with
    | nil => simp [hskip]
    | cons => simp [hskip]

theorem Spaces.endsValue {s : List Char} (h : Spaces s) : EndsValue s := by
  simpa using endsValue_nil.append h

/-- A document is read if its value is, up to the white space at the end. -/
theorem parse_iff_of_run {α : Type} {r : Reader α} {text : String} {after : List Char} {a : α}
    {P : Prop} (hafter : Spaces after)
    (hrun : ∀ rest, r.run text.toList = .ok (a, rest) ↔ rest = after ∧ P) :
    parse r text = .ok a ↔ P := by
  have hskip : skipSpace after = [] := by simpa [skipSpace] using skipSpace_append hafter []
  rw [parse_eq_ok_iff]
  simp only [hrun]
  constructor
  · rintro ⟨_, ⟨rfl, hP⟩, -⟩
    exact hP
  · exact fun hP => ⟨after, ⟨rfl, hP⟩, hskip⟩

namespace Reader

variable {α β δ : Type} {r : Reader α} {Means : List Char → α → Prop} {t : List Char}

/-- A value means one thing at most. -/
theorem Reads.unique (h : r.Reads Means) (ht : IsValue t) {a b : α} (ha : Means t a)
    (hb : Means t b) : a = b := by
  have hskip : skipSpace t = t ++ [] := by simpa using ht.begins.skipSpace_append []
  have hrun := (h.run_iff ht endsValue_nil hskip).2 ⟨rfl, ha⟩
  rw [(h.run_iff ht endsValue_nil hskip).2 ⟨rfl, hb⟩] at hrun
  cases hrun
  rfl

/-- A document is read if its value means something. -/
theorem Reads.parse_iff (h : r.Reads Means) (ht : IsValue t) {before after : List Char}
    (hbefore : Spaces before) (hafter : Spaces after) {text : String}
    (htext : text.toList = before ++ (t ++ after)) {a : α} :
    parse r text = .ok a ↔ Means t a :=
  parse_iff_of_run hafter fun _ => h.run_iff ht (hafter.endsValue)
    (htext ▸ ht.begins.skipSpace_spaces_append hbefore after)

/-- What a reader makes of values can be told by the documents that hold them alone. -/
theorem Reads.parse (h : r.Reads Means) :
    r.Reads fun t a => Json.parse r (String.ofList t) = .ok a where
  run_iff ht hrest hs := by
    rw [h.run_iff ht hrest hs,
      h.parse_iff ht spaces_nil spaces_nil (by rw [String.toList_ofList, List.nil_append,
        List.append_nil])]

theorem ignore_reads (a : α) : (ignore a).Reads fun _ b => b = a where
  run_iff ht hrest hs := by
    have hskip := ht.skipValue_eq [] _ _ hrest hs
    rw [skipRest_nil] at hskip
    rw [ignore]
    simp only [skip, hskip, Except.map, Except.ok.injEq, Prod.mk.injEq]
    exact ⟨fun h => ⟨h.2.symm, h.1.symm⟩, fun h => ⟨h.2.symm, h.1.symm⟩⟩

theorem Reads.map (h : r.Reads Means) (f : α → β) :
    (r.map f).Reads fun t b => ∃ a, Means t a ∧ f a = b where
  run_iff ht hrest hs := by
    rw [Reader.map, map_eq_ok_iff]
    constructor
    · rintro ⟨⟨a, _⟩, hrun, heq⟩
      cases heq
      obtain ⟨rfl, hmeans⟩ := (h.run_iff ht hrest hs).1 hrun
      exact ⟨rfl, a, hmeans, rfl⟩
    · rintro ⟨rfl, a, hmeans, rfl⟩
      exact ⟨(a, _), (h.run_iff ht hrest hs).2 ⟨rfl, hmeans⟩, rfl⟩

theorem Reads.afterColon (h : r.Reads Means) : r.afterColon.ReadsMember Means where
  run_iff {b t s rest _ _} hb ht hrest hs := by
    have hcolon : colon s = .ok (b ++ (t ++ rest)) := by
      rw [colon, hs]
      rfl
    rw [Reader.afterColon]
    simp only [hcolon]
    exact h.run_iff ht hrest (ht.begins.skipSpace_spaces_append hb rest)

theorem duplicate_readsMember (name : String) :
    (duplicate name : Reader δ).ReadsMember fun _ _ => False where
  run_iff := by
    intros
    simp [duplicate]

/-- The reader of a field takes what its value means, unless the field was read before. -/
theorem Reads.field (h : r.Reads Means) (name : String) (old : Option α) (set : α → δ) :
    (Reader.field name old r set).ReadsMember
      fun t d => old = none ∧ ∃ a, Means t a ∧ set a = d := by
  cases old with
  | none => simpa [Reader.field] using (h.map set).afterColon
  | some => simpa [Reader.field] using duplicate_readsMember name

end Reader

/-! ### Strings -/

/-- The text is a string in quotes. -/
def IsString (t : List Char) (s : String) : Prop :=
  ∃ body, SpellsAll body s.toList ∧ t = '"' :: (body ++ ['"'])

theorem IsValue.of_quote {more : List Char} (h : IsValue ('"' :: more)) :
    ∃ body, IsQuotable body ∧ more = body ++ ['"'] := by
  cases h with
  | scalar scalar =>
    cases scalar with
    | string quotable => exact ⟨_, quotable, rfl⟩
    | number number =>
      obtain ⟨c, _, heq, hc⟩ := number.starts
      obtain ⟨rfl, -⟩ := List.cons.inj heq
      exact absurd rfl (ne_of_startsNumber hc (d := '"') (by decide))
  | array _ enclosed | object _ enclosed =>
    obtain ⟨_, heq⟩ := enclosed.starts
    cases heq

theorem Reader.string_reads : Reader.string.Reads IsString where
  run_iff {t s rest rest' a} ht hrest hs := by
    obtain ⟨c, more, rfl, hspace, -⟩ := ht.begins
    by_cases hquote : c = '"'
    · subst hquote
      obtain ⟨body, hbody, rfl⟩ := ht.of_quote
      rw [List.cons_append, List.append_assoc] at hs
      rw [Reader.string]
      simp only [hs, List.singleton_append, map_eq_ok_iff, Prod.exists, hbody.stringBody_iff]
      constructor
      · rintro ⟨s', _, ⟨rfl, hspells⟩, heq⟩
        cases heq
        exact ⟨rfl, body, by simpa using hspells, rfl⟩
      · rintro ⟨rfl, body', hspells, heq⟩
        obtain rfl : body = body' := by simpa using heq
        exact ⟨_, _, ⟨rfl, hspells⟩, by simp⟩
    · have hno : ¬ IsString (c :: more) a := by
        rintro ⟨_, -, heq⟩
        exact hquote (List.cons.inj heq).1
      rw [Reader.string]
      simp only [hs, hno, and_false, iff_false]
      split
      · next heq => exact absurd (List.cons.inj heq).1 hquote
      · simp

/-! ### Lists -/

/-- The text is a list of elements with that meaning. -/
def IsList {α : Type} (Means : List Char → α → Prop) (t : List Char) (as : List α) : Prop :=
  ∃ ps, (∀ p ∈ ps, IsValue p) ∧ Enclosed '[' ']' ps t ∧ List.Forall₂ Means ps as

theorem IsValue.of_bracket {more : List Char} (h : IsValue ('[' :: more)) :
    ∃ ps, (∀ p ∈ ps, IsValue p) ∧ Enclosed '[' ']' ps ('[' :: more) := by
  cases h with
  | scalar scalar =>
    obtain ⟨_, _, heq, -, hc⟩ := scalar.starts
    cases heq
    cases hc
  | array items enclosed => exact ⟨_, items, enclosed⟩
  | object _ enclosed =>
    obtain ⟨_, heq⟩ := enclosed.starts
    cases heq

section Lists

variable {α : Type} {item : Reader α} {Means : List Char → α → Prop} {as : List α}
  {ps : List (List Char)} {t rest rest' : List Char}

theorem nextElement_begins {p before : List Char} (hp : Begins p) (hbefore : Spaces before)
    (rest : List Char) : nextElement true (before ++ (p ++ rest)) = .ok (.more (p ++ rest)) := by
  rw [nextElement, hp.skipSpace_spaces_append hbefore]
  obtain ⟨c, more, rfl, -, -, hend, -⟩ := hp
  simp [hend]

theorem elements_eq_ok_iff {first : Bool} {s s' : List Char}
    (hnext : nextElement first s = .ok (.more s')) :
    elements item first s = .ok (as, rest') ↔ ∃ a out more, item.run s' = .ok (a, out) ∧
      elements item false out = .ok (more, rest') ∧ as = a :: more := by
  rw [elements_eq, hnext]
  dsimp only
  cases item.run s' with
  | error e => simp
  | ok found =>
    obtain ⟨a, out⟩ := found
    constructor
    · intro h
      obtain ⟨⟨more, _⟩, hmore, heq⟩ := ok_of_map h
      cases heq
      exact ⟨a, out, more, rfl, hmore, rfl⟩
    · rintro ⟨_, _, more, heq, hmore, rfl⟩
      cases heq
      exact map_eq_ok_iff.2 ⟨(more, rest'), hmore, rfl⟩

/-- An element is read, and then the others behind it. -/
theorem Reader.Reads.elements_iff (h : item.Reads Means) {p before : List Char} (hp : IsValue p)
    (hbefore : Spaces before) (hrest : EndsValue rest) :
    elements item true (before ++ (p ++ rest)) = .ok (as, rest') ↔
      ∃ a more, as = a :: more ∧ Means p a ∧ elements item false rest = .ok (more, rest') := by
  rw [elements_eq_ok_iff (nextElement_begins hp.begins hbefore rest)]
  simp only [h.run_iff hp hrest (hp.begins.skipSpace_append rest)]
  constructor
  · rintro ⟨a, _, more, ⟨rfl, hmeans⟩, hmore, rfl⟩
    exact ⟨a, more, rfl, hmeans, hmore⟩
  · rintro ⟨a, more, rfl, hmeans, hmore⟩
    exact ⟨a, rest, more, ⟨rfl, hmeans⟩, hmore, rfl⟩

theorem Row.nextElement_comma (h : Row ps t) (hvalues : ∀ p ∈ ps, IsValue p)
    {after : List Char} (hafter : Spaces after) (rest : List Char) :
    nextElement false (after ++ ',' :: (t ++ rest)) = nextElement true (t ++ rest) := by
  obtain ⟨c, more, hskip, -, hend, -⟩ := h.begins (fun p hp => (hvalues p hp).begins) rest
  exact Json.nextElement_comma hafter hskip hend

theorem Row.elements_iff (hitem : item.Reads Means) (h : Row ps t)
    (hvalues : ∀ p ∈ ps, IsValue p) :
    elements item true (t ++ ']' :: rest) = .ok (as, rest') ↔
      rest' = ']' :: rest ∧ List.Forall₂ Means ps as := by
  induction h generalizing as with
  | last spaces spaces' =>
    rw [List.append_assoc, List.append_assoc, hitem.elements_iff (hvalues _ List.mem_cons_self)
      spaces ((endsValue_listEnd rest).append spaces'), elements_stop spaces']
    simp only [Except.ok.injEq, Prod.mk.injEq, List.forall₂_cons_left_iff,
      List.forall₂_nil_left_iff]
    constructor
    · rintro ⟨a, _, rfl, hmeans, rfl, rfl⟩
      exact ⟨rfl, a, [], hmeans, rfl, rfl⟩
    · rintro ⟨rfl, a, _, hmeans, rfl, rfl⟩
      exact ⟨a, [], rfl, hmeans, rfl, rfl⟩
  | cons spaces spaces' row ih =>
    obtain ⟨hp, hmore⟩ := List.forall_mem_cons.1 hvalues
    rw [List.append_assoc, List.append_assoc, List.append_assoc, List.cons_append,
      hitem.elements_iff hp spaces ((endsValue_comma _).append spaces'), Json.elements_eq,
      row.nextElement_comma hmore spaces', ← Json.elements_eq]
    simp only [ih hmore, List.forall₂_cons_left_iff]
    constructor
    · rintro ⟨a, more, rfl, hmeans, rfl, hall⟩
      exact ⟨rfl, a, more, hmeans, hall, rfl⟩
    · rintro ⟨rfl, a, more, hmeans, hall, rfl⟩
      exact ⟨a, more, rfl, hmeans, rfl, hall⟩

theorem listBody_eq_ok_iff {s : List Char} :
    listBody item s = .ok (as, rest') ↔
      ∃ out, elements item true s = .ok (as, out) ∧ closeList out = .ok rest' := by
  rw [listBody]
  cases elements item true s with
  | error e => simp
  | ok found =>
    constructor
    · intro h
      obtain ⟨_, hclose, heq⟩ := ok_of_map h
      cases heq
      exact ⟨found.2, rfl, hclose⟩
    · rintro ⟨_, heq, hclose⟩
      cases heq
      exact map_eq_ok_iff.2 ⟨rest', hclose, rfl⟩

/-- A list is read if all its elements mean something, whatever its layout. -/
theorem Reader.Reads.list_iff (hitem : item.Reads Means) (hvalues : ∀ p ∈ ps, IsValue p)
    (h : Enclosed '[' ']' ps t) {s : List Char} (hs : skipSpace s = t ++ rest) :
    (Reader.list item).run s = .ok (as, rest') ↔ rest' = rest ∧ List.Forall₂ Means ps as := by
  have hlist {inner : List Char} (ht : t = '[' :: (inner ++ [']'])) :
      (Reader.list item).run s = .ok (as, rest') ↔
        ∃ out, elements item true (inner ++ ']' :: rest) = .ok (as, out) ∧
          closeList out = .ok rest' := by
    rw [ht, List.cons_append, List.append_assoc] at hs
    rw [Reader.list]
    simp only [hs, List.singleton_append, listBody_eq_ok_iff]
  cases h with
  | empty spaces =>
    rw [hlist rfl, elements_stop spaces]
    constructor
    · rintro ⟨_, heq, hclose⟩
      cases heq
      rw [closeList_of_end] at hclose
      cases hclose
      exact ⟨rfl, .nil⟩
    · rintro ⟨rfl, hall⟩
      cases hall
      exact ⟨_, rfl, closeList_of_end _⟩
  | row row =>
    rw [hlist rfl]
    simp only [row.elements_iff hitem hvalues]
    constructor
    · rintro ⟨_, ⟨rfl, hall⟩, hclose⟩
      rw [closeList_of_end] at hclose
      cases hclose
      exact ⟨rfl, hall⟩
    · rintro ⟨rfl, hall⟩
      exact ⟨_, ⟨rfl, hall⟩, closeList_of_end _⟩

theorem Reader.Reads.list (hitem : item.Reads Means) : (Reader.list item).Reads (IsList Means) where
  run_iff {t s rest rest' as} ht hrest hs := by
    obtain ⟨c, more, rfl, -⟩ := ht.begins
    by_cases hbracket : c = '['
    · subst hbracket
      obtain ⟨ps, hvalues, henclosed⟩ := ht.of_bracket
      rw [hitem.list_iff hvalues henclosed hs]
      refine and_congr_right fun _ => ⟨fun hall => ⟨ps, hvalues, henclosed, hall⟩, ?_⟩
      rintro ⟨ps', hvalues', henclosed', hall⟩
      -- both layouts are those of one text, so the list is the same
      have hrun : (Reader.list item).run s = .ok (as, rest) :=
        (hitem.list_iff hvalues' henclosed' hs).2 ⟨rfl, hall⟩
      exact ((hitem.list_iff hvalues henclosed hs).1 hrun).2
    · have hno : ¬ IsList Means (c :: more) as := by
        rintro ⟨_, -, henclosed, -⟩
        obtain ⟨_, heq⟩ := henclosed.starts
        exact hbracket (List.cons.inj heq).1
      rw [Reader.list]
      simp only [hs, hno, and_false, iff_false]
      split
      · next heq => exact absurd (List.cons.inj heq).1 hbracket
      · simp

/-- What a list means does not depend on how its text is taken apart. -/
theorem Reader.Reads.isList_iff (hitem : item.Reads Means) (hvalues : ∀ p ∈ ps, IsValue p)
    (h : Enclosed '[' ']' ps t) : IsList Means t as ↔ List.Forall₂ Means ps as := by
  have ht : IsValue t := .array hvalues h
  have hs : skipSpace t = t ++ [] := by simpa using ht.begins.skipSpace_append []
  have hlist : (Reader.list item).run t = .ok (as, []) ↔ [] = [] ∧ IsList Means t as :=
    hitem.list.run_iff ht endsValue_nil hs
  simpa using hlist.symm.trans (hitem.list_iff hvalues h hs)

end Lists

end FirmwareKit.Json
