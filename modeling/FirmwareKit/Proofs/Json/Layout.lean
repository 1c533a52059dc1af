import Mathlib.Data.List.Basic
import FirmwareKit.Json.Document
import FirmwareKit.Proofs.Json.Spelling

/-! Lists and objects with any white space between their parts. What a reader takes off the
start of a text does not depend on what follows, so a list is read if its elements are, and an
object if each member is, given what was read before it. -/

namespace FirmwareKit.Json

/-- The text is white space. -/
def Spaces (s : List Char) : Prop :=
  ∀ c ∈ s, isSpace c = true

/-- What can stand behind a value: nothing, white space, a comma or a closing bracket. -/
def EndsValue (rest : List Char) : Prop :=
  ∀ c, rest.head? = some c → isSpace c = true ∨ c = ',' ∨ c = ']' ∨ c = '}'

/-- The reader takes the text for a value off the start of any text, white space before it
skipped. -/
structure Reader.Takes {α : Type} (r : Reader α) (t : List Char) (a : α) : Prop where
  starts : ∃ c more, t = c :: more ∧ isSpace c = false ∧ c ≠ ']'
  run_eq : ∀ s rest, EndsValue rest → skipSpace s = t ++ rest → r.run s = .ok (a, rest)

/-! ### White space -/

theorem skipSpace_append {b : List Char} (hb : Spaces b) (s : List Char) :
    skipSpace (b ++ s) = skipSpace s :=
  List.dropWhile_append_of_pos hb

theorem skipSpace_cons {c : Char} (h : isSpace c = false) (s : List Char) :
    skipSpace (c :: s) = c :: s :=
  List.dropWhile_cons_of_neg (by simp [h])

theorem spaces_nil : Spaces [] := by
  simp [Spaces]

theorem spaces_blank : Spaces [' '] := by
  intro c hc
  obtain rfl := List.mem_singleton.1 hc
  rfl

theorem spaces_newLine (depth : Nat) : Spaces (newLine depth) := by
  intro c hc
  rcases List.mem_cons.1 hc with rfl | hc
  · rfl
  · rw [List.eq_of_mem_replicate hc]
    rfl

theorem endsValue_nil : EndsValue [] := by
  simp [EndsValue]

/-- White space and then something that can stand behind a value can stand behind it. -/
theorem EndsValue.append {b rest : List Char} (h : EndsValue rest) (hb : Spaces b) :
    EndsValue (b ++ rest) := by
  cases b with
  | nil => exact h
  | cons d b =>
    intro c hc
    obtain rfl : d = c := by simpa using hc
    exact .inl (hb d List.mem_cons_self)

theorem endsValue_comma (rest : List Char) : EndsValue (',' :: rest) := by
  simp [EndsValue]

theorem endsValue_listEnd (rest : List Char) : EndsValue (']' :: rest) := by
  simp [EndsValue]

theorem endsValue_objectEnd (rest : List Char) : EndsValue ('}' :: rest) := by
  simp [EndsValue]

namespace Reader.Takes

variable {α β : Type} {r : Reader α} {t : List Char} {a : α}

theorem skipSpace_append (h : r.Takes t a) {b : List Char} (hb : Spaces b) (rest : List Char) :
    skipSpace (b ++ (t ++ rest)) = t ++ rest := by
  obtain ⟨c, more, rfl, hc, -⟩ := h.starts
  rw [Json.skipSpace_append hb, List.cons_append, skipSpace_cons hc]

theorem map (h : r.Takes t a) (f : α → β) : (r.map f).Takes t (f a) where
  starts := h.starts
  run_eq s rest hrest hs := by
    rw [Reader.map]
    simp only [h.run_eq s rest hrest hs, Except.map]

/-- A member's value is taken off behind the colon. -/
theorem afterColon (h : r.Takes t a) {b : List Char} (hb : Spaces b) :
    r.afterColon.Takes (':' :: (b ++ t)) a where
  starts := ⟨':', _, rfl, rfl, by decide⟩
  run_eq s rest hrest hs := by
    have hcolon : colon s = .ok (b ++ (t ++ rest)) := by
      rw [colon, hs, List.cons_append, List.append_assoc]
      rfl
    rw [Reader.afterColon]
    simp only [hcolon]
    exact h.run_eq _ rest hrest (h.skipSpace_append hb rest)

theorem field {δ : Type} {name : String} {set : α → δ} (h : r.Takes t a) {b : List Char}
    (hb : Spaces b) : (Reader.field name none r set).Takes (':' :: (b ++ t)) (set a) :=
  (h.map set).afterColon hb

end Reader.Takes

/-- A spelled string in quotes is taken for the string. -/
theorem SpellsAll.takes {t s : List Char} (h : SpellsAll t s) :
    Reader.string.Takes ('"' :: (t ++ ['"'])) (String.ofList s) where
  starts := ⟨'"', _, rfl, rfl, by decide⟩
  run_eq s' rest _ hs := by
    rw [Reader.string]
    simp only [hs, List.cons_append, List.append_assoc, List.nil_append, h.stringBody_append,
      Except.map]

/-! ### Lists -/

/-- The text of one or more elements, with commas between them and white space around these. -/
inductive Elements {α : Type} (item : Reader α) : List α → List Char → Prop
  | last {a : α} {t after : List Char} (takes : item.Takes t a) (spaces : Spaces after) :
    Elements item [a] (t ++ after)
  | cons {a : α} {as : List α} {t after before more : List Char} (takes : item.Takes t a)
      (spaces : Spaces after) (spaces' : Spaces before) (elements : Elements item as more) :
    Elements item (a :: as) (t ++ (after ++ ',' :: (before ++ more)))

section Lists

variable {α : Type} {item : Reader α} {as : List α} {t b : List Char}

theorem elements_eq (item : Reader α) (first : Bool) (s : List Char) :
    elements item first s =
      match nextElement first s with
      | .error e => .error e
      | .ok (.stop rest) => .ok ([], rest)
      | .ok (.more s') =>
        match item.run s' with
        | .error e => .error e
        | .ok (a, rest) => (elements item false rest).map fun p => (a :: p.1, p.2) := by
  rw [elements]
  split
  · next h => simp only [h]
  · next h => simp only [h]
  · next h =>
    simp only [h]
    split
    · next hi => simp only [hi]
    · next hi =>
      simp only [hi]
      cases elements item false _ <;> rfl

theorem elements_stop {first : Bool} (hb : Spaces b) (rest : List Char) :
    elements item first (b ++ ']' :: rest) = .ok ([], ']' :: rest) := by
  rw [elements_eq, nextElement, skipSpace_append hb, skipSpace_cons rfl]
  rfl

/-- An element is taken off, and then the others behind it. -/
theorem Reader.Takes.elements_cons {a : α} (h : item.Takes t a) (hb : Spaces b) {rest : List Char}
    (hrest : EndsValue rest) :
    elements item true (b ++ (t ++ rest)) =
      (elements item false rest).map fun p => (a :: p.1, p.2) := by
  obtain ⟨c, more, rfl, hc, hend⟩ := h.starts
  have hnext : nextElement true (b ++ (c :: more ++ rest)) = .ok (.more (c :: more ++ rest)) := by
    rw [nextElement, h.skipSpace_append hb, List.cons_append]
    simp [hend]
  have hrun := h.run_eq (c :: more ++ rest) rest hrest (skipSpace_cons hc _)
  rw [elements_eq, hnext]
  simp only [hrun]

theorem Elements.starts (h : Elements item as t) :
    ∃ c more, t = c :: more ∧ isSpace c = false ∧ c ≠ ']' := by
  cases h with
  | last takes | cons takes =>
    obtain ⟨c, more, rfl, hc⟩ := takes.starts
    exact ⟨c, _, rfl, hc⟩

theorem nextElement_comma {c : Char} {s more after : List Char} (hafter : Spaces after)
    (hs : skipSpace s = c :: more) (hend : c ≠ ']') :
    nextElement false (after ++ ',' :: s) = nextElement true s := by
  rw [nextElement, nextElement, skipSpace_append hafter, skipSpace_cons rfl, hs]
  simp [hs, hend]

/-- Behind an element, the others follow a comma. -/
theorem Elements.elements_comma (h : Elements item as t) {after before : List Char}
    (hafter : Spaces after) (hbefore : Spaces before) (rest : List Char) :
    elements item false (after ++ ',' :: (before ++ (t ++ rest))) =
      elements item true (before ++ (t ++ rest)) := by
  obtain ⟨c, more, rfl, hc, hend⟩ := h.starts
  have hskip : skipSpace (before ++ (c :: more ++ rest)) = c :: (more ++ rest) := by
    rw [skipSpace_append hbefore, List.cons_append, skipSpace_cons hc]
  rw [elements_eq, elements_eq, nextElement_comma hafter hskip hend]

theorem Elements.elements_eq (h : Elements item as t) (hb : Spaces b) (rest : List Char) :
    elements item true (b ++ (t ++ ']' :: rest)) = .ok (as, ']' :: rest) := by
  induction h generalizing b with
  | last takes spaces =>
    rw [List.append_assoc, takes.elements_cons hb ((endsValue_listEnd rest).append spaces),
      elements_stop spaces]
    rfl
  | cons takes spaces spaces' more ih =>
    rw [List.append_assoc, List.append_assoc, List.cons_append, List.append_assoc,
      takes.elements_cons hb ((endsValue_comma _).append spaces),
      more.elements_comma spaces spaces', ih spaces']
    rfl

theorem closeList_of_end (rest : List Char) : closeList (']' :: rest) = .ok rest := by
  rw [closeList, skipSpace_cons rfl]
  rfl

/-- A list without elements. -/
theorem takes_emptyList (item : Reader α) (hb : Spaces b) :
    (Reader.list item).Takes ('[' :: (b ++ [']'])) [] where
  starts := ⟨'[', _, rfl, rfl, by decide⟩
  run_eq s rest _ hs := by
    rw [Reader.list]
    simp only [hs, List.cons_append, List.append_assoc, List.nil_append, listBody,
      elements_stop hb, closeList_of_end, Except.map]

/-- A list is taken for the list of what its elements are taken for. -/
theorem Elements.takes (h : Elements item as t) (hb : Spaces b) :
    (Reader.list item).Takes ('[' :: (b ++ (t ++ [']']))) as where
  starts := ⟨'[', _, rfl, rfl, by decide⟩
  run_eq s rest _ hs := by
    rw [Reader.list]
    simp only [hs, List.cons_append, List.append_assoc, List.nil_append, listBody,
      h.elements_eq hb, closeList_of_end, Except.map]

end Lists

/-! ### Objects -/

/-- The text of one or more members that lead from `a` to another value, with commas between them
and white space around these. -/
inductive Members {α : Type} (member : α → String → Reader α) : α → List Char → α → Prop
  | last {a b : α} {name n t before after : List Char} (spelled : SpellsAll n name)
      (spaces : Spaces before) (takes : (member a (String.ofList name)).Takes t b)
      (spaces' : Spaces after) :
    Members member a ('"' :: (n ++ '"' :: (before ++ (t ++ after)))) b
  | cons {a b c : α} {name n t before after next more : List Char} (spelled : SpellsAll n name)
      (spaces : Spaces before) (takes : (member a (String.ofList name)).Takes t b)
      (spaces' : Spaces after) (spaces'' : Spaces next) (members : Members member b more c) :
    Members member a ('"' :: (n ++ '"' :: (before ++ (t ++ (after ++ ',' :: (next ++ more)))))) c

section Objects

variable {α : Type} {member : α → String → Reader α} {a b : α} {t s : List Char}

theorem members_eq (member : α → String → Reader α) (first : Bool) (a : α) (s : List Char) :
    members member first a s =
      match nextMember first s with
      | .error e => .error e
      | .ok (.stop rest) => .ok (a, rest)
      | .ok (.more s') =>
        match stringBody s' with
        | .error e => .error e
        | .ok (name, rest) =>
          match (member a (String.ofList name)).run rest with
          | .error e => .error e
          | .ok (a, rest) => members member false a rest := by
  rw [members]
  split
  · next h => simp only [h]
  · next h => simp only [h]
  · next h =>
    simp only [h]
    split
    · next hs => simp only [hs]
    · next hs =>
      simp only [hs]
      split
      · next hm => simp only [hm]
      · next hm => simp only [hm]

theorem members_stop {first : Bool} (hs : Spaces s) (rest : List Char) :
    members member first a (s ++ '}' :: rest) = .ok (a, '}' :: rest) := by
  rw [members_eq, nextMember, skipSpace_append hs, skipSpace_cons rfl]
  rfl

/-- A member is taken off, and then the others behind it, given what the member led to. -/
theorem Reader.Takes.members_cons {name n before rest : List Char} (hname : SpellsAll n name)
    (hbefore : Spaces before) (h : (member a (String.ofList name)).Takes t b) (hs : Spaces s)
    (hrest : EndsValue rest) :
    members member true a (s ++ '"' :: (n ++ '"' :: (before ++ (t ++ rest)))) =
      members member false b rest := by
  have hrun := h.run_eq _ rest hrest (h.skipSpace_append hbefore rest)
  rw [members_eq, nextMember, Json.skipSpace_append hs, skipSpace_cons rfl]
  simp only [Char.reduceEq, if_false, if_true, hname.stringBody_append, hrun]

theorem nextMember_comma {more after : List Char} (hafter : Spaces after)
    (hs : skipSpace s = '"' :: more) :
    nextMember false (after ++ ',' :: s) = nextMember true s := by
  rw [nextMember, nextMember, skipSpace_append hafter, skipSpace_cons rfl, hs]
  simp [hs]

theorem members_comma {after next : List Char} (hafter : Spaces after) (hnext : Spaces next)
    (rest : List Char) :
    members member false a (after ++ ',' :: (next ++ '"' :: rest)) =
      members member true a (next ++ '"' :: rest) := by
  have hskip : skipSpace (next ++ '"' :: rest) = '"' :: rest := by
    rw [skipSpace_append hnext, skipSpace_cons rfl]
  rw [members_eq, members_eq, nextMember_comma hafter hskip]

theorem Members.starts (h : Members member a t b) : ∃ more, t = '"' :: more := by
  cases h with
  | last | cons => exact ⟨_, rfl⟩

theorem Members.members_eq (h : Members member a t b) (hs : Spaces s) (rest : List Char) :
    members member true a (s ++ (t ++ '}' :: rest)) = .ok (b, '}' :: rest) := by
  induction h generalizing s with
  | last spelled spaces takes spaces' =>
    simp only [List.cons_append, List.append_assoc]
    rw [takes.members_cons spelled spaces hs ((endsValue_objectEnd rest).append spaces'),
      members_stop spaces']
  | cons spelled spaces takes spaces' spaces'' more ih =>
    simp only [List.cons_append, List.append_assoc]
    rw [takes.members_cons spelled spaces hs ((endsValue_comma _).append spaces')]
    obtain ⟨_, rfl⟩ := more.starts
    exact (members_comma spaces' spaces'' _).trans (ih spaces'')

theorem closeObject_of_end (rest : List Char) : closeObject ('}' :: rest) = .ok rest := by
  rw [closeObject, skipSpace_cons rfl]
  rfl

/-- An object is taken for what its members lead to, completed. -/
theorem Members.takes {δ : Type} {shape : Shape δ α} {d : δ} {t s : List Char} {a : α}
    (h : Members shape.member shape.start t d) (hs : Spaces s) (hfinish : shape.finish d = .ok a) :
    shape.reader.Takes ('{' :: (s ++ (t ++ ['}']))) a where
  starts := ⟨'{', _, rfl, rfl, by decide⟩
  run_eq s' rest _ hs' := by
    rw [Shape.reader]
    simp only [hs', List.cons_append, List.append_assoc, List.nil_append, Shape.object,
      h.members_eq hs, hfinish, Shape.complete, closeObject_of_end, Except.map]

end Objects

/-- A text that is a value is read as the value, with white space around it. -/
theorem Reader.Takes.parse_eq {α : Type} {r : Reader α} {t before after : List Char} {a : α}
    (h : r.Takes t a) (hbefore : Spaces before) (hafter : Spaces after) :
    parse r (String.ofList (before ++ (t ++ after))) = .ok a := by
  have hrest : EndsValue after := by
    simpa using endsValue_nil.append hafter
  have hskip : skipSpace after = [] := by
    simpa [skipSpace] using Json.skipSpace_append hafter []
  rw [parse, String.toList_ofList,
    h.run_eq _ after hrest (h.skipSpace_append hbefore after)]
  simp only [hskip]

end FirmwareKit.Json
