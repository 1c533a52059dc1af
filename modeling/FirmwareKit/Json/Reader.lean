import FirmwareKit.Json.Skip

/-! Reading values of a known shape from JSON text. A reader takes a value off the
start of a text and leaves a shorter one. The walk over the elements of a list
and over the members of an object is the same for every reader; a value of the
wrong shape is refused at its end, or in front of its bracket. -/

namespace FirmwareKit.Json

/-- Takes a value off the start of a text. -/
structure Reader (α : Type) where
  run : List Char → Except Fault (α × List Char)
  shorter : ∀ {s a rest}, run s = .ok (a, rest) → rest.length < s.length

/-- What comes next between brackets: another part, or the end. -/
inductive Next where
  | more (rest : List Char)
  | stop (rest : List Char)

namespace Next

def rest : Next → List Char
  | more rest | stop rest => rest

end Next

/-- The next element of a list. `first` says that none was read yet. The end is not taken off. -/
def nextElement (first : Bool) (s : List Char) : Except Fault Next :=
  match skipSpace s with
  | [] => .error (.here .eofList [])
  | c :: rest =>
    if c = ']' then .ok (.stop (c :: rest))
    else if first then .ok (.more (c :: rest))
    else if c = ',' then
      match skipSpace rest with
      | [] => .error (.here .eofValue [])
      | d :: rest =>
        if d = ']' then .error (.next .trailingComma (d :: rest)) else .ok (.more (d :: rest))
    else .error (.next .expectedListEnd (c :: rest))

/-- The next member of an object; its text starts behind the quote that opens the name. -/
def nextMember (first : Bool) (s : List Char) : Except Fault Next :=
  match skipSpace s with
  | [] => .error (.here .eofObject [])
  | c :: rest =>
    if c = '}' then .ok (.stop (c :: rest))
    else if first then
      if c = '"' then .ok (.more rest) else .error (.next .keyNotString (c :: rest))
    else if c = ',' then
      match skipSpace rest with
      | [] => .error (.here .eofValue [])
      | d :: rest =>
        if d = '"' then .ok (.more rest)
        else if d = '}' then .error (.next .trailingComma (d :: rest))
        else .error (.next .keyNotString (d :: rest))
    else .error (.next .expectedObjectEnd (c :: rest))

theorem length_of_nextElement {first : Bool} {s : List Char} {n : Next}
    (h : nextElement first s = .ok n) : n.rest.length ≤ s.length := by
  have h₁ := length_skipSpace_le s
  unfold nextElement at h
  split at h
  · simp at h
  · next c rest heq =>
    have h₂ := length_skipSpace_le rest
    rw [heq] at h₁
    simp only [List.length_cons] at h₁
    split at h
    · simp at h; subst h; simp [Next.rest]; omega
    · split at h
      · simp at h; subst h; simp [Next.rest]; omega
      · split at h
        · split at h
          · simp at h
          · next heq' =>
            rw [heq'] at h₂
            simp only [List.length_cons] at h₂
            split at h
            · simp at h
            · simp at h; subst h; simp [Next.rest]; omega
        · simp at h

theorem length_of_nextMember {first : Bool} {s : List Char} {n : Next}
    (h : nextMember first s = .ok n) : n.rest.length ≤ s.length := by
  have h₁ := length_skipSpace_le s
  unfold nextMember at h
  split at h
  · simp at h
  · next c rest heq =>
    have h₂ := length_skipSpace_le rest
    rw [heq] at h₁
    simp only [List.length_cons] at h₁
    split at h
    · simp at h; subst h; simp [Next.rest]; omega
    · split at h
      · split at h
        · simp at h; subst h; simp [Next.rest]; omega
        · simp at h
      · split at h
        · split at h
          · simp at h
          · next heq' =>
            rw [heq'] at h₂
            simp only [List.length_cons] at h₂
            split at h
            · simp at h; subst h; simp [Next.rest]; omega
            · split at h <;> simp at h
        · simp at h

/-- The text behind the colon after a member's name. -/
def colon (s : List Char) : Except Fault (List Char) :=
  match skipSpace s with
  | [] => .error (.here .eofObject [])
  | c :: rest => if c = ':' then .ok rest else .error (.next .expectedColon (c :: rest))

theorem length_of_colon {s rest : List Char} (h : colon s = .ok rest) :
    rest.length < s.length := by
  have h₁ := length_skipSpace_le s
  unfold colon at h
  split at h
  · simp at h
  · next heq =>
    rw [heq] at h₁
    split at h
    · simp at h; subst h; simp at h₁; omega
    · simp at h

/-- The elements of a list behind its opening bracket, and the text in front of the closing one. -/
def elements {α : Type} (item : Reader α) (first : Bool) (s : List Char) :
    Except Fault (List α × List Char) :=
  match _hn : nextElement first s with
  | .error e => .error e
  | .ok (.stop rest) => .ok ([], rest)
  | .ok (.more s') =>
    match _hi : item.run s' with
    | .error e => .error e
    | .ok (a, rest) =>
      match elements item false rest with
      | .error e => .error e
      | .ok (as, rest) => .ok (a :: as, rest)
termination_by s.length
decreasing_by
  have := length_of_nextElement _hn
  have := item.shorter _hi
  simp only [Next.rest] at *
  omega

theorem length_of_elements {α : Type} {item : Reader α} {first : Bool} {s rest : List Char}
    {as : List α} (h : elements item first s = .ok (as, rest)) : rest.length ≤ s.length := by
  have key : ∀ first s p, elements item first s = .ok p → p.2.length ≤ s.length := by
    intro first s
    fun_induction elements item first s with
    | case1 => simp
    | case2 _ _ _ hn =>
      intro p h
      have := length_of_nextElement hn
      simp at h
      subst h
      simpa [Next.rest] using this
    | case3 => simp
    | case4 => simp
    | case5 _ _ _ hn _ _ hi _ _ he ih =>
      intro p h
      have h₁ := length_of_nextElement hn
      have h₂ := item.shorter hi
      have h₃ := ih _ he
      simp at h
      subst h
      simp only [Next.rest] at *
      omega
  exact key _ _ _ h

/-- Folds the members of an object behind its opening bracket, and leaves the text in front of the
closing one. `member` reads a member's value, given what was read before and the text that starts
behind the member's name. -/
def members {α : Type} (member : α → String → Reader α) (first : Bool) (a : α) (s : List Char) :
    Except Fault (α × List Char) :=
  match _hn : nextMember first s with
  | .error e => .error e
  | .ok (.stop rest) => .ok (a, rest)
  | .ok (.more s') =>
    match _hs : stringBody s' with
    | .error e => .error e
    | .ok (name, rest) =>
      match _hm : (member a (String.ofList name)).run rest with
      | .error e => .error e
      | .ok (a, rest) => members member false a rest
termination_by s.length
decreasing_by
  have := length_of_nextMember _hn
  have := length_of_stringBody _hs
  have := (member _ _).shorter _hm
  simp only [Next.rest] at *
  omega

theorem length_of_members {α : Type} {member : α → String → Reader α} {first : Bool} {a b : α}
    {s rest : List Char} (h : members member first a s = .ok (b, rest)) :
    rest.length ≤ s.length := by
  have key : ∀ first a s p, members member first a s = .ok p → p.2.length ≤ s.length := by
    intro first a s
    fun_induction members member first a s with
    | case1 => simp
    | case2 _ _ _ _ hn =>
      intro p h
      have := length_of_nextMember hn
      simp at h
      subst h
      simpa [Next.rest] using this
    | case3 => simp
    | case4 => simp
    | case5 _ _ _ _ hn _ _ hs _ _ hm ih =>
      intro p h
      have := length_of_nextMember hn
      have := length_of_stringBody hs
      have := (member _ _).shorter hm
      have := ih _ h
      simp only [Next.rest] at *
      omega
  exact key _ _ _ _ h

/-- The text behind a list's closing bracket, in front of which all elements were read. -/
def closeList (s : List Char) : Except Fault (List Char) :=
  match skipSpace s with
  | [] => .error (.here .eofList [])
  | c :: rest =>
    if c = ']' then .ok rest
    else if c = ',' then
      match skipSpace rest with
      | ']' :: rest => .error (.next .trailingComma (']' :: rest))
      | rest => .error (.next .trailingCharacters rest)
    else .error (.next .trailingCharacters (c :: rest))

/-- The text behind an object's closing bracket. -/
def closeObject (s : List Char) : Except Fault (List Char) :=
  match skipSpace s with
  | [] => .error (.here .eofObject [])
  | c :: rest =>
    if c = '}' then .ok rest
    else if c = ',' then .error (.next .trailingComma (c :: rest))
    else .error (.next .trailingCharacters (c :: rest))

theorem length_of_closeList {s rest : List Char} (h : closeList s = .ok rest) :
    rest.length < s.length := by
  have h₁ := length_skipSpace_le s
  unfold closeList at h
  split at h
  · simp at h
  · next heq =>
    rw [heq] at h₁
    split at h
    · simp at h; subst h; simp at h₁; omega
    · split at h
      · split at h <;> simp at h
      · simp at h

theorem length_of_closeObject {s rest : List Char} (h : closeObject s = .ok rest) :
    rest.length < s.length := by
  have h₁ := length_skipSpace_le s
  unfold closeObject at h
  split at h
  · simp at h
  · next heq =>
    rw [heq] at h₁
    split at h
    · simp at h; subst h; simp at h₁; omega
    · split at h <;> simp at h

/-- The text that is left when a list or an object is given up: behind its closing bracket, if
that is next. -/
def giveUp (close : Char) (s : List Char) : List Char :=
  match skipSpace s with
  | [] => []
  | c :: rest => if c = close then rest else c :: rest

/-- The value at the start of a text, as it is named when something else was expected. -/
def found (s : List Char) : Except Fault (Found × List Char) :=
  match s with
  | [] => .error (.here .eofValue [])
  | c :: rest =>
    if c = 'n' then (expectIdent ['u', 'l', 'l'] rest).map (Found.null, ·)
    else if c = 't' then (expectIdent ['r', 'u', 'e'] rest).map (Found.bool true, ·)
    else if c = 'f' then (expectIdent ['a', 'l', 's', 'e'] rest).map (Found.bool false, ·)
    else if c = '"' then (stringBody rest).map fun (s, rest) => (.string (String.ofList s), rest)
    else if c = '[' then .ok (.sequence, s)
    else if c = '{' then .ok (.map, s)
    else if c = '-' || c.isDigit then
      match Numeral.read .eofValue s with
      | .error e => .error e
      | .ok (numeral, rest) => (numeral.value rest).map fun n => (.number n, rest)
    else .error (.next .expectedValue s)

/-- The fault of a value where something else was expected. -/
def mismatch (expected : Expected) (s : List Char) : Fault :=
  match found s with
  | .error e => e
  | .ok (found, rest) => .here (.wrongType found expected) rest

theorem ok_of_map {α β : Type} {r : Except Fault α} {f : α → β} {b : β} (h : r.map f = .ok b) :
    ∃ a, r = .ok a ∧ f a = b := by
  cases r with
  | error e => simp [Except.map] at h
  | ok a => exact ⟨a, rfl, by simpa [Except.map] using h⟩

/-- The elements of a list behind its opening bracket, and the text behind the closing one. -/
def listBody {α : Type} (item : Reader α) (s : List Char) : Except Fault (List α × List Char) :=
  match elements item true s with
  | .error e => .error e
  | .ok (as, rest) => (closeList rest).map (as, ·)

/-- The fold of an object's members behind its opening bracket, and the text behind the closing
one. -/
def objectBody {α : Type} (member : α → String → Reader α) (a : α) (s : List Char) :
    Except Fault (α × List Char) :=
  match members member true a s with
  | .error e => .error e
  | .ok (a, rest) => (closeObject rest).map (a, ·)

theorem length_of_listBody {α : Type} {item : Reader α} {s rest : List Char} {as : List α}
    (h : listBody item s = .ok (as, rest)) : rest.length < s.length := by
  unfold listBody at h
  split at h
  · simp at h
  · next he =>
    obtain ⟨_, hc, ha⟩ := ok_of_map h
    cases ha
    have := length_of_elements he
    have := length_of_closeList hc
    omega

theorem length_of_objectBody {α : Type} {member : α → String → Reader α} {s rest : List Char}
    {a b : α} (h : objectBody member a s = .ok (b, rest)) : rest.length < s.length := by
  unfold objectBody at h
  split at h
  · simp at h
  · next he =>
    obtain ⟨_, hc, ha⟩ := ok_of_map h
    cases ha
    have := length_of_members he
    have := length_of_closeObject hc
    omega

namespace Reader

/-- Reads a string. -/
def string : Reader String where
  run s :=
    match skipSpace s with
    | '"' :: rest => (stringBody rest).map fun (s, rest) => (String.ofList s, rest)
    | s => .error (mismatch .string s)
  shorter {s a rest} h := by
    have h₁ := length_skipSpace_le s
    split at h
    · next heq =>
      obtain ⟨_, hb, ha⟩ := ok_of_map h
      cases ha
      have := length_of_stringBody hb
      rw [heq] at h₁
      simp at h₁
      omega
    · simp at h

/-- Reads a list of what `item` reads. -/
def list {α : Type} (item : Reader α) : Reader (List α) where
  run s :=
    match skipSpace s with
    | '[' :: rest => listBody item rest
    | s => .error (mismatch .sequence s)
  shorter {s a rest} h := by
    have h₁ := length_skipSpace_le s
    split at h
    · next heq =>
      have := length_of_listBody h
      rw [heq] at h₁
      simp at h₁
      omega
    · simp at h

/-- Reads an object as the fold of its members, from the given start. -/
def object {α : Type} (expected : Expected) (member : α → String → Reader α) (a : α) :
    Reader α where
  run s :=
    match skipSpace s with
    | '{' :: rest => objectBody member a rest
    | s => .error (mismatch expected s)
  shorter {s b rest} h := by
    have h₁ := length_skipSpace_le s
    split at h
    · next heq =>
      have := length_of_objectBody h
      rw [heq] at h₁
      simp at h₁
      omega
    · simp at h

/-- Reads any value and keeps `a`. -/
def ignore {α : Type} (a : α) : Reader α where
  run s := (skip s).map (a, ·)
  shorter h := by
    obtain ⟨_, hs, ha⟩ := ok_of_map h
    cases ha
    exact length_of_skip hs

/-- Reads what `value` reads, and turns it into something else. -/
def map {α β : Type} (f : α → β) (value : Reader α) : Reader β where
  run s := (value.run s).map fun (a, rest) => (f a, rest)
  shorter h := by
    obtain ⟨_, hv, ha⟩ := ok_of_map h
    cases ha
    exact value.shorter hv

/-- Reads a member's value behind the colon after its name. -/
def afterColon {α : Type} (value : Reader α) : Reader α where
  run s :=
    match colon s with
    | .error e => .error e
    | .ok rest => value.run rest
  shorter h := by
    split at h
    · simp at h
    · next hc =>
      have := length_of_colon hc
      have := value.shorter h
      omega

/-- Refuses a member whose name was read before. -/
def duplicate {α : Type} (name : String) : Reader α where
  run s := .error (.here (.duplicateField name) (giveUp '}' s))
  shorter h := by simp at h

end Reader

/-- How a value of several named fields is read, by name or in order, into a draft that is
completed at the end. -/
structure Shape (δ α : Type) where
  expected : Expected
  /-- What is known before the first field. -/
  start : δ
  /-- Reads the member of that name, from the colon on. -/
  member : δ → String → Reader δ
  /-- Reads the fields in order. -/
  inOrder : List (δ → Reader δ)
  /-- Completes what was read by name. -/
  finish : δ → Except Cause α
  /-- Completes what was read in order, so many fields. -/
  finishInOrder : Nat → δ → Except Cause α

/-- Reads the fields of a list in order until it ends, and counts them. -/
def fieldsInOrder {δ : Type} (first : Bool) (d : δ) (s : List Char) :
    List (δ → Reader δ) → Except Fault ((Nat × δ) × List Char)
  | [] => .ok ((0, d), s)
  | field :: more =>
    match nextElement first s with
    | .error e => .error e
    | .ok (.stop rest) => .ok ((0, d), rest)
    | .ok (.more rest) =>
      match (field d).run rest with
      | .error e => .error e
      | .ok (d, rest) =>
        (fieldsInOrder false d rest more).map fun ((n, d), rest) => ((n + 1, d), rest)

theorem length_of_fieldsInOrder {δ : Type} {first : Bool} {d d' : δ} {n : Nat} {s rest : List Char}
    {fields : List (δ → Reader δ)} (h : fieldsInOrder first d s fields = .ok ((n, d'), rest)) :
    rest.length ≤ s.length := by
  induction fields generalizing first d s n with
  | nil => simp [fieldsInOrder] at h; simp [h]
  | cons field more ih =>
    rw [fieldsInOrder] at h
    split at h
    · simp at h
    · next hn =>
      have := length_of_nextElement hn
      simp at h
      simpa [← h.2, Next.rest] using this
    · next hn =>
      have := length_of_nextElement hn
      split at h
      · simp at h
      · next hf =>
        obtain ⟨⟨⟨_, _⟩, _⟩, hr, ha⟩ := ok_of_map h
        cases ha
        have := (field d).shorter hf
        have := ih hr
        simp only [Next.rest] at *
        omega

namespace Shape

variable {δ α : Type} (shape : Shape δ α)

/-- Completes a draft in front of a closing bracket, which `close` takes off. -/
def complete (closing : Char) (close : List Char → Except Fault (List Char)) (s : List Char) :
    Except Cause α → Except Fault (α × List Char)
  | .error cause => .error (.here cause (giveUp closing s))
  | .ok a => (close s).map (a, ·)

/-- The fields of an object by name, behind its opening bracket. -/
def object (s : List Char) : Except Fault (α × List Char) :=
  match members shape.member true shape.start s with
  | .error e => .error e
  | .ok (d, rest) => complete '}' closeObject rest (shape.finish d)

/-- The fields of a list in order, behind its opening bracket. -/
def list (s : List Char) : Except Fault (α × List Char) :=
  match fieldsInOrder true shape.start s shape.inOrder with
  | .error e => .error e
  | .ok ((n, d), rest) => complete ']' closeList rest (shape.finishInOrder n d)

theorem ok_of_complete {closing : Char} {close : List Char → Except Fault (List Char)}
    {s rest : List Char} {r : Except Cause α} {a : α}
    (h : complete closing close s r = .ok (a, rest)) : close s = .ok rest := by
  unfold complete at h
  split at h
  · simp at h
  · obtain ⟨_, hc, ha⟩ := ok_of_map h
    cases ha
    exact hc

/-- Reads the fields from an object or a list. -/
def reader : Reader α where
  run s :=
    match skipSpace s with
    | '{' :: rest => shape.object rest
    | '[' :: rest => shape.list rest
    | s => .error (mismatch shape.expected s)
  shorter {s a rest} h := by
    have h₁ := length_skipSpace_le s
    split at h
    · next heq =>
      rw [heq] at h₁
      unfold object at h
      split at h
      · simp at h
      · next hm =>
        have := length_of_members hm
        have := length_of_closeObject (ok_of_complete h)
        simp at h₁
        omega
    · next heq =>
      rw [heq] at h₁
      unfold list at h
      split at h
      · simp at h
      · next hm =>
        have := length_of_fieldsInOrder hm
        have := length_of_closeList (ok_of_complete h)
        simp at h₁
        omega
    · simp at h

end Shape

namespace Reader

/-- Reads a field's value behind its name, unless the field was read before. -/
def field {δ β : Type} (name : String) (old : Option β) (value : Reader β) (set : β → δ) :
    Reader δ :=
  if old.isSome then duplicate name else (value.map set).afterColon

end Reader

end FirmwareKit.Json
