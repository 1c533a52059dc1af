import FirmwareKit.Json.Numeral
import FirmwareKit.Json.Quoted

/-! Passing over a JSON value of any depth without keeping it. The open brackets
are held on a stack, the innermost first. -/

namespace FirmwareKit.Json

/-- White space between the parts of a JSON text. -/
def isSpace (c : Char) : Bool :=
  c = ' ' || c = '\n' || c = '\t' || c = '\r'

/-- The text after its leading white space. -/
def skipSpace (s : List Char) : List Char :=
  s.dropWhile isSpace

theorem length_skipSpace_le (s : List Char) : (skipSpace s).length ≤ s.length :=
  (List.dropWhile_sublist isSpace).length_le

/-- The text behind the given letters, all of which have to follow. -/
def expectIdent : List Char → List Char → Except Fault (List Char)
  | [], s => .ok s
  | _ :: _, [] => .error (.here .eofValue [])
  | w :: word, c :: s =>
    if w = c then expectIdent word s else .error (.next .expectedIdent (c :: s))

theorem length_of_expectIdent {word s rest : List Char} (h : expectIdent word s = .ok rest) :
    rest.length ≤ s.length := by
  fun_induction expectIdent word s <;> simp_all
  omega

/-- The two kinds of brackets. -/
inductive Bracket where
  | list | object
  deriving DecidableEq, Repr

namespace Bracket

def close : Bracket → Char
  | list => ']'
  | object => '}'

/-- The cause when the text ends inside the brackets. -/
def eof : Bracket → Cause
  | list => .eofList
  | object => .eofObject

/-- The cause when a part of the brackets' content is followed by something else. -/
def unfinished : Bracket → Cause
  | list => .expectedListEnd
  | object => .expectedObjectEnd

end Bracket

/-- The text behind a member's name and the colon after it. -/
def skipName (s : List Char) : Except Fault (List Char) :=
  match skipSpace s with
  | '"' :: s =>
    match skipString s with
    | .error e => .error e
    | .ok s =>
      match skipSpace s with
      | ':' :: s => .ok s
      | [] => .error (.here .eofObject [])
      | s => .error (.next .expectedColon s)
  | [] => .error (.here .eofObject [])
  | s => .error (.next .keyNotString s)

theorem length_of_skipName {s rest : List Char} (h : skipName s = .ok rest) :
    rest.length < s.length := by
  have h₁ := length_skipSpace_le s
  unfold skipName at h
  split at h
  · next heq =>
    split at h
    · simp at h
    · next hs =>
      have h₂ := length_of_skipString hs
      next s' =>
      have h₃ := length_skipSpace_le s'
      split at h
      · next heq' => simp at h; subst h; rw [heq] at h₁; rw [heq'] at h₃; simp at *; omega
      · simp at h
      · simp at h
  · simp at h
  · simp at h

/-- The text behind a value without brackets. -/
def skipScalar (s : List Char) : Except Fault (List Char) :=
  match s with
  | [] => .error (.here .eofValue [])
  | c :: rest =>
    if c = 'n' then expectIdent ['u', 'l', 'l'] rest
    else if c = 't' then expectIdent ['r', 'u', 'e'] rest
    else if c = 'f' then expectIdent ['a', 'l', 's', 'e'] rest
    else if c = '"' then skipString rest
    else if c = '-' || c.isDigit then (Numeral.read .invalidNumber s).map (·.2)
    else .error (.next .expectedValue s)

theorem length_of_skipScalar {s rest : List Char} (h : skipScalar s = .ok rest) :
    rest.length < s.length := by
  unfold skipScalar at h
  split at h
  · simp at h
  · next c s =>
    have ident {w : List Char} (h : expectIdent w s = .ok rest) :
        rest.length < (c :: s).length := by
      have := length_of_expectIdent h; simp; omega
    split at h
    · exact ident h
    · split at h
      · exact ident h
      · split at h
        · exact ident h
        · split at h
          · have := length_of_skipString h; simp; omega
          · split at h
            · cases hr : Numeral.read .invalidNumber (c :: s) with
              | error e => simp [hr, Except.map] at h
              | ok number =>
                simp only [hr, Except.map, Except.ok.injEq] at h
                rw [← h]
                exact Numeral.length_of_read hr
            · simp at h

mutual

/-- The text behind a value and behind all that is needed to close the open brackets. -/
def skipValue (stack : List Bracket) (s : List Char) : Except Fault (List Char) :=
  match _hs : skipSpace s with
  | '[' :: rest => skipRest false (.list :: stack) rest
  | '{' :: rest => skipRest false (.object :: stack) rest
  | scalar =>
    match _h : skipScalar scalar with
    | .error e => .error e
    | .ok rest => skipRest true stack rest
termination_by (s.length, 0)
decreasing_by
  all_goals
    have := length_skipSpace_le s
    apply Prod.Lex.left
  · rw [_hs] at this; simp at this; omega
  · rw [_hs] at this; simp at this; omega
  · rw [_hs] at this; have := length_of_skipScalar _h; omega

/-- The same behind a value, or behind an opening bracket if `comma` is not accepted. -/
def skipRest (comma : Bool) (stack : List Bracket) (s : List Char) : Except Fault (List Char) :=
  match stack with
  | [] => .ok s
  | b :: up =>
    match _hs : skipSpace s with
    | [] => .error (.here b.eof [])
    | c :: rest =>
      if c = ',' && comma then
        match b with
        | .list => skipValue stack rest
        | .object =>
          match _h : skipName rest with
          | .error e => .error e
          | .ok rest => skipValue stack rest
      else if c = b.close then skipRest true up rest
      else if comma then .error (.next b.unfinished (c :: rest))
      else
        match b with
        | .list => skipValue stack (c :: rest)
        | .object =>
          match _h : skipName (c :: rest) with
          | .error e => .error e
          | .ok rest => skipValue stack rest
termination_by (s.length, 1)
decreasing_by
  all_goals
    have h₁ := length_skipSpace_le s
    rw [_hs] at h₁
    simp only [List.length_cons] at h₁
  · apply Prod.Lex.left; omega
  · have := length_of_skipName _h; apply Prod.Lex.left; omega
  · apply Prod.Lex.left; omega
  · rcases Nat.lt_or_ge (c :: rest).length s.length with hlt | hge
    · exact Prod.Lex.left _ _ hlt
    · have : (c :: rest).length = s.length := by simp at *; omega
      rw [this]; exact Prod.Lex.right _ (by omega)
  · have := length_of_skipName _h; simp at this; apply Prod.Lex.left; omega

end

/-- The text behind one value. -/
def skip (s : List Char) : Except Fault (List Char) :=
  skipValue [] s

theorem skipValue_eq (stack : List Bracket) (s : List Char) :
    skipValue stack s =
      match skipSpace s with
      | '[' :: rest => skipRest false (.list :: stack) rest
      | '{' :: rest => skipRest false (.object :: stack) rest
      | scalar =>
        match skipScalar scalar with
        | .error e => .error e
        | .ok rest => skipRest true stack rest := by
  rw [skipValue]
  split
  · next heq => simp only [heq]
  · next heq => simp only [heq]
  · split <;> simp_all

theorem skipRest_nil (comma : Bool) (s : List Char) : skipRest comma [] s = .ok s := by
  rw [skipRest]

/-- The next part between the brackets, from behind a comma or an opening bracket. -/
def skipPart (b : Bracket) (up : List Bracket) (s : List Char) : Except Fault (List Char) :=
  match b with
  | .list => skipValue (b :: up) s
  | .object =>
    match skipName s with
    | .error e => .error e
    | .ok rest => skipValue (b :: up) rest

theorem skipRest_cons (comma : Bool) (b : Bracket) (up : List Bracket) (s : List Char) :
    skipRest comma (b :: up) s =
      match skipSpace s with
      | [] => .error (.here b.eof [])
      | c :: rest =>
        if c = ',' && comma then skipPart b up rest
        else if c = b.close then skipRest true up rest
        else if comma then .error (.next b.unfinished (c :: rest))
        else skipPart b up (c :: rest) := by
  have part (s : List Char) :
      (match b with
        | .list => skipValue (b :: up) s
        | .object =>
          match _h : skipName s with
          | .error e => .error e
          | .ok rest => skipValue (b :: up) rest) = skipPart b up s := by
    cases b
    · rfl
    · simp only [skipPart]; split <;> simp_all
  rw [skipRest]
  split
  · next heq => simp only [heq]
  · next heq => simp only [heq, part]

theorem length_of_skipValue_and_skipRest :
    ∀ n, (∀ stack s rest, s.length ≤ n → skipValue stack s = .ok rest → rest.length < s.length) ∧
      ∀ comma stack s rest, s.length ≤ n → skipRest comma stack s = .ok rest →
        rest.length ≤ s.length
  | n => by
    have ih : ∀ m < n, _ := fun m _ => length_of_skipValue_and_skipRest m
    have value : ∀ stack s rest, s.length ≤ n → skipValue stack s = .ok rest →
        rest.length < s.length := by
      intro stack s rest hn h
      have hs := length_skipSpace_le s
      rw [skipValue_eq] at h
      split at h
      · next heq =>
        rw [heq, List.length_cons] at hs
        have := (ih (n - 1) (by omega)).2 _ _ _ _ (by omega) h
        omega
      · next heq =>
        rw [heq, List.length_cons] at hs
        have := (ih (n - 1) (by omega)).2 _ _ _ _ (by omega) h
        omega
      · split at h
        · simp at h
        · next hk =>
          have := length_of_skipScalar hk
          have := (ih (n - 1) (by omega)).2 _ _ _ _ (by omega) h
          omega
    have part : ∀ b up s rest, s.length ≤ n → skipPart b up s = .ok rest →
        rest.length < s.length := by
      intro b up s rest hn h
      cases b with
      | list => exact value _ _ _ hn h
      | object =>
        simp only [skipPart] at h
        split at h
        · simp at h
        · next hk =>
          have := length_of_skipName hk
          have := value _ _ _ (by omega) h
          omega
    refine ⟨value, ?_⟩
    intro comma stack s rest hn h
    cases stack with
    | nil => rw [skipRest_nil] at h; simp at h; simp [h]
    | cons b up =>
      have hs := length_skipSpace_le s
      rw [skipRest_cons] at h
      split at h
      · simp at h
      · next c rest' heq =>
        rw [heq, List.length_cons] at hs
        split at h
        · have := part _ _ _ _ (by omega) h
          omega
        · split at h
          · have := (ih (n - 1) (by omega)).2 _ _ _ _ (by omega) h
            omega
          · split at h
            · simp at h
            · have := part _ _ _ _ (by simp; omega) h
              simp at this
              omega

theorem length_of_skip {s rest : List Char} (h : skip s = .ok rest) : rest.length < s.length :=
  (length_of_skipValue_and_skipRest _).1 _ _ _ (Nat.le_refl _) h

end FirmwareKit.Json
