/-! File paths as text. A path is kept as it was written; its components are
the pieces between slashes, where an empty piece and a single dot stand for
nothing, except a dot that starts a relative path. -/

namespace FirmwareKit

/-- A path as it is written. -/
structure Path where
  text : String
  deriving DecidableEq, Repr

namespace Path

/-- The path starts at the root directory. -/
def isAbsolute (p : Path) : Bool :=
  p.text.toList.head? == some '/'

/-- The pieces between slashes; one more than there are slashes. -/
def pieces : List Char → List (List Char)
  | [] => [[]]
  | c :: rest =>
    if c = '/' then [] :: pieces rest
    else
      match pieces rest with
      | [] => [[c]]
      | piece :: more => (c :: piece) :: more

/-- `other` as seen from the directory `base`; an absolute path stays as it is. -/
def join (base : Path) (other : String) : Path :=
  if other.toList.head? = some '/' || base.text.isEmpty then ⟨other⟩
  else if base.text.toList.getLast? = some '/' then ⟨base.text ++ other⟩
  else ⟨base.text ++ "/" ++ other⟩

/-- A reversed path without the slashes and single dots at its end that name no component. -/
def trimEnd : List Char → List Char
  | '/' :: rest => trimEnd rest
  | '.' :: '/' :: rest => trimEnd ('/' :: rest)
  | rest => rest

theorem length_trimEnd_le (r : List Char) : (trimEnd r).length ≤ r.length := by
  fun_induction trimEnd r <;> simp_all <;> omega

theorem head?_trimEnd (r : List Char) : (trimEnd r).head? ≠ some '/' := by
  fun_induction trimEnd r with
  | case1 _ ih => exact ih
  | case2 _ ih => exact ih
  | case3 r h _ =>
    cases r with
    | nil => simp
    | cons c r => intro hc; simp at hc; exact h r (by rw [hc])

/-- The reversed text of the directory above a reversed path that ends in a component. -/
def above (r : List Char) : List Char :=
  trimEnd (r.dropWhile (· != '/'))

/-- The path without its last component; none if it has no component. -/
def parent? (p : Path) : Option Path :=
  match trimEnd p.text.toList.reverse with
  | [] => none
  | r =>
    match above r with
    | [] => some ⟨if p.isAbsolute then "/" else ""⟩
    | up => some ⟨String.ofList up.reverse⟩

theorem length_above_lt {r : List Char} (hne : r ≠ []) (h : r.head? ≠ some '/') :
    (above r).length < r.length := by
  match r with
  | [] => exact absurd rfl hne
  | c :: r =>
    have hc : (c != '/') = true := by simpa using h
    have h₁ := length_trimEnd_le (r.dropWhile (· != '/'))
    have h₂ := (List.dropWhile_sublist (l := r) (· != '/')).length_le
    simp only [above, List.dropWhile_cons, hc, if_true, List.length_cons]
    omega

theorem length_of_parent? {p q : Path} (h : p.parent? = some q) :
    q.text.toList.length < p.text.toList.length := by
  have hle := length_trimEnd_le p.text.toList.reverse
  have hhd := head?_trimEnd p.text.toList.reverse
  rw [List.length_reverse] at hle
  unfold parent? at h
  split at h
  · simp at h
  · next hne =>
    have hlt := length_above_lt (fun h => hne h) hhd
    split at h
    · have hq : q.text.toList.length ≤ (if p.isAbsolute then 1 else 0) := by
        cases h; split <;> simp
      split at hq
      · next habs =>
        match hp : p.text.toList with
        | [] => simp [isAbsolute, hp] at habs
        | [c] =>
          have : c = '/' := by simpa [isAbsolute, hp] using habs
          subst this
          exact absurd (by rw [hp]; simp [trimEnd]) hne
        | _ :: _ :: _ => simp; omega
      · omega
    · cases h
      simp
      omega

/-- The path and all directories above it, nearest first. -/
def ancestors (p : Path) : List Path :=
  match _h : p.parent? with
  | none => [p]
  | some q => p :: ancestors q
termination_by p.text.toList.length
decreasing_by exact length_of_parent? _h

/-- The last component, unless it is a dot or two. -/
def fileName? (p : Path) : Option String :=
  let name := ((trimEnd p.text.toList.reverse).takeWhile (· != '/')).reverse
  if name = [] || name = ['.'] || name = ['.', '.'] then none else some (String.ofList name)

/-- What follows the last dot of the file name, if something stands before that dot. -/
def extension? (p : Path) : Option String :=
  p.fileName?.bind fun name =>
    let r := name.toList.reverse
    match r.dropWhile (· != '.') with
    | '.' :: _ :: _ => some (String.ofList (r.takeWhile (· != '.')).reverse)
    | _ => none

/-- The components of a path other than its root, without the dot that starts a relative path. -/
def names (p : Path) : List String :=
  ((pieces p.text.toList).filter fun piece => piece != [] && piece != ['.']).map String.ofList

/-- Where an absolute reading of the path starts: exactly two slashes are kept as two. -/
def root (here p : Path) : Path :=
  match p.text.toList with
  | '/' :: '/' :: '/' :: _ => ⟨"/"⟩
  | '/' :: '/' :: _ => ⟨"//"⟩
  | '/' :: _ => ⟨"/"⟩
  | _ => here

/-- The path as an absolute one, read from the directory `here`. Empty pieces and single dots go,
the parent directories it mentions and a slash at its end stay. None for an empty path. -/
def absolute? (here p : Path) : Option Path :=
  if p.text.isEmpty then none
  else
    let body := p.names.foldl join (root here p)
    some (if p.text.toList.getLast? = some '/' then body.join "" else body)

end Path

end FirmwareKit
