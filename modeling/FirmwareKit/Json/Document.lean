import FirmwareKit.Json.Reader

/-! Whole JSON documents: one value of limited depth, with nothing but white space
around it. -/

namespace FirmwareKit.Json

/-- How many brackets can be open at once. -/
def maxDepth : Nat := 127

namespace Reader

/-- Reads a value other than a list or an object, from where it starts. -/
def scalar (s : List Char) : Except Fault (Value × List Char) :=
  match found s with
  | .error e => .error e
  | .ok (.null, rest) => .ok (.null, rest)
  | .ok (.bool b, rest) => .ok (.bool b, rest)
  | .ok (.number n, rest) => .ok (.number n, rest)
  | .ok (.string s, rest) => .ok (.string s, rest)
  | .ok (.sequence, rest) | .ok (.map, rest) => .error (.next .expectedValue rest)

theorem length_of_scalar {s rest : List Char} {v : Value} (h : scalar s = .ok (v, rest)) :
    rest.length < s.length := by
  have key : ∀ p, found s = .ok p → (∀ r, p ≠ (.sequence, r)) → (∀ r, p ≠ (.map, r)) →
      p.2.length < s.length := by
    intro p hp hseq hmap
    unfold found at hp
    split at hp
    · simp at hp
    · next c s' =>
      split at hp
      · obtain ⟨a, ha, rfl⟩ := ok_of_map hp
        have := length_of_expectIdent ha; simp; omega
      · split at hp
        · obtain ⟨a, ha, rfl⟩ := ok_of_map hp
          have := length_of_expectIdent ha; simp; omega
        · split at hp
          · obtain ⟨a, ha, rfl⟩ := ok_of_map hp
            have := length_of_expectIdent ha; simp; omega
          · split at hp
            · obtain ⟨⟨a, r⟩, ha, rfl⟩ := ok_of_map hp
              have := length_of_stringBody ha; simp; omega
            · split at hp
              · simp at hp; exact absurd hp.symm (hseq _)
              · split at hp
                · simp at hp; exact absurd hp.symm (hmap _)
                · split at hp
                  · split at hp
                    · simp at hp
                    · next hn =>
                      obtain ⟨a, ha, rfl⟩ := ok_of_map hp
                      exact Numeral.length_of_read hn
                  · simp at hp
  unfold scalar at h
  split at h
  all_goals
    next hf =>
      simp at h
      try
        rw [← h.2]
        exact key _ hf (by simp) (by simp)

/-- A member in front of those read before. -/
def member (value : Reader Value) (read : List (String × Value)) (name : String) :
    Reader (List (String × Value)) :=
  (value.map fun v => (name, v) :: read).afterColon

/-- Reads a value inside which the given number of brackets can be open at once. -/
def value : Nat → Reader Value
  | 0 =>
    { run s :=
        match skipSpace s with
        | '[' :: rest => .error (.next .tooDeep ('[' :: rest))
        | '{' :: rest => .error (.next .tooDeep ('{' :: rest))
        | s => scalar s
      shorter {s v rest} h := by
        have := length_skipSpace_le s
        split at h
        · simp at h
        · simp at h
        · have := length_of_scalar h; omega }
  | depth + 1 =>
    { run s :=
        match skipSpace s with
        | '[' :: rest => (listBody (value depth) rest).map fun (items, rest) => (.array items, rest)
        | '{' :: rest =>
          (objectBody (member (value depth)) [] rest).map fun (read, rest) =>
            (.object read.reverse, rest)
        | s => scalar s
      shorter {s v rest} h := by
        have h₁ := length_skipSpace_le s
        split at h
        · next heq =>
          obtain ⟨_, hl, ha⟩ := ok_of_map h
          cases ha
          have := length_of_listBody hl
          rw [heq] at h₁
          simp at h₁
          omega
        · next heq =>
          obtain ⟨_, hl, ha⟩ := ok_of_map h
          cases ha
          have := length_of_objectBody hl
          rw [heq] at h₁
          simp at h₁
          omega
        · have := length_of_scalar h
          omega }

/-- Reads the names of an object's members, whose values can be anything of limited depth. -/
def names : Reader (List String) :=
  (object .map (member (value (maxDepth - 1))) []).map fun read => (read.map (·.1)).reverse

end Reader

/-- Reads a text that holds one value and white space around it. -/
def parse {α : Type} (reader : Reader α) (text : String) : Except Error α :=
  match reader.run text.toList with
  | .error f => .error (.ofFault text.toList f)
  | .ok (a, rest) =>
    match skipSpace rest with
    | [] => .ok a
    | rest => .error (.ofFault text.toList (.next .trailingCharacters rest))

end FirmwareKit.Json
