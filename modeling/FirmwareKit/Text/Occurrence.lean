/-! Occurrences of a word in a text: at its start, and anywhere in it. -/

namespace FirmwareKit.Text

/-- The text after `word`, if it starts with it. -/
def after? : (word s : List Char) → Option (List Char)
  | [], s => some s
  | _ :: _, [] => none
  | w :: word, c :: s => if w = c then after? word s else none

theorem after?_eq_some_iff {word s rest : List Char} :
    after? word s = some rest ↔ s = word ++ rest := by
  induction word generalizing s with
  | nil => simp [after?]
  | cons w word ih =>
    cases s with
    | nil => simp [after?]
    | cons c s => by_cases h : w = c <;> simp [after?, h, ih, eq_comm]

/-- The word stands somewhere in the text. -/
def occurs (word : List Char) : List Char → Bool
  | [] => word.isEmpty
  | c :: rest => (after? word (c :: rest)).isSome || occurs word rest

end FirmwareKit.Text
