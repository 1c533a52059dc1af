/-! How alike two words are. Equal characters at nearby places match; the similarity
is the mean of the matched share of each word and of the share of matches that
are in the same order. -/

namespace FirmwareKit.Text

/-- The first place from `low` to below `high` that holds `c` and is not taken. -/
def freePlace? (c : Char) (low high : Nat) (word : List (Char × Bool)) : Option Nat :=
  (word.take high).zipIdx.findIdx? fun ((d, taken), i) => low ≤ i && d == c && !taken

/-- Marks in both words the characters that match within `reach` places; the characters of the
first word are taken in order, from place `i` on. -/
def matchUp (reach : Nat) : Nat → List Char → List (Char × Bool) →
    List (Char × Bool) × List (Char × Bool)
  | _, [], word => ([], word)
  | i, c :: rest, word =>
    match freePlace? c (i - reach) (i + reach + 1) word with
    | some j =>
      let (marked, word) := matchUp reach (i + 1) rest (word.set j (c, true))
      ((c, true) :: marked, word)
    | none =>
      let (marked, word) := matchUp reach (i + 1) rest word
      ((c, false) :: marked, word)

/-- The marked characters of a word. -/
def marked (word : List (Char × Bool)) : List Char :=
  (word.filter (·.2)).map (·.1)

/-- The similarity of two words, from 0 to 1. -/
def similarity (a b : List Char) : Float :=
  if a.isEmpty && b.isEmpty then 1.0
  else
    let reach := max a.length b.length / 2 - 1
    let (first, second) := matchUp reach 0 a (b.map (·, false))
    let matches₁ := marked first
    let matches₂ := marked second
    if matches₁.isEmpty then 0.0
    else
      let moved := ((matches₁.zip matches₂).filter fun (c, d) => c != d).length / 2
      let count := matches₁.length.toFloat
      (count / a.length.toFloat + count / b.length.toFloat +
        (matches₁.length - moved).toFloat / count) / 3.0

/-- The candidates that are much like a word, the likest last. -/
def alike (word : String) (candidates : List String) : List String :=
  let scored := candidates.map fun c => (similarity word.toList c.toList, c)
  ((scored.filter fun (score, _) => score > 0.7).mergeSort fun a b => a.1 <= b.1).map (·.2)

end FirmwareKit.Text
