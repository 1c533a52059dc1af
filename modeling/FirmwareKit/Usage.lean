import FirmwareKit.Text.Blank
import FirmwareKit.Text.Line
import FirmwareKit.Text.Occurrence

/-! Uses of localized strings in source text. A call is a call name, a
parenthesis, a quoted key and a closing parenthesis, with white space allowed
around the parentheses. The key ends at the first quote that a closing
parenthesis follows. Calls are found line by line, from the left and without
overlap; a line that holds the exemption marker has none. -/

namespace FirmwareKit

open Text

/-- A place in a source file; lines and columns count characters from one. -/
structure Location where
  file : String
  line : Nat
  column : Nat
  deriving DecidableEq, Repr

/-- A place together with the line of source it points into. -/
structure SourceContext where
  location : Location
  sourceLine : String
  deriving DecidableEq, Repr

/-- A key passed to the lookup call at one place. -/
structure Usage where
  key : String
  context : SourceContext
  deriving DecidableEq, Repr

namespace Usage

/-- The text after one closing parenthesis, white space before it skipped. -/
def closing? (s : List Char) : Option (List Char) :=
  match skipBlanks s with
  | ')' :: rest => some rest
  | _ => none

/-- The shortest key that a quote and a closing parenthesis end, and the text behind them. -/
def key? : List Char → Option (List Char × List Char)
  | [] => none
  | c :: rest =>
    match if c = '"' then closing? rest else none with
    | some behind => some ([], behind)
    | none => (key? rest).map fun (key, behind) => (c :: key, behind)

/-- The text after an opening parenthesis and the quote that opens the key. -/
def opening? (s : List Char) : Option (List Char) :=
  match skipBlanks s with
  | '(' :: rest =>
    match skipBlanks rest with
    | '"' :: inner => some inner
    | _ => none
  | _ => none

/-- The key of a call that starts the text, and the text behind the call. -/
def call? (name s : List Char) : Option (List Char × List Char) :=
  (after? name s).bind fun s => (opening? s).bind key?

theorem length_of_closing? {s rest : List Char} (h : closing? s = some rest) :
    rest.length < s.length := by
  have := length_skipBlanks_le s
  unfold closing? at h
  split at h
  · next heq => simp at h; subst h; rw [heq] at this; simp at this; omega
  · simp at h

theorem length_of_opening? {s rest : List Char} (h : opening? s = some rest) :
    rest.length < s.length := by
  have hs := length_skipBlanks_le s
  unfold opening? at h
  split at h
  · next inner heq =>
    have hi := length_skipBlanks_le inner
    rw [heq] at hs
    split at h
    · next heq' => simp at h; subst h; rw [heq'] at hi; simp at hs hi; omega
    · simp at h
  · simp at h

theorem length_of_key? {s key rest : List Char} (h : key? s = some (key, rest)) :
    rest.length < s.length := by
  induction s generalizing key with
  | nil => simp [key?] at h
  | cons c s ih =>
    simp only [key?] at h
    split at h
    · next heq =>
      split at heq
      · have := length_of_closing? heq; simp at h; simp [← h.2]; omega
      · simp at heq
    · simp only [Option.map_eq_some_iff, Prod.mk.injEq, Prod.exists] at h
      obtain ⟨k, r, hk, _, rfl⟩ := h
      have := ih hk; simp; omega

theorem length_of_call? {name s key rest : List Char} (h : call? name s = some (key, rest)) :
    rest.length < s.length := by
  simp only [call?, Option.bind_eq_some_iff] at h
  obtain ⟨a, ha, b, hb, hk⟩ := h
  have := congrArg List.length (after?_eq_some_iff.1 ha)
  rw [List.length_append] at this
  have := length_of_opening? hb
  have := length_of_key? hk
  omega

/-- The calls of a text: how many characters precede each, and its key. -/
def calls (name : List Char) (before : Nat) (s : List Char) : List (Nat × List Char) :=
  match h : call? name s with
  | some (key, rest) => (before, key) :: calls name (before + (s.length - rest.length)) rest
  | none =>
    match s with
    | [] => []
    | _ :: rest => calls name (before + 1) rest
termination_by s.length
decreasing_by
  · exact length_of_call? h
  · simp

end Usage

/-- What marks a use: the name of the lookup call, and the marker that exempts a line. -/
structure Extractor where
  callName : String
  marker : String
  deriving DecidableEq, Repr

namespace Extractor

/-- The marker occurs in the line. -/
def isExempt (e : Extractor) (line : List Char) : Bool :=
  occurs e.marker.toList line

/-- The uses on one line of a file. -/
def onLine (e : Extractor) (file : String) (number : Nat) (line : List Char) : List Usage :=
  if e.isExempt line then []
  else (Usage.calls e.callName.toList 0 line).map fun (before, key) =>
    ⟨String.ofList key, ⟨⟨file, number, before + 1⟩, String.ofList line⟩⟩

/-- The uses on consecutive lines, of which the first has the given number. -/
def onLines (e : Extractor) (file : String) : Nat → List (List Char) → List Usage
  | _, [] => []
  | number, line :: more => e.onLine file number line ++ onLines e file (number + 1) more

/-- The uses in the text of a file, by line and then from the left. -/
def usages (e : Extractor) (file content : String) : List Usage :=
  e.onLines file 1 (lines content.toList)

end Extractor

end FirmwareKit
