/-! Glob patterns over path text. A question mark stands for one character, a star
for any text, brackets for one character in or outside of a set, and two stars
for any directories, as a whole component of the pattern. A star, a question
mark and brackets can stand for a slash or a leading dot like for anything else. -/

namespace FirmwareKit

namespace Glob

/-- One character, or all from the first to the last. -/
inductive CharSet where
  | single (c : Char)
  | range (first last : Char)
  deriving DecidableEq, Repr

namespace CharSet

def contains (c : Char) : CharSet → Bool
  | single d => c == d
  | range first last => first ≤ c && c ≤ last

end CharSet

/-- A part of a pattern. -/
inductive Token where
  | literal (c : Char)
  | anyChar
  | within (sets : List CharSet)
  | except (sets : List CharSet)
  | anyText
  | anyDirs
  deriving DecidableEq, Repr

/-- Why a text is no pattern: three stars, two stars within a component, or an open bracket. -/
inductive Mistake where
  | manyStars | starsInComponent | openBracket
  deriving DecidableEq, Repr

/-- A mistake and the character at which it was noticed. -/
structure SyntaxError where
  position : Nat
  mistake : Mistake
  deriving DecidableEq, Repr

namespace SyntaxError

def message (e : SyntaxError) : String :=
  "Pattern syntax error near position " ++ toString e.position ++ ": " ++
    match e.mistake with
    | .manyStars => "wildcards are either regular `*` or recursive `**`"
    | .starsInComponent => "recursive wildcards must form a single path component"
    | .openBracket => "invalid range pattern"

end SyntaxError

/-- The sets between brackets: characters, and ranges written with a hyphen. -/
def charSets : List Char → List CharSet
  | first :: '-' :: last :: rest => .range first last :: charSets rest
  | c :: rest => .single c :: charSets rest
  | [] => []

/-- The text up to a closing bracket, which the first character is not, and the text behind it. -/
def bracketEnd? (s : List Char) : Option (List Char × List Char) :=
  match s with
  | [] => none
  | first :: s =>
    match s.dropWhile (· != ']') with
    | [] => none
    | _ :: rest => some (first :: s.takeWhile (· != ']'), rest)

/-- The token behind an opening bracket, and the text behind the closing one. -/
def bracket? : List Char → Option (Token × List Char)
  | '!' :: s => (bracketEnd? s).map fun (inner, rest) => (.except (charSets inner), rest)
  | s => (bracketEnd? s).map fun (inner, rest) => (.within (charSets inner), rest)

theorem length_of_bracketEnd? {s inner rest : List Char} (h : bracketEnd? s = some (inner, rest)) :
    rest.length < s.length := by
  unfold bracketEnd? at h
  split at h
  · simp at h
  · next s =>
    have := (List.dropWhile_sublist (l := s) (· != ']')).length_le
    split at h
    · simp at h
    · next heq => rw [heq] at this; simp at h this; simp [← h.2]; omega

theorem length_of_bracket? {s rest : List Char} {t : Token} (h : bracket? s = some (t, rest)) :
    rest.length < s.length := by
  unfold bracket? at h
  split at h
  all_goals
    obtain ⟨⟨inner, rest'⟩, hb, he⟩ := Option.map_eq_some_iff.1 h
    have := length_of_bracketEnd? hb
    simp at he
    simp [← he.2]
    omega

/-- Tokens, last first, with one for any directories; it is not repeated behind another token. -/
def pushDirs (tokens : List Token) : List Token :=
  if 1 < tokens.length && tokens.head? == some .anyDirs then tokens else .anyDirs :: tokens

/-- The tokens of the text behind those already read, last first. `position` counts the characters
read, and `previous` is the last of them. -/
def parseFrom (position : Nat) (previous : Option Char) (tokens : List Token) (s : List Char) :
    Except SyntaxError (List Token) :=
  match s with
  | [] => .ok tokens.reverse
  | '?' :: rest => parseFrom (position + 1) (some '?') (.anyChar :: tokens) rest
  | '*' :: '*' :: '*' :: _ => .error ⟨position + 2, .manyStars⟩
  | '*' :: '*' :: rest =>
    if previous = none || previous = some '/' then
      match rest with
      | [] => .ok (pushDirs tokens).reverse
      | c :: rest =>
        if c = '/' then parseFrom (position + 3) (some '/') (pushDirs tokens) rest
        else .error ⟨position + 2, .starsInComponent⟩
    else .error ⟨position - 1, .starsInComponent⟩
  | '*' :: rest => parseFrom (position + 1) (some '*') (.anyText :: tokens) rest
  | '[' :: rest =>
    match _h : bracket? rest with
    | none => .error ⟨position, .openBracket⟩
    | some (token, rest') =>
      parseFrom (position + 1 + (rest.length - rest'.length)) (some ']') (token :: tokens) rest'
  | c :: rest => parseFrom (position + 1) (some c) (.literal c :: tokens) rest
termination_by s.length
decreasing_by
  all_goals simp
  all_goals try omega
  have := length_of_bracket? _h
  omega

/-- How a text compares to tokens: it matches, it does not, or no longer part of it can. -/
inductive Verdict where
  | matched | failed | hopeless
  deriving DecidableEq, Repr

/-- The first verdict other than a failure, over the rests of a text behind the characters that
`stop` selects; behind the whole text the last word is that on nothing. -/
def tryRests (verdict : List Char → Verdict) (stop : Char → Bool) : List Char → Verdict
  | [] => verdict []
  | c :: rest =>
    match if stop c then verdict rest else .failed with
    | .failed => tryRests verdict stop rest
    | v => v

namespace Token

/-- The token stands for the character. -/
def accepts (c : Char) : Token → Bool
  | literal d => c == d
  | anyChar => true
  | within sets => sets.any (·.contains c)
  | except sets => !sets.any (·.contains c)
  | anyText | anyDirs => false

/-- Where the text behind the token can start, if the token stands for any text. -/
def stops? : Token → Option (Char → Bool)
  | anyText => some fun _ => true
  | anyDirs => some (· == '/')
  | _ => none

end Token

/-- Compares a whole text to tokens. -/
def compare : List Token → List Char → Verdict
  | [], [] => .matched
  | [], _ :: _ => .failed
  | t :: tokens, s =>
    match t.stops? with
    | some stop =>
      match compare tokens s with
      | .failed => tryRests (compare tokens) stop s
      | v => v
    | none =>
      match s with
      | [] => .hopeless
      | c :: rest => if t.accepts c then compare tokens rest else .failed

end Glob

/-- A pattern for path text. -/
structure Glob where
  tokens : List Glob.Token
  deriving DecidableEq, Repr

namespace Glob

/-- The pattern that a text stands for. -/
def parse (text : String) : Except SyntaxError Glob :=
  (parseFrom 0 none [] text.toList).map Glob.mk

/-- The pattern stands for the whole text. -/
def isMatch (g : Glob) (text : String) : Bool :=
  compare g.tokens text.toList == .matched

end Glob

end FirmwareKit
