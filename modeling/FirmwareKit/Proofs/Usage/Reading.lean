import Mathlib.Data.List.Nodup
import Mathlib.Data.List.TakeWhile
import FirmwareKit.Usage

/-! Readings of calls. A call reading of a line is a stretch of it that spells a
call: the name, an opening parenthesis, a quoted key and a closing parenthesis,
with white space around the parentheses. The scanner of a line finds the leftmost
readings: each has the shortest key of its place, none overlaps another, and no
reading starts outside of them. A line has exactly one such list. -/

namespace FirmwareKit.Usage

open Text

/-- Nothing but white space. -/
def Blanks (w : List Char) : Prop := ∀ c ∈ w, isBlank c

/-- The text spells a call with the key. -/
def IsCall (name key text : List Char) : Prop :=
  ∃ w₁ w₂ w₃, Blanks w₁ ∧ Blanks w₂ ∧ Blanks w₃ ∧
    text = name ++ w₁ ++ '(' :: w₂ ++ '"' :: key ++ '"' :: w₃ ++ [')']

/-- The text starts with a call with the key, and `rest` follows it. -/
def Starts (name s key rest : List Char) : Prop := ∃ text, IsCall name key text ∧ s = text ++ rest

/-! ### The steps of the scanner -/

theorem skipBlanks_append {w : List Char} (hw : Blanks w) {c : Char} (hc : isBlank c = false)
    (rest : List Char) : skipBlanks (w ++ c :: rest) = c :: rest := by
  rw [skipBlanks, List.dropWhile_append_of_pos hw, List.dropWhile_cons_of_neg (by simp [hc])]

/-- White space before a character that is none is skipped, and nothing else is. -/
theorem skipBlanks_eq_cons_iff {c : Char} (hc : isBlank c = false) {s rest : List Char} :
    skipBlanks s = c :: rest ↔ ∃ w, Blanks w ∧ s = w ++ c :: rest := by
  constructor
  · intro h
    refine ⟨s.takeWhile isBlank, fun d hd => List.mem_takeWhile_imp hd, ?_⟩
    rw [← h, skipBlanks, List.takeWhile_append_dropWhile]
  · rintro ⟨w, hw, rfl⟩
    exact skipBlanks_append hw hc rest

theorem closing?_eq_some_iff {s rest : List Char} :
    closing? s = some rest ↔ ∃ w, Blanks w ∧ s = w ++ ')' :: rest := by
  rw [← skipBlanks_eq_cons_iff (by decide)]
  unfold closing?
  split
  · next inner heq => simp [heq]
  · next hne => simpa using fun h => hne rest h

theorem opening?_eq_some_iff {s inner : List Char} :
    opening? s = some inner ↔
      ∃ w₁ w₂, Blanks w₁ ∧ Blanks w₂ ∧ s = w₁ ++ '(' :: w₂ ++ '"' :: inner := by
  constructor
  · intro h
    unfold opening? at h
    split at h
    · next rest heq =>
      split at h
      · next inner' heq' =>
        cases h
        obtain ⟨w₁, hw₁, rfl⟩ := (skipBlanks_eq_cons_iff (by decide)).1 heq
        obtain ⟨w₂, hw₂, rfl⟩ := (skipBlanks_eq_cons_iff (by decide)).1 heq'
        exact ⟨w₁, w₂, hw₁, hw₂, by simp⟩
      · simp at h
    · simp at h
  · rintro ⟨w₁, w₂, hw₁, hw₂, rfl⟩
    rw [List.append_assoc, List.cons_append]
    simp only [opening?, skipBlanks_append hw₁ (show isBlank '(' = false by decide),
      skipBlanks_append hw₂ (show isBlank '"' = false by decide)]

/-- The text starts with a key, and what ends it. -/
def Ends (s key rest : List Char) : Prop := ∃ w, Blanks w ∧ s = key ++ '"' :: w ++ ')' :: rest

theorem ends_nil {s rest : List Char} :
    Ends s [] rest ↔ ∃ t, s = '"' :: t ∧ closing? t = some rest := by
  simp only [Ends, closing?_eq_some_iff, List.nil_append]
  constructor
  · rintro ⟨w, hw, rfl⟩
    exact ⟨_, rfl, w, hw, rfl⟩
  · rintro ⟨_, rfl, w, hw, rfl⟩
    exact ⟨w, hw, rfl⟩

theorem ends_cons {c d : Char} {s key rest : List Char} :
    Ends (c :: s) (d :: key) rest ↔ c = d ∧ Ends s key rest := by
  simp only [Ends, List.cons_append, List.cons.injEq]
  constructor
  · rintro ⟨w, hw, rfl, rfl⟩
    exact ⟨rfl, w, hw, rfl⟩
  · rintro ⟨rfl, w, hw, rfl⟩
    exact ⟨w, hw, rfl, rfl⟩

/-- What follows a key is fixed by the length of the key. -/
theorem Ends.unique {s key rest key' rest' : List Char} (h : Ends s key rest)
    (h' : Ends s key' rest') (hl : key.length = key'.length) : key = key' ∧ rest = rest' := by
  induction key generalizing s key' with
  | nil =>
    obtain rfl := List.length_eq_zero_iff.1 hl.symm
    obtain ⟨t, rfl, ht⟩ := ends_nil.1 h
    obtain ⟨t', heq, ht'⟩ := ends_nil.1 h'
    cases heq
    exact ⟨rfl, Option.some.inj (ht.symm.trans ht')⟩
  | cons d key ih =>
    obtain ⟨d', key', rfl⟩ := List.exists_cons_of_length_eq_add_one hl.symm
    cases s with
    | nil => obtain ⟨w, -, hs⟩ := h; simp at hs
    | cons c s =>
      obtain ⟨rfl, hk⟩ := ends_cons.1 h
      obtain ⟨rfl, hk'⟩ := ends_cons.1 h'
      obtain ⟨rfl, rfl⟩ := ih hk hk' (by simpa using hl)
      exact ⟨rfl, rfl⟩

/-- The key found is one that ends, and no shorter one does. -/
theorem ends_of_key? {s key rest : List Char} (h : key? s = some (key, rest)) :
    Ends s key rest ∧ ∀ key' rest', Ends s key' rest' → key.length ≤ key'.length := by
  induction s generalizing key with
  | nil => simp [key?] at h
  | cons c s ih =>
    simp only [key?] at h
    split at h
    · next behind heq =>
      cases h
      split at heq
      · next hc => exact ⟨ends_nil.2 ⟨s, by rw [hc], heq⟩, fun _ _ _ => Nat.zero_le _⟩
      · simp at heq
    · next heq =>
      obtain ⟨⟨k, r⟩, hk, he⟩ := Option.map_eq_some_iff.1 h
      cases he
      obtain ⟨hends, hleast⟩ := ih hk
      refine ⟨ends_cons.2 ⟨rfl, hends⟩, fun key' rest' h' => ?_⟩
      cases key' with
      | nil =>
        -- the empty key would have been found first
        obtain ⟨t, ht, hclose⟩ := ends_nil.1 h'
        cases ht
        simp [hclose] at heq
      | cons d key' =>
        have := hleast key' rest' (ends_cons.1 h').2
        simpa using this

theorem key?_eq_none {s : List Char} (h : key? s = none) (key rest : List Char) :
    ¬ Ends s key rest := by
  induction s generalizing key with
  | nil => rintro ⟨w, -, hs⟩; simp at hs
  | cons c s ih =>
    simp only [key?] at h
    split at h
    · simp at h
    · next heq =>
      intro hends
      cases key with
      | nil =>
        obtain ⟨t, ht, hclose⟩ := ends_nil.1 hends
        cases ht
        simp [hclose] at heq
      | cons d key => exact ih (Option.map_eq_none_iff.1 h) key (ends_cons.1 hends).2

theorem starts_iff {name s key rest : List Char} :
    Starts name s key rest ↔
      ∃ a inner, after? name s = some a ∧ opening? a = some inner ∧ Ends inner key rest := by
  simp only [after?_eq_some_iff, opening?_eq_some_iff]
  constructor
  · rintro ⟨_, ⟨w₁, w₂, w₃, h₁, h₂, h₃, rfl⟩, rfl⟩
    refine ⟨w₁ ++ '(' :: w₂ ++ '"' :: (key ++ '"' :: w₃ ++ ')' :: rest),
      key ++ '"' :: w₃ ++ ')' :: rest, by simp, ⟨w₁, w₂, h₁, h₂, rfl⟩, w₃, h₃, rfl⟩
  · rintro ⟨_, _, rfl, ⟨w₁, w₂, h₁, h₂, rfl⟩, w₃, h₃, rfl⟩
    exact ⟨_, ⟨w₁, w₂, w₃, h₁, h₂, h₃, rfl⟩, by simp⟩

/-- A call is fixed by where it starts and the length of its key. -/
theorem Starts.unique {name s key rest key' rest' : List Char} (h : Starts name s key rest)
    (h' : Starts name s key' rest') (hl : key.length = key'.length) :
    key = key' ∧ rest = rest' := by
  obtain ⟨a, inner, ha, hi, he⟩ := starts_iff.1 h
  obtain ⟨a', inner', ha', hi', he'⟩ := starts_iff.1 h'
  rw [ha] at ha'
  cases ha'
  rw [hi] at hi'
  cases hi'
  exact he.unique he' hl

/-- The call found has a reading, and no reading of it has a shorter key. -/
theorem starts_of_call? {name s key rest : List Char} (h : call? name s = some (key, rest)) :
    Starts name s key rest ∧
      ∀ key' rest', Starts name s key' rest' → key.length ≤ key'.length := by
  obtain ⟨a, ha, h⟩ := Option.bind_eq_some_iff.1 h
  obtain ⟨inner, hi, h⟩ := Option.bind_eq_some_iff.1 h
  obtain ⟨hends, hleast⟩ := ends_of_key? h
  refine ⟨starts_iff.2 ⟨a, inner, ha, hi, hends⟩, fun key' rest' h' => ?_⟩
  obtain ⟨a', inner', ha', hi', he'⟩ := starts_iff.1 h'
  rw [ha] at ha'
  cases ha'
  rw [hi] at hi'
  cases hi'
  exact hleast key' rest' he'

theorem call?_eq_none {name s : List Char} (h : call? name s = none) (key rest : List Char) :
    ¬ Starts name s key rest := by
  intro hs
  obtain ⟨a, inner, ha, hi, he⟩ := starts_iff.1 hs
  exact key?_eq_none (by simpa [call?, ha, hi] using h) key rest he

/-! ### Readings of a line -/

/-- Where a call starts and ends in a line, and its key. -/
structure Reading where
  start : Nat
  stop : Nat
  key : List Char
  deriving DecidableEq, Repr

/-- The characters of the line from the start up to the end spell a call with the key. -/
structure IsReading (name line : List Char) (r : Reading) : Prop where
  stop_le : r.stop ≤ line.length
  spells : IsCall name r.key ((line.drop r.start).take (r.stop - r.start))

theorem IsReading.start_lt_stop {name line : List Char} {r : Reading}
    (h : IsReading name line r) : r.start < r.stop := by
  obtain ⟨w₁, w₂, w₃, -, -, -, ht⟩ := h.spells
  by_contra hle
  rw [show r.stop - r.start = 0 by omega] at ht
  simp at ht

theorem IsReading.starts {name line : List Char} {r : Reading} (h : IsReading name line r) :
    Starts name (line.drop r.start) r.key (line.drop r.stop) := by
  refine ⟨_, h.spells, ?_⟩
  have hlt := h.start_lt_stop
  have hd : line.drop r.stop = (line.drop r.start).drop (r.stop - r.start) := by
    rw [List.drop_drop, show r.start + (r.stop - r.start) = r.stop by omega]
  rw [hd, List.take_append_drop]

/-- A reading is fixed by where it starts and the length of its key. -/
theorem IsReading.eq_of_start {name line : List Char} {r r' : Reading} (h : IsReading name line r)
    (h' : IsReading name line r') (hstart : r.start = r'.start)
    (hlen : r.key.length = r'.key.length) : r = r' := by
  obtain ⟨hkey, hrest⟩ := h.starts.unique (hstart ▸ h'.starts) hlen
  have hstop : r.stop = r'.stop := by
    have hl := congrArg List.length hrest
    rw [List.length_drop, List.length_drop] at hl
    have := h.stop_le
    have := h'.stop_le
    omega
  cases r
  cases r'
  simp_all

/-- A call that starts behind some characters of the line is a reading. -/
theorem isReading_of_starts {name line key rest : List Char} {n : Nat} (hn : n ≤ line.length)
    (h : Starts name (line.drop n) key rest) :
    IsReading name line ⟨n, n + ((line.drop n).length - rest.length), key⟩ := by
  obtain ⟨text, ht, hs⟩ := h
  have hl : (line.drop n).length - rest.length = text.length := by simp [hs]
  have hle : text.length ≤ line.length - n := by
    rw [← List.length_drop, hs, List.length_append]
    omega
  constructor
  · rw [hl]
    show n + text.length ≤ line.length
    omega
  · show IsCall name key ((line.drop n).take (n + ((line.drop n).length - rest.length) - n))
    rw [hl, Nat.add_sub_cancel_left, hs, List.take_left]
    exact ht

/-- The leftmost readings at or behind a position: keys are shortest, readings do not overlap, and
no reading starts in a gap. -/
structure Leftmost (name line : List Char) (n : Nat) (rs : List Reading) : Prop where
  readings : ∀ r ∈ rs, IsReading name line r
  shortest : ∀ r ∈ rs, ∀ r', IsReading name line r' → r'.start = r.start →
    r.key.length ≤ r'.key.length
  apart : rs.Pairwise fun r r' => r.stop ≤ r'.start
  behind : ∀ r ∈ rs, n ≤ r.start
  gaps : ∀ r', IsReading name line r' → n ≤ r'.start →
    ∃ r ∈ rs, r.start ≤ r'.start ∧ r'.start < r.stop

namespace Leftmost

variable {name line : List Char} {n : Nat} {rs : List Reading}

/-- Positions where no reading starts can be passed over. -/
theorem of_none {m : Nat} (hnm : n ≤ m) (h : Leftmost name line m rs)
    (hno : ∀ r, IsReading name line r → n ≤ r.start → m ≤ r.start) : Leftmost name line n rs :=
  ⟨h.readings, h.shortest, h.apart, fun r hr => hnm.trans (h.behind r hr),
    fun r' hr' hn => h.gaps r' hr' (hno r' hr' hn)⟩

/-- A reading with the shortest key of its place comes before the leftmost readings behind it. -/
theorem cons {r : Reading} (hr : IsReading name line r) (hn : r.start = n)
    (hs : ∀ r', IsReading name line r' → r'.start = r.start → r.key.length ≤ r'.key.length)
    (h : Leftmost name line r.stop rs) : Leftmost name line n (r :: rs) where
  readings := List.forall_mem_cons.2 ⟨hr, h.readings⟩
  shortest := List.forall_mem_cons.2 ⟨hs, h.shortest⟩
  apart := List.pairwise_cons.2 ⟨h.behind, h.apart⟩
  behind := by
    have hlt := hr.start_lt_stop
    refine List.forall_mem_cons.2 ⟨hn.ge, fun q hq => ?_⟩
    have := h.behind q hq
    omega
  gaps := by
    intro r' hr' hle
    by_cases hlt : r'.start < r.stop
    · exact ⟨r, by simp, hn ▸ hle, hlt⟩
    · obtain ⟨q, hq, hin⟩ := h.gaps r' hr' (by omega)
      exact ⟨q, by simp [hq], hin⟩

theorem tail {r : Reading} (h : Leftmost name line n (r :: rs)) : Leftmost name line r.stop rs where
  readings q hq := h.readings q (by simp [hq])
  shortest q hq := h.shortest q (by simp [hq])
  apart := (List.pairwise_cons.1 h.apart).2
  behind := (List.pairwise_cons.1 h.apart).1
  gaps r' hr' hle := by
    have hlt := (h.readings r (by simp)).start_lt_stop
    have hn := h.behind r (by simp)
    obtain ⟨q, hq, hin⟩ := h.gaps r' hr' (by omega)
    rcases List.mem_cons.1 hq with rfl | hq
    · omega
    · exact ⟨q, hq, hin⟩

/-- No reading behind the position starts before the first of the leftmost ones. -/
theorem head_le {r r' : Reading} (h : Leftmost name line n (r :: rs)) (hr' : IsReading name line r')
    (hle : n ≤ r'.start) : r.start ≤ r'.start := by
  obtain ⟨q, hq, hin⟩ := h.gaps r' hr' hle
  rcases List.mem_cons.1 hq with rfl | hq
  · exact hin.1
  · have := (List.pairwise_cons.1 h.apart).1 q hq
    have := (h.readings r (by simp)).start_lt_stop
    omega

/-- No two of the leftmost readings start at one place. -/
theorem eq_of_start {r r' : Reading} (h : Leftmost name line n rs) (hr : r ∈ rs) (hr' : r' ∈ rs)
    (hstart : r.start = r'.start) : r = r' := by
  have hlt : rs.Pairwise fun q q' => q.start < q'.start :=
    h.apart.imp_of_mem fun hq _ hstop => ((h.readings _ hq).start_lt_stop).trans_le hstop
  have hnodup : (rs.map Reading.start).Nodup := List.pairwise_map.2 (hlt.imp Nat.ne_of_lt)
  exact List.inj_on_of_nodup_map hnodup hr hr' hstart

/-- There is only one list of leftmost readings. -/
theorem unique {rs' : List Reading} (h : Leftmost name line n rs) (h' : Leftmost name line n rs') :
    rs = rs' := by
  induction rs generalizing n rs' with
  | nil =>
    cases rs' with
    | nil => rfl
    | cons r' rs' =>
      obtain ⟨q, hq, -⟩ := h.gaps r' (h'.readings r' (by simp)) (h'.behind r' (by simp))
      simp at hq
  | cons r rs ih =>
    have hr := h.readings r (by simp)
    cases rs' with
    | nil =>
      obtain ⟨q, hq, -⟩ := h'.gaps r hr (h.behind r (by simp))
      simp at hq
    | cons r' rs' =>
      have hr' := h'.readings r' (by simp)
      have hstart : r.start = r'.start :=
        le_antisymm (h.head_le hr' (h'.behind r' (by simp))) (h'.head_le hr (h.behind r (by simp)))
      have hlen : r.key.length = r'.key.length :=
        le_antisymm (h.shortest r (by simp) r' hr' hstart.symm)
          (h'.shortest r' (by simp) r hr hstart)
      obtain rfl := hr.eq_of_start hr' hstart hlen
      rw [ih h.tail h'.tail]

end Leftmost

/-- The scanner finds the leftmost readings of the text behind a position. -/
theorem exists_leftmost_calls (name line : List Char) :
    ∀ (n : Nat) (s : List Char), n ≤ line.length → s = line.drop n →
      ∃ rs, Leftmost name line n rs ∧ calls name n s = rs.map fun r => (r.start, r.key) := by
  intro n s
  fun_induction calls name n s with
  | case1 n s key rest hcall ih =>
    rintro hn rfl
    obtain ⟨hstarts, hleast⟩ := starts_of_call? hcall
    have hr := isReading_of_starts hn hstarts
    set r : Reading := ⟨n, n + ((line.drop n).length - rest.length), key⟩ with hrdef
    have hrest : rest = line.drop r.stop := by
      obtain ⟨text, -, hs⟩ := hstarts
      have : r.stop = n + text.length := by simp [hrdef, hs]
      rw [this, ← List.drop_drop, hs, List.drop_left]
    obtain ⟨rs, hrs, hmap⟩ := ih hr.stop_le hrest
    refine ⟨r :: rs, hrs.cons hr rfl fun r' hr' he => ?_, by rw [hmap, List.map_cons]⟩
    exact hleast r'.key _ (he ▸ hr'.starts)
  | case2 n hnone =>
    intro hn hs
    have hlen : n = line.length := by
      have := congrArg List.length hs
      simp at this
      omega
    refine ⟨[], ⟨by simp, by simp, by simp, by simp, fun r' hr' hle => ?_⟩, rfl⟩
    have := hr'.start_lt_stop
    have := hr'.stop_le
    omega
  | case3 n c rest hnone ih =>
    intro hn hs
    have hlt : n < line.length := by
      by_contra hge
      rw [List.drop_eq_nil_of_le (by omega)] at hs
      simp at hs
    obtain ⟨rs, hrs, hmap⟩ := ih hlt (by rw [← List.drop_drop, ← hs, List.drop_one, List.tail_cons])
    refine ⟨rs, hrs.of_none (Nat.le_succ n) fun r hr hle => ?_, hmap⟩
    -- no call starts at `n` itself
    rcases hle.eq_or_lt with rfl | hlt'
    · exact absurd (hs ▸ hr.starts) (call?_eq_none hnone _ _)
    · exact hlt'

end FirmwareKit.Usage
