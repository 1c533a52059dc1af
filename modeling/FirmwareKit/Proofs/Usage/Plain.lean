import Mathlib.Data.List.Pairwise
import FirmwareKit.Proofs.Usage.Extraction

/-! Plain calls among others. A call is plain if no quote stands in its key. The scanner lets a key
grow until a quote is followed by a closing parenthesis, so a call whose argument only begins with
a quoted text can run on over the calls behind it. A plain call that shares no character with
another plain one is found, with its own key, exactly if no call found further left runs over it. -/

namespace FirmwareKit

open Text

namespace Usage

/-- The reading of a call with a plain key. -/
structure IsPlain (name line : List Char) (r : Reading) : Prop where
  reading : IsReading name line r
  plain : '"' ∉ r.key

/-- The readings have a character of the line in common. -/
def Overlap (r q : Reading) : Prop := r.start < q.stop ∧ q.start < r.stop

/-- A reading that starts further left and ends behind the start of another, wherever its key is
ended. Its argument begins with a quote, but it is no plain key. -/
structure RunsOver (name line : List Char) (q r : Reading) : Prop where
  reading : IsReading name line q
  left : q.start < r.start
  notPlain : '"' ∈ q.key
  covered : ∀ q', IsReading name line q' → q'.start = q.start → r.start < q'.stop

variable {name line : List Char}

/-! ### Readings that start at one place -/

/-- What ends a shorter key stands in the longer one, so less follows the longer one. -/
theorem Ends.of_length_lt {s key rest key' rest' : List Char} (h : Ends s key rest)
    (h' : Ends s key' rest') (hlt : key.length < key'.length) :
    '"' ∈ key' ∧ rest'.length < rest.length := by
  obtain ⟨w, hw, rfl⟩ := h
  obtain ⟨w', -, heq⟩ := h'
  have hkeys : key ++ ('"' :: (w ++ ')' :: rest)) = key' ++ ('"' :: (w' ++ ')' :: rest')) := by
    simpa using heq
  obtain ⟨more, rfl, hmore⟩ : ∃ more, key' = key ++ more ∧
      '"' :: (w ++ ')' :: rest) = more ++ '"' :: (w' ++ ')' :: rest') := by
    rcases List.append_eq_append_iff.1 hkeys with h | ⟨more, rfl, -⟩
    · exact h
    · rw [List.length_append] at hlt
      omega
  obtain _ | ⟨c, more⟩ := more
  · simp at hlt
  obtain ⟨rfl, hclosing⟩ := List.cons.inj hmore
  refine ⟨by simp, ?_⟩
  -- the quote that ends the longer key is neither white space nor the parenthesis
  have hsplit : (w ++ [')']) ++ rest = more ++ '"' :: (w' ++ ')' :: rest') := by
    simpa using hclosing
  rcases List.append_eq_append_iff.1 hsplit with ⟨between, -, hrest⟩ | ⟨between, hend, hrest⟩
  · have := congrArg List.length hrest
    simp at this
    omega
  · obtain _ | ⟨c, between⟩ := between
    · have := congrArg List.length hrest
      simp at this
      omega
    · obtain ⟨rfl, -⟩ := List.cons.inj hrest
      have hmem : '"' ∈ w ++ [')'] := by simp [hend]
      rcases List.mem_append.1 hmem with hmem | hmem
      · exact absurd (hw _ hmem) (by decide)
      · simp at hmem

theorem Starts.of_length_lt {s key rest key' rest' : List Char} (h : Starts name s key rest)
    (h' : Starts name s key' rest') (hlt : key.length < key'.length) :
    '"' ∈ key' ∧ rest'.length < rest.length := by
  obtain ⟨a, inner, ha, hinner, hends⟩ := starts_iff.1 h
  obtain ⟨a', inner', ha', hinner', hends'⟩ := starts_iff.1 h'
  rw [ha] at ha'
  cases ha'
  rw [hinner] at hinner'
  cases hinner'
  exact hends.of_length_lt hends' hlt

namespace IsReading

variable {q q' : Reading}

/-- Of two readings of one place, the one with the longer key has a quote in it and ends later. -/
theorem of_length_lt (h : IsReading name line q) (h' : IsReading name line q')
    (hstart : q.start = q'.start) (hlt : q.key.length < q'.key.length) :
    '"' ∈ q'.key ∧ q.stop < q'.stop := by
  obtain ⟨hquote, hrest⟩ := h.starts.of_length_lt (hstart ▸ h'.starts) hlt
  have := h'.stop_le
  simp only [List.length_drop] at hrest
  exact ⟨hquote, by omega⟩

theorem stop_le_stop (h : IsReading name line q) (h' : IsReading name line q')
    (hstart : q.start = q'.start) (hle : q.key.length ≤ q'.key.length) : q.stop ≤ q'.stop := by
  rcases hle.eq_or_lt with heq | hlt
  · rw [h.eq_of_start h' hstart heq]
  · exact (h.of_length_lt h' hstart hlt).2.le

end IsReading

/-- A plain key is the shortest of its place. -/
theorem IsPlain.length_le {r q : Reading} (h : IsPlain name line r) (hq : IsReading name line q)
    (hstart : q.start = r.start) : r.key.length ≤ q.key.length := by
  by_contra hlt
  exact h.plain (hq.of_length_lt h.reading hstart (by omega)).1

theorem IsPlain.eq_of_start {r q : Reading} (h : IsPlain name line r) (hq : IsPlain name line q)
    (hstart : q.start = r.start) : q = r :=
  hq.reading.eq_of_start h.reading hstart
    (le_antisymm (hq.length_le h.reading hstart.symm) (h.length_le hq.reading hstart))

/-- The places of the line where a plain call starts. -/
def plainStarts (name line : List Char) : List Nat :=
  (List.range line.length).filter fun n =>
    (call? name (line.drop n)).any fun found => '"' ∉ found.1

theorem mem_plainStarts_iff {n : Nat} :
    n ∈ plainStarts name line ↔ ∃ r, IsPlain name line r ∧ r.start = n := by
  simp only [plainStarts, List.mem_filter, List.mem_range, Option.any_eq_true, decide_eq_true_eq]
  constructor
  · rintro ⟨hn, ⟨key, rest⟩, hcall, hplain⟩
    exact ⟨_, ⟨isReading_of_starts hn.le (starts_of_call? hcall).1, hplain⟩, rfl⟩
  · rintro ⟨r, hr, rfl⟩
    refine ⟨hr.reading.start_lt_stop.trans_le hr.reading.stop_le, ?_⟩
    cases hcall : call? name (line.drop r.start) with
    | none => exact absurd hr.reading.starts (call?_eq_none hcall _ _)
    | some found =>
      -- the key found is the shortest of its place, so it is the plain one
      obtain ⟨hstarts, hleast⟩ := starts_of_call? hcall
      refine ⟨found, rfl, ?_⟩
      have hle := hleast r.key _ hr.reading.starts
      have hge := hr.length_le
        (isReading_of_starts (hr.reading.start_lt_stop.trans_le hr.reading.stop_le).le hstarts) rfl
      rw [(hstarts.unique hr.reading.starts (le_antisymm hle hge)).1]
      exact hr.plain

theorem IsPlain.eq_of_plainStarts {r q : Reading} (h : IsPlain name line r)
    (honly : plainStarts name line = [r.start]) (hq : IsPlain name line q) : q = r := by
  have hstart : q.start ∈ plainStarts name line := mem_plainStarts_iff.2 ⟨q, hq, rfl⟩
  rw [honly, List.mem_singleton] at hstart
  exact h.eq_of_start hq hstart

/-! ### Plain calls that are found -/

section Found

variable {rs : List Reading} {r : Reading}

/-- A plain call is found, or a call that is found runs over it. -/
theorem Leftmost.mem_or_runsOver (h : Leftmost name line 0 rs) (hr : IsPlain name line r)
    (halone : ∀ q, IsPlain name line q → Overlap q r → q = r) :
    r ∈ rs ∨ ∃ q ∈ rs, RunsOver name line q r := by
  obtain ⟨q, hq, hle, hover⟩ := h.gaps r hr.reading (Nat.zero_le _)
  have hreading := h.readings q hq
  rcases hle.eq_or_lt with hstart | hlt
  · have hlength : q.key.length = r.key.length :=
      le_antisymm (h.shortest q hq r hr.reading hstart.symm) (hr.length_le hreading hstart)
    rw [← hreading.eq_of_start hr.reading hstart hlength]
    exact .inl hq
  · refine .inr ⟨q, hq, hreading, hlt, ?_, fun q' hq' hstart => ?_⟩
    · -- a plain call would share characters with the other one
      by_contra hplain
      have hoverlap : Overlap q r := ⟨hlt.trans hr.reading.start_lt_stop, hover⟩
      have := halone q ⟨hreading, hplain⟩ hoverlap
      rw [this] at hlt
      exact hlt.false
    · exact hover.trans_le
        (hreading.stop_le_stop hq' hstart.symm (h.shortest q hq q' hq' hstart))

/-- A call that a found one runs over is not found. -/
theorem Leftmost.not_runsOver {q : Reading} (h : Leftmost name line 0 rs) (hr : r ∈ rs)
    (hq : q ∈ rs) : ¬ RunsOver name line q r := by
  intro hruns
  have hover := hruns.covered q hruns.reading rfl
  have hne : q ≠ r := fun heq => (heq ▸ hruns.left).false
  have hsymm : Std.Symm fun a b : Reading => a.stop ≤ b.start ∨ b.stop ≤ a.start :=
    ⟨fun _ _ => Or.symm⟩
  have hpairs : rs.Pairwise fun a b => a.stop ≤ b.start ∨ b.stop ≤ a.start :=
    h.apart.imp Or.inl
  have hlt := (h.readings r hr).start_lt_stop
  have hleft := hruns.left
  rcases hpairs.forall hq hr hne with hapart | hapart <;> omega

end Found

end Usage

namespace Extractor

open Usage

variable (e : Extractor) (file : String) {content : String} {i : Nat} {line : List Char}

/-- A reading of a line makes a use exactly if it is one of the leftmost ones. -/
theorem usage_mem_usages_iff {rs : List Reading} {r : Reading}
    (hline : (lines content.toList)[i]? = some line) (hmarker : ¬ e.marker.toList <:+: line)
    (hrs : Leftmost e.callName.toList line 0 rs) (hr : IsReading e.callName.toList line r) :
    r.usage file (i + 1) line ∈ e.usages file content ↔ r ∈ rs := by
  rw [mem_usages_iff]
  constructor
  · rintro ⟨i', line', rs', r', hline', -, hrs', hr', heq⟩
    simp only [Reading.usage, Usage.mk.injEq, SourceContext.mk.injEq, Location.mk.injEq,
      String.ofList_inj, Nat.add_right_cancel_iff, true_and] at heq
    obtain ⟨hkey, ⟨rfl, hstart⟩, rfl⟩ := heq
    rw [hrs.unique hrs', hr.eq_of_start (hrs'.readings r' hr') hstart (by rw [hkey])]
    exact hr'
  · intro hmem
    exact ⟨i, line, rs, r, hline, hmarker, hrs, hmem, rfl⟩

/-- On a line without the marker, a plain call that shares no character with another plain call
makes a use with its own key and column, whatever stands in front of it, exactly if no use that is
found further left runs over it. -/
theorem plain_mem_usages_iff {r : Reading} (hline : (lines content.toList)[i]? = some line)
    (hmarker : ¬ e.marker.toList <:+: line) (hr : IsPlain e.callName.toList line r)
    (halone : ∀ q, IsPlain e.callName.toList line q → Overlap q r → q = r) :
    r.usage file (i + 1) line ∈ e.usages file content ↔
      ¬ ∃ q, RunsOver e.callName.toList line q r ∧
        q.usage file (i + 1) line ∈ e.usages file content := by
  obtain ⟨rs, hrs, -⟩ := exists_leftmost_calls e.callName.toList line 0 line (by simp) rfl
  rw [e.usage_mem_usages_iff file hline hmarker hrs hr.reading]
  constructor
  · rintro hmem ⟨q, hruns, hq⟩
    rw [e.usage_mem_usages_iff file hline hmarker hrs hruns.reading] at hq
    exact hrs.not_runsOver hmem hq hruns
  · intro hnone
    refine (hrs.mem_or_runsOver hr halone).resolve_right ?_
    rintro ⟨q, hq, hruns⟩
    rw [← e.usage_mem_usages_iff file hline hmarker hrs hruns.reading] at hq
    exact hnone ⟨q, hruns, hq⟩

/-- An extractor of calls with a short name. -/
def short : Extractor where
  callName := "tr"
  marker := "skip"

/-- A line where a call with two quoted texts stands in front of a plain one. -/
def adjacentLine : String := "tr(\"a\" \"b\"); tr(\"c\")"

/-- A line where a call that joins a quoted text to a variable stands in front of a plain one. -/
def joinedLine : String := "tr(\"a\" + b); tr(\"c\")"

/-- The plain call of either line. -/
def secondReading : Reading := ⟨13, 20, ['c']⟩

theorem isPlain_adjacent : IsPlain short.callName.toList adjacentLine.toList secondReading where
  reading := ⟨by decide, [], [], [], by simp [Blanks], by simp [Blanks], by simp [Blanks],
    by decide⟩
  plain := by decide

theorem isPlain_joined : IsPlain short.callName.toList joinedLine.toList secondReading where
  reading := ⟨by decide, [], [], [], by simp [Blanks], by simp [Blanks], by simp [Blanks],
    by decide⟩
  plain := by decide

theorem plain_mem_usages_adjacent :
    (lines adjacentLine.toList)[0]? = some adjacentLine.toList ∧
      ¬ short.marker.toList <:+: adjacentLine.toList ∧
      IsPlain short.callName.toList adjacentLine.toList secondReading ∧
      (∀ q, IsPlain short.callName.toList adjacentLine.toList q → Overlap q secondReading →
        q = secondReading) ∧
      secondReading.usage "m" 1 adjacentLine.toList ∈ short.usages "m" adjacentLine ∧
      ¬ ∃ q, RunsOver short.callName.toList adjacentLine.toList q secondReading ∧
        q.usage "m" 1 adjacentLine.toList ∈ short.usages "m" adjacentLine := by
  have hline : (lines adjacentLine.toList)[0]? = some adjacentLine.toList := by decide +kernel
  have hmarker : ¬ short.marker.toList <:+: adjacentLine.toList :=
    short.isExempt_iff.not.1 (by decide)
  have halone : ∀ q, IsPlain short.callName.toList adjacentLine.toList q →
      Overlap q secondReading → q = secondReading :=
    fun q hq _ => isPlain_adjacent.eq_of_plainStarts (by decide +kernel) hq
  have hfound : secondReading.usage "m" 1 adjacentLine.toList ∈
      short.usages "m" adjacentLine := by
    decide +kernel
  exact ⟨hline, hmarker, isPlain_adjacent, halone, hfound,
    (short.plain_mem_usages_iff "m" hline hmarker isPlain_adjacent halone).1 hfound⟩

/-- A plain call that stands alone can be lost: the key of the call in front of it runs on. -/
theorem plain_not_mem_usages_joined :
    (∃ c ∈ short.callName.toList, isBlank c = false) ∧ '"' ∉ short.callName.toList ∧
      (lines joinedLine.toList)[0]? = some joinedLine.toList ∧
      ¬ short.marker.toList <:+: joinedLine.toList ∧
      IsPlain short.callName.toList joinedLine.toList secondReading ∧
      (∀ q, IsPlain short.callName.toList joinedLine.toList q → Overlap q secondReading →
        q = secondReading) ∧
      secondReading.usage "m" 1 joinedLine.toList ∉ short.usages "m" joinedLine := by
  refine ⟨⟨'t', by decide, rfl⟩, by decide, by decide +kernel,
    short.isExempt_iff.not.1 (by decide), isPlain_joined, fun q hq _ => ?_, by decide +kernel⟩
  exact isPlain_joined.eq_of_plainStarts (by decide +kernel) hq

end Extractor

end FirmwareKit
