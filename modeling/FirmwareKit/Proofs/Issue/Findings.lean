import Mathlib.Data.List.Basic
import FirmwareKit.Issue

/-! Which issues are reported. An issue stands for the first use of a key and the
first table of its name that lacks the key, and every key and name that call for an
issue have exactly one. The reports made so far are, throughout the comparison,
the keys used so far with the names of the tables that lack them. -/

namespace FirmwareKit.Issue

/-! ### Elements chosen by what stands before them -/

section Chosen

variable {α : Type} (p : List α → α → Bool)

/-- The elements of `rest`, with their positions behind `before`, that a test on the elements in
front of them chooses. -/
def chosenFrom (before rest : List α) : List (α × Nat) :=
  (rest.zipIdx before.length).filter fun x => p ((before ++ rest).take x.2) x.1

/-- The chosen elements of a list with their positions. -/
def chosen (l : List α) : List (α × Nat) := chosenFrom p [] l

theorem chosenFrom_cons (before : List α) (a : α) (rest : List α) :
    chosenFrom p before (a :: rest) =
      if p before a then (a, before.length) :: chosenFrom p (before ++ [a]) rest
      else chosenFrom p (before ++ [a]) rest := by
  rw [chosenFrom, List.zipIdx_cons, List.filter_cons]
  simp only [chosenFrom, List.take_left, List.length_append, List.length_singleton,
    List.append_assoc, List.singleton_append]

theorem mem_chosen {l : List α} {a : α} {i : Nat} :
    (a, i) ∈ chosen p l ↔ l[i]? = some a ∧ p (l.take i) a := by
  rw [chosen, chosenFrom, List.mem_filter]
  exact and_congr_left' List.mk_mem_zipIdx_iff_getElem?

theorem chosen_pairwise (l : List α) : (chosen p l).Pairwise fun x y => x.2 < y.2 := by
  have h : (l.zipIdx.map Prod.snd).Pairwise (· < ·) := by
    rw [List.zipIdx_map_snd]
    exact List.pairwise_lt_range'
  exact (List.pairwise_map.1 h).filter _

/-- A test that is met by some element is met by a first one. -/
theorem exists_first {l : List α} {q : α → Prop} (h : ∃ a ∈ l, q a) :
    ∃ i a, l[i]? = some a ∧ q a ∧ ∀ b ∈ l.take i, ¬ q b := by
  induction l with
  | nil => simp at h
  | cons c l ih =>
    by_cases hc : q c
    · exact ⟨0, c, rfl, hc, by simp⟩
    · obtain ⟨a, ha, hq⟩ := h
      have hl : ∃ a ∈ l, q a := by
        rcases List.mem_cons.1 ha with rfl | ha
        · exact absurd hq hc
        · exact ⟨a, ha, hq⟩
      obtain ⟨i, b, hi, hb, hfirst⟩ := ih hl
      exact ⟨i + 1, b, hi, hb, List.forall_mem_cons.2 ⟨hc, hfirst⟩⟩

theorem forall_mem_take_iff {l : List α} {i : Nat} {q : α → Prop} :
    (∀ a ∈ l.take i, q a) ↔ ∀ j < i, ∀ a, l[j]? = some a → q a := by
  simp only [List.mem_iff_getElem?, List.getElem?_take, forall_exists_index]
  constructor
  · intro h j hj a ha
    exact h a j (by rw [if_pos hj, ha])
  · intro h a j ha
    split at ha
    · exact h j ‹_› a ha
    · simp at ha

end Chosen

/-! ### The comparison of one use with the tables -/

/-- Some table of the name lacks the key. -/
def Lacks (tables : List Table) (key name : String) : Prop :=
  ∃ t ∈ tables, t.name = name ∧ t.contains key = false

instance (tables : List Table) (key name : String) : Decidable (Lacks tables key name) :=
  inferInstanceAs (Decidable (∃ t ∈ tables, t.name = name ∧ t.contains key = false))

/-- The table is the first of its name that lacks the key. -/
def isFirstLacking (key : String) (before : List Table) (t : Table) : Bool :=
  !t.contains key && !decide (Lacks before key t.name)

/-- The use is the first one of its key. -/
def isFirstUse (before : List Usage) (u : Usage) : Bool :=
  ∀ v ∈ before, v.key ≠ u.key

/-- The issue of a use and a table. -/
def between (u : Usage) (t : Table) : Issue := ⟨u.key, t.path, u.context⟩

theorem lacks_cons {t : Table} {tables : List Table} {key name : String} :
    Lacks (t :: tables) key name ↔
      (t.name = name ∧ t.contains key = false) ∨ Lacks tables key name := by
  simp [Lacks]

theorem lacks_append {before after : List Table} {key name : String} :
    Lacks (before ++ after) key name ↔ Lacks before key name ∨ Lacks after key name := by
  simp [Lacks, or_and_right, exists_or]

/-- A use is reported for the names of all tables that lack its key. -/
theorem mem_reports_ofUsage (u : Usage) (seen : List Report) (tables : List Table)
    (key name : String) :
    (key, name) ∈ (ofUsage u seen tables).2 ↔
      (key, name) ∈ seen ∨ key = u.key ∧ Lacks tables key name := by
  induction tables generalizing seen with
  | nil => simp [ofUsage, Lacks]
  | cons t tables ih =>
    simp only [ofUsage]
    split
    · next hskip =>
      rw [ih, lacks_cons]
      constructor
      · rintro (h | ⟨hk, h⟩)
        · exact .inl h
        · exact .inr ⟨hk, .inr h⟩
      · rintro (h | ⟨rfl, ⟨rfl, hlack⟩ | h⟩)
        · exact .inl h
        · exact .inl (by simpa [hlack] using hskip)
        · exact .inr ⟨rfl, h⟩
    · next hreport =>
      have hlack : t.contains u.key = false := by
        by_contra hc
        simp [hc] at hreport
      rw [ih, lacks_cons, List.mem_cons, Prod.mk.injEq]
      constructor
      · rintro ((⟨rfl, rfl⟩ | h) | ⟨hk, h⟩)
        · exact .inr ⟨rfl, .inl ⟨rfl, hlack⟩⟩
        · exact .inl h
        · exact .inr ⟨hk, .inr h⟩
      · rintro (h | ⟨rfl, ⟨rfl, -⟩ | h⟩)
        · exact .inl (.inr h)
        · exact .inl (.inl ⟨rfl, rfl⟩)
        · exact .inr ⟨rfl, h⟩

/-- When the names reported for the key are those of earlier tables that lack it, the issues are
those of the first table of each further name. -/
theorem issues_ofUsage (u : Usage) (seen : List Report) (before tables : List Table)
    (hseen : ∀ name, (u.key, name) ∈ seen ↔ Lacks before u.key name) :
    (ofUsage u seen tables).1 =
      (chosenFrom (isFirstLacking u.key) before tables).map fun x => between u x.1 := by
  induction tables generalizing seen before with
  | nil => rfl
  | cons t tables ih =>
    simp only [ofUsage, chosenFrom_cons]
    have hskip : (t.contains u.key || seen.contains (u.key, t.name)) =
        !isFirstLacking u.key before t := by
      have hs : seen.contains (u.key, t.name) = decide (Lacks before u.key t.name) := by
        rw [Bool.eq_iff_iff, List.contains_iff_mem, decide_eq_true_iff, hseen]
      rw [isFirstLacking, hs, Bool.not_and, Bool.not_not, Bool.not_not]
    rw [hskip]
    cases hfirst : isFirstLacking u.key before t with
    | false =>
      simp only [Bool.not_false, if_true, Bool.false_eq_true, if_false]
      refine ih seen (before ++ [t]) fun name => ?_
      rw [hseen, lacks_append, lacks_cons]
      constructor
      · exact .inl
      · rintro (h | ⟨rfl, hlack⟩ | h)
        · exact h
        · simpa [isFirstLacking, hlack] using hfirst
        · simp [Lacks] at h
    | true =>
      simp only [Bool.not_true, Bool.false_eq_true, if_false, if_true, List.map_cons, between]
      congr 1
      refine ih _ (before ++ [t]) fun name => ?_
      have hlack : t.contains u.key = false := by
        simp only [isFirstLacking, Bool.and_eq_true, Bool.not_eq_true'] at hfirst
        exact hfirst.1
      rw [List.mem_cons, Prod.mk.injEq, hseen, lacks_append, lacks_cons]
      constructor
      · rintro (⟨-, rfl⟩ | h)
        · exact .inr (.inl ⟨rfl, hlack⟩)
        · exact .inl h
      · rintro (h | ⟨rfl, -⟩ | h)
        · exact .inr h
        · exact .inl ⟨rfl, rfl⟩
        · simp [Lacks] at h

/-- A use whose key is reported for every table that lacks it makes no issue. -/
theorem ofUsage_of_reported (u : Usage) (seen : List Report) (tables : List Table)
    (h : ∀ name, Lacks tables u.key name → (u.key, name) ∈ seen) :
    ofUsage u seen tables = ([], seen) := by
  induction tables with
  | nil => rfl
  | cons t tables ih =>
    rw [ofUsage, if_pos, ih fun name hname => h name (lacks_cons.2 (.inr hname))]
    rw [Bool.or_eq_true, List.contains_iff_mem]
    cases hlack : t.contains u.key with
    | true => exact .inl rfl
    | false => exact .inr (h t.name (lacks_cons.2 (.inl ⟨rfl, hlack⟩)))

/-! ### The comparison of all uses with the tables -/

/-- Reported are the keys of these uses, with the names of the tables that lack them. -/
def Reported (tables : List Table) (before : List Usage) (seen : List Report) : Prop :=
  ∀ key name, (key, name) ∈ seen ↔ (∃ v ∈ before, v.key = key) ∧ Lacks tables key name

theorem reported_nil (tables : List Table) : Reported tables [] [] := by
  simp [Reported]

/-- One more use keeps the reports those of all uses so far. -/
theorem Reported.step {tables : List Table} {before : List Usage} {seen : List Report}
    (h : Reported tables before seen) (u : Usage) :
    Reported tables (before ++ [u]) (ofUsage u seen tables).2 := by
  intro key name
  rw [mem_reports_ofUsage, h key name]
  constructor
  · rintro (⟨⟨v, hv, hk⟩, hlack⟩ | ⟨rfl, hlack⟩)
    · exact ⟨⟨v, by simp [hv], hk⟩, hlack⟩
    · exact ⟨⟨u, by simp, rfl⟩, hlack⟩
  · rintro ⟨⟨v, hv, rfl⟩, hlack⟩
    rcases List.mem_append.1 hv with hv | hv
    · exact .inl ⟨⟨v, hv, rfl⟩, hlack⟩
    · rw [List.mem_singleton] at hv
      exact .inr ⟨by rw [hv], hlack⟩

/-- What a use reports: all tables that lack its key if the key is new, and nothing otherwise. -/
theorem Reported.issues_eq {tables : List Table} {before : List Usage} {seen : List Report}
    (h : Reported tables before seen) (u : Usage) :
    (ofUsage u seen tables).1 =
      if isFirstUse before u then
        (chosen (isFirstLacking u.key) tables).map fun x => between u x.1
      else [] := by
  split
  · next hfirst =>
    have hnew : ∀ v ∈ before, v.key ≠ u.key := by simpa [isFirstUse] using hfirst
    refine issues_ofUsage u seen [] tables fun name => ?_
    rw [h u.key name]
    constructor
    · rintro ⟨⟨v, hv, hk⟩, -⟩
      exact absurd hk (hnew v hv)
    · simp [Lacks]
  · next hlater =>
    have hold : ∃ v ∈ before, v.key = u.key := by simpa [isFirstUse] using hlater
    rw [ofUsage_of_reported u seen tables fun name hname => (h u.key name).2 ⟨hold, hname⟩]

theorem ofUsages_eq (tables : List Table) (before : List Usage) (seen : List Report)
    (usages : List Usage) (h : Reported tables before seen) :
    ofUsages tables seen usages =
      (chosenFrom isFirstUse before usages).flatMap fun x =>
        (chosen (isFirstLacking x.1.key) tables).map fun y => between x.1 y.1 := by
  induction usages generalizing before seen with
  | nil => rfl
  | cons u usages ih =>
    show (ofUsage u seen tables).1 ++ ofUsages tables (ofUsage u seen tables).2 usages = _
    rw [ih (before ++ [u]) _ (h.step u), h.issues_eq u, chosenFrom_cons]
    split
    · rw [List.flatMap_cons]
    · rw [List.nil_append]

/-- The issues are those of the first use of every key and the first table of every name that lacks
the key. -/
theorem missing_eq (tables : List Table) (usages : List Usage) :
    missing tables usages =
      (chosen isFirstUse usages).flatMap fun x =>
        (chosen (isFirstLacking x.1.key) tables).map fun y => between x.1 y.1 :=
  ofUsages_eq tables [] [] usages (reported_nil tables)

end FirmwareKit.Issue
