import Mathlib.Data.List.Sort
import FirmwareKit.Proofs.Issue.Findings

/-! Exactness of the comparison. Every issue is found at a use and a table, given by
their positions; the findings are ordered by these, and a key and a table name have
one finding if the key is used and some table of the name lacks it, and none
otherwise. -/

namespace FirmwareKit.Issue

/-- A use and a table, with their positions, that make an issue. -/
structure Finding where
  useIndex : Nat
  use : Usage
  tableIndex : Nat
  table : Table
  deriving DecidableEq, Repr

namespace Finding

def issue (f : Finding) : Issue := between f.use f.table

/-- The finding is about the key and the table name. -/
def isAbout (key name : String) (f : Finding) : Bool :=
  f.use.key = key && f.table.name = name

/-- An earlier use, or the same use and an earlier table. -/
def Before (f g : Finding) : Prop :=
  f.useIndex < g.useIndex ∨ f.useIndex = g.useIndex ∧ f.tableIndex < g.tableIndex

/-- The use is the first one of its key, and the table the first one of its name that lacks it. -/
structure IsFirst (tables : List Table) (usages : List Usage) (f : Finding) : Prop where
  use_at : usages[f.useIndex]? = some f.use
  use_first : ∀ i < f.useIndex, ∀ u, usages[i]? = some u → u.key ≠ f.use.key
  table_at : tables[f.tableIndex]? = some f.table
  lacks : f.table.contains f.use.key = false
  table_first : ∀ j < f.tableIndex, ∀ t, tables[j]? = some t → t.name = f.table.name →
    t.contains f.use.key

instance : Std.Asymm Before where
  asymm f g h := by
    unfold Before at h ⊢
    omega

end Finding

/-- What the findings of a comparison have to be. -/
structure Exact (tables : List Table) (usages : List Usage) (found : List Finding) : Prop where
  first : ∀ f ∈ found, f.IsFirst tables usages
  ordered : found.Pairwise Finding.Before
  once : ∀ key name, found.countP (Finding.isAbout key name) =
    if (∃ u ∈ usages, u.key = key) ∧ Lacks tables key name then 1 else 0

variable {tables : List Table} {usages : List Usage} {f g : Finding}

/-! ### A key and a table name have one finding -/

namespace Finding.IsFirst

/-- Of two findings about one key and table name none comes before the other. -/
theorem not_before (hf : f.IsFirst tables usages) (hg : g.IsFirst tables usages)
    (hkey : f.use.key = g.use.key) (hname : f.table.name = g.table.name) : ¬ f.Before g := by
  rintro (hlt | ⟨-, hlt⟩)
  · exact hg.use_first _ hlt _ hf.use_at hkey
  · have htrans := hg.table_first _ hlt _ hf.table_at hname
    rw [← hkey, hf.lacks] at htrans
    exact Bool.noConfusion htrans

theorem eq (hf : f.IsFirst tables usages) (hg : g.IsFirst tables usages)
    (hkey : f.use.key = g.use.key) (hname : f.table.name = g.table.name) : f = g := by
  have hfg := hf.not_before hg hkey hname
  have hgf := hg.not_before hf hkey.symm hname.symm
  unfold Before at hfg hgf
  have huseIndex : f.useIndex = g.useIndex := by omega
  have htableIndex : f.tableIndex = g.tableIndex := by omega
  have huse : f.use = g.use := by
    have h := hf.use_at
    rw [huseIndex, hg.use_at, Option.some.injEq] at h
    exact h.symm
  have htable : f.table = g.table := by
    have h := hf.table_at
    rw [htableIndex, hg.table_at, Option.some.injEq] at h
    exact h.symm
  rw [show f = ⟨f.useIndex, f.use, f.tableIndex, f.table⟩ from rfl, huseIndex, huse, htableIndex,
    htable]

/-- A finding is about a key that is used and a name of which some table lacks it. -/
theorem due (h : f.IsFirst tables usages) :
    (∃ u ∈ usages, u.key = f.use.key) ∧ Lacks tables f.use.key f.table.name :=
  ⟨⟨f.use, List.mem_of_getElem? h.use_at, rfl⟩, f.table, List.mem_of_getElem? h.table_at, rfl,
    h.lacks⟩

end Finding.IsFirst

namespace Exact

variable {found other : List Finding}

theorem exists_about (h : Exact tables usages found) {key name : String}
    (hkey : ∃ u ∈ usages, u.key = key) (hname : Lacks tables key name) :
    ∃ f ∈ found, f.use.key = key ∧ f.table.name = name := by
  have hone := h.once key name
  rw [if_pos ⟨hkey, hname⟩] at hone
  obtain ⟨f, hf, habout⟩ := List.countP_pos_iff.1 (hone ▸ Nat.one_pos)
  exact ⟨f, hf, by simpa [Finding.isAbout] using habout⟩

theorem subset (h : Exact tables usages found) (h' : Exact tables usages other) :
    found ⊆ other := by
  intro f hf
  have hfirst := h.first f hf
  obtain ⟨g, hg, hkey, hname⟩ := h'.exists_about hfirst.due.1 hfirst.due.2
  rw [hfirst.eq (h'.first g hg) hkey.symm hname.symm]
  exact hg

/-- Only one list is exact. -/
theorem unique (h : Exact tables usages found) (h' : Exact tables usages other) :
    found = other :=
  List.Subset.antisymm_of_pairwise h.ordered h'.ordered (h.subset h') (h'.subset h)

end Exact

/-! ### The findings of a comparison -/

/-- The findings of a comparison. -/
def findings (tables : List Table) (usages : List Usage) : List Finding :=
  (chosen isFirstUse usages).flatMap fun x =>
    (chosen (isFirstLacking x.1.key) tables).map fun y => ⟨x.2, x.1, y.2, y.1⟩

theorem missing_eq_findings (tables : List Table) (usages : List Usage) :
    missing tables usages = (findings tables usages).map Finding.issue := by
  rw [missing_eq, findings, List.map_flatMap]
  simp only [List.map_map]
  rfl

theorem mem_findings : f ∈ findings tables usages ↔
    (f.use, f.useIndex) ∈ chosen isFirstUse usages ∧
      (f.table, f.tableIndex) ∈ chosen (isFirstLacking f.use.key) tables := by
  rw [findings, List.mem_flatMap]
  constructor
  · rintro ⟨x, hx, hf⟩
    obtain ⟨y, hy, rfl⟩ := List.mem_map.1 hf
    exact ⟨hx, hy⟩
  · rintro ⟨hx, hy⟩
    exact ⟨_, hx, List.mem_map_of_mem hy⟩

theorem findings_ordered (tables : List Table) (usages : List Usage) :
    (findings tables usages).Pairwise Finding.Before := by
  rw [findings, List.pairwise_flatMap]
  constructor
  · intro x _
    rw [List.pairwise_map]
    exact (chosen_pairwise _ tables).imp fun h => .inr ⟨rfl, h⟩
  · refine (chosen_pairwise _ usages).imp fun {x y} hxy f hf g hg => .inl ?_
    obtain ⟨_, _, rfl⟩ := List.mem_map.1 hf
    obtain ⟨_, _, rfl⟩ := List.mem_map.1 hg
    exact hxy

theorem isFirst_of_mem (h : f ∈ findings tables usages) : f.IsFirst tables usages := by
  obtain ⟨huse, hfirst⟩ := (mem_chosen _).1 (mem_findings.1 h).1
  obtain ⟨htable, hlacking⟩ := (mem_chosen _).1 (mem_findings.1 h).2
  simp only [isFirstLacking, Bool.and_eq_true, Bool.not_eq_true', decide_eq_false_iff_not]
    at hlacking
  refine ⟨huse, forall_mem_take_iff.1 (by simpa [isFirstUse] using hfirst), htable, hlacking.1,
    forall_mem_take_iff.1 fun t ht hname => ?_⟩
  by_contra hlack
  exact hlacking.2 ⟨t, ht, hname, by simpa using hlack⟩

/-- A key that is used and a name of which some table lacks it have a finding. -/
theorem exists_finding {key name : String} (hkey : ∃ u ∈ usages, u.key = key)
    (hname : Lacks tables key name) :
    ∃ f ∈ findings tables usages, f.use.key = key ∧ f.table.name = name := by
  obtain ⟨i, u, hu, rfl, hfirst⟩ := exists_first hkey
  obtain ⟨j, t, ht, ⟨rfl, hlack⟩, hother⟩ := exists_first hname
  refine ⟨⟨i, u, j, t⟩, mem_findings.2 ⟨(mem_chosen _).2 ⟨hu, ?_⟩, (mem_chosen _).2 ⟨ht, ?_⟩⟩,
    rfl, rfl⟩
  · simpa [isFirstUse] using hfirst
  · have hnone : ¬ Lacks (tables.take j) u.key t.name := by
      rintro ⟨s, hs, h⟩
      exact hother s hs h
    simp [isFirstLacking, hlack, hnone]

theorem countP_isAbout (tables : List Table) (usages : List Usage) (key name : String) :
    (findings tables usages).countP (Finding.isAbout key name) =
      if (∃ u ∈ usages, u.key = key) ∧ Lacks tables key name then 1 else 0 := by
  rw [List.countP_eq_length_filter]
  have hmem : ∀ f ∈ (findings tables usages).filter (Finding.isAbout key name),
      f.IsFirst tables usages ∧ f.use.key = key ∧ f.table.name = name := by
    intro f hf
    obtain ⟨hfound, habout⟩ := List.mem_filter.1 hf
    exact ⟨isFirst_of_mem hfound, by simpa [Finding.isAbout] using habout⟩
  have hordered := (findings_ordered tables usages).filter (Finding.isAbout key name)
  split
  · next hdue =>
    obtain ⟨f, hf, hkey, hname⟩ := exists_finding hdue.1 hdue.2
    have hfilter : f ∈ (findings tables usages).filter (Finding.isAbout key name) := by
      simp [Finding.isAbout, hf, hkey, hname]
    match hlist : (findings tables usages).filter (Finding.isAbout key name) with
    | [] => simp [hlist] at hfilter
    | [_] => rfl
    | g :: h :: rest =>
      -- two findings about one key and name would be one, but the order is strict
      obtain ⟨hg, hgk, hgn⟩ := hmem g (by simp [hlist])
      obtain ⟨hh, hhk, hhn⟩ := hmem h (by simp [hlist])
      rw [hlist] at hordered
      have hlt := (List.pairwise_cons.1 hordered).1 h (by simp)
      exact absurd hlt (hg.not_before hh (hgk.trans hhk.symm) (hgn.trans hhn.symm))
  · next hdue =>
    rw [List.length_eq_zero_iff, List.eq_nil_iff_forall_not_mem]
    intro f hf
    obtain ⟨hfirst, rfl, rfl⟩ := hmem f hf
    exact hdue hfirst.due

theorem exact_findings (tables : List Table) (usages : List Usage) :
    Exact tables usages (findings tables usages) where
  first _ := isFirst_of_mem
  ordered := findings_ordered tables usages
  once := countP_isAbout tables usages

/-! ### Tables with different names -/

/-- Among tables with different names every one that lacks the key is the first of its name. -/
theorem chosen_isFirstLacking (key : String) (hnames : (tables.map Table.name).Nodup) :
    (chosen (isFirstLacking key) tables).map Prod.fst = tables.filter fun t => !t.contains key := by
  have hchosen : chosen (isFirstLacking key) tables =
      tables.zipIdx.filter fun x => !x.1.contains key := by
    refine List.filter_congr fun (t, i) hx => ?_
    have hi : tables[i]? = some t := List.mk_mem_zipIdx_iff_getElem?.1 hx
    have hnone : ¬ Lacks (tables.take i) key t.name := by
      rintro ⟨s, hs, hname, -⟩
      obtain ⟨j, hj⟩ := List.mem_iff_getElem?.1 hs
      rw [List.getElem?_take] at hj
      split at hj
      · next hlt =>
        have hsame : (tables.map Table.name)[j]? = (tables.map Table.name)[i]? := by
          rw [List.getElem?_map, List.getElem?_map, hj, hi, Option.map_some, Option.map_some, hname]
        have hlen : j < (tables.map Table.name).length := by
          rw [List.length_map]
          exact (List.getElem?_eq_some_iff.1 hj).1
        exact absurd ((List.getElem?_inj hlen hnames).1 hsame) (Nat.ne_of_lt hlt)
      · simp at hj
    simp [isFirstLacking, hnone]
  have hfst := List.filter_map (p := fun t : Table => !t.contains key) (f := Prod.fst)
    (l := tables.zipIdx)
  rw [List.zipIdx_map_fst] at hfst
  rw [hchosen, hfst]
  rfl

theorem missing_of_nodup (usages : List Usage) (hnames : (tables.map Table.name).Nodup) :
    missing tables usages =
      (usages.zipIdx.filter fun (u, i) => ∀ v ∈ usages.take i, v.key ≠ u.key).flatMap
        fun (u, _) => (tables.filter fun t => !t.contains u.key).map (between u) := by
  rw [missing_eq]
  congr 1
  funext (u, i)
  show (chosen (isFirstLacking u.key) tables).map (fun x => between u x.1) =
    (tables.filter fun t => !t.contains u.key).map (between u)
  rw [← chosen_isFirstLacking u.key hnames, List.map_map]
  rfl

/-- Tables that change their keys only keep the order of the issues: what a test selects of the new
ones is what a test selects of the old ones if they agree on every use and table. -/
theorem filter_missing_map {usages : List Usage} {new : Table → Table} {keep keep' : Issue → Bool}
    (hnames : (tables.map Table.name).Nodup) (hname : ∀ t ∈ tables, (new t).name = t.name)
    (hpath : ∀ t ∈ tables, (new t).path = t.path)
    (h : ∀ u ∈ usages, ∀ t ∈ tables, (!(new t).contains u.key && keep' (between u t)) =
      (!t.contains u.key && keep (between u t))) :
    (missing (tables.map new) usages).filter keep' = (missing tables usages).filter keep := by
  have hnames' : ((tables.map new).map Table.name).Nodup := by
    rw [List.map_map, List.map_congr_left (f := Table.name ∘ new) (g := Table.name) hname]
    exact hnames
  rw [missing_of_nodup usages hnames, missing_of_nodup usages hnames', List.filter_flatMap,
    List.filter_flatMap]
  refine List.flatMap_congr fun (u, i) hx => ?_
  have hu : u ∈ usages :=
    List.mem_of_getElem? (List.mk_mem_zipIdx_iff_getElem?.1 (List.mem_of_mem_filter hx))
  show ((((tables.map new).filter fun t => !t.contains u.key).map (between u)).filter keep') =
    ((tables.filter fun t => !t.contains u.key).map (between u)).filter keep
  have hbetween : ∀ t ∈ tables, between u (new t) = between u t := fun t ht => by
    rw [between, between, hpath t ht]
  have hselected : (tables.filter fun t => !(new t).contains u.key && keep' (between u (new t))) =
      tables.filter fun t => !t.contains u.key && keep (between u t) :=
    List.filter_congr fun t ht => by rw [hbetween t ht, h u hu t ht]
  simp only [List.filter_map, List.filter_filter, List.map_map, Function.comp_def]
  simp only [Bool.and_comm (keep' _), Bool.and_comm (keep _), hselected]
  exact List.map_congr_left fun t ht => hbetween t (List.mem_of_mem_filter ht)

/-- The comparison is exact: there is one issue for every key that is used and every table name of
which some table lacks it, at the first use of the key and for the first such table, in the order
of these. If the names differ, every first use of a key has the tables that lack it, in order. -/
theorem missing_exact (tables : List Table) (usages : List Usage) :
    ∃ found : List Finding,
      missing tables usages = found.map Finding.issue ∧ Exact tables usages found ∧
      (∀ other, Exact tables usages other → other = found) ∧
      ((tables.map Table.name).Nodup → missing tables usages =
        (usages.zipIdx.filter fun (u, i) => ∀ v ∈ usages.take i, v.key ≠ u.key).flatMap
          fun (u, _) => (tables.filter fun t => !t.contains u.key).map (between u)) := by
  have hexact := exact_findings tables usages
  refine ⟨findings tables usages, missing_eq_findings tables usages, hexact, fun other hother => ?_,
    missing_of_nodup usages⟩
  exact hother.unique hexact

end FirmwareKit.Issue
