import Mathlib.Data.String.Basic
import FirmwareKit.Files.Node

/-! Proper trees. In a tree that stands for files every directory has each name once,
and no name is empty, a dot or two, or has a slash in it. Everything below a
directory of a proper tree is listed once, in the order of the names that lead to it. -/

namespace FirmwareKit.Node

/-- The text can be the name of an entry. -/
def IsName (name : String) : Prop :=
  name ≠ "" ∧ name ≠ "." ∧ name ≠ ".." ∧ '/' ∉ name.toList

/-- The tree stands for files: names in a directory are possible and different. -/
inductive Proper : Node → Prop
  | file (bytes : ByteArray) : Proper (.file bytes)
  | link (target : String) : Proper (.link target)
  | locked : Proper .locked
  | unnamed (bytes : ByteArray) : Proper (.unnamed bytes)
  | dir (entries : List (String × Node)) (nodup : (entries.map (·.1)).Nodup)
      (names : ∀ e ∈ entries, IsName e.1) (below : ∀ e ∈ entries, Proper e.2) :
    Proper (.dir entries)

/-! ### Looking up names -/

theorem mem_of_lookup {name : String} {entries : List (String × Node)} {n : Node}
    (h : lookup name entries = some n) : (name, n) ∈ entries := by
  induction entries with
  | nil => cases h
  | cons e entries ih =>
    obtain ⟨name', node⟩ := e
    rw [lookup] at h
    split at h
    · next heq =>
      cases h
      rw [heq]
      exact List.mem_cons_self
    · exact List.mem_cons_of_mem _ (ih h)

theorem lookup_of_mem {name : String} {entries : List (String × Node)} {n : Node}
    (hnodup : (entries.map (·.1)).Nodup) (h : (name, n) ∈ entries) :
    lookup name entries = some n := by
  induction entries with
  | nil => cases h
  | cons e entries ih =>
    obtain ⟨name', node⟩ := e
    obtain ⟨hnew, hnodup⟩ := List.nodup_cons.1 hnodup
    rw [lookup]
    rcases List.mem_cons.1 h with heq | hmem
    · cases heq
      rw [if_pos rfl]
    · rw [if_neg, ih hnodup hmem]
      rintro rfl
      exact hnew (List.mem_map.2 ⟨_, hmem, rfl⟩)

theorem isSome_lookup_iff {name : String} {entries : List (String × Node)} :
    (lookup name entries).isSome = true ↔ name ∈ entries.map (·.1) := by
  induction entries with
  | nil => simp [lookup]
  | cons e entries ih =>
    obtain ⟨name', node⟩ := e
    rw [lookup, List.map_cons, List.mem_cons, ← ih]
    split
    · next heq => simp [heq]
    · next hne => simp [Ne.symm hne]

theorem Proper.at? {n m : Node} {names : List String} (hn : n.Proper)
    (h : n.at? names = some m) : m.Proper := by
  induction names generalizing n with
  | nil => cases h; exact hn
  | cons name names ih =>
    obtain ⟨child, hchild, hat⟩ := Option.bind_eq_some_iff.1 h
    cases hn with
    | file | link | locked | unnamed => cases hchild
    | dir entries _ _ below => exact ih (below _ (mem_of_lookup hchild)) hat

/-! ### Everything below a directory -/

theorem describeEntries_eq_map (entries : List (String × Node)) :
    describeEntries entries = entries.map fun e => (e.1, e.2, e.2.descendants) := by
  induction entries with
  | nil => rfl
  | cons e entries ih => rw [describeEntries, ih, List.map_cons]

theorem byName_perm {α : Type} (pairs : List (String × α)) : (byName pairs).Perm pairs :=
  List.mergeSort_perm _ _

/-- Sorting by name does not look at what the names stand for. -/
theorem byName_map {α β : Type} (f : String × α → β) (pairs : List (String × α)) :
    byName (pairs.map fun e => (e.1, f e)) = (byName pairs).map fun e => (e.1, f e) := by
  rw [byName, byName, List.map_mergeSort]
  exact fun _ _ _ _ => rfl

/-- Sorting by different keys makes their order strict. -/
theorem mergeSort_pairwise {α : Type} (key : α → String) {l : List α} (h : (l.map key).Nodup) :
    (l.mergeSort fun a b => key a ≤ key b).Pairwise fun a b => key a < key b := by
  have hsorted : (l.mergeSort fun a b => key a ≤ key b).Pairwise fun a b =>
      decide (key a ≤ key b) = true := by
    apply List.pairwise_mergeSort
    · intro a b c hab hbc
      rw [decide_eq_true_eq] at hab hbc ⊢
      exact hab.trans hbc
    · intro a b
      simpa using le_total (key a) (key b)
  have hnodup : (l.mergeSort fun a b => key a ≤ key b).Pairwise fun a b => key a ≠ key b :=
    List.pairwise_map.1 (((List.mergeSort_perm l _).map key).nodup_iff.2 h)
  exact hsorted.imp₂ (fun _ _ hle hne => lt_of_le_of_ne (of_decide_eq_true hle) hne) hnodup

/-- Different names are sorted strictly. -/
theorem mergeSort_names_pairwise {names : List String} (h : names.Nodup) :
    (names.mergeSort (· ≤ ·)).Pairwise (· < ·) :=
  mergeSort_pairwise id (by rwa [List.map_id])

/-- The paths that an entry of a directory adds. -/
def branch (e : String × Node × List (List String × Node)) : List (List String × Node) :=
  ([e.1], e.2.1) :: e.2.2.map fun (names, n) => (e.1 :: names, n)

theorem descendants_dir (entries : List (String × Node)) :
    (dir entries).descendants = (byName (describeEntries entries)).flatMap branch := by
  rw [descendants]
  rfl

theorem mem_branch {name : String} {node m : Node} {names : List String} :
    (names, m) ∈ branch (name, node, node.descendants) ↔
      (names = [name] ∧ m = node) ∨
        ∃ more, names = name :: more ∧ (more, m) ∈ node.descendants := by
  rw [branch, List.mem_cons, Prod.mk.injEq, List.mem_map]
  constructor
  · rintro (h | ⟨⟨more, m'⟩, hmem, heq⟩)
    · exact .inl h
    · cases heq
      exact .inr ⟨more, rfl, hmem⟩
  · rintro (h | ⟨more, rfl, hmem⟩)
    · exact .inl h
    · exact .inr ⟨(more, m), hmem, rfl⟩

/-- What is below a directory is what some names lead to. -/
theorem Proper.mem_descendants {n m : Node} {names : List String} (hn : n.Proper) :
    (names, m) ∈ n.descendants ↔ names ≠ [] ∧ n.at? names = some m := by
  induction hn generalizing names with
  | file | link | locked | unnamed =>
    rw [descendants]
    cases names <;> simp [Node.at?, child?]
  | dir entries nodup _ _ ih =>
    rw [descendants_dir, List.mem_flatMap]
    constructor
    · rintro ⟨e, he, hmem⟩
      rw [(byName_perm _).mem_iff, describeEntries_eq_map, List.mem_map] at he
      obtain ⟨⟨name, node⟩, hentry, rfl⟩ := he
      have hlookup := lookup_of_mem nodup hentry
      rcases mem_branch.1 hmem with ⟨rfl, rfl⟩ | ⟨more, rfl, hmore⟩
      · exact ⟨by simp, by simp [Node.at?, child?, hlookup]⟩
      · exact ⟨by simp, by simpa [Node.at?, child?, hlookup] using ((ih _ hentry).1 hmore).2⟩
    · rintro ⟨hne, hat⟩
      obtain ⟨name, more, rfl⟩ := List.exists_cons_of_ne_nil hne
      obtain ⟨node, hchild, hat⟩ := Option.bind_eq_some_iff.1 hat
      have hentry := mem_of_lookup hchild
      refine ⟨(name, node, node.descendants), ?_, mem_branch.2 ?_⟩
      · rw [(byName_perm _).mem_iff, describeEntries_eq_map]
        exact List.mem_map_of_mem hentry
      · cases more with
        | nil => exact .inl ⟨rfl, (Option.some.inj hat).symm⟩
        | cons next more => exact .inr ⟨_, rfl, (ih _ hentry).2 ⟨by simp, hat⟩⟩

theorem branch_pairwise {name : String} {node : Node} (hne : ∀ x ∈ node.descendants, x.1 ≠ [])
    (h : node.descendants.Pairwise fun a b => a.1 < b.1) :
    (branch (name, node, node.descendants)).Pairwise fun a b => a.1 < b.1 := by
  rw [branch, List.pairwise_cons, List.pairwise_map]
  constructor
  · intro x hx
    obtain ⟨y, hy, rfl⟩ := List.mem_map.1 hx
    obtain ⟨first, rest, heq⟩ := List.exists_cons_of_ne_nil (hne y hy)
    show [name] < name :: y.1
    rw [heq, List.cons_lt_cons_iff]
    exact .inr ⟨rfl, List.nil_lt_cons _ _⟩
  · exact h.imp fun hlt => List.cons_lt_cons_iff.2 (.inr ⟨rfl, hlt⟩)

theorem head_of_mem_branch {e : String × Node × List (List String × Node)}
    {x : List String × Node} (h : x ∈ branch e) : ∃ more, x.1 = e.1 :: more := by
  rcases List.mem_cons.1 h with rfl | h
  · exact ⟨[], rfl⟩
  · obtain ⟨y, -, rfl⟩ := List.mem_map.1 h
    exact ⟨y.1, rfl⟩

/-- What is below a directory stands in the strict order of the names that lead to it. -/
theorem Proper.descendants_pairwise {n : Node} (hn : n.Proper) :
    n.descendants.Pairwise fun a b => a.1 < b.1 := by
  induction hn with
  | file | link | locked | unnamed =>
    rw [descendants]
    exact .nil
  | dir entries nodup _ below ih =>
    rw [descendants_dir, List.pairwise_flatMap]
    constructor
    · intro e he
      rw [(byName_perm _).mem_iff, describeEntries_eq_map, List.mem_map] at he
      obtain ⟨⟨name, node⟩, hentry, rfl⟩ := he
      exact branch_pairwise (fun x hx => ((below _ hentry).mem_descendants.1 hx).1) (ih _ hentry)
    · have hnames : ((describeEntries entries).map (·.1)).Nodup := by
        rw [describeEntries_eq_map, List.map_map]
        exact nodup
      refine (mergeSort_pairwise Prod.fst hnames).imp fun hlt x hx y hy => ?_
      obtain ⟨_, hx⟩ := head_of_mem_branch hx
      obtain ⟨_, hy⟩ := head_of_mem_branch hy
      rw [hx, hy, List.cons_lt_cons_iff]
      exact .inl hlt

/-! ### A node and everything below it -/

/-- A node and all that is below it, with the names that lead there. -/
def subtree (n : Node) : List (List String × Node) :=
  ([], n) :: n.descendants

theorem subtree_dir (entries : List (String × Node)) :
    (dir entries).subtree = ([], dir entries) ::
      (byName entries).flatMap fun e => e.2.subtree.map fun x => (e.1 :: x.1, x.2) := by
  have hsorted := byName_map (fun e : String × Node => (e.2, e.2.descendants)) entries
  rw [subtree, descendants_dir, describeEntries_eq_map, hsorted, List.flatMap_map]
  rfl

theorem Proper.mem_subtree {n m : Node} {names : List String} (hn : n.Proper) :
    (names, m) ∈ n.subtree ↔ n.at? names = some m := by
  rw [subtree, List.mem_cons, hn.mem_descendants, Prod.mk.injEq]
  cases names with
  | nil =>
    show ([] = [] ∧ m = n) ∨ _ ↔ some n = some m
    simp [eq_comm]
  | cons name names => simp

theorem Proper.subtree_pairwise {n : Node} (hn : n.Proper) :
    n.subtree.Pairwise fun a b => a.1 < b.1 := by
  refine List.pairwise_cons.2 ⟨fun x hx => ?_, hn.descendants_pairwise⟩
  obtain ⟨first, rest, heq⟩ := List.exists_cons_of_ne_nil (hn.mem_descendants.1 hx).1
  rw [heq]
  exact List.nil_lt_cons _ _

end FirmwareKit.Node
