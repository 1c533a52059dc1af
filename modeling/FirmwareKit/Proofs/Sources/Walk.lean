import Mathlib.Data.List.Sort
import FirmwareKit.Proofs.Files.Descent
import FirmwareKit.Sources

/-! The walk of a proper tree. It comes to every place below a directory that can be reached through
directories that can be listed, once and in the order of the names that lead there, and it is barred
once at each of the other directories. What it keeps is decided for every place alone, and the uses
are those of the kept files one after the other. -/

namespace FirmwareKit.Sources

open Files Node

variable {files : Files} {base : Path}

/-! ### What the walk comes to -/

/-- Names lead from a path to a node through directories that can be listed, of which none is a
link. The path itself may be one. -/
inductive Met (files : Files) (base : Path) : List String → Node → Prop
  | base {node : Node} (found : files.find .target base = .ok node) : Met files base [] node
  | entry {names : List String} {entries : List (String × Node)} {name : String} {node : Node}
    (dir : Met files base names (.dir entries))
    (listed : ∃ inside, files.list (joinNames base names) = .ok inside)
    (entry : (name, node) ∈ entries) : Met files base (names ++ [name]) node

/-- The walk comes to a directory that it cannot list. -/
def IsBarred (files : Files) (base : Path) (names : List String) : Prop :=
  ∃ node, Met files base names node ∧ node.isDir = true ∧
    ∃ fault, files.list (joinNames base names) = .error fault

/-- Every directory on the way that names lead on from a place can be listed. -/
def isOpen (files : Files) (base : Path) : List String → List String → Bool
  | _, [] => true
  | names, name :: below =>
    (files.list (joinNames base names)).toOption.isSome && isOpen files base (names ++ [name]) below

/-- What a walk cannot go on from at a place with a node. -/
def bar? (files : Files) (base : Path) (x : List String × Node) : Option (Path × Files.Fault) :=
  if x.2.isDir then
    match files.list (joinNames base x.1) with
    | .error fault => some (joinNames base x.1, fault)
    | .ok _ => none
  else none

/-- What a walk comes to at a place alone. -/
def stops (files : Files) (base : Path) (x : List String × Node) : List Visit :=
  .met x.1 :: ((bar? files base x).map fun (path, fault) => .barred path fault).toList

theorem isSome_toOption_iff {ε α : Type} {r : Except ε α} :
    r.toOption.isSome = true ↔ ∃ a, r = .ok a := by
  cases r <;> simp [Except.toOption]

theorem isOpen_concat (names below : List String) (name : String) :
    isOpen files base names (below ++ [name]) = true ↔ isOpen files base names below = true ∧
      ∃ inside, files.list (joinNames base (names ++ below)) = .ok inside := by
  induction below generalizing names with
  | nil => simp [isOpen, isSome_toOption_iff]
  | cons first below ih =>
    rw [List.cons_append, isOpen, isOpen, Bool.and_eq_true, Bool.and_eq_true, ih,
      List.append_assoc, List.singleton_append, and_assoc]

/-- What is met is what is reached through directories that can be listed. -/
theorem met_iff {names : List String} {node : Node} :
    Met files base names node ↔
      Reached files base names node ∧ isOpen files base [] names = true := by
  constructor
  · intro h
    induction h with
    | base found => exact ⟨.base found, rfl⟩
    | entry _ listed entry ih =>
      exact ⟨.entry ih.1 entry, (isOpen_concat _ _ _).2 ⟨ih.2, listed⟩⟩
  · rintro ⟨h, hopen⟩
    induction h with
    | base found => exact .base found
    | entry _ entry ih =>
      obtain ⟨hfront, hlisted⟩ := (isOpen_concat _ _ _).1 hopen
      exact .entry (ih hfront) hlisted entry

theorem visitEntries_eq_map (names : List String) (entries : List (String × Node)) :
    visitEntries files base names entries =
      entries.map fun e => (e.1, visit files base (names ++ [e.1]) e.2) := by
  induction entries with
  | nil => rfl
  | cons e entries ih => rw [visitEntries, ih, List.map_cons]

theorem visit_dir (names : List String) (entries : List (String × Node)) :
    visit files base names (.dir entries) = .met names :: behind files (joinNames base names)
      ((byName entries).flatMap fun e => visit files base (names ++ [e.1]) e.2) := by
  have hsorted :=
    byName_map (fun e : String × Node => visit files base (names ++ [e.1]) e.2) entries
  rw [visit, visitEntries_eq_map, hsorted, List.flatMap_map]

/-- The walk stops at every place in the order of the tree, except below what it cannot list. -/
theorem visit_eq {node : Node} (hnode : node.Proper) (names : List String) :
    visit files base names node =
      (node.subtree.filter fun x => isOpen files base names x.1).flatMap fun x =>
        stops files base (names ++ x.1, x.2) := by
  induction hnode generalizing names with
  | file | link | unnamed =>
    rw [subtree, descendants, List.filter_cons_of_pos (by exact rfl), List.filter_nil,
      List.flatMap_cons, List.flatMap_nil, List.append_nil, List.append_nil]
    rfl
  | locked =>
    rw [subtree, descendants, List.filter_cons_of_pos (by exact rfl), List.filter_nil,
      List.flatMap_cons, List.flatMap_nil, List.append_nil, List.append_nil, visit, behind, stops,
      bar?, if_pos (by exact rfl)]
    cases files.list (joinNames base names) <;> rfl
  | dir entries nodup isName below ih =>
    rw [visit_dir, subtree_dir, List.filter_cons_of_pos (by exact rfl), List.flatMap_cons,
      List.append_nil, List.filter_flatMap, List.flatMap_assoc, stops, bar?, if_pos (by exact rfl)]
    cases hlist : files.list (joinNames base names) with
    | error fault =>
      have hnone (e : String × Node) :
          (e.2.subtree.map fun x => (e.1 :: x.1, x.2)).filter
            (fun x => isOpen files base names x.1) = [] := by
        rw [List.filter_eq_nil_iff]
        intro x hx
        obtain ⟨y, -, rfl⟩ := List.mem_map.1 hx
        simp [isOpen, hlist, Except.toOption]
      simp [behind, hlist, hnone]
    | ok inside =>
      simp only [behind, hlist, List.cons_append]
      congr 1
      refine List.flatMap_congr fun e he => ?_
      rw [ih e ((byName_perm _).mem_iff.1 he), List.filter_map, List.flatMap_map]
      have hopen : (fun x : List String × Node => isOpen files base names x.1) ∘
          (fun x : List String × Node => (e.1 :: x.1, x.2)) =
            fun x => isOpen files base (names ++ [e.1]) x.1 := by
        funext x
        simp [isOpen, hlist, Except.toOption]
      simp only [hopen, List.append_assoc, List.singleton_append]

/-- A walk from something that is there stops at what is met, in the order of the names. -/
theorem walk_of_find {node : Node} (hroot : files.root.Proper)
    (h : files.find .target base = .ok node) :
    ∃ places : List (List String × Node),
      walk files base = places.flatMap (stops files base) ∧
      (places.map (·.1)).Pairwise (· < ·) ∧
      ∀ names n, (names, n) ∈ places ↔ Met files base names n := by
  have hnode := proper_of_find hroot h
  refine ⟨node.subtree.filter fun x => isOpen files base [] x.1, ?_, ?_, fun names n => ?_⟩
  · obtain ⟨_, hentry⟩ := find_entry h
    rw [walk, hentry, h]
    exact visit_eq hnode []
  · exact List.pairwise_map.2 (hnode.subtree_pairwise.filter _)
  · rw [List.mem_filter, hnode.mem_subtree, met_iff, reached_iff hroot, h]
    simp

theorem walk_of_not_isThere (h : files.isThere base = false) :
    ∃ fault, walk files base = [.barred base fault] := by
  rw [isThere] at h
  unfold walk
  cases hfind : files.find .target base with
  | ok node => simp [hfind, Except.toOption] at h
  | error fault =>
    split
    · exact ⟨_, rfl⟩
    · exact ⟨_, rfl⟩

theorem filterMap_place?_stops (x : List String × Node) :
    (stops files base x).filterMap Visit.place? = [x.1] := by
  rw [stops]
  cases bar? files base x <;> rfl

theorem filterMap_fault?_stops (x : List String × Node) :
    (stops files base x).filterMap Visit.fault? = (bar? files base x).toList := by
  rw [stops]
  cases bar? files base x <;> rfl

/-- What bars the walk at a place is that a directory there cannot be listed. -/
theorem bar?_eq_some_iff {x : List String × Node} {path : Path} {fault : Files.Fault} :
    bar? files base x = some (path, fault) ↔
      x.2.isDir = true ∧ joinNames base x.1 = path ∧
        files.list (joinNames base x.1) = .error fault := by
  rw [bar?]
  cases x.2.isDir <;> cases files.list (joinNames base x.1) <;> simp

/-- The places of a walk are those that are met, each of them once. -/
theorem walk_places (hroot : files.root.Proper) (h : files.isThere base = true) :
    ((walk files base).filterMap Visit.place?).Pairwise (· < ·) ∧
      ∀ names, names ∈ (walk files base).filterMap Visit.place? ↔
        ∃ node, Met files base names node := by
  obtain ⟨node, hfind⟩ := isThere_iff_find.1 h
  obtain ⟨places, hwalk, hordered, hmem⟩ := walk_of_find hroot hfind
  have hplaces : (walk files base).filterMap Visit.place? = places.map (·.1) := by
    rw [hwalk, List.filterMap_flatMap, List.map_eq_flatMap]
    simp only [filterMap_place?_stops]
  rw [hplaces]
  refine ⟨hordered, fun names => ?_⟩
  rw [List.mem_map]
  constructor
  · rintro ⟨⟨_, n⟩, hx, rfl⟩
    exact ⟨n, (hmem _ _).1 hx⟩
  · rintro ⟨n, hmet⟩
    exact ⟨(names, n), (hmem _ _).2 hmet, rfl⟩

/-- A walk is barred at the directories that it comes to and cannot list, once at each. -/
theorem walk_faults (hroot : files.root.Proper) (h : files.isThere base = true) :
    ∃ barred : List (List String), barred.Pairwise (· < ·) ∧
      (∀ names, names ∈ barred ↔ IsBarred files base names) ∧
      ((walk files base).filterMap Visit.fault?).map (·.1) = barred.map (joinNames base) ∧
      ∀ x ∈ (walk files base).filterMap Visit.fault?, files.list x.1 = .error x.2 := by
  obtain ⟨node, hfind⟩ := isThere_iff_find.1 h
  obtain ⟨places, hwalk, hordered, hmem⟩ := walk_of_find hroot hfind
  have hfaults : (walk files base).filterMap Visit.fault? =
      places.filterMap (bar? files base) := by
    rw [hwalk, List.filterMap_flatMap, List.filterMap_eq_flatMap_toList]
    simp only [filterMap_fault?_stops]
  refine ⟨(places.filter fun x => (bar? files base x).isSome).map (·.1), ?_,
    fun names => ?_, ?_, fun x hx => ?_⟩
  · exact List.pairwise_map.2 ((List.pairwise_map.1 hordered).filter _)
  · simp only [List.mem_map, List.mem_filter, Option.isSome_iff_exists]
    constructor
    · rintro ⟨⟨_, n⟩, ⟨hplace, ⟨path, fault⟩, hbar⟩, rfl⟩
      obtain ⟨hdir, -, hlist⟩ := bar?_eq_some_iff.1 hbar
      exact ⟨n, (hmem _ _).1 hplace, hdir, fault, hlist⟩
    · rintro ⟨n, hmet, hdir, fault, hlist⟩
      exact ⟨(names, n), ⟨(hmem _ _).2 hmet, _, bar?_eq_some_iff.2 ⟨hdir, rfl, hlist⟩⟩, rfl⟩
  · rw [hfaults, List.map_map]
    generalize places = l
    induction l with
    | nil => rfl
    | cons y l ih =>
      cases hbar : bar? files base y with
      | none => rw [List.filterMap_cons_none hbar, List.filter_cons_of_neg (by simp [hbar]), ih]
      | some found =>
        obtain ⟨-, hpath, -⟩ := bar?_eq_some_iff.1 hbar
        rw [List.filterMap_cons_some hbar, List.filter_cons_of_pos (by simp [hbar]), List.map_cons,
          List.map_cons, ih, ← hpath]
        rfl
  · rw [hfaults, List.mem_filterMap] at hx
    obtain ⟨y, -, hbar⟩ := hx
    obtain ⟨-, hpath, hlist⟩ := bar?_eq_some_iff.1 hbar
    rw [← hpath, hlist]

/-! ### What is kept -/

/-- Names lead from the directory to a source file that is kept. -/
def IsKept (files : Files) (base : Path) (extensions : List String) (ignores : List Glob)
    (names : List String) : Prop :=
  (∃ node, files.find .target base = .ok node ∧ (node.at? names).isSome) ∧
    keeps files base extensions ignores names

theorem joinNames_concat (base : Path) (names : List String) (name : String) :
    joinNames base (names ++ [name]) = (joinNames base names).join name :=
  List.foldl_append

theorem text_joinNames_ne_empty {names : List String} {node : Node} (hroot : files.root.Proper)
    (h : Reached files base names node) : (joinNames base names).text ≠ "" := by
  induction h with
  | base found =>
    obtain ⟨_, hlocate⟩ := find_eq_ok.1 found
    exact text_ne_empty_of_locate hlocate
  | @entry names _ name _ dir entry ih =>
    have hname : IsName name := ((dir.entry entry).proper hroot).2 name (by simp)
    rw [joinNames_concat]
    exact Path.text_join_ne_empty ih hname.head?_ne

/-- What a path leads to is met: the directories on the way can be listed. -/
theorem met_of_isThere {names : List String} {node : Node} (hroot : files.root.Proper)
    (h : Reached files base names node) (hthere : files.isThere (joinNames base names) = true) :
    Met files base names node := by
  induction h with
  | base found => exact .base found
  | @entry names _ name _ dir entry ih =>
    have hname : IsName name := ((dir.entry entry).proper hroot).2 name (by simp)
    obtain ⟨n, hfind⟩ := isThere_iff_find.1 hthere
    rw [joinNames_concat] at hfind
    obtain ⟨inside, hdir⟩ := exists_dir_of_join (text_joinNames_ne_empty hroot dir) hname hfind
    exact .entry (ih (isThere_iff_find.2 ⟨_, hdir⟩)) ⟨_, by rw [list, hdir]⟩ entry

/-- A path that leads to something leads to what is reached by its names. -/
theorem find_of_isThere {names : List String} {node : Node} (hroot : files.root.Proper)
    (h : Reached files base names node) (hlink : ∀ target, node ≠ .link target)
    (hthere : files.isThere (joinNames base names) = true) :
    files.find .target (joinNames base names) = .ok node := by
  induction h with
  | base found => exact found
  | @entry names entries name node dir entry ih =>
    have hname : IsName name := ((dir.entry entry).proper hroot).2 name (by simp)
    obtain ⟨n, hfind⟩ := isThere_iff_find.1 hthere
    rw [joinNames_concat] at hfind ⊢
    obtain ⟨inside, hinside⟩ := exists_dir_of_join (text_joinNames_ne_empty hroot dir) hname hfind
    have hdir := ih (by simp) (isThere_iff_find.2 ⟨_, hinside⟩)
    have hproper := (dir.proper hroot).1
    cases hproper with | dir _ nodup
    rw [find_join_eq hdir (lookup_of_mem nodup entry) hlink hname] at hfind ⊢
    split at hfind
    · cases hfind
    split at hfind
    · cases hfind
    · next hnul hlong => rw [if_neg hnul, if_neg hlong]

/-- The kept files come in the order of the names that lead to them. -/
theorem scan_files (hroot : files.root.Proper) (base : Path) (extensions : List String)
    (ignores : List Glob) :
    ∃ places : List (List String), places.Pairwise (· < ·) ∧
      (∀ names, names ∈ places ↔ IsKept files base extensions ignores names) ∧
      (scan files base extensions ignores).files = places.map (joinNames base) := by
  cases hthere : files.isThere base with
  | false =>
    refine ⟨[], .nil, fun names => ?_, ?_⟩
    · rw [isThere] at hthere
      cases hfind : files.find .target base with
      | error => simp [IsKept, hfind]
      | ok => simp [hfind, Except.toOption] at hthere
    · obtain ⟨_, hwalk⟩ := walk_of_not_isThere hthere
      rw [scan, hwalk]
      rfl
  | true =>
    obtain ⟨hordered, hmem⟩ := walk_places hroot hthere
    refine ⟨((walk files base).filterMap Visit.place?).filter (keeps files base extensions ignores),
      hordered.filter _, fun names => ?_, rfl⟩
    rw [List.mem_filter, hmem, IsKept]
    refine and_congr_left fun hkeeps => ?_
    have hisThere : files.isThere (joinNames base names) = true := by
      simp only [keeps, Bool.and_eq_true] at hkeeps
      exact isThere_of_isFile hkeeps.1.1
    have hreached : (∃ node, files.find .target base = .ok node ∧ (node.at? names).isSome) ↔
        ∃ node, Reached files base names node := by
      simp only [reached_iff hroot, Option.isSome_iff_exists]
      rw [exists_comm]
      simp only [exists_and_left]
    rw [hreached]
    exact exists_congr fun node =>
      ⟨fun h => (met_iff.1 h).1, fun h => met_of_isThere hroot h hisThere⟩

/-- What is skipped are the directories that the walk comes to and that cannot be listed. -/
theorem scan_skipped (hroot : files.root.Proper) (h : files.isThere base = true)
    (extensions : List String) (ignores : List Glob) :
    ∃ barred : List (List String), barred.Pairwise (· < ·) ∧
      (∀ names, names ∈ barred ↔ IsBarred files base names) ∧
      (scan files base extensions ignores).skipped = barred.length := by
  obtain ⟨barred, hordered, hmem, hpaths, -⟩ := walk_faults hroot h
  refine ⟨barred, hordered, hmem, ?_⟩
  have hlength := congrArg List.length hpaths
  rwa [List.length_map, List.length_map] at hlength

theorem scan_of_not_isThere {extensions : List String} {ignores : List Glob}
    (h : files.isThere base = false) : scan files base extensions ignores = ⟨[], 1⟩ := by
  obtain ⟨fault, hwalk⟩ := walk_of_not_isThere h
  rw [scan, hwalk]
  rfl

/-! ### Two trees -/

/-- Trees from which the walk keeps the same files, and skips as many places, are scanned alike. -/
theorem scan_congr {f g : Files} {base : Path} {extensions : List String} {ignores : List Glob}
    (hf : f.root.Proper) (hg : g.root.Proper)
    (hkept : ∀ names, IsKept g base extensions ignores names ↔
      IsKept f base extensions ignores names)
    (hskipped : (scan g base extensions ignores).skipped =
      (scan f base extensions ignores).skipped) :
    scan g base extensions ignores = scan f base extensions ignores := by
  obtain ⟨kept, hordered, hmem, hfiles⟩ := scan_files hf base extensions ignores
  obtain ⟨kept', hordered', hmem', hfiles'⟩ := scan_files hg base extensions ignores
  have hsame : kept' = kept := hordered'.eq_of_mem_iff hordered fun names => by
    rw [hmem', hmem, hkept]
  calc scan g base extensions ignores
      = ⟨(scan g base extensions ignores).files, (scan g base extensions ignores).skipped⟩ := rfl
    _ = scan f base extensions ignores := by rw [hfiles', hsame, ← hfiles, hskipped]

/-- Names lead from a path to a directory. -/
def DirBelow (files : Files) (base : Path) (names : List String) : Prop :=
  ∃ node, Reached files base names node ∧ node.isDir = true

/-- The walk is barred at the same paths in both trees, for the same reasons. -/
def SameBars (f g : Files) (base : Path) : Prop :=
  (walk g base).filterMap Visit.fault? = (walk f base).filterMap Visit.fault?

section SameBars

variable {f g : Files} {base : Path}

theorem SameBars.skipped_eq (h : SameBars f g base) (extensions : List String)
    (ignores : List Glob) :
    (scan g base extensions ignores).skipped = (scan f base extensions ignores).skipped :=
  congrArg List.length h

theorem SameBars.complaints_eq (h : SameBars f g base) :
    complaints g base = complaints f base := by
  rw [complaints, complaints, h]

/-- A path that is too long is no path in any tree. -/
theorem sameBars_of_long (h : Files.maxPath < base.text.utf8ByteSize) : SameBars f g base := by
  obtain ⟨fault, hfault⟩ : ∃ fault, ∀ files : Files,
      files.locate .entry base = .error fault := by
    unfold Files.locate
    simp only [if_pos h]
    split
    · exact ⟨_, fun _ => rfl⟩
    · split <;> exact ⟨_, fun _ => rfl⟩
  simp only [SameBars, walk, Files.find, hfault]

/-- Trees with the same directories below a path, which can be listed in both or in neither, are
barred at the same places. -/
theorem exists_met_congr {names : List String} {node : Node}
    (hdirs : ∀ names, DirBelow f base names → DirBelow g base names)
    (hlist : ∀ names, DirBelow f base names →
      (∃ inside, f.list (joinNames base names) = .ok inside) →
        ∃ inside, g.list (joinNames base names) = .ok inside)
    (h : Met f base names node) (hdir : node.isDir = true) :
    ∃ node', Met g base names node' ∧ node'.isDir = true := by
  induction h with
  | @base node found =>
    obtain ⟨node', hreached, hdir'⟩ := hdirs [] ⟨node, .base found, hdir⟩
    exact ⟨node', met_iff.2 ⟨hreached, rfl⟩, hdir'⟩
  | @entry names entries name node dir listed entry ih =>
    obtain ⟨above, habove, -⟩ := ih rfl
    obtain ⟨node', hreached, hdir'⟩ := hdirs _ ⟨node, (met_iff.1 dir).1.entry entry, hdir⟩
    have hlisted := hlist names ⟨_, (met_iff.1 dir).1, rfl⟩ listed
    exact ⟨node', met_iff.2 ⟨hreached, (isOpen_concat _ _ _).2 ⟨(met_iff.1 habove).2, hlisted⟩⟩,
      hdir'⟩

theorem isBarred_iff {files : Files} {names : List String} : IsBarred files base names ↔
    (∃ node, Met files base names node ∧ node.isDir = true) ∧
      ¬ ∃ inside, files.list (joinNames base names) = .ok inside := by
  unfold IsBarred
  cases files.list (joinNames base names) <;> simp

theorem isBarred_congr (hdirs : ∀ names, DirBelow g base names ↔ DirBelow f base names)
    (hlist : ∀ names, DirBelow f base names →
      ((∃ inside, g.list (joinNames base names) = .ok inside) ↔
        ∃ inside, f.list (joinNames base names) = .ok inside)) (names : List String) :
    IsBarred g base names ↔ IsBarred f base names := by
  have hmet : (∃ node, Met g base names node ∧ node.isDir = true) ↔
      ∃ node, Met f base names node ∧ node.isDir = true := by
    constructor
    · rintro ⟨node, hmet, hdir⟩
      exact exists_met_congr (fun names h => (hdirs names).1 h)
        (fun names h => (hlist names ((hdirs names).1 h)).1) hmet hdir
    · rintro ⟨node, hmet, hdir⟩
      exact exists_met_congr (fun names h => (hdirs names).2 h) (fun names h => (hlist names h).2)
        hmet hdir
  rw [isBarred_iff, isBarred_iff, hmet]
  refine and_congr_right fun ⟨node, hmet, hdir⟩ => ?_
  rw [hlist names ⟨node, (met_iff.1 hmet).1, hdir⟩]

theorem skipped_congr (hf : f.root.Proper) (hg : g.root.Proper)
    (hthere : g.isThere base = f.isThere base)
    (h : ∀ names, IsBarred g base names ↔ IsBarred f base names) (extensions : List String)
    (ignores : List Glob) :
    (scan g base extensions ignores).skipped = (scan f base extensions ignores).skipped := by
  cases hbase : f.isThere base with
  | false => rw [scan_of_not_isThere hbase, scan_of_not_isThere (hthere.trans hbase)]
  | true =>
    obtain ⟨barred, hordered, hmem, hskipped⟩ := scan_skipped hf hbase extensions ignores
    obtain ⟨barred', hordered', hmem', hskipped'⟩ :=
      scan_skipped hg (hthere.trans hbase) extensions ignores
    have hsame : barred' = barred := hordered'.eq_of_mem_iff hordered fun names => by
      rw [hmem', hmem, h]
    rw [hskipped, hskipped', hsame]

/-- Trees that are barred at the same places, for the same reasons, are barred alike. -/
theorem sameBars_of_isBarred_iff (hf : f.root.Proper) (hg : g.root.Proper)
    (hbase : f.isThere base = true) (hbase' : g.isThere base = true)
    (h : ∀ names, IsBarred g base names ↔ IsBarred f base names)
    (hlist : ∀ names fault, IsBarred f base names → f.list (joinNames base names) = .error fault →
      g.list (joinNames base names) = .error fault) : SameBars f g base := by
  obtain ⟨barred, hordered, hmem, hpaths, hfaults⟩ := walk_faults hf hbase
  obtain ⟨barred', hordered', hmem', hpaths', hfaults'⟩ := walk_faults hg hbase'
  have hsame : barred' = barred := hordered'.eq_of_mem_iff hordered fun names => by
    rw [hmem', hmem, h]
  rw [hsame, ← hpaths] at hpaths'
  have hfault : ∀ x ∈ (walk f base).filterMap Visit.fault?, g.list x.1 = .error x.2 := by
    intro x hx
    have hpath := List.mem_map_of_mem (f := (·.1)) hx
    rw [hpaths, List.mem_map] at hpath
    obtain ⟨names, hnames, hpath⟩ := hpath
    have hlistf := hfaults x hx
    rw [← hpath] at hlistf ⊢
    exact hlist names x.2 ((hmem names).1 hnames) hlistf
  -- what bars a path is the reason why it cannot be listed
  have hpair {l : List (Path × Fault)} (hl : ∀ x ∈ l, g.list x.1 = .error x.2) :
      l.map (fun x => (x.1, (Except.error x.2 : Except Fault (List String)))) =
        (l.map (·.1)).map fun path => (path, g.list path) := by
    rw [List.map_map]
    exact List.map_congr_left fun x hx => by simp [hl x hx]
  refine List.map_injective_iff.2 (fun x y hxy => ?_)
    ((hpair hfaults').trans ((congrArg _ hpaths').trans (hpair hfault).symm))
  simpa [Prod.ext_iff] using hxy

end SameBars

end FirmwareKit.Sources
