import Mathlib.Data.List.Induction
import FirmwareKit.Proofs.Files.Lexical

/-! Going down from a directory by names. Whatever links a path to a directory leads through, a
joined name leads to the entry of that name. From one directory, names lead to everything that is
reached through real directories. -/

namespace FirmwareKit.Files

open Node

/-- What follows a path to a directory is followed from the directory, with the links that are
left. An empty piece between them does not matter. -/
theorem exists_resolve_append {root : Node} {links : Nat} {here pieces more place : List String}
    {entries : List (String × Node)} (hmore : more = [] ∨ more = [""])
    (h : resolve root .target links here (pieces ++ more) = .ok (place, some (.dir entries))) :
    ∃ left, ∀ rest, resolve root .target links here (pieces ++ rest) =
      resolve root .target left place rest := by
  fun_induction resolve root .target links here pieces with
  | case1 links here =>
    have hhere : resolve root .target links here ([] ++ more) = .ok (here, root.at? here) := by
      rcases hmore with rfl | rfl
      · rw [List.append_nil, resolve]
      · rw [List.nil_append, resolve, resolve]
    rw [hhere, Except.ok.injEq, Prod.mk.injEq] at h
    exact ⟨links, fun rest => by rw [h.1, List.nil_append]⟩
  | case2 _ _ _ ih | case3 _ _ _ ih | case4 _ _ _ ih =>
    rw [List.cons_append, resolve] at h
    obtain ⟨left, hrest⟩ := ih h
    exact ⟨left, fun rest => by rw [List.cons_append, resolve, hrest]⟩
  | case5 _ _ _ _ _ _ _ hnew => simp at hnew
  | case6 _ _ _ _ hempty hdot hdots _ hlong =>
    rw [List.cons_append, resolve_of_long hempty hdot hdots hlong] at h
    cases h
  | case7 _ _ _ hempty hdot hdots hlen hat | case10 _ _ _ hempty hdot hdots hlen _ hat
  | case12 _ _ _ hempty hdot hdots hlen _ hat =>
    rw [List.cons_append, resolve_name hempty hdot hdots hlen, at?_concat, hat] at h
    dsimp only at h
    split at h <;> simp at h
  | case8 _ _ _ _ hempty hdot hdots _ hlen hat | case11 _ _ _ _ hempty hdot hdots _ hlen _ hat
  | case13 _ _ _ _ hempty hdot hdots _ hlen _ hat
  | case14 _ _ _ _ hempty hdot hdots _ hlen hat
  | case15 _ _ _ _ hempty hdot hdots _ hlen hat =>
    rw [List.cons_append, resolve_name hempty hdot hdots hlen, at?_concat, hat] at h
    dsimp only at h
    split at h <;> simp at h
  | case9 _ _ _ _ hempty hdot hdots _ hlen _ hat ih =>
    rw [List.cons_append, resolve_name hempty hdot hdots hlen, at?_concat, hat] at h
    obtain ⟨left, hrest⟩ := ih h
    refine ⟨left, fun rest => ?_⟩
    rw [List.cons_append, resolve_name hempty hdot hdots hlen, at?_concat, hat]
    exact hrest rest
  | case16 _ _ _ _ _ _ _ _ _ _ _ hentry => simp at hentry
  | case17 _ _ _ hempty hdot hdots _ hlen target hat =>
    rw [List.cons_append, resolve_name hempty hdot hdots hlen, at?_concat, hat] at h
    cases h
  | case18 _ _ _ hempty hdot hdots _ hlen target hat _ links htarget =>
    rw [List.cons_append, resolve_name hempty hdot hdots hlen, at?_concat, hat] at h
    simp [htarget] at h
  | case19 _ _ _ hempty hdot hdots _ hlen target hat _ links htarget ih =>
    rw [List.cons_append, resolve_name hempty hdot hdots hlen, at?_concat, hat] at h
    simp only [htarget, ← List.append_assoc] at h
    obtain ⟨left, hrest⟩ := ih h
    refine ⟨left, fun rest => ?_⟩
    rw [List.cons_append, resolve_name hempty hdot hdots hlen, at?_concat, hat, ← hrest]
    simp [htarget]

/-- A joined name is followed from the directory, if the system takes such a path. -/
theorem exists_locate_join {files : Files} {p : Path} {name : String}
    {entries : List (String × Node)} (hdir : files.find .target p = .ok (.dir entries))
    (hname : IsName name) :
    ∃ place left, files.root.at? place = some (.dir entries) ∧
      files.locate .target (p.join name) =
        if '\x00' ∈ name.toList then .error .nulInPath
        else if maxPath < (p.join name).text.utf8ByteSize then .error .nameTooLong
        else resolve files.root .target left place [name] := by
  obtain ⟨place, hlocate⟩ := find_eq_ok.1 hdir
  have hne := text_ne_empty_of_locate hlocate
  have hresolve := hlocate
  rw [locate_eq_resolve hlocate] at hresolve
  obtain ⟨pieces, hpieces, hp⟩ := exists_piecesOf_join hne hname.isComponent
  obtain ⟨more, hmore, hp⟩ : ∃ more, (more = [] ∨ more = [""]) ∧
      piecesOf p.text = pieces ++ more := by
    rcases hp with heq | heq
    · exact ⟨[], .inl rfl, by rw [heq, List.append_nil]⟩
    · exact ⟨[""], .inr rfl, heq⟩
  rw [hp] at hresolve
  obtain ⟨left, hrest⟩ := exists_resolve_append hmore hresolve
  refine ⟨place, left, (resolve_at? hresolve).symm, ?_⟩
  have hnul : '\x00' ∈ (p.join name).text.toList ↔ '\x00' ∈ name.toList := by
    constructor
    · intro hmem
      rcases Path.mem_of_mem_join hmem with hslash | hmem | hmem
      · cases hslash
      · exact absurd hmem (not_mem_of_locate hlocate)
      · exact hmem
    · intro hmem
      obtain ⟨front, -, hjoin⟩ := Path.exists_toList_join hne
      rw [hjoin name hname.head?_ne]
      exact List.mem_append_right _ (List.mem_cons_of_mem _ hmem)
  have hjoined : ¬ (p.join name).text.isEmpty = true := by
    simpa using Path.text_join_ne_empty hne hname.head?_ne
  rw [locate, if_neg hjoined, start_congr (Path.isAbsolute_join hne hname.head?_ne),
    start_of_locate hlocate, hpieces]
  simp only [List.contains_iff_mem, hnul, hrest]

/-- The name of an entry, joined with the path to a directory, leads to the entry, if the system
takes such a name and such a path. -/
theorem find_join_eq {files : Files} {p : Path} {name : String} {entries : List (String × Node)}
    {n : Node} (hdir : files.find .target p = .ok (.dir entries))
    (hentry : lookup name entries = some n) (hlink : ∀ target, n ≠ .link target)
    (hname : IsName name) :
    files.find .target (p.join name) =
      if '\x00' ∈ name.toList then .error .nulInPath
      else if maxPath < (p.join name).text.utf8ByteSize ∨ maxName < name.utf8ByteSize then
        .error .nameTooLong
      else .ok n := by
  obtain ⟨place, left, hplace, hlocate⟩ := exists_locate_join hdir hname
  rw [find, hlocate]
  by_cases hnul : '\x00' ∈ name.toList
  · simp only [if_pos hnul]
  by_cases hlong : maxPath < (p.join name).text.utf8ByteSize
  · simp only [if_neg hnul, if_pos hlong, if_pos (Or.inl hlong)]
  by_cases hlen : maxName < name.utf8ByteSize
  · rw [if_neg hnul, if_neg hlong, resolve_of_long hname.1 hname.2.1 hname.2.2.1 hlen, if_neg hnul,
      if_pos (Or.inr hlen)]
  have hat : files.root.at? (place ++ [name]) = some n := by
    rw [at?_concat, hplace]
    exact hentry
  have hlast : resolve files.root .target left place [name] = .ok (place ++ [name], some n) := by
    rw [resolve_name hname.1 hname.2.1 hname.2.2.1 hlen, hat]
    cases n with
    | file | unnamed | locked => rfl
    | dir entries => exact (resolve.eq_1 ..).trans (by rw [hat])
    | link target => exact absurd rfl (hlink target)
  rw [if_neg hnul, if_neg hlong, hlast, if_neg hnul, if_neg (not_or.2 ⟨hlong, hlen⟩)]

/-- Before a name that leads to something there is a directory. -/
theorem exists_dir_of_resolve {root n : Node} {links : Nat} {here pieces place : List String}
    {name : String} (hname : IsName name)
    (h : resolve root .target links here (pieces ++ [name]) = .ok (place, some n)) :
    ∃ front entries,
      resolve root .target links here pieces = .ok (front, some (.dir entries)) := by
  have hlast : ¬ [name].all (· == "") = true := by simp [hname.1]
  fun_induction resolve root .target links here pieces with
  | case1 _ here =>
    rw [List.nil_append] at h
    have hlen : ¬ maxName < name.utf8ByteSize := by
      intro hlong
      rw [resolve_of_long hname.1 hname.2.1 hname.2.2.1 hlong] at h
      cases h
    rw [resolve_name hname.1 hname.2.1 hname.2.2.1 hlen] at h
    cases hat : root.at? (here ++ [name]) with
    | none => simp [hat] at h
    | some =>
      obtain ⟨entries, hdir⟩ := dirAt_of_append hat
      exact ⟨here, entries, by rw [hdir]⟩
  | case2 _ _ _ ih | case3 _ _ _ ih | case4 _ _ _ ih =>
    rw [List.cons_append, resolve] at h
    exact ih h
  | case5 _ _ _ _ _ _ _ hnew => simp at hnew
  | case6 _ _ _ _ hempty hdot hdots _ hlong =>
    rw [List.cons_append, resolve_of_long hempty hdot hdots hlong] at h
    cases h
  | case7 _ _ _ hempty hdot hdots hlen hat | case10 _ _ _ hempty hdot hdots hlen _ hat
  | case12 _ _ _ hempty hdot hdots hlen _ hat =>
    rw [List.cons_append, resolve_name hempty hdot hdots hlen, at?_concat, hat] at h
    simp at h
  | case8 _ _ _ _ hempty hdot hdots _ hlen hat | case11 _ _ _ _ hempty hdot hdots _ hlen _ hat
  | case13 _ _ _ _ hempty hdot hdots _ hlen _ hat
  | case14 _ _ _ _ hempty hdot hdots _ hlen hat
  | case15 _ _ _ _ hempty hdot hdots _ hlen hat =>
    rw [List.cons_append, resolve_name hempty hdot hdots hlen, at?_concat, hat] at h
    simp [hname.1] at h
  | case9 _ _ _ _ hempty hdot hdots _ hlen _ hat ih =>
    rw [List.cons_append, resolve_name hempty hdot hdots hlen, at?_concat, hat] at h
    exact ih h
  | case16 _ _ _ _ _ _ _ _ _ _ _ hentry => simp at hentry
  | case17 _ _ _ hempty hdot hdots _ hlen target hat =>
    rw [List.cons_append, resolve_name hempty hdot hdots hlen, at?_concat, hat] at h
    cases h
  | case18 _ _ _ hempty hdot hdots _ hlen target hat _ links htarget =>
    rw [List.cons_append, resolve_name hempty hdot hdots hlen, at?_concat, hat] at h
    simp [htarget] at h
  | case19 _ _ _ hempty hdot hdots _ hlen target hat _ links htarget ih =>
    rw [List.cons_append, resolve_name hempty hdot hdots hlen, at?_concat, hat] at h
    simp only [htarget, ← List.append_assoc] at h
    exact ih h

/-- What a joined name leads to is in a directory. -/
theorem exists_dir_of_join {files : Files} {p : Path} {name : String} {n : Node}
    (hne : p.text ≠ "") (hname : IsName name) (h : files.find .target (p.join name) = .ok n) :
    ∃ entries, files.find .target p = .ok (.dir entries) := by
  obtain ⟨place, hlocate⟩ := find_eq_ok.1 h
  obtain ⟨pieces, hpieces, hp⟩ := exists_piecesOf_join hne hname.isComponent
  have hbefore := Path.text_prefix_join hne hname.head?_ne
  have hresolve := hlocate
  rw [locate_eq_resolve hlocate, Path.isAbsolute_join hne hname.head?_ne, hpieces] at hresolve
  obtain ⟨front, entries, hfront⟩ := exists_dir_of_resolve hname hresolve
  have hwhole : resolve files.root .target maxLinks (if p.isAbsolute then [] else files.cwd)
      (piecesOf p.text) = .ok (front, some (.dir entries)) := by
    rcases hp with heq | heq
    · rw [heq, hfront]
    · -- an empty piece behind a directory does not matter
      rw [← List.append_nil pieces] at hfront
      obtain ⟨left, hrest⟩ := exists_resolve_append (.inl rfl) hfront
      rw [hrest, resolve] at hfront
      rw [heq, hrest, resolve, resolve, hfront]
  refine ⟨entries, find_eq_ok.2 ⟨front, ?_⟩⟩
  rw [locate, if_neg, if_neg (by simpa using hne), if_neg,
    ← start_congr (Path.isAbsolute_join hne hname.head?_ne), start_of_locate hlocate,
    Path.isAbsolute_join hne hname.head?_ne]
  · exact hwhole
  · exact Nat.not_lt.2 ((Path.size_le_join p hname.head?_ne).trans (size_of_locate hlocate))
  · intro hnul
    exact not_mem_of_locate hlocate (hbefore.subset (by simpa using hnul))

/-! ### What is reached from a directory -/

/-- Names lead from a path to a node through directories, none of which is a link. The path itself
may be one. -/
inductive Reached (files : Files) (base : Path) : List String → Node → Prop
  | base {node : Node} (found : files.find .target base = .ok node) : Reached files base [] node
  | entry {names : List String} {entries : List (String × Node)} {name : String} {node : Node}
    (dir : Reached files base names (.dir entries)) (entry : (name, node) ∈ entries) :
    Reached files base (names ++ [name]) node

section Reached

variable {files : Files} {base : Path} {names : List String} {node : Node}

theorem Reached.proper (hroot : files.root.Proper) (h : Reached files base names node) :
    node.Proper ∧ ∀ name ∈ names, IsName name := by
  induction h with
  | base found => exact ⟨proper_of_find hroot found, by simp⟩
  | entry _ entry ih =>
    obtain ⟨hdir, hnames⟩ := ih
    cases hdir with | dir _ _ isName below
    exact ⟨below _ entry, List.forall_mem_append.2 ⟨hnames, by simpa using isName _ entry⟩⟩

/-- In a proper tree, what is reached is what the names lead to. -/
theorem reached_iff (hroot : files.root.Proper) :
    Reached files base names node ↔
      ∃ start, files.find .target base = .ok start ∧ start.at? names = some node := by
  constructor
  · intro h
    induction h with
    | base found => exact ⟨_, found, rfl⟩
    | entry dir entry ih =>
      obtain ⟨start, hstart, hat⟩ := ih
      obtain ⟨hdir, -⟩ := dir.proper hroot
      cases hdir with | dir _ nodup
      exact ⟨start, hstart, by rw [at?_concat, hat]; exact lookup_of_mem nodup entry⟩
  · rintro ⟨start, hstart, hat⟩
    induction names using List.reverseRecOn generalizing node with
    | nil =>
      cases hat
      exact .base hstart
    | append_singleton names name ih =>
      obtain ⟨entries, hdir⟩ := dirAt_of_append hat
      rw [at?_concat, hdir] at hat
      exact .entry (ih hdir) (mem_of_lookup hat)

end Reached

end FirmwareKit.Files
