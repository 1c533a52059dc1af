import FirmwareKit.Proofs.Files.Descent
import FirmwareKit.Proofs.Files.Rewritten

/-! Trees without links that have the same directories. There every path leads to the same
place, whatever files there are, and a path that ends in a name leads to an entry of that name.
A new file leaves a tree proper and free of links. -/

namespace FirmwareKit

namespace Node

/-- What stands in a proper tree has a possible name. -/
theorem Proper.isName {root n : Node} {names : List String} {name : String} (h : root.Proper)
    (hat : root.at? (names ++ [name]) = some n) : IsName name := by
  rw [at?_concat] at hat
  obtain ⟨m, hm, hchild⟩ := Option.bind_eq_some_iff.1 hat
  cases h.at? hm with
  | file | link | locked | unnamed => cases hchild
  | dir entries _ isName _ => exact isName _ (mem_of_lookup hchild)

/-! ### A tree with a new file -/

section Insert

variable {entries : List (String × Node)} {name : String}

theorem map_fst_alterEntry (name : String) (f : Option Node → Node)
    (entries : List (String × Node)) :
    (alterEntry name (fun old => some (f old)) entries).map (·.1) =
      if name ∈ entries.map (·.1) then entries.map (·.1) else entries.map (·.1) ++ [name] := by
  induction entries with
  | nil => rfl
  | cons e entries ih =>
    obtain ⟨first, node⟩ := e
    by_cases hfirst : first = name
    · simp [alterEntry, hfirst]
    · rw [alterEntry, if_neg hfirst, List.map_cons, ih]
      simp only [List.map_cons, List.mem_cons, Ne.symm hfirst, false_or]
      split <;> rfl

theorem nodup_alterEntry (f : Option Node → Node) (h : (entries.map (·.1)).Nodup) :
    ((alterEntry name (fun old => some (f old)) entries).map (·.1)).Nodup := by
  rw [map_fst_alterEntry]
  split
  · exact h
  · next hnew => exact List.nodup_append.2 ⟨h, by simp, by grind⟩

theorem mem_alterEntry {f : Option Node → Node} {e : String × Node}
    (h : e ∈ alterEntry name (fun old => some (f old)) entries) :
    e ∈ entries ∨ e = (name, f (lookup name entries)) := by
  induction entries with
  | nil => exact .inr (List.mem_singleton.1 h)
  | cons first entries ih =>
    obtain ⟨other, node⟩ := first
    by_cases hother : other = name
    · rw [alterEntry, if_pos hother] at h
      rw [lookup, if_pos hother, ← hother]
      rcases List.mem_cons.1 h with heq | hmem
      · exact .inr heq
      · exact .inl (List.mem_cons_of_mem _ hmem)
    · rw [alterEntry, if_neg hother] at h
      rw [lookup, if_neg hother]
      rcases List.mem_cons.1 h with heq | hmem
      · exact .inl (List.mem_cons.2 (.inl heq))
      · exact (ih hmem).imp_left (List.mem_cons_of_mem _)

theorem proper_alterEntry {f : Option Node → Node} (h : (dir entries).Proper) (hname : IsName name)
    (hf : (f (lookup name entries)).Proper) :
    (dir (alterEntry name (fun old => some (f old)) entries)).Proper := by
  cases h with | dir _ nodup names below
  refine .dir _ (nodup_alterEntry f nodup) (fun e he => ?_) (fun e he => ?_)
  · rcases mem_alterEntry he with hold | rfl
    · exact names e hold
    · exact hname
  · rcases mem_alterEntry he with hold | rfl
    · exact below e hold
    · exact hf

theorem linkFree_alterEntry {f : Option Node → Node} (h : (dir entries).LinkFree)
    (hf : (f (lookup name entries)).LinkFree) :
    (dir (alterEntry name (fun old => some (f old)) entries)).LinkFree := by
  cases h with | dir _ below
  refine .dir _ fun e he => ?_
  rcases mem_alterEntry he with hold | rfl
  · exact below e hold
  · exact hf

end Insert

/-- A node is put into a directory below a tree by putting it below one of its entries. -/
theorem exists_of_dirAt {root : Node} {first : String} {names : List String}
    (h : root.DirAt (first :: names)) :
    ∃ entries child, root = dir entries ∧ lookup first entries = some child ∧
      child.DirAt names := by
  obtain ⟨below, hat⟩ := h
  obtain ⟨child, hchild, hbelow⟩ := Option.bind_eq_some_iff.1 hat
  cases root with
  | file | link | locked | unnamed => cases hchild
  | dir entries => exact ⟨entries, child, rfl, hchild, below, hbelow⟩

theorem Proper.insert {root new : Node} {names : List String} {name : String} (h : root.Proper)
    (hdir : root.DirAt names) (hname : IsName name) (hnew : new.Proper) :
    (root.insert (names ++ [name]) new).Proper := by
  induction names generalizing root with
  | nil =>
    obtain ⟨entries, hat⟩ := hdir
    cases hat
    exact proper_alterEntry h hname hnew
  | cons first names ih =>
    obtain ⟨_, child, rfl, hchild, hdir⟩ := exists_of_dirAt hdir
    have hmem := mem_of_lookup hchild
    have hentries := h
    cases hentries with | dir _ _ isName below
    refine proper_alterEntry h (isName _ hmem) ?_
    rw [entries, hchild]
    exact ih (below _ hmem) hdir

theorem LinkFree.insert {root new : Node} {names : List String} {name : String}
    (h : root.LinkFree) (hdir : root.DirAt names) (hnew : new.LinkFree) :
    (root.insert (names ++ [name]) new).LinkFree := by
  induction names generalizing root with
  | nil =>
    obtain ⟨entries, hat⟩ := hdir
    cases hat
    exact linkFree_alterEntry h hnew
  | cons first names ih =>
    obtain ⟨_, child, rfl, hchild, hdir⟩ := exists_of_dirAt hdir
    have hentries := h
    cases hentries with | dir _ below
    refine linkFree_alterEntry h ?_
    rw [entries, hchild]
    exact ih (below _ (mem_of_lookup hchild)) hdir

end Node

namespace Files

open Node

/-! ### Paths that end in a name -/

theorem exists_front_of_resolve {root : Node} {links : Nat} {here pieces place : List String}
    {name : String} {n : Option Node} (hroot : root.LinkFree) (hname : IsName name)
    (h : resolve root .target links here (pieces ++ [name]) = .ok (place, n)) :
    ∃ front, place = front ++ [name] := by
  induction pieces generalizing here with
  | nil =>
    rw [List.nil_append] at h
    by_cases hlen : maxName < name.utf8ByteSize
    · rw [resolve_of_long hname.1 hname.2.1 hname.2.2.1 hlen] at h
      cases h
    · rw [resolve_last hroot hname (Nat.not_lt.1 hlen)] at h
      cases h
      exact ⟨here, rfl⟩
  | cons piece pieces ih =>
    rw [List.cons_append] at h
    by_cases hcounts : counts piece = true
    · obtain ⟨hempty, hdot⟩ : piece ≠ "" ∧ piece ≠ "." := by simpa [counts] using hcounts
      by_cases hdots : piece = ".."
      · subst hdots
        rw [resolve] at h
        exact ih h
      by_cases hlen : maxName < piece.utf8ByteSize
      · rw [resolve_of_long hempty hdot hdots hlen] at h
        cases h
      rw [resolve_name hempty hdot hdots hlen] at h
      split at h
      · simp at h
      · exact ih h
      · simp at h
      · simp at h
      · simp [hname.1] at h
      · next target hat => exact absurd hat (hroot.ne_link _ _)
    · rw [resolve_of_not_counts hcounts] at h
      exact ih h

/-- Without links, a joined name is that of the entry which the path leads to. -/
theorem exists_front_of_join {files : Files} {dir : Path} {name : String} {place : List String}
    (hroot : files.root.LinkFree) (hname : IsName name)
    (h : files.place? (dir.join name) = some place) : ∃ front, place = front ++ [name] := by
  obtain ⟨pieces, hpieces⟩ : ∃ pieces, piecesOf (dir.join name).text = pieces ++ [name] := by
    by_cases hdir : dir.text = ""
    · refine ⟨[], ?_⟩
      rw [Path.join, if_pos (by simp [hdir]), piecesOf, Path.pieces_of_not_mem hname.2.2.2]
      simp
    · obtain ⟨pieces, hpieces, -⟩ := exists_piecesOf_join hdir hname.isComponent
      exact ⟨pieces, hpieces⟩
  obtain ⟨n, hlocate⟩ := place?_eq_some_iff.1 h
  rw [locate_eq_resolve hlocate, hpieces] at hlocate
  exact exists_front_of_resolve hroot hname hlocate

/-! ### Files and directories by place -/

variable {f g : Files} {p : Path}

/-- A directory at a place may be locked. -/
theorem any_isDir_iff {root : Node} {names : List String} :
    (root.at? names).any Node.isDir = true ↔
      root.DirAt names ∨ root.at? names = some .locked := by
  unfold DirAt
  cases root.at? names with
  | none => simp
  | some n => cases n <;> simp [Node.isDir]

theorem isDir_iff : f.isDir p = true ↔ ∃ place, f.place? p = some place ∧
    (f.root.DirAt place ∨ f.root.at? place = some .locked) := by
  rw [isDir_eq, node?]
  cases f.place? p with
  | none => simp
  | some place => simp [any_isDir_iff]

theorem isThere_of_isDir (h : f.isDir p = true) : f.isThere p = true := by
  unfold isDir at h
  cases hfind : f.find .target p with
  | error => simp [hfind] at h
  | ok => exact isThere_iff_find.2 ⟨_, hfind⟩

theorem exists_readBytes_of_isFile (h : f.isFile p = true) :
    ∃ bytes, f.readBytes p = .ok bytes := by
  unfold isFile at h
  unfold readBytes
  cases hfind : f.find .target p with
  | error e => simp [hfind] at h
  | ok n =>
    rw [hfind] at h
    cases n with
    | file bytes | unnamed bytes => exact ⟨bytes, rfl⟩
    | link | dir | locked => cases h

/-- What is there without links is a file or a directory. -/
theorem isFile_or_isDir (hroot : f.root.LinkFree) (h : f.isThere p = true) :
    f.isFile p = true ∨ f.isDir p = true := by
  obtain ⟨place, n, hplace, hat⟩ := isThere_iff.1 h
  rw [isFile_eq, isDir_eq, node?, hplace, Option.bind_some, hat]
  cases n with
  | file | unnamed => exact .inl rfl
  | dir | locked => exact .inr rfl
  | link target => exact absurd hat (hroot.ne_link _ _)

/-- A file is what its path leads to. -/
theorem exists_node?_of_isFile (h : f.isFile p = true) :
    ∃ n, f.node? p = some n ∧ n.isFile = true := by
  rw [isFile_eq, Option.any_eq_true] at h
  obtain ⟨n, hnode, hn⟩ := h
  exact ⟨n, hnode, hn⟩

/-- What is there is read alike if it is the same. -/
theorem readText_of_node? {n : Node} (hf : f.node? p = some n) (hg : g.node? p = some n) :
    g.readText p = f.readText p := by
  rw [← toOption_find] at hf hg
  rw [readText, readText, readBytes, readBytes, eq_ok_of_toOption hf, eq_ok_of_toOption hg]

theorem readText_congr (h : g.readBytes p = f.readBytes p) : g.readText p = f.readText p := by
  rw [readText, readText, h]

namespace FileChanged

variable {place : List String}

theorem symm (h : FileChanged place f g) : FileChanged place g f where
  cwd_eq := h.cwd_eq.symm
  elsewhere names hne := (h.elsewhere names hne).symm
  before := h.after
  after := h.before

theorem isSome_at? (h : FileChanged place f g) {names : List String} (hne : names ≠ place) :
    (g.root.at? names).isSome = (f.root.at? names).isSome := by
  simpa using congrArg Option.isSome (h.elsewhere names hne)

/-- The other files stay as they are. -/
theorem node?_of_ne (h : FileChanged place f g) (hp : f.place? p ≠ some place) {n : Node}
    (hnode : f.node? p = some n) (hn : n.isFile = true) : g.node? p = some n := by
  obtain ⟨names, hplace, hat⟩ := Option.bind_eq_some_iff.1 hnode
  have hbare := h.elsewhere names fun heq => hp (by rw [hplace, heq])
  rw [hat] at hbare
  obtain ⟨m, hm, heq⟩ := Option.map_eq_some_iff.1 hbare
  rw [node?, h.samePlaces.place?_eq, hplace, Option.bind_some, hm, eq_of_bare_eq hn heq]

end FileChanged

/-! ### Trees with the same directories -/

theorem samePlaces_of_dirAt_iff (hf : f.root.LinkFree) (hg : g.root.LinkFree)
    (hcwd : g.cwd = f.cwd) (hdirs : ∀ names, g.root.DirAt names ↔ f.root.DirAt names)
    (hlocked : ∀ names, g.root.at? names = some .locked ↔ f.root.at? names = some .locked) :
    f.SamePlaces g where
  cwd_eq := hcwd
  guide?_eq names := by
    have hguide {root : Node} (hroot : root.LinkFree) :
        ∀ n, root.guide? names = some n → n = emptyDir ∨ n = .locked := by
      unfold guide?
      cases hat : root.at? names with
      | none => simp
      | some n =>
        cases n with
        | link target => exact absurd hat (hroot.ne_link _ _)
        | file | unnamed | dir | locked => simp [guide]
    -- no tree has a guide but these two, and each has them at the same places
    have hsame : ∀ n, g.root.guide? names = some n ↔ f.root.guide? names = some n := by
      intro n
      by_cases hn : n = emptyDir ∨ n = .locked
      · rcases hn with rfl | rfl
        · rw [guide?_eq_emptyDir_iff, guide?_eq_emptyDir_iff, hdirs]
        · rw [guide?_eq_locked_iff, guide?_eq_locked_iff, hlocked]
      · exact ⟨fun h => absurd (hguide hg n h) hn, fun h => absurd (hguide hf n h) hn⟩
    exact Option.ext hsame

theorem SamePlaces.dirAt_iff (h : f.SamePlaces g) (names : List String) :
    g.root.DirAt names ↔ f.root.DirAt names := by
  rw [← guide?_eq_emptyDir_iff, ← guide?_eq_emptyDir_iff, h.guide?_eq]

/-- A directory lists a name that leads to something in it. -/
theorem mem_list_iff {dir : Path} {name : String} :
    (∃ names, f.list dir = .ok names ∧ name ∈ names) ↔
      ∃ place, f.place? dir = some place ∧ f.root.DirAt place ∧
        (f.root.at? (place ++ [name])).isSome = true := by
  constructor
  · rintro ⟨names, hlist, hmem⟩
    obtain ⟨place, entries, hplace, hat, rfl⟩ := list_eq_ok.1 hlist
    refine ⟨place, hplace, ⟨entries, hat⟩, ?_⟩
    rw [at?_concat, hat]
    exact isSome_lookup_iff.2 hmem
  · rintro ⟨place, hplace, ⟨entries, hat⟩, hsome⟩
    refine ⟨_, list_eq_ok.2 ⟨place, entries, hplace, hat, rfl⟩, isSome_lookup_iff.1 ?_⟩
    rw [at?_concat, hat] at hsome
    exact hsome

theorem SamePlaces.locked_iff (h : f.SamePlaces g) (names : List String) :
    g.root.at? names = some .locked ↔ f.root.at? names = some .locked := by
  rw [← guide?_eq_locked_iff, ← guide?_eq_locked_iff, h.guide?_eq]

theorem SamePlaces.any_isDir_eq (h : f.SamePlaces g) (names : List String) :
    (g.root.at? names).any Node.isDir = (f.root.at? names).any Node.isDir := by
  rw [Bool.eq_iff_iff, any_isDir_iff, any_isDir_iff, h.dirAt_iff, h.locked_iff]

theorem exists_list_iff : (∃ inside, f.list p = .ok inside) ↔
    ∃ place, f.place? p = some place ∧ f.root.DirAt place := by
  constructor
  · rintro ⟨inside, hlist⟩
    obtain ⟨place, entries, hplace, hat, -⟩ := list_eq_ok.1 hlist
    exact ⟨place, hplace, entries, hat⟩
  · rintro ⟨place, hplace, entries, hat⟩
    exact ⟨_, list_eq_ok.2 ⟨place, entries, hplace, hat, rfl⟩⟩

theorem isDir_of_list {names : List String} (h : f.list p = .ok names) : f.isDir p = true := by
  obtain ⟨place, entries, hplace, hat, -⟩ := list_eq_ok.1 h
  exact isDir_iff.2 ⟨place, hplace, .inl ⟨entries, hat⟩⟩

/-- What keeps a directory from being listed is that it is locked. -/
theorem list_error_of_isDir {fault : Fault} (h : f.isDir p = true)
    (hlist : f.list p = .error fault) : fault = .permissionDenied := by
  unfold isDir at h
  unfold list at hlist
  cases hfind : f.find .target p with
  | error => simp [hfind] at h
  | ok n =>
    rw [hfind] at h hlist
    cases n with
    | dir => cases hlist
    | locked =>
      cases hlist
      rfl
    | file | link | unnamed => cases h

theorem SamePlaces.exists_list_iff (h : f.SamePlaces g) (p : Path) :
    (∃ inside, g.list p = .ok inside) ↔ ∃ inside, f.list p = .ok inside := by
  simp only [Files.exists_list_iff, h.place?_eq, h.dirAt_iff]

theorem SamePlaces.isDir_eq (h : f.SamePlaces g) (p : Path) : g.isDir p = f.isDir p := by
  rw [Bool.eq_iff_iff, isDir_iff, isDir_iff]
  simp only [h.place?_eq, h.dirAt_iff, h.locked_iff]

theorem find_of_place? {place : List String} {n : Node} (hplace : f.place? p = some place)
    (hat : f.root.at? place = some n) : f.find .target p = .ok n := by
  have hnode := toOption_find f p
  rw [node?, hplace, Option.bind_some, hat] at hnode
  exact eq_ok_of_toOption hnode

theorem exists_place?_of_find {n : Node} (h : f.find .target p = .ok n) :
    ∃ place, f.place? p = some place ∧ f.root.at? place = some n := by
  obtain ⟨place, hlocate⟩ := find_eq_ok.1 h
  refine ⟨place, place?_eq_some_iff.2 ⟨_, hlocate⟩, ?_⟩
  rw [locate_eq_resolve hlocate] at hlocate
  exact (resolve_at? hlocate).symm

/-- A directory is there in both trees, and locked in both or in none. -/
theorem SamePlaces.exists_find (h : f.SamePlaces g) {n : Node} (hn : n.isDir = true)
    (hfind : f.find .target p = .ok n) :
    (∃ entries entries', n = .dir entries ∧ g.find .target p = .ok (.dir entries')) ∨
      n = .locked ∧ g.find .target p = .ok .locked := by
  obtain ⟨place, hplace, hat⟩ := exists_place?_of_find hfind
  have hplace' : g.place? p = some place := by rw [h.place?_eq, hplace]
  cases n with
  | dir entries =>
    obtain ⟨entries', hat'⟩ := (h.dirAt_iff place).2 ⟨entries, hat⟩
    exact .inl ⟨entries, entries', rfl, find_of_place? hplace' hat'⟩
  | locked => exact .inr ⟨rfl, find_of_place? hplace' ((h.locked_iff place).2 hat)⟩
  | file | link | unnamed => cases hn

/-- A directory is not read, whatever is in it, and for the same reason if it is locked in both
trees. -/
theorem SamePlaces.readBytes_eq (h : f.SamePlaces g) (hdir : f.isDir p = true) :
    g.readBytes p = f.readBytes p := by
  unfold isDir at hdir
  cases hfind : f.find .target p with
  | error => simp [hfind] at hdir
  | ok n =>
    rw [hfind] at hdir
    obtain ⟨entries, entries', rfl, hfind'⟩ | ⟨rfl, hfind'⟩ := h.exists_find hdir hfind <;>
      rw [readBytes, readBytes, hfind, hfind']

/-- A directory can be listed in both trees, or in none for the same reason. -/
theorem SamePlaces.list_error (h : f.SamePlaces g) {n : Node} {fault : Fault}
    (hn : n.isDir = true) (hfind : f.find .target p = .ok n) (hlist : f.list p = .error fault) :
    g.list p = .error fault := by
  rw [list, hfind] at hlist
  obtain ⟨entries, entries', rfl, hfind'⟩ | ⟨rfl, hfind'⟩ := h.exists_find hn hfind
  · cases hlist
  · rw [list, hfind']
    exact hlist

/-- So can a directory in one that can be listed. -/
theorem SamePlaces.list_join_error (h : f.SamePlaces g) {name : String}
    {entries : List (String × Node)} {n : Node} {fault : Fault} (hname : IsName name)
    (hdir : f.find .target p = .ok (.dir entries)) (hentry : lookup name entries = some n)
    (hn : n.isDir = true) (hlist : f.list (p.join name) = .error fault) :
    g.list (p.join name) = .error fault := by
  obtain ⟨place, hplace, hat⟩ := exists_place?_of_find hdir
  obtain ⟨entries', hat'⟩ := (h.dirAt_iff place).2 ⟨entries, hat⟩
  have hdir' := find_of_place? (by rw [h.place?_eq, hplace]) hat'
  have hbelow : f.root.at? (place ++ [name]) = some n := by
    rw [at?_concat, hat]
    exact hentry
  obtain ⟨n', hentry', hsame⟩ : ∃ n', lookup name entries' = some n' ∧
      ((∃ below below', n = .dir below ∧ n' = .dir below') ∨ n = .locked ∧ n' = .locked) := by
    have hchild : g.root.at? (place ++ [name]) = lookup name entries' := by
      rw [at?_concat, hat']
      rfl
    rw [← hchild]
    cases n with
    | dir below =>
      obtain ⟨below', hbelow'⟩ := (h.dirAt_iff _).2 ⟨below, hbelow⟩
      exact ⟨_, hbelow', .inl ⟨below, below', rfl, rfl⟩⟩
    | locked => exact ⟨_, (h.locked_iff _).2 hbelow, .inr ⟨rfl, rfl⟩⟩
    | file | link | unnamed => cases hn
  have hlink : ∀ target, n ≠ .link target := by
    rintro target rfl
    cases hn
  have hlink' : ∀ target, n' ≠ .link target := by
    rintro target rfl
    rcases hsame with ⟨_, _, -, heq⟩ | ⟨-, heq⟩ <;> cases heq
  rw [list, find_join_eq hdir hentry hlink hname] at hlist
  rw [list, find_join_eq hdir' hentry' hlink' hname]
  by_cases hnul : '\x00' ∈ name.toList
  · rw [if_pos hnul] at hlist ⊢
    exact hlist
  by_cases hlong : maxPath < (p.join name).text.utf8ByteSize ∨ maxName < name.utf8ByteSize
  · rw [if_neg hnul, if_pos hlong] at hlist ⊢
    exact hlist
  rw [if_neg hnul, if_neg hlong] at hlist ⊢
  rcases hsame with ⟨_, _, rfl, rfl⟩ | ⟨rfl, rfl⟩
  · cases hlist
  · exact hlist

end Files

end FirmwareKit
