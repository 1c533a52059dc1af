import Mathlib.Data.List.Sort
import FirmwareKit.Proofs.Files.Directories
import FirmwareKit.Table.Load

/-! The tables of a directory. They are what its wanted files hold, and in a proper tree
they come in the strict order of their names, which are those of their files. If a wanted
file holds no table, or is not called by a text, loading them fails for the first one in that
order. -/

namespace FirmwareKit

/-! ### The name of a file in a directory -/

namespace Path

theorem join_text (dir : Path) {name : String} (h : name.toList.head? ≠ some '/') :
    ∃ before, (before = [] ∨ before.getLast? = some '/') ∧
      (dir.join name).text.toList = before ++ name.toList := by
  unfold join
  rw [decide_eq_false h, Bool.false_or]
  split_ifs with hempty hslash
  · exact ⟨[], .inl rfl, rfl⟩
  · exact ⟨dir.text.toList, .inr hslash, String.toList_append⟩
  · refine ⟨dir.text.toList ++ ['/'], .inr (by simp), ?_⟩
    rw [String.toList_append, String.toList_append]
    rfl

/-- A name without slashes that is no dot ends a path as it is. -/
theorem trimEnd_append {r : List Char} (hne : r ≠ []) (hdot : r ≠ ['.']) (hslash : '/' ∉ r)
    (rest : List Char) : trimEnd (r ++ rest) = r ++ rest := by
  obtain ⟨c, r, rfl⟩ := List.exists_cons_of_ne_nil hne
  obtain ⟨hc, hr⟩ := not_or.1 (List.mem_cons.not.1 hslash)
  rw [List.cons_append, trimEnd.eq_3]
  · rintro _ heq
    exact hc (List.cons.inj heq).1.symm
  · rintro _ heq
    obtain ⟨rfl, hrest⟩ := List.cons.inj heq
    cases r with
    | nil => exact hdot rfl
    | cons d r => exact hr (List.mem_cons.2 (.inl (List.cons.inj hrest).1.symm))

/-- A name behind the last slash of a path is its last component. -/
theorem fileName?_of_append {p : Path} {before : List Char} {name : String} (h : Node.IsName name)
    (hbefore : before = [] ∨ before.getLast? = some '/')
    (htext : p.text.toList = before ++ name.toList) : p.fileName? = some name := by
  obtain ⟨hne, hdot, hdots, hslash⟩ := h
  have hne' : name.toList ≠ [] := fun h => hne (String.toList_inj.1 h)
  have hdot' : name.toList ≠ ['.'] := fun h => hdot (String.toList_inj.1 h)
  have hdots' : name.toList ≠ ['.', '.'] := fun h => hdots (String.toList_inj.1 h)
  have hreverse : p.text.toList.reverse = name.toList.reverse ++ before.reverse := by
    rw [htext, List.reverse_append]
  have htrim := trimEnd_append (r := name.toList.reverse) (by simpa using hne')
    (fun h => hdot' (List.reverse_eq_iff.1 h)) (by simpa using hslash) before.reverse
  have htake : (name.toList.reverse ++ before.reverse).takeWhile (· != '/') =
      name.toList.reverse := by
    rw [List.takeWhile_append_of_pos fun c hc => ?_]
    · rcases hbefore with rfl | hbefore
      · simp
      · rw [← List.head?_reverse] at hbefore
        obtain ⟨rest, heq⟩ := List.head?_eq_some_iff.1 hbefore
        rw [heq]
        simp
    · rw [bne_iff_ne]
      rintro rfl
      exact hslash (List.mem_reverse.1 hc)
  unfold fileName?
  rw [hreverse, htrim, htake, List.reverse_reverse, if_neg]
  · rw [String.ofList_toList]
  · simp [hne', hdot', hdots']

/-- A path into a directory has the name of its file for its last component. -/
theorem fileName?_join (dir : Path) {name : String} (h : Node.IsName name) :
    (dir.join name).fileName? = some name := by
  have hhead : name.toList.head? ≠ some '/' := fun hc => h.2.2.2 (List.mem_of_head? hc)
  obtain ⟨before, hbefore, htext⟩ := join_text dir hhead
  exact fileName?_of_append h hbefore htext

theorem fileName?_of_isName {name : String} (h : Node.IsName name) :
    (Path.mk name).fileName? = some name := by
  have hjoin := fileName?_join ⟨""⟩ h
  rwa [join, if_pos (by simp)] at hjoin

/-- A path into a directory has the extension of the name of its file. -/
theorem extension?_join (dir : Path) {name : String} (h : Node.IsName name) :
    (dir.join name).extension? = (Path.mk name).extension? := by
  rw [extension?, extension?, fileName?_join dir h, fileName?_of_isName h]

end Path

namespace Table

open Files

variable {files : Files} {dir : Path} {extension : String} {tables : List Table}

/-- The directory has the table in a file with the wanted extension. -/
def IsListed (files : Files) (dir : Path) (extension : String) (t : Table) : Prop :=
  ∃ names, files.list dir = .ok names ∧ ∃ name ∈ names,
    isTable files extension (dir.join name) ∧ read files (dir.join name) = .ok t

theorem readAll_of_ok {paths : List Path} (h : readAll files paths = .ok tables) :
    paths.map (read files) = tables.map .ok := by
  induction paths generalizing tables with
  | nil =>
    cases h
    rfl
  | cons path paths ih =>
    rw [readAll] at h
    split at h
    · cases h
    · next table hread =>
      obtain ⟨more, hmore, rfl⟩ := exists_of_map_eq_ok h
      rw [List.map_cons, List.map_cons, hread, ih hmore]

theorem nameOf?_eq_some_iff {path : Path} {name : String} :
    nameOf? files path = some name ↔
      files.isNamed path = true ∧ path.fileName? = some name := by
  rw [nameOf?]
  cases files.isNamed path <;> simp

theorem nameOf?_of_read {path : Path} {t : Table} (h : read files path = .ok t) :
    nameOf? files path = some t.name := by
  unfold read at h
  split at h
  · cases h
  · split at h
    · cases h
    · split at h
      · cases h
      · next hname =>
        cases h
        exact hname

/-- A table in a directory has the name of its file. -/
theorem name_of_read_join {name : String} {t : Table} (hname : Node.IsName name)
    (h : read files (dir.join name) = .ok t) : t.name = name := by
  have hfile := (nameOf?_eq_some_iff.1 (nameOf?_of_read h)).2
  rw [Path.fileName?_join dir hname, Option.some.injEq] at hfile
  exact hfile.symm

theorem path_of_read {path : Path} {t : Table} (h : read files path = .ok t) : t.path = path := by
  unfold read at h
  split at h
  · cases h
  · split at h
    · cases h
    · split at h
      · cases h
      · cases h
        rfl

/-- The files that the tables of a directory are read from. -/
theorem exists_names_of_readDir (h : readDir files dir extension = .ok tables) :
    ∃ names, files.list dir = .ok names ∧
      (((names.mergeSort (· ≤ ·)).map dir.join).filter (isTable files extension)).map (read files) =
        tables.map .ok := by
  unfold readDir at h
  split at h
  · split at h
    · cases h
    · next names hnames => exact ⟨names, hnames, readAll_of_ok h⟩
  · cases h

theorem mem_readDir (h : readDir files dir extension = .ok tables) (t : Table) :
    t ∈ tables ↔ IsListed files dir extension t := by
  obtain ⟨names, hlist, hread⟩ := exists_names_of_readDir h
  have hmem : t ∈ tables ↔ (.ok t : Except Failure Table) ∈ tables.map .ok := by simp
  rw [hmem, ← hread, List.mem_map, IsListed]
  constructor
  · rintro ⟨path, hpath, hok⟩
    obtain ⟨hin, htable⟩ := List.mem_filter.1 hpath
    obtain ⟨name, hname, rfl⟩ := List.mem_map.1 hin
    exact ⟨names, hlist, name, List.mem_mergeSort.1 hname, htable, hok⟩
  · rintro ⟨names', hlist', name, hname, htable, hok⟩
    rw [hlist] at hlist'
    cases hlist'
    exact ⟨_, List.mem_filter.2 ⟨List.mem_map_of_mem (List.mem_mergeSort.2 hname), htable⟩, hok⟩

/-- A directory of a proper tree lists possible and different names. -/
theorem names_of_list {names : List String} (hroot : files.root.Proper)
    (h : files.list dir = .ok names) : names.Nodup ∧ ∀ name ∈ names, Node.IsName name := by
  unfold Files.list at h
  split at h
  · cases h
  · next entries hfind =>
    cases h
    cases Files.proper_of_find hroot hfind with
    | dir _ nodup isName _ =>
      refine ⟨nodup, fun name hname => ?_⟩
      obtain ⟨e, he, rfl⟩ := List.mem_map.1 hname
      exact isName e he
  · cases h
  · cases h

theorem readDir_pairwise (hroot : files.root.Proper)
    (h : readDir files dir extension = .ok tables) :
    tables.Pairwise fun s t => s.name < t.name := by
  obtain ⟨names, hlist, hread⟩ := exists_names_of_readDir h
  obtain ⟨hnodup, hnames⟩ := names_of_list hroot hlist
  have hsorted := Node.mergeSort_names_pairwise hnodup
  have hread' : (tables.map .ok).Pairwise fun a b : Except Failure Table =>
      ∀ s t, a = .ok s → b = .ok t → s.name < t.name := by
    rw [← hread, List.pairwise_map]
    refine List.Pairwise.filter _ (List.pairwise_map.2 ?_)
    refine hsorted.imp_of_mem fun {m n} hm hn hlt s t hs ht => ?_
    rwa [name_of_read_join (hnames m (List.mem_mergeSort.1 hm)) hs,
      name_of_read_join (hnames n (List.mem_mergeSort.1 hn)) ht]
  exact (List.pairwise_map.1 hread').imp fun hlt => hlt _ _ rfl rfl

/-! ### Files that hold no table -/

/-- A file in the directory is taken for a table by its name. -/
def IsWanted (files : Files) (dir : Path) (extension name : String) : Prop :=
  (∃ names, files.list dir = .ok names ∧ name ∈ names) ∧
    isTable files extension (dir.join name) = true

/-- A file that is taken for a table cannot be read, its text is not one JSON object, or it is not
called by a text. -/
inductive Fault (files : Files) (dir : Path) (extension name : String) : Failure → Prop
  | unreadable {fault : Files.Fault} (wanted : IsWanted files dir extension name)
      (unread : files.readText (dir.join name) = .error fault) :
    Fault files dir extension name (.tableUnreadable (dir.join name) fault)
  | malformed {text : String} {error : Json.Error} (wanted : IsWanted files dir extension name)
      (readable : files.readText (dir.join name) = .ok text)
      (unparsed : Json.parse Json.Reader.names text = .error error) :
    Fault files dir extension name (.tableMalformed (dir.join name) error)
  | unnamed {text : String} {keys : List String} (wanted : IsWanted files dir extension name)
      (readable : files.readText (dir.join name) = .ok text)
      (parsed : Json.parse Json.Reader.names text = .ok keys)
      (noText : files.isNamed (dir.join name) = false) :
    Fault files dir extension name (.tableUnnamed (dir.join name))

/-- The first fault in the order of the names of the files. -/
structure FirstFault (files : Files) (dir : Path) (extension name : String) (e : Failure) :
    Prop where
  fault : Fault files dir extension name e
  first : ∀ other e', Fault files dir extension other e' → name ≤ other

theorem Fault.wanted {name : String} {e : Failure} (h : Fault files dir extension name e) :
    IsWanted files dir extension name := by
  cases h with
  | unreadable wanted | malformed wanted | unnamed wanted => exact wanted

theorem FirstFault.listed {name : String} {e : Failure}
    (h : FirstFault files dir extension name e) : ∃ names, files.list dir = .ok names := by
  obtain ⟨⟨names, hlist, -⟩, -⟩ := h.fault.wanted
  exact ⟨names, hlist⟩

theorem Fault.read_eq {name : String} {e : Failure} (h : Fault files dir extension name e) :
    read files (dir.join name) = .error e := by
  cases h with
  | unreadable _ unread => simp only [read, unread]
  | malformed _ readable unparsed => simp only [read, readable, unparsed]
  | unnamed _ readable parsed noText => simp [read, readable, parsed, nameOf?, noText]

/-- A file in a directory has a name, so its content can be at fault, or that the name is no
text. -/
theorem fault_of_read {name : String} {e : Failure} (hname : Node.IsName name)
    (hwanted : IsWanted files dir extension name)
    (h : read files (dir.join name) = .error e) : Fault files dir extension name e := by
  unfold read at h
  split at h
  · next unread =>
    cases h
    exact .unreadable hwanted unread
  · next readable =>
    split at h
    · next unparsed =>
      cases h
      exact .malformed hwanted readable unparsed
    · next parsed =>
      cases hnamed : files.isNamed (dir.join name) with
      | true =>
        rw [nameOf?, if_pos hnamed, Path.fileName?_join dir hname] at h
        cases h
      | false =>
        rw [nameOf?, hnamed] at h
        cases h
        exact .unnamed hwanted readable parsed hnamed

theorem readAll_of_error {paths : List Path} {e : Failure} (h : readAll files paths = .error e) :
    ∃ before path after, paths = before ++ path :: after ∧ read files path = .error e ∧
      ∀ q ∈ before, ∃ t, read files q = .ok t := by
  induction paths with
  | nil => cases h
  | cons path paths ih =>
    rw [readAll] at h
    split at h
    · next hread =>
      cases h
      exact ⟨[], path, paths, rfl, hread, by simp⟩
    · next table hread =>
      obtain ⟨before, q, after, rfl, hq, hbefore⟩ := ih (eq_error_of_map h)
      exact ⟨path :: before, q, after, rfl, hq, List.forall_mem_cons.2 ⟨⟨table, hread⟩, hbefore⟩⟩

theorem listed_of_readDir (h : readDir files dir extension = .ok tables) :
    ∃ names, files.list dir = .ok names := by
  obtain ⟨names, hlist, -⟩ := exists_names_of_readDir h
  exact ⟨names, hlist⟩

theorem not_fault_of_readDir (h : readDir files dir extension = .ok tables) (name : String)
    (e : Failure) : ¬ Fault files dir extension name e := by
  intro hfault
  obtain ⟨names, hlist, hread⟩ := exists_names_of_readDir h
  obtain ⟨⟨names', hlist', hname⟩, htable⟩ := hfault.wanted
  rw [hlist] at hlist'
  cases hlist'
  have hmem : (.error e : Except Failure Table) ∈ tables.map .ok := by
    rw [← hread, List.mem_map]
    exact ⟨_, List.mem_filter.2 ⟨List.mem_map_of_mem (List.mem_mergeSort.2 hname), htable⟩,
      hfault.read_eq⟩
  simp at hmem

theorem readDir_of_unlistable {fault : Files.Fault} (hdir : files.isDir dir = true)
    (hlist : files.list dir = .error fault) :
    readDir files dir extension = .error (.directoryUnlistable dir fault) := by
  rw [readDir, if_pos hdir, hlist]

/-- Where the directory can be listed, loading its tables fails for the first file at fault. -/
theorem firstFault_of_readDir {e : Failure} (hroot : files.root.Proper)
    (hlisted : ∃ names, files.list dir = .ok names)
    (h : readDir files dir extension = .error e) :
    ∃ name, FirstFault files dir extension name e := by
  obtain ⟨names, hlisted⟩ := hlisted
  rw [readDir, if_pos (isDir_of_list hlisted)] at h
  split at h
  · next hlist =>
    rw [hlist] at hlisted
    cases hlisted
  · next names hlist =>
    obtain ⟨hnodup, hnames⟩ := names_of_list hroot hlist
    have hsorted := Node.mergeSort_names_pairwise hnodup
    obtain ⟨before, path, after, heq, hread, hbefore⟩ := readAll_of_error h
    rw [List.filter_map] at heq
    obtain ⟨earlier, rest, hsplit, rfl, hrest⟩ := List.map_eq_append_iff.1 heq
    obtain ⟨name, later, rfl, rfl, -⟩ := List.map_eq_cons_iff.1 hrest
    have hmem {other : String} : other ∈ earlier ++ name :: later ↔
        other ∈ names ∧ isTable files extension (dir.join other) = true := by
      rw [← hsplit, List.mem_filter, List.mem_mergeSort, Function.comp_apply]
    obtain ⟨hname, htable⟩ := hmem.1 (List.mem_append_right _ List.mem_cons_self)
    refine ⟨name, fault_of_read (hnames name hname) ⟨⟨names, hlist, hname⟩, htable⟩ hread, ?_⟩
    intro other e' hfault
    obtain ⟨⟨names', hlist', hother⟩, htable'⟩ := hfault.wanted
    rw [hlist] at hlist'
    cases hlist'
    rcases List.mem_append.1 (hmem.2 ⟨hother, htable'⟩) with hin | hin
    · obtain ⟨t, ht⟩ := hbefore _ (List.mem_map_of_mem hin)
      rw [hfault.read_eq] at ht
      cases ht
    · have hordered := hsorted.filter (isTable files extension ∘ dir.join)
      rw [hsplit, List.pairwise_append, List.pairwise_cons] at hordered
      rcases List.mem_cons.1 hin with rfl | hin
      · exact le_rfl
      · exact le_of_lt (hordered.2.1.1 other hin)

/-! ### Directories with the same tables -/

section Same

variable {f g : Files}

/-- The file at a path has the same text and the same name in both trees. -/
def ReadsAlike (f g : Files) (path : Path) : Prop :=
  g.readText path = f.readText path ∧ g.isNamed path = f.isNamed path

theorem readAll_congr {paths : List Path} (h : ∀ path ∈ paths, ReadsAlike f g path) :
    readAll g paths = readAll f paths := by
  induction paths with
  | nil => rfl
  | cons path paths ih =>
    obtain ⟨hpath, hmore⟩ := List.forall_mem_cons.1 h
    have hread : read g path = read f path := by
      rw [read, read, nameOf?, nameOf?, hpath.1, hpath.2]
    rw [readAll, readAll, hread, ih hmore]

/-- Directories that have the same wanted files, with the same texts and names, have the same
tables, if both can be listed or none. -/
theorem readDir_congr (hf : f.root.Proper) (hg : g.root.Proper) (hdir : g.isDir dir = f.isDir dir)
    (hlists : (∃ names, g.list dir = .ok names) ↔ ∃ names, f.list dir = .ok names)
    (hwanted : ∀ name, IsWanted g dir extension name ↔ IsWanted f dir extension name)
    (hsame : ∀ name, IsWanted f dir extension name → ReadsAlike f g (dir.join name)) :
    readDir g dir extension = readDir f dir extension := by
  cases hthere : f.isDir dir with
  | false =>
    rw [readDir, readDir, hdir, hthere, if_neg Bool.false_ne_true, if_neg Bool.false_ne_true]
  | true =>
    cases hlist : f.list dir with
    | error fault =>
      obtain ⟨fault', hlist'⟩ : ∃ fault', g.list dir = .error fault' := by
        cases hlist' : g.list dir with
        | error fault' => exact ⟨fault', rfl⟩
        | ok names =>
          obtain ⟨names', hok⟩ := hlists.1 ⟨names, hlist'⟩
          rw [hlist] at hok
          cases hok
      rw [readDir_of_unlistable hthere hlist, readDir_of_unlistable (hdir.trans hthere) hlist',
        list_error_of_isDir hthere hlist, list_error_of_isDir (hdir.trans hthere) hlist']
    | ok names =>
    obtain ⟨names', hlist'⟩ := hlists.2 ⟨names, hlist⟩
    rw [readDir, readDir, hdir, hthere, if_pos rfl, if_pos rfl]
    have hmem {files : Files} {names : List String} (hlist : files.list dir = .ok names)
        (name : String) :
        name ∈ (names.mergeSort (· ≤ ·)).filter (isTable files extension ∘ dir.join) ↔
          IsWanted files dir extension name := by
      rw [List.mem_filter, List.mem_mergeSort, IsWanted, hlist]
      simp
    have hsorted {files : Files} {names : List String} (hroot : files.root.Proper)
        (hlist : files.list dir = .ok names) :
        ((names.mergeSort (· ≤ ·)).filter (isTable files extension ∘ dir.join)).Pairwise (· < ·) :=
      (Node.mergeSort_names_pairwise (names_of_list hroot hlist).1).filter _
    have hnames : (names'.mergeSort (· ≤ ·)).filter (isTable g extension ∘ dir.join) =
        (names.mergeSort (· ≤ ·)).filter (isTable f extension ∘ dir.join) :=
      (hsorted hg hlist').eq_of_mem_iff (hsorted hf hlist) fun name => by
        rw [hmem hlist', hmem hlist, hwanted]
    simp only [hlist, hlist', List.filter_map, hnames]
    refine readAll_congr fun path hpath => ?_
    obtain ⟨name, hname, rfl⟩ := List.mem_map.1 hpath
    exact hsame name ((hmem hlist name).1 hname)

end Same

end Table

end FirmwareKit
