import FirmwareKit.Command.Printed
import FirmwareKit.Proofs.Files.Place
import FirmwareKit.Proofs.Path.Above

/-! Paths in a tree without links. There a path that mentions no directory above leads to the
place that its names spell. -/

namespace FirmwareKit

namespace Node

/-- There is no symbolic link in the tree. -/
inductive LinkFree : Node → Prop
  | file (bytes : ByteArray) : LinkFree (.file bytes)
  | locked : LinkFree .locked
  | unnamed (bytes : ByteArray) : LinkFree (.unnamed bytes)
  | dir (entries : List (String × Node)) (below : ∀ e ∈ entries, LinkFree e.2) :
    LinkFree (.dir entries)

theorem LinkFree.at? {root n : Node} {names : List String} (hroot : root.LinkFree)
    (h : root.at? names = some n) : n.LinkFree := by
  induction names generalizing root with
  | nil => cases h; exact hroot
  | cons name names ih =>
    obtain ⟨child, hchild, hat⟩ := Option.bind_eq_some_iff.1 h
    cases hroot with
    | file | locked | unnamed => cases hchild
    | dir entries below => exact ih (below _ (mem_of_lookup hchild)) hat

theorem LinkFree.ne_link {root : Node} (hroot : root.LinkFree) (names : List String)
    (target : String) : root.at? names ≠ some (link target) := by
  intro h
  cases hroot.at? h

/-- What stands on the way to a directory is a directory. -/
theorem DirAt.of_append {root : Node} {names more : List String}
    (h : root.DirAt (names ++ more)) : root.DirAt names := by
  cases more with
  | nil => rwa [List.append_nil] at h
  | cons name more =>
    obtain ⟨entries, hat⟩ := h
    exact dirAt_of_append hat

/-- An entry that is not called by a text. -/
def isUnnamed : Node → Bool
  | .unnamed _ => true
  | .dir _ | .locked | .file _ | .link _ => false

theorem IsName.isComponent {name : String} (h : IsName name) : Path.IsComponent name.toList :=
  ⟨by simpa using h.1, fun hdot => h.2.1 (String.ext hdot), h.2.2.2⟩

theorem IsName.head?_ne {name : String} (h : IsName name) : name.toList.head? ≠ some '/' :=
  fun hhead => h.2.2.2 (List.mem_of_head? hhead)

end Node

namespace Files

open Node

variable {root : Node} {links : Nat} {here : List String}

/-- The text can be the name of a file on a disk. -/
def IsFileName (name : String) : Prop :=
  IsName name ∧ '\x00' ∉ name.toList ∧ name.utf8ByteSize ≤ maxName

/-! ### Following pieces -/

/-- The piece stands for something. -/
def counts (piece : String) : Bool :=
  piece != "" && piece != "."

theorem eq_of_not_counts {piece : String} (h : ¬ counts piece = true) :
    piece = "" ∨ piece = "." := by
  simpa [counts, or_iff_not_imp_left] using h

theorem resolve_of_not_counts {piece : String} {pieces : List String} (h : ¬ counts piece = true) :
    resolve root .target links here (piece :: pieces) =
      resolve root .target links here pieces := by
  rcases eq_of_not_counts h with rfl | rfl <;> rw [resolve]

theorem size_of_not_counts {piece : String} (h : ¬ counts piece = true) :
    piece.utf8ByteSize ≤ maxName := by
  rcases eq_of_not_counts h with rfl | rfl <;> decide

/-- Nothing but slashes stands for nothing. -/
theorem filter_counts_of_all_empty {pieces : List String} (h : pieces.all (· == "") = true) :
    pieces.filter counts = [] ∧ ∀ piece ∈ pieces, piece.utf8ByteSize ≤ maxName := by
  have hempty : ∀ piece ∈ pieces, piece = "" := by simpa using h
  refine ⟨List.filter_eq_nil_iff.2 fun piece hpiece => ?_, fun piece hpiece => ?_⟩
  · rw [hempty piece hpiece]
    decide
  · rw [hempty piece hpiece]
    decide

/-- No entry can have a name that is too long. -/
theorem resolve_of_long {name : String} {rest : List String} (hempty : name ≠ "")
    (hdot : name ≠ ".") (hdots : name ≠ "..") (hlong : maxName < name.utf8ByteSize) :
    resolve root .target links here (name :: rest) = .error .nameTooLong := by
  rw [resolve, if_neg (by simp), if_pos hlong]
  all_goals assumption

/-- The pieces lead from one directory to another through directories alone. -/
inductive Route (root : Node) : List String → List String → List String → Prop
  | done {here : List String} : Route root here [] here
  | skip {here pieces place : List String} {piece : String} (nothing : ¬ counts piece = true)
      (more : Route root here pieces place) : Route root here (piece :: pieces) place
  | up {here pieces place : List String} (more : Route root here.dropLast pieces place) :
    Route root here (".." :: pieces) place
  | down {here pieces place : List String} {name : String} (something : counts name = true)
      (notUp : name ≠ "..") (short : name.utf8ByteSize ≤ maxName)
      (dir : root.DirAt (here ++ [name])) (more : Route root (here ++ [name]) pieces place) :
    Route root here (name :: pieces) place

theorem Route.append {pieces rest mid place : List String} (h : Route root here pieces mid)
    (h' : Route root mid rest place) : Route root here (pieces ++ rest) place := by
  induction h with
  | done => exact h'
  | skip nothing _ ih => exact .skip nothing (ih h')
  | up _ ih => exact .up (ih h')
  | down something notUp short dir _ ih => exact .down something notUp short dir (ih h')

/-- What follows a route is followed from its end. -/
theorem Route.resolve_append {pieces place : List String} (h : Route root here pieces place)
    (rest : List String) :
    resolve root .target links here (pieces ++ rest) =
      resolve root .target links place rest := by
  induction h with
  | done => rfl
  | skip nothing _ ih => rw [List.cons_append, resolve_of_not_counts nothing, ih]
  | up _ ih => rw [List.cons_append, resolve, ih]
  | down something notUp short dir _ ih =>
    obtain ⟨hempty, hdot⟩ : _ ≠ "" ∧ _ ≠ "." := by simpa [counts] using something
    obtain ⟨entries, hat⟩ := dir
    rw [List.cons_append, resolve_name hempty hdot notUp (Nat.not_lt.2 short), hat]
    exact ih

/-- The pieces that stand for nothing do not matter. -/
theorem route_filter_iff {pieces place : List String} :
    Route root here (pieces.filter counts) place ↔ Route root here pieces place := by
  induction pieces generalizing here with
  | nil => rfl
  | cons piece pieces ih =>
    by_cases hcounts : counts piece = true
    · rw [List.filter_cons_of_pos hcounts]
      constructor
      · rintro (_ | ⟨nothing, -⟩ | more | ⟨something, notUp, short, dir, more⟩)
        · exact absurd hcounts nothing
        · exact .up (ih.1 more)
        · exact .down something notUp short dir (ih.1 more)
      · rintro (_ | ⟨nothing, -⟩ | more | ⟨something, notUp, short, dir, more⟩)
        · exact absurd hcounts nothing
        · exact .up (ih.2 more)
        · exact .down something notUp short dir (ih.2 more)
    · rw [List.filter_cons_of_neg hcounts, ih]
      constructor
      · exact .skip hcounts
      · rintro (_ | ⟨-, more⟩ | more | ⟨something, -⟩)
        · exact more
        · exact absurd (by decide) hcounts
        · exact absurd something hcounts

/-- The pieces lead to the place that they spell, if there are directories on the way. -/
theorem route_of_dirAt {pieces : List String} (hup : ".." ∉ pieces)
    (hshort : ∀ piece ∈ pieces, piece.utf8ByteSize ≤ maxName)
    (hdir : root.DirAt (here ++ pieces.filter counts)) :
    Route root here pieces (here ++ pieces.filter counts) := by
  induction pieces generalizing here with
  | nil =>
    rw [List.filter_nil, List.append_nil]
    exact .done
  | cons piece pieces ih =>
    obtain ⟨hpiece, hmore⟩ := not_or.1 (List.mem_cons.not.1 hup)
    obtain ⟨hlen, hlens⟩ := List.forall_mem_cons.1 hshort
    by_cases hcounts : counts piece = true
    · rw [List.filter_cons_of_pos hcounts, List.append_cons] at hdir ⊢
      exact .down hcounts (Ne.symm hpiece) hlen hdir.of_append (ih hmore hlens hdir)
    · rw [List.filter_cons_of_neg hcounts] at hdir ⊢
      exact .skip hcounts (ih hmore hlens hdir)

/-- Without links, what leads to a directory goes through directories. -/
theorem route_of_resolve {pieces place : List String} {entries : List (String × Node)}
    (hroot : root.LinkFree)
    (h : resolve root .target links here pieces = .ok (place, some (.dir entries))) :
    Route root here pieces place := by
  fun_induction resolve root .target links here pieces with
  | case1 =>
    rw [Except.ok.injEq, Prod.mk.injEq] at h
    rw [h.1]
    exact .done
  | case2 _ _ _ ih | case3 _ _ _ ih => exact .skip (by decide) (ih h)
  | case4 _ _ _ ih => exact .up (ih h)
  | case9 _ here name _ hempty hdot hdots _ hlen below hat ih =>
    have hcounts : counts name = true := by
      rw [counts, Bool.and_eq_true, bne_iff_ne, bne_iff_ne]
      exact ⟨hempty, hdot⟩
    exact .down hcounts hdots (Nat.not_lt.1 hlen) ⟨below, by rw [at?_concat, hat]⟩ (ih h)
  | case19 _ _ _ _ _ _ _ _ target hat =>
    exact absurd (by rw [at?_concat, hat]) (hroot.ne_link (_ ++ [_]) target)
  | case5 | case6 | case7 | case8 | case10 | case11 | case12 | case13 | case14 | case15 | case16
  | case17 | case18 => cases h

/-- Where a path without links leads is spelled by it. -/
theorem place_of_resolve {pieces place : List String} {n : Option Node} (hroot : root.LinkFree)
    (hup : ".." ∉ pieces) (h : resolve root .target links here pieces = .ok (place, n)) :
    place = here ++ pieces.filter counts ∧ ∀ piece ∈ pieces, piece.utf8ByteSize ≤ maxName := by
  induction pieces generalizing here with
  | nil =>
    rw [resolve] at h
    cases h
    simp
  | cons piece pieces ih =>
    obtain ⟨hpiece, hmore⟩ := not_or.1 (List.mem_cons.not.1 hup)
    by_cases hcounts : counts piece = true
    · obtain ⟨hempty, hdot⟩ : piece ≠ "" ∧ piece ≠ "." := by simpa [counts] using hcounts
      have hlen : ¬ maxName < piece.utf8ByteSize := by
        intro hlong
        rw [resolve_of_long hempty hdot (Ne.symm hpiece) hlong] at h
        cases h
      rw [List.filter_cons_of_pos hcounts, List.append_cons]
      rw [resolve_name hempty hdot (Ne.symm hpiece) hlen] at h
      split at h
      · split at h
        · next hrest =>
          cases h
          subst hrest
          simpa using hlen
        · cases h
      · obtain ⟨hplace, hlens⟩ := ih hmore h
        exact ⟨hplace, List.forall_mem_cons.2 ⟨Nat.not_lt.1 hlen, hlens⟩⟩
      · split at h
        · next hrest =>
          cases h
          subst hrest
          simpa using hlen
        · cases h
      · split at h
        · next hrest =>
          cases h
          subst hrest
          simpa using hlen
        · cases h
      · split at h
        · next hempty =>
          cases h
          obtain ⟨hnone, hlens⟩ := filter_counts_of_all_empty hempty
          rw [hnone, List.append_nil]
          exact ⟨rfl, List.forall_mem_cons.2 ⟨Nat.not_lt.1 hlen, hlens⟩⟩
        · cases h
      · next target hat => exact absurd hat (hroot.ne_link _ _)
    · rw [resolve_of_not_counts hcounts] at h
      obtain ⟨hplace, hlens⟩ := ih hmore h
      rw [List.filter_cons_of_neg hcounts]
      exact ⟨hplace, List.forall_mem_cons.2 ⟨size_of_not_counts hcounts, hlens⟩⟩

/-- Without links, the entry of a path is what it leads to. -/
theorem resolve_entry_eq {pieces : List String} (hroot : root.LinkFree) :
    resolve root .entry links here pieces = resolve root .target links here pieces := by
  induction pieces generalizing here with
  | nil => rw [resolve, resolve]
  | cons name pieces ih =>
    by_cases hcounts : counts name = true
    · obtain ⟨hempty, hdot⟩ : name ≠ "" ∧ name ≠ "." := by simpa [counts] using hcounts
      by_cases hdots : name = ".."
      · subst hdots
        rw [resolve, resolve, ih]
      by_cases hlen : maxName < name.utf8ByteSize
      · rw [resolve_of_long hempty hdot hdots hlen, resolve, if_neg (by simp), if_pos hlen]
        all_goals assumption
      rw [resolve_step (by decide) hempty hdot hdots hlen, resolve_name hempty hdot hdots hlen]
      cases hat : root.at? (here ++ [name]) with
      | none => rfl
      | some n =>
        cases n with
        | dir => exact ih
        | file | unnamed | locked => rfl
        | link target => exact absurd hat (hroot.ne_link _ _)
    · rcases eq_of_not_counts hcounts with rfl | rfl <;> rw [resolve, resolve, ih]

theorem locate_entry_eq {files : Files} (hroot : files.root.LinkFree) (p : Path) :
    files.locate .entry p = files.locate .target p := by
  simp only [locate, resolve_entry_eq hroot]

/-- Without links, what a path leads to tells whether its entry is called by a text. -/
theorem isNamed_congr {f g : Files} {p : Path} (hf : f.root.LinkFree) (hg : g.root.LinkFree)
    (h : g.node? p = f.node? p) : g.isNamed p = f.isNamed p := by
  have hnode {files : Files} (hroot : files.root.LinkFree) :
      files.isNamed p = !(files.node? p).any Node.isUnnamed := by
    rw [← toOption_find, isNamed, find, find, locate_entry_eq hroot]
    cases files.locate .target p with
    | error => rfl
    | ok found =>
      obtain ⟨place, n⟩ := found
      cases n with
      | none => rfl
      | some n => cases n <;> rfl
  rw [hnode hf, hnode hg, h]

/-! ### Paths and their names -/

theorem filter_counts_piecesOf (text : String) :
    (piecesOf text).filter counts = (Path.mk text).names := by
  rw [piecesOf, Path.names, List.filter_map]
  congr 1
  refine List.filter_congr fun piece _ => ?_
  rw [Function.comp, counts, Bool.eq_iff_iff]
  simp [String.ext_iff]

theorem mem_names_iff {p : Path} {name : String} :
    name ∈ p.names ↔ name ∈ piecesOf p.text ∧ counts name = true := by
  rw [← List.mem_filter, filter_counts_piecesOf]

/-- The path mentions no directory above. -/
theorem not_mem_piecesOf {p : Path} (h : ".." ∉ p.names) : ".." ∉ piecesOf p.text :=
  fun hmem => h (mem_names_iff.2 ⟨hmem, by decide⟩)

/-- The names of the directory that a path starts from. -/
def base (files : Files) (p : Path) : List String :=
  if p.isAbsolute then [] else files.cwd

theorem place?_eq_some_iff {files : Files} {p : Path} {place : List String} :
    files.place? p = some place ↔ ∃ n, files.locate .target p = .ok (place, n) := by
  unfold place?
  cases files.locate .target p with
  | error e => simp [Except.toOption]
  | ok found => simp [Except.toOption, Prod.ext_iff]

/-- A text with a zero character leads nowhere. -/
theorem not_mem_of_locate {files : Files} {aim : Aim} {p : Path}
    {found : List String × Option Node} (h : files.locate aim p = .ok found) :
    '\x00' ∉ p.text.toList := by
  intro hnul
  rw [locate, if_pos (by simpa using hnul)] at h
  cases h

/-- Nor does an empty one. -/
theorem text_ne_empty_of_locate {files : Files} {aim : Aim} {p : Path}
    {found : List String × Option Node} (h : files.locate aim p = .ok found) : p.text ≠ "" := by
  intro hempty
  simp [locate, hempty] at h

/-- Nor does one that is too long. -/
theorem size_of_locate {files : Files} {aim : Aim} {p : Path} {found : List String × Option Node}
    (h : files.locate aim p = .ok found) : p.text.utf8ByteSize ≤ maxPath := by
  by_contra hlong
  unfold locate at h
  split at h
  · cases h
  split at h
  · cases h
  rw [if_pos (Nat.not_le.1 hlong)] at h
  cases h

/-- Without links, a path that mentions no directory above leads to the place that it spells. -/
theorem place?_spec {files : Files} {p : Path} {place : List String}
    (hroot : files.root.LinkFree) (hup : ".." ∉ p.names) (h : files.place? p = some place) :
    place = files.base p ++ p.names ∧ (∀ name ∈ p.names, name.utf8ByteSize ≤ maxName) ∧
      p.text ≠ "" ∧ '\x00' ∉ p.text.toList := by
  obtain ⟨n, hlocate⟩ := place?_eq_some_iff.1 h
  have hresolve := hlocate
  rw [locate_eq_resolve hlocate] at hresolve
  obtain ⟨hplace, hlens⟩ := place_of_resolve hroot (not_mem_piecesOf hup) hresolve
  rw [filter_counts_piecesOf] at hplace
  refine ⟨hplace, fun name hname => hlens name (mem_names_iff.1 hname).1,
    text_ne_empty_of_locate hlocate, not_mem_of_locate hlocate⟩

/-- The pieces of a joined name are those of the directory, without an empty one at its end, and
the name. -/
theorem exists_piecesOf_join {dir : Path} {name : String} (hdir : dir.text ≠ "")
    (hname : Path.IsComponent name.toList) :
    ∃ pieces, piecesOf (dir.join name).text = pieces ++ [name] ∧
      (piecesOf dir.text = pieces ∨ piecesOf dir.text = pieces ++ [""]) := by
  obtain ⟨front, hfront, hjoin⟩ := Path.exists_toList_join hdir
  have htext := hjoin name fun hhead => hname.2.2 (List.mem_of_head? hhead)
  refine ⟨(Path.pieces front).map String.ofList, ?_, ?_⟩
  · rw [piecesOf, htext, Path.pieces_append_slash, Path.pieces_of_not_mem hname.2.2]
    simp
  · rcases hfront with heq | heq
    · exact .inl (by rw [piecesOf, heq])
    · exact .inr (by rw [piecesOf, heq, Path.pieces_append_slash]; simp [Path.pieces])

theorem names_eq_of_piecesOf {dir : Path} {pieces : List String}
    (h : piecesOf dir.text = pieces ∨ piecesOf dir.text = pieces ++ [""]) :
    pieces.filter counts = dir.names := by
  rw [← filter_counts_piecesOf]
  rcases h with heq | heq
  · rw [heq]
  · rw [heq, List.filter_append]
    simp [counts]

/-- The last name of a path is looked up in the directory that the path has come to. -/
theorem resolve_last {name : String} (hroot : root.LinkFree) (hname : IsName name)
    (hlen : name.utf8ByteSize ≤ maxName) :
    resolve root .target links here [name] = .ok (here ++ [name], root.at? (here ++ [name])) := by
  obtain ⟨hempty, hdot, hdots, -⟩ := hname
  rw [resolve_name hempty hdot hdots (Nat.not_lt.2 hlen)]
  cases hat : root.at? (here ++ [name]) with
  | none => rfl
  | some n =>
    cases n with
    | file | locked | unnamed => rfl
    | dir entries =>
      show resolve root .target links (here ++ [name]) [] = _
      rw [resolve, hat]
    | link target => exact absurd hat (hroot.ne_link _ _)

/-! ### The working directory -/

theorem toList_here (files : Files) :
    files.here.text.toList = '/' :: ['/'].intercalate (files.cwd.map String.toList) := by
  rw [here, String.toList_append, String.toList_intercalate]
  rfl

theorem isAbsolute_here (files : Files) : files.here.isAbsolute = true := by
  rw [Path.isAbsolute, toList_here]
  rfl

/-- The path of the working directory has the names of the working directory. -/
theorem names_here {files : Files} (h : ∀ name ∈ files.cwd, IsFileName name) :
    files.here.names = files.cwd := by
  rw [Path.names_eq, toList_here, ← List.nil_append ('/' :: _), Path.components_append_slash,
    Path.components_intercalate, Path.components_nil, List.nil_append, List.map_map]
  · simp [Function.comp_def]
  · intro piece hpiece
    obtain ⟨name, hname, rfl⟩ := List.mem_map.1 hpiece
    exact (h name hname).1.isComponent

theorem not_mem_here {files : Files} (h : ∀ name ∈ files.cwd, IsFileName name) :
    '\x00' ∉ files.here.text.toList := by
  intro hnul
  rw [toList_here] at hnul
  obtain hslash | ⟨piece, hpiece, hnul⟩ :=
    Path.mem_of_mem_intercalate (List.mem_of_ne_of_mem (by decide) hnul)
  · cases hslash
  · obtain ⟨name, hname, rfl⟩ := List.mem_map.1 hpiece
    exact (h name hname).2.1 hnul

theorem Grounded.hasHere {files : Files} (h : files.Grounded) : files.hasHere = true := by
  obtain ⟨entries, hat⟩ := h
  rw [Files.hasHere, hat]
  rfl

/-- The working directory is missed alike where directories and links are the same. -/
theorem SamePlaces.hasHere_eq {f g : Files} (h : f.SamePlaces g) : g.hasHere = f.hasHere := by
  have hguide (files : Files) :
      files.hasHere = (files.root.guide? files.cwd).any Node.isDir := by
    rw [Files.hasHere, guide?]
    cases files.root.at? files.cwd with
    | none => rfl
    | some n => cases n <;> rfl
  rw [hguide, hguide, h.cwd_eq, h.guide?_eq]

theorem absoluteRoot_of_absolute? {files : Files} {given : Option Path} {root : Path}
    (habsolute : Path.absolute? files.here (given.getD ⟨"."⟩) = some root)
    (hhere : files.hasHere = true) : files.absoluteRoot given = .ok root := by
  simp only [absoluteRoot, habsolute, hhere, Bool.or_true, if_true]

theorem SamePlaces.absoluteRoot_eq {f g : Files} (h : f.SamePlaces g) (given : Option Path) :
    g.absoluteRoot given = f.absoluteRoot given := by
  rw [absoluteRoot, absoluteRoot, here, here, h.cwd_eq, h.hasHere_eq]

/-- What leads somewhere can be made absolute, since a relative path starts in the working
directory. -/
theorem exists_absoluteRoot {files : Files} {given : Option Path} {place : List String}
    (h : files.place? (given.getD ⟨"."⟩) = some place) :
    ∃ root, files.absoluteRoot given = .ok root ∧
      Path.absolute? files.here (given.getD ⟨"."⟩) = some root := by
  obtain ⟨n, hlocate⟩ := place?_eq_some_iff.1 h
  have hne := text_ne_empty_of_locate hlocate
  obtain ⟨root, hroot⟩ : ∃ root, Path.absolute? files.here (given.getD ⟨"."⟩) = some root := by
    rw [Path.absolute?, if_neg (by simpa using hne)]
    exact ⟨_, rfl⟩
  have hhere : ((given.getD ⟨"."⟩).isAbsolute || files.hasHere) = true := by
    have hstart := start_of_locate hlocate
    unfold start at hstart
    split at hstart
    · next habsolute => rw [habsolute, Bool.true_or]
    · split at hstart
      · next hat => simp [hasHere, hat, Node.isDir]
      · cases hstart
      · cases hstart
  exact ⟨root, by simp only [absoluteRoot, hroot, hhere, if_true], hroot⟩

/-! ### Absolute paths to directories -/

/-- The path is absolute and spells the place of a directory. -/
structure SpellsDir (files : Files) (p : Path) : Prop where
  isAbsolute : p.isAbsolute = true
  dirAt : files.root.DirAt p.names
  noParent : ".." ∉ p.names
  short : ∀ name ∈ p.names, name.utf8ByteSize ≤ maxName
  noNul : '\x00' ∉ p.text.toList

variable {files : Files} {p : Path}

theorem SpellsDir.parent? {q : Path} (h : files.SpellsDir p) (hparent : p.parent? = some q) :
    files.SpellsDir q := by
  obtain ⟨habsolute, ⟨last, hnames⟩, htext⟩ := Path.parent?_spec h.isAbsolute hparent
  obtain ⟨-, hdirAt, hnoParent, hshort, hnoNul⟩ := h
  rw [hnames] at hdirAt hnoParent hshort
  exact
    { isAbsolute := habsolute
      dirAt := hdirAt.of_append
      noParent := fun hmem => hnoParent (List.mem_append_left _ hmem)
      short := fun name hname => hshort name (List.mem_append_left _ hname)
      noNul := fun hmem => hnoNul (htext.subset hmem) }

theorem SpellsDir.of_mem_ancestors {q : Path} (h : files.SpellsDir p) (hq : q ∈ p.ancestors) :
    files.SpellsDir q := by
  fun_induction Path.ancestors p with
  | case1 p =>
    obtain rfl := List.mem_singleton.1 hq
    exact h
  | case2 p parent hparent ih =>
    rcases List.mem_cons.1 hq with rfl | hq
    · exact h
    · exact ih (h.parent? hparent) hq

/-- The path is absolute, and its names lead to the place through directories. -/
structure LeadsDir (files : Files) (p : Path) (place : List String) : Prop where
  isAbsolute : p.isAbsolute = true
  route : Route files.root [] p.names place
  noNul : '\x00' ∉ p.text.toList

section LeadsDir

variable {place : List String}

theorem LeadsDir.place?_eq (h : files.LeadsDir p place)
    (hfits : p.text.utf8ByteSize ≤ maxPath) : files.place? p = some place := by
  have hroute : Route files.root [] (piecesOf p.text) place := by
    rw [← route_filter_iff, filter_counts_piecesOf]
    exact h.route
  rw [place?, locate, if_neg (by simpa using h.noNul),
    if_neg (by simpa using Path.text_ne_empty h.isAbsolute), if_neg (Nat.not_lt.2 hfits),
    start_of_isAbsolute h.isAbsolute, ← List.append_nil (piecesOf _)]
  simp only [hroute.resolve_append, resolve, Except.toOption, Option.map_some]

/-- It leads to no other place. -/
theorem LeadsDir.eq_of_place? {other : List String} (h : files.LeadsDir p place)
    (hother : files.place? p = some other) : other = place := by
  obtain ⟨n, hlocate⟩ := place?_eq_some_iff.1 hother
  rw [h.place?_eq (size_of_locate hlocate)] at hother
  exact (Option.some.inj hother).symm

/-- An entry of a directory is found by the path that joins its name. -/
theorem LeadsDir.locate_join {name : String} (h : files.LeadsDir p place)
    (hroot : files.root.LinkFree) (hname : IsFileName name)
    (hfits : (p.join name).text.utf8ByteSize ≤ maxPath) :
    files.locate .target (p.join name) =
      .ok (place ++ [name], files.root.at? (place ++ [name])) := by
  obtain ⟨hisName, hnameNul, hlen⟩ := hname
  have hne := Path.text_ne_empty h.isAbsolute
  have hjoin := Path.isAbsolute_of_start h.isAbsolute (Path.text_prefix_join hne hisName.head?_ne)
  have hnul : '\x00' ∉ (p.join name).text.toList := by
    intro hmem
    rcases Path.mem_of_mem_join hmem with hslash | hmem | hmem
    · cases hslash
    · exact h.noNul hmem
    · exact hnameNul hmem
  obtain ⟨pieces, hpieces, hdir⟩ := exists_piecesOf_join hne hisName.isComponent
  have hroute : Route files.root [] pieces place := by
    rw [← route_filter_iff, names_eq_of_piecesOf hdir]
    exact h.route
  rw [locate, if_neg (by simpa using hnul), if_neg (by simpa using Path.text_ne_empty hjoin),
    if_neg (Nat.not_lt.2 hfits), start_of_isAbsolute hjoin, hpieces]
  simp only [hroute.resolve_append, resolve_last hroot hisName hlen]

end LeadsDir

theorem filter_counts_names (p : Path) : p.names.filter counts = p.names :=
  List.filter_eq_self.2 fun _ hname => (mem_names_iff.1 hname).2

theorem SpellsDir.leadsDir (h : files.SpellsDir p) : files.LeadsDir p p.names where
  isAbsolute := h.isAbsolute
  route := by
    have hroute : Route files.root [] p.names ([] ++ p.names.filter counts) :=
      route_of_dirAt h.noParent h.short (by
        rw [filter_counts_names]
        exact h.dirAt)
    rwa [filter_counts_names] at hroute
  noNul := h.noNul

theorem SpellsDir.locate_join {name : String} (h : files.SpellsDir p)
    (hroot : files.root.LinkFree) (hname : IsFileName name)
    (hfits : (p.join name).text.utf8ByteSize ≤ maxPath) :
    files.locate .target (p.join name) =
      .ok (p.names ++ [name], files.root.at? (p.names ++ [name])) :=
  h.leadsDir.locate_join hroot hname hfits

/-- An absolute reading has no character that its path and its directory have not. -/
theorem nul_not_mem_absolute? {given : Path} (hcwd : ∀ name ∈ files.cwd, IsFileName name)
    (hgiven : '\x00' ∉ given.text.toList) (habsolute : Path.absolute? files.here given = some p) :
    '\x00' ∉ p.text.toList := by
  obtain ⟨-, -, hchars⟩ := Path.absolute?_spec (isAbsolute_here files) habsolute
  intro hmem
  rcases hchars _ hmem with h | h | h
  · cases h
  · exact not_mem_here hcwd h
  · exact hgiven h

/-- An absolute reading of a path to a directory spells the place of the directory. -/
theorem spellsDir_of_absolute? {given : Path} {place : List String}
    (hroot : files.root.LinkFree) (hcwd : ∀ name ∈ files.cwd, IsFileName name)
    (hup : ".." ∉ given.names) (hplace : files.place? given = some place)
    (hdir : files.root.DirAt place) (habsolute : Path.absolute? files.here given = some p) :
    files.SpellsDir p ∧ p.names = place := by
  obtain ⟨hspells, hshort, -, hnul⟩ := place?_spec hroot hup hplace
  obtain ⟨hp, hnames, -⟩ := Path.absolute?_spec (isAbsolute_here files) habsolute
  rw [names_here hcwd, ← base, ← hspells] at hnames
  have hmem : ∀ name ∈ p.names, name ∈ files.cwd ∨ name ∈ given.names := by
    intro name hname
    rw [hnames, hspells, base] at hname
    split at hname
    · exact .inr (by simpa using hname)
    · exact List.mem_append.1 hname
  refine ⟨⟨hp, by rwa [hnames], fun hparent => ?_, fun name hname => ?_,
    nul_not_mem_absolute? hcwd hnul habsolute⟩, hnames⟩
  · rcases hmem _ hparent with h | h
    · exact (hcwd _ h).1.2.2.1 rfl
    · exact hup h
  · rcases hmem _ hname with h | h
    · exact (hcwd _ h).2.2
    · exact hshort _ h

/-- The way to the working directory, from the root directory. -/
theorem Grounded.route (h : files.Grounded) (hcwd : ∀ name ∈ files.cwd, IsFileName name) :
    Route files.root [] files.cwd files.cwd := by
  have hcounts : files.cwd.filter counts = files.cwd := by
    rw [← names_here hcwd, filter_counts_names]
  have hroute : Route files.root [] files.cwd ([] ++ files.cwd.filter counts) :=
    route_of_dirAt (fun hup => (hcwd _ hup).1.2.2.1 rfl) (fun name hname => (hcwd name hname).2.2)
      (by rwa [hcounts])
  rwa [hcounts] at hroute

/-- A relative path leads nowhere if the working directory cannot be entered. -/
theorem grounded_of_relative {given : Path} {place : List String}
    (hrelative : ¬ given.isAbsolute = true) (h : files.place? given = some place) :
    files.Grounded := by
  obtain ⟨n, hlocate⟩ := place?_eq_some_iff.1 h
  have hstart := start_of_locate hlocate
  unfold start at hstart
  rw [if_neg hrelative] at hstart
  split at hstart
  · next entries hat => exact ⟨entries, hat⟩
  · cases hstart
  · cases hstart

/-- What starts where a path starts goes on from the root directory. -/
theorem Route.absolute {given : Path} {pieces place found : List String}
    (hcwd : ∀ name ∈ files.cwd, IsFileName name) (hgiven : files.place? given = some found)
    (h : Route files.root (files.base given) pieces place) :
    Route files.root [] ((if given.isAbsolute then [] else files.here.names) ++ pieces) place := by
  rw [names_here hcwd]
  unfold base at h
  split at h
  · next habsolute =>
    rw [if_pos habsolute]
    exact h
  · next hrelative =>
    rw [if_neg hrelative]
    exact ((grounded_of_relative hrelative hgiven).route hcwd).append h

/-- An absolute reading of a path to a directory leads there, over the same directories above. -/
theorem leadsDir_of_absolute? {given : Path} {place : List String}
    (hroot : files.root.LinkFree) (hcwd : ∀ name ∈ files.cwd, IsFileName name)
    (hplace : files.place? given = some place) (hdir : files.root.DirAt place)
    (habsolute : Path.absolute? files.here given = some p) :
    files.LeadsDir p place := by
  obtain ⟨n, hlocate⟩ := place?_eq_some_iff.1 hplace
  obtain ⟨entries, hat⟩ := hdir
  have hroute : Route files.root (files.base given) given.names place := by
    have hresolve := hlocate
    rw [locate_eq_resolve hlocate] at hresolve
    rw [resolve_at? hresolve, hat] at hresolve
    rw [← filter_counts_piecesOf, route_filter_iff]
    exact route_of_resolve hroot hresolve
  obtain ⟨hp, hnames, -⟩ := Path.absolute?_spec (isAbsolute_here files) habsolute
  refine ⟨hp, ?_, nul_not_mem_absolute? hcwd (not_mem_of_locate hlocate) habsolute⟩
  rw [hnames]
  exact hroute.absolute hcwd hplace

end Files

end FirmwareKit
