import FirmwareKit.Command.Check
import FirmwareKit.Command.Patch
import FirmwareKit.Proofs.Config.Loading
import FirmwareKit.Proofs.Files.Lexical

/-! Which settings hold for a root. In a tree without links they are those of the nearest
directory, going up from the root, that holds a settings file, unless a nearer one holds a
repository. They are looked for by the text of the path to the root, so this takes a path
that mentions no directory above. -/

namespace FirmwareKit

open Files Node

namespace Config

/-- There is an entry of that name in the directory. -/
def Holds (root : Node) (dir : List String) (name : String) : Prop :=
  ∃ n, root.at? (dir ++ [name]) = some n

/-- The nearest directory that holds a settings file, going up from a place, where none before it
holds a repository. -/
structure IsNearest (root : Node) (place dir : List String) : Prop where
  above : dir <+: place
  holds : Holds root dir fileName
  first : ∀ near, dir <+: near → near <+: place → near ≠ dir →
    ¬ Holds root near fileName ∧ ¬ Holds root near ".git"

/-- The settings that hold at a place: those of the nearest directory that has some, and else the
defaults. -/
inductive FromNearest (files : Files) (place : List String) : Except Failure Config → Prop
  | written {dir : List String} {path : Path} (nearest : IsNearest files.root place dir)
      (leads : files.place? path = some (dir ++ [fileName])) :
    FromNearest files place (read files path)
  | default (missing : ∀ dir, ¬ IsNearest files.root place dir) :
    FromNearest files place (.ok .default)

variable {root : Node} {place dir : List String} {name : String}

/-! ### Going up one directory -/

theorem isNearest_self (h : Holds root place fileName) : IsNearest root place place where
  above := List.prefix_rfl
  holds := h
  first _ hdir hplace hne := absurd (hplace.eq_of_length_le hdir.length_le) hne

/-- At most one directory is the nearest. -/
theorem IsNearest.unique {other : List String} (h : IsNearest root place dir)
    (h' : IsNearest root place other) : dir = other := by
  by_contra hne
  rcases List.prefix_or_prefix_of_prefix h.above h'.above with hle | hle
  · exact (h.first other hle h'.above (Ne.symm hne)).1 h'.holds
  · exact (h'.first dir hle h.above hne).1 h.holds

theorem isNearest_nil (h : ¬ Holds root [] fileName) : ¬ IsNearest root [] dir := by
  intro hdir
  rw [List.prefix_nil.1 hdir.above] at hdir
  exact h hdir.holds

/-- Behind a repository no settings file counts. -/
theorem not_isNearest (hfile : ¬ Holds root place fileName) (hgit : Holds root place ".git") :
    ¬ IsNearest root place dir := by
  intro h
  by_cases heq : place = dir
  · exact hfile (heq ▸ h.holds)
  · exact (h.first place h.above List.prefix_rfl heq).2 hgit

theorem isNearest_concat (hfile : ¬ Holds root (place ++ [name]) fileName)
    (hgit : ¬ Holds root (place ++ [name]) ".git") :
    IsNearest root (place ++ [name]) dir ↔ IsNearest root place dir := by
  constructor
  · intro h
    rcases List.prefix_concat_iff.1 h.above with rfl | habove
    · exact absurd h.holds hfile
    · exact ⟨habove, h.holds, fun near hdir hnear => h.first near hdir
        (hnear.trans (List.prefix_append _ _))⟩
  · intro h
    refine ⟨h.above.trans (List.prefix_append _ _), h.holds, fun near hdir hnear hne => ?_⟩
    rcases List.prefix_concat_iff.1 hnear with rfl | hnear
    · exact ⟨hfile, hgit⟩
    · exact h.first near hdir hnear hne

/-! ### Looking for settings from a directory -/

variable {files : Files} {p : Path}

/-- The path spells the place of a directory, and is short enough to look for settings there. -/
structure Searchable (files : Files) (p : Path) : Prop extends files.SpellsDir p where
  fits : (p.join fileName).text.utf8ByteSize ≤ maxPath

theorem Searchable.parent? {q : Path} (h : Searchable files p) (hparent : p.parent? = some q) :
    Searchable files q where
  toSpellsDir := h.toSpellsDir.parent? hparent
  fits := (Path.size_join_parent?_le h.isAbsolute (by decide) hparent).trans h.fits

theorem Searchable.of_mem_ancestors {q : Path} (h : Searchable files p) (hq : q ∈ p.ancestors) :
    Searchable files q := by
  fun_induction Path.ancestors p with
  | case1 p =>
    obtain rfl := List.mem_singleton.1 hq
    exact h
  | case2 p parent hparent ih =>
    rcases List.mem_cons.1 hq with rfl | hq
    · exact h
    · exact ih (h.parent? hparent) hq

theorem isFileName_of_decides (hname : name = fileName ∨ name = ".git") : IsFileName name := by
  rcases hname with rfl | rfl <;> (unfold IsFileName IsName; decide)

/-- What decides about settings is looked up in the directory that the path spells. -/
theorem Searchable.locate_join (h : Searchable files p) (hroot : files.root.LinkFree)
    (hname : name = fileName ∨ name = ".git") :
    files.locate .target (p.join name) =
      .ok (p.names ++ [name], files.root.at? (p.names ++ [name])) := by
  have hfileName := isFileName_of_decides hname
  have hsize : name.utf8ByteSize ≤ fileName.utf8ByteSize := by
    rcases hname with rfl | rfl <;> decide
  have hjoin := Path.size_join_le (Path.text_ne_empty h.isAbsolute) hfileName.1.head?_ne
    (by decide) hsize
  exact h.toSpellsDir.locate_join hroot hfileName (hjoin.trans h.fits)

theorem Searchable.place?_join (h : Searchable files p) (hroot : files.root.LinkFree)
    (hname : name = fileName ∨ name = ".git") :
    files.place? (p.join name) = some (p.names ++ [name]) := by
  rw [place?, h.locate_join hroot hname]
  rfl

theorem Searchable.isThere_join_iff (h : Searchable files p) (hroot : files.root.LinkFree)
    (hname : name = fileName ∨ name = ".git") :
    files.isThere (p.join name) = true ↔ Holds files.root p.names name := by
  rw [isThere_iff, h.place?_join hroot hname, Holds]
  simp

/-- One directory of the search: it has the settings, ends the search, or is passed. -/
theorem Searchable.findIn_cons (h : Searchable files p) (hroot : files.root.LinkFree)
    (above : List Path) :
    Holds files.root p.names fileName ∧
        findIn files (p :: above) = some (p.join fileName) ∨
      ¬ Holds files.root p.names fileName ∧ Holds files.root p.names ".git" ∧
        findIn files (p :: above) = none ∨
      ¬ Holds files.root p.names fileName ∧ ¬ Holds files.root p.names ".git" ∧
        findIn files (p :: above) = findIn files above := by
  rw [findIn, ← h.isThere_join_iff hroot (.inl rfl), ← h.isThere_join_iff hroot (.inr rfl)]
  split
  · next hfile => exact .inl ⟨hfile, rfl⟩
  · next hfile =>
    split
    · next hgit => exact .inr (.inl ⟨hfile, hgit, rfl⟩)
    · next hgit => exact .inr (.inr ⟨hfile, hgit, rfl⟩)

/-- The file found for a directory is that of the nearest one that has some. -/
theorem find_nearest (hroot : files.root.LinkFree) (h : Searchable files p) :
    (∃ dir path, find files p = some path ∧ IsNearest files.root p.names dir ∧
      files.place? path = some (dir ++ [fileName])) ∨
    (find files p = none ∧ ∀ dir, ¬ IsNearest files.root p.names dir) := by
  unfold find
  fun_induction Path.ancestors p with
  | case1 p hnone =>
    rcases h.findIn_cons hroot [] with ⟨hfile, hfind⟩ | ⟨hfile, -, hfind⟩ | ⟨hfile, -, hfind⟩
    · exact .inl ⟨_, _, hfind, isNearest_self hfile, h.place?_join hroot (.inl rfl)⟩
    all_goals
      rw [Path.names_of_parent?_eq_none hnone] at hfile ⊢
      exact .inr ⟨hfind, fun dir => isNearest_nil hfile⟩
  | case2 p q hparent ih =>
    obtain ⟨-, ⟨last, hnames⟩, -⟩ := Path.parent?_spec h.isAbsolute hparent
    rcases h.findIn_cons hroot q.ancestors with ⟨hfile, hfind⟩ | ⟨hfile, hgit, hfind⟩ |
      ⟨hfile, hgit, hfind⟩
    · exact .inl ⟨_, _, hfind, isNearest_self hfile, h.place?_join hroot (.inl rfl)⟩
    · exact .inr ⟨hfind, fun dir => not_isNearest hfile hgit⟩
    · rw [hnames] at hfile hgit
      simp only [hfind, hnames, isNearest_concat hfile hgit]
      exact ih (h.parent? hparent)

/-- The settings loaded for a directory are those that hold at its place. -/
theorem load_nearest (hroot : files.root.LinkFree) (h : Searchable files p) :
    FromNearest files p.names ((load files p).map (·.config)) := by
  rcases find_nearest hroot h with ⟨dir, path, hfind, hnearest, hplace⟩ | ⟨hfind, hmissing⟩
  · have hload : (load files p).map (·.config) = read files path := by
      simp only [load, hfind]
      cases read files path <;> rfl
    rw [hload]
    exact .written hnearest hplace
  · simp only [load, hfind]
    exact .default hmissing

/-! ### Directories that have no say -/

/-- In both trees the directories on the way to a place have the same settings files, and the same
ones hold repositories. -/
structure SameUpward (f g : Files) (place : List String) : Prop where
  cwd_eq : g.cwd = f.cwd
  dirAt : g.root.DirAt place
  file_eq : ∀ dir, dir <+: place →
    g.root.at? (dir ++ [fileName]) = f.root.at? (dir ++ [fileName])
  repository_iff : ∀ dir, dir <+: place → (Holds g.root dir ".git" ↔ Holds f.root dir ".git")

variable {f g : Files}

theorem SameUpward.load_eq (hsame : SameUpward f g p.names) (hf : f.root.LinkFree)
    (hg : g.root.LinkFree) (h : Searchable f p) : load g p = load f p := by
  have hupward : ∀ dir ∈ p.ancestors,
      g.locate .target (dir.join fileName) = f.locate .target (dir.join fileName) ∧
        g.isThere (dir.join ".git") = f.isThere (dir.join ".git") := by
    intro dir hmem
    obtain ⟨-, hprefix, -⟩ := Path.mem_ancestors h.isAbsolute hmem
    have hdir := h.of_mem_ancestors hmem
    have hdirAt : g.root.DirAt dir.names := by
      obtain ⟨more, heq⟩ := hprefix
      exact (heq ▸ hsame.dirAt).of_append
    have hdir' : Searchable g dir :=
      ⟨⟨hdir.isAbsolute, hdirAt, hdir.noParent, hdir.short, hdir.noNul⟩, hdir.fits⟩
    constructor
    · rw [hdir.locate_join hf (.inl rfl), hdir'.locate_join hg (.inl rfl),
        hsame.file_eq _ hprefix]
    · rw [Bool.eq_iff_iff, hdir.isThere_join_iff hf (.inr rfl),
        hdir'.isThere_join_iff hg (.inr rfl), hsame.repository_iff _ hprefix]
  have hfind : find g p = find f p := findIn_congr fun dir hmem => by
    obtain ⟨hlocate, hgit⟩ := hupward dir hmem
    exact ⟨by simp only [isThere, Files.find, hlocate], hgit⟩
  rw [load, load, hfind]
  cases hpath : find f p with
  | none => rfl
  | some path =>
    obtain ⟨dir, hmem, rfl⟩ := exists_of_findIn hpath
    simp only [read, readText, readBytes, Files.find, (hupward dir hmem).1]

/-! ### The settings of a root -/

/-- The settings that a check and a patch run load are those of the nearest directory that has
some, going up from the root; no other directory has a say. -/
theorem loaded_nearest {files : Files} {options : Check.Options} {place : List String}
    (hlinks : files.root.LinkFree) (hcwd : ∀ name ∈ files.cwd, IsFileName name)
    (hplace : files.place? (options.root.getD ⟨"."⟩) = some place)
    (hdir : files.root.DirAt place) (hup : ".." ∉ (options.root.getD ⟨"."⟩).names)
    (hfits : ∀ root, files.absoluteRoot options.root = .ok root →
      (root.join fileName).text.utf8ByteSize ≤ maxPath) :
    (∃ root loaded, files.absoluteRoot options.root = .ok root ∧
      FromNearest files place loaded ∧
      (Check.resolve files options).outcome =
        loaded.bind (Check.Project.ofConfig options root) ∧
      Patch.specs files options.root =
        loaded.map fun config => config.patches.map (Patch.Spec.resolve root)) ∧
    ∀ other : Files, other.root.LinkFree → SameUpward files other place →
      Check.resolve other options = Check.resolve files options ∧
        Patch.specs other options.root = Patch.specs files options.root := by
  obtain ⟨root, habsolute, hroot⟩ := exists_absoluteRoot hplace
  have hbase := (place?_spec hlinks hup hplace).1
  obtain ⟨hspells, rfl⟩ := spellsDir_of_absolute? hlinks hcwd hup hplace hdir hroot
  have hsearch : Searchable files root := ⟨hspells, hfits root habsolute⟩
  refine ⟨⟨root, _, habsolute, load_nearest hlinks hsearch, ?_, ?_⟩, fun other hother hsame => ?_⟩
  · simp only [Check.resolve, habsolute]
    cases load files root <;> rfl
  · simp only [Patch.specs, habsolute]
    cases load files root <;> rfl
  · have hload := hsame.load_eq hlinks hother hsearch
    have habsolute' : other.absoluteRoot options.root = .ok root := by
      have hhere : ((options.root.getD ⟨"."⟩).isAbsolute || other.hasHere) = true := by
        cases hgiven : (options.root.getD ⟨"."⟩).isAbsolute with
        | true => rfl
        | false =>
          -- the root is below the working directory, which is there with it
          rw [base, if_neg (by simp [hgiven]), ← hsame.cwd_eq] at hbase
          have hgrounded : other.Grounded := (hbase ▸ hsame.dirAt : other.root.DirAt _).of_append
          rw [hgrounded.hasHere]
          rfl
      simp only [absoluteRoot, here, hsame.cwd_eq, hhere, if_true]
      simp only [here] at hroot
      rw [hroot]
    simp only [Check.resolve, Patch.specs, habsolute, habsolute', hload, and_self]

def nested : Files where
  root := .dir [("p", .dir [(".esperrc.json", .file "{}".toUTF8), ("sub", .dir [])])]
  cwd := ["p"]

theorem loaded_nearest_nested :
    nested.root.LinkFree ∧ (∀ name ∈ nested.cwd, IsFileName name) ∧
      nested.place? ⟨"sub"⟩ = some ["p", "sub"] ∧ nested.root.DirAt ["p", "sub"] ∧
      ∃ root loaded, nested.absoluteRoot (some ⟨"sub"⟩) = .ok root ∧
        FromNearest nested ["p", "sub"] loaded ∧
        Patch.specs nested (some ⟨"sub"⟩) =
          loaded.map fun config => config.patches.map (Patch.Spec.resolve root) := by
  have hlinks : nested.root.LinkFree := by
    refine .dir _ fun e he => ?_
    obtain rfl := List.mem_singleton.1 he
    refine .dir _ fun e he => ?_
    rcases List.mem_pair.1 he with rfl | rfl
    · exact .file _
    · exact .dir _ (by simp)
  have hcwd : ∀ name ∈ nested.cwd, IsFileName name := by
    simp [nested, IsFileName, IsName]
    decide
  have hplace : nested.place? ⟨"sub"⟩ = some ["p", "sub"] := by
    simp +decide [place?, locate, Files.start, piecesOf, Path.pieces, Files.resolve, nested, at?,
      child?, lookup, Except.toOption]
  have hdir : nested.root.DirAt ["p", "sub"] := ⟨[], rfl⟩
  have hroot : nested.absoluteRoot (some ⟨"sub"⟩) = .ok ⟨"/p/sub"⟩ :=
    absoluteRoot_of_absolute? (by decide +kernel) rfl
  have hfits : ∀ root, nested.absoluteRoot (some ⟨"sub"⟩) = .ok root →
      (root.join fileName).text.utf8ByteSize ≤ maxPath := by
    intro root h
    rw [hroot] at h
    cases h
    decide
  obtain ⟨⟨root, loaded, habsolute, hloaded, -, hspecs⟩, -⟩ :=
    @loaded_nearest nested { root := some ⟨"sub"⟩ } _ hlinks hcwd hplace hdir (by decide) hfits
  exact ⟨hlinks, hcwd, hplace, hdir, root, loaded, habsolute, hloaded, hspecs⟩

/-! ### A path by way of another directory -/

def strayed : Files where
  root := .dir [("sub", .dir [(".esperrc.json", .file "\x7b\"langRoot\":\"x\"\x7d".toUTF8)])]
  cwd := []

theorem strayed_find :
    strayed.place? ⟨"/sub/.."⟩ = some [] ∧
      strayed.find .target ⟨"/sub/../.esperrc.json"⟩ = .error .notFound ∧
      strayed.find .target ⟨"/sub/../.git"⟩ = .error .notFound ∧
      strayed.find .target ⟨"/sub/.esperrc.json"⟩ =
        .ok (.file "\x7b\"langRoot\":\"x\"\x7d".toUTF8) := by
  simp +decide [place?, Files.find, locate, Files.start, piecesOf, Path.pieces, Files.resolve,
    strayed, at?, child?, lookup, Except.toOption]

theorem strayed_load :
    load strayed ⟨"/sub/.."⟩ =
      .ok ⟨{ Config.default with langRoot := "x" }, some ⟨"/sub/.esperrc.json"⟩⟩ := by
  obtain ⟨-, hfile, hgit, hfound⟩ := strayed_find
  have hfind : find strayed ⟨"/sub/.."⟩ = some ⟨"/sub/.esperrc.json"⟩ := by
    rw [find, show Path.ancestors ⟨"/sub/.."⟩ = [⟨"/sub/.."⟩, ⟨"/sub"⟩, ⟨"/"⟩] by
      decide +kernel]
    simp +decide [findIn, Path.join, fileName, isThere, hfile, hgit, hfound, Except.toOption]
  have hread : strayed.readText ⟨"/sub/.esperrc.json"⟩ = .ok "\x7b\"langRoot\":\"x\"\x7d" :=
    readText_of_find hfound
  have hparse : parse "\x7b\"langRoot\":\"x\"\x7d" =
      .ok { Config.default with langRoot := "x" } := by
    cbv
  have hvalid : ({ Config.default with langRoot := "x" } : Config).validate = .ok () := by
    decide +kernel
  simp only [load, hfind, read, hread, hparse, hvalid, Except.map]

/-- From a root that is written by way of the directory above another one, the settings of that
other directory are loaded, though it is not above the root and no directory above has any. -/
theorem exists_strayed :
    strayed.root.LinkFree ∧ strayed.place? ⟨"/sub/.."⟩ = some [] ∧ strayed.root.DirAt [] ∧
      (∀ dir, ¬ IsNearest strayed.root [] dir) ∧
      ∃ project, (Check.resolve strayed { root := some ⟨"/sub/.."⟩ }).outcome = .ok project ∧
        project.config = { Config.default with langRoot := "x" } := by
  have hlinks : strayed.root.LinkFree := by
    refine .dir _ fun e he => ?_
    obtain rfl := List.mem_singleton.1 he
    refine .dir _ fun e he => ?_
    obtain rfl := List.mem_singleton.1 he
    exact .file _
  refine ⟨hlinks, strayed_find.1, ⟨_, rfl⟩, fun dir => isNearest_nil ?_, ?_⟩
  · rintro ⟨n, hn⟩
    cases hn
  · have hroot : strayed.absoluteRoot (some ⟨"/sub/.."⟩) = .ok ⟨"/sub/.."⟩ :=
      absoluteRoot_of_absolute? (by decide +kernel) rfl
    simp only [Check.resolve, hroot, strayed_load]
    exact ⟨_, rfl, rfl⟩

end Config

end FirmwareKit
