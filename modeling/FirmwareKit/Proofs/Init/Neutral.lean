import FirmwareKit.Command.Init
import FirmwareKit.Proofs.Check.Irrelevant
import FirmwareKit.Proofs.Config.Written

/-! What `init` changes. It makes at most one file and touches no other. Where no settings were
found before, those that it writes are the ones that held anyway, so a check and a patch run come
to the same as before. -/

namespace FirmwareKit

open Files Node

namespace Init

variable {f g : Files}

/-- A file with the bytes is made at a place that was free, and nothing else changes. -/
structure Creates (place : List String) (bytes : ByteArray) (f g : Files) : Prop where
  changed : FileChanged place f g
  free : f.root.at? place = none
  made : g.root.at? place = some (.file bytes)

/-- What `init` can come to: it fails and leaves the files as they were, or it makes one. -/
inductive Ends (f : Files) : Printed CommandResult × Files → Prop
  | failed (e : Failure) : Ends f (⟨[], .error e⟩, f)
  | created {g : Files} {place : List String} (creates : Creates place defaultBytes f g) :
    Ends f (⟨[], .ok ⟨.init ⟨Config.fileName⟩, false⟩⟩, g)

theorem run_of_isThere (h : f.isThere ⟨Config.fileName⟩ = true) :
    run f = (⟨[], .error .configExists⟩, f) := by
  rw [run, if_pos h]

/-- In a working directory that cannot be entered, nothing is written. -/
theorem grounded_of_write {bytes : ByteArray} (h : f.write ⟨Config.fileName⟩ bytes = .ok g) :
    f.Grounded := by
  unfold write at h
  cases hlocate : f.locate .newFile ⟨Config.fileName⟩ with
  | error e => simp [hlocate] at h
  | ok found =>
    have hstart := start_of_locate hlocate
    unfold start at hstart
    rw [if_neg (by decide)] at hstart
    split at hstart
    · next entries hat => exact ⟨entries, hat⟩
    · cases hstart
    · cases hstart

theorem ends_run (f : Files) : Ends f (run f) := by
  simp only [run]
  split
  · exact .failed _
  · next hmissing =>
    split
    · exact .failed _
    · next g hwrite =>
      obtain ⟨place, hplace, hchanged, hmade⟩ :=
        exists_fileChanged_of_write (grounded_of_write hwrite) hwrite
      refine .created ⟨hchanged, Option.eq_none_iff_forall_ne_some.2 fun n hn => ?_, hmade⟩
      exact hmissing (isThere_iff.2 ⟨place, n, hplace, hn⟩)

/-- Every file stays as it is. -/
theorem Ends.at?_file {result : Printed CommandResult} {names : List String} {node : Node}
    (h : Ends f (result, g)) (hfile : node.isFile = true) (hat : f.root.at? names = some node) :
    g.root.at? names = some node := by
  cases h with
  | failed => exact hat
  | created creates =>
    have hbare := creates.changed.elsewhere names fun heq => by
      rw [heq, creates.free] at hat
      cases hat
    rw [hat] at hbare
    obtain ⟨n, hn, heq⟩ := Option.map_eq_some_iff.1 hbare
    rw [hn, eq_of_bare_eq hfile heq]

/-! ### Where no settings are -/

/-- The files with the default settings in the working directory. -/
def written (f : Files) : Files :=
  f.put (f.cwd ++ [Config.fileName]) (.file defaultBytes)

theorem isFileName : IsFileName Config.fileName :=
  Config.isFileName_of_decides (.inl rfl)

theorem start_fileName (hground : f.Grounded) : f.start ⟨Config.fileName⟩ = .ok f.cwd := by
  obtain ⟨entries, hat⟩ := hground
  rw [start, if_neg (by decide), hat]

theorem place?_fileName (hground : f.Grounded) (hlinks : f.root.LinkFree) :
    f.place? ⟨Config.fileName⟩ = some (f.cwd ++ [Config.fileName]) := by
  rw [place?, locate, if_neg (by decide), if_neg (by decide), if_neg (by decide),
    start_fileName hground, show piecesOf Config.fileName = [Config.fileName] by decide +kernel]
  simp only [resolve_last hlinks isFileName.1 isFileName.2.2]
  rfl

theorem locate_newFile (hground : f.Grounded)
    (h : ¬ Config.Holds f.root f.cwd Config.fileName) :
    f.locate .newFile ⟨Config.fileName⟩ = .ok (f.cwd ++ [Config.fileName], none) := by
  have hfree : (f.root.at? f.cwd).bind (child? Config.fileName) = none := by
    rw [← at?_concat]
    exact Option.eq_none_iff_forall_ne_some.2 fun n hn => h ⟨n, hn⟩
  have hresolve : resolve f.root .newFile maxLinks f.cwd [Config.fileName] =
      .ok (f.cwd ++ [Config.fileName], none) := by
    rw [resolve, if_neg (by simp), if_neg (by decide), hfree]
    · rfl
    all_goals decide
  rw [locate, if_neg (by decide), if_neg (by decide), if_neg (by decide),
    start_fileName hground, show piecesOf Config.fileName = [Config.fileName] by decide +kernel]
  exact hresolve

theorem run_of_absent (hground : f.Grounded) (hlinks : f.root.LinkFree)
    (h : ¬ Config.Holds f.root f.cwd Config.fileName) :
    run f = (⟨[], .ok ⟨.init ⟨Config.fileName⟩, false⟩⟩, written f) := by
  have hmissing : ¬ f.isThere ⟨Config.fileName⟩ = true := by
    rw [isThere_iff, place?_fileName hground hlinks]
    rintro ⟨_, n, hplace, hat⟩
    cases hplace
    exact h ⟨n, hat⟩
  simp only [run, if_neg hmissing, write, locate_newFile hground h]
  rfl

theorem creates_written (hground : f.Grounded)
    (h : ¬ Config.Holds f.root f.cwd Config.fileName) :
    Creates (f.cwd ++ [Config.fileName]) defaultBytes f (written f) where
  changed := fileChanged_insert hground fun n hn => absurd ⟨n, hn⟩ h
  free := Option.eq_none_iff_forall_ne_some.2 fun n hn => h ⟨n, hn⟩
  made := at?_insert_self _ hground

/-! ### The settings that are found -/

section Found

variable {place : List String} {p : Path}

/-- A settings file that was not there before is the new one. -/
theorem place?_of_findIn {dirs : List Path} {path : Path} (hlinks : f.root.LinkFree)
    (h : FileChanged (place ++ [Config.fileName]) f g) (hmissing : Config.findIn f dirs = none)
    (hfound : Config.findIn g dirs = some path) :
    f.place? path = some (place ++ [Config.fileName]) := by
  induction dirs with
  | nil => cases hfound
  | cons dir dirs ih =>
    have hgit : g.isThere (dir.join ".git") = f.isThere (dir.join ".git") := by
      refine (h.sameKind fun hplace => ?_).isThere_eq
      obtain ⟨_, heq⟩ := exists_front_of_join hlinks
        (Config.isFileName_of_decides (.inr rfl)).1 hplace
      exact absurd (List.append_singleton_inj.1 heq).2 (by decide)
    rw [Config.findIn] at hmissing hfound
    split at hmissing
    · cases hmissing
    · next hold =>
      rw [hgit] at hfound
      split at hfound
      · next hnew =>
        cases hfound
        exact (h.isThere_or hnew).resolve_left hold
      · split at hmissing
        · next hstop =>
          rw [if_pos hstop] at hfound
          cases hfound
        · next hgo =>
          rw [if_neg hgo] at hfound
          exact ih hmissing hfound

/-- The search from a directory starts in it. -/
theorem exists_ancestors (p : Path) : ∃ above, p.ancestors = p :: above := by
  rw [Path.ancestors]
  split <;> exact ⟨_, rfl⟩

/-- The new file is found first. -/
theorem find_of_fits (hlinks : f.root.LinkFree) (hleads : f.LeadsDir p place)
    (h : Creates (place ++ [Config.fileName]) defaultBytes f g)
    (hfits : (p.join Config.fileName).text.utf8ByteSize ≤ maxPath) :
    Config.find g p = some (p.join Config.fileName) := by
  have hplace : f.place? (p.join Config.fileName) = some (place ++ [Config.fileName]) :=
    place?_eq_some_iff.2 ⟨_, hleads.locate_join hlinks isFileName hfits⟩
  have hthere : g.isThere (p.join Config.fileName) = true :=
    isThere_iff.2 ⟨_, _, by rw [h.changed.samePlaces.place?_eq, hplace], h.made⟩
  obtain ⟨above, hp⟩ := exists_ancestors p
  rw [Config.find, hp, Config.findIn, if_pos hthere]

/-- A path to the new file that is too long does not lead to it, and no other directory has it. -/
theorem find_of_long (hlinks : f.root.LinkFree) (hspells : f.SpellsDir p)
    (h : Creates (p.names ++ [Config.fileName]) defaultBytes f g)
    (hmissing : Config.find f p = none)
    (hlong : maxPath < (p.join Config.fileName).text.utf8ByteSize) : Config.find g p = none := by
  refine Option.eq_none_iff_forall_ne_some.2 fun path hfound => ?_
  have hplace := place?_of_findIn hlinks h.changed hmissing hfound
  obtain ⟨n, hlocate⟩ := place?_eq_some_iff.1 hplace
  have hfits := size_of_locate hlocate
  obtain ⟨dir, hdir, rfl⟩ := Config.exists_of_findIn hfound
  rw [(hspells.of_mem_ancestors hdir).leadsDir.locate_join hlinks isFileName hfits] at hlocate
  have hnames : dir.names = p.names := by
    simp only [Except.ok.injEq, Prod.mk.injEq, List.append_singleton_inj] at hlocate
    exact hlocate.1.1
  rw [Path.ancestors] at hdir
  split at hdir
  · obtain rfl := List.mem_singleton.1 hdir
    exact Nat.not_lt.2 hfits hlong
  · next parent hparent =>
    rcases List.mem_cons.1 hdir with rfl | hdir
    · exact Nat.not_lt.2 hfits hlong
    · obtain ⟨habsolute, ⟨last, hlast⟩, -⟩ := Path.parent?_spec hspells.isAbsolute hparent
      obtain ⟨-, hprefix, -⟩ := Path.mem_ancestors habsolute hdir
      have hlength := hprefix.length_le
      rw [hnames, hlast, List.length_append, List.length_singleton] at hlength
      omega

/-- Whether it is found or not, the default settings hold. -/
theorem isFor_default (hlinks : f.root.LinkFree)
    (h : Creates (place ++ [Config.fileName]) defaultBytes f g)
    (hmissing : Config.find f p = none) : Config.IsFor g p .default := by
  cases hfound : Config.find g p with
  | none => exact .default hfound
  | some path =>
    have hplace := place?_of_findIn hlinks h.changed hmissing hfound
    have htext : String.fromUTF8? defaultBytes = some Config.default.pretty :=
      fromUTF8?_toByteArray _
    have hparse : Config.parse Config.default.pretty = .ok .default := by
      have hspaced := Config.parse_spaced Json.spaces_nil Json.spaces_nil .default
      rwa [List.append_nil, List.nil_append] at hspaced
    have hread : g.readText path = .ok Config.default.pretty :=
      readText_eq_ok.2
        ⟨_, _, _, by rw [h.changed.samePlaces.place?_eq, hplace], h.made, rfl, htext⟩
    exact .written hfound hread hparse rfl

end Found

/-! ### A check before and after -/

/-- What a verbose check says about the file that its settings come from. -/
def usingConfig (verbose : Bool) (source : Option Path) : List Notice :=
  match source with
  | some path =>
    if verbose then
      [.line .errors [.strong .cyan "info:", .plain (" Using config " ++ path.text)]]
    else []
  | none => []

section Check

variable {options : Check.Options} {root : Path} {config : Config}

theorem notices_resolve (habsolute : f.absoluteRoot options.root = .ok root)
    (h : Config.IsFor f root config) :
    (Check.resolve f options).notices = usingConfig options.verbose (Config.find f root) := by
  simp only [Check.resolve, habsolute, h.load_eq]
  rfl

/-- The settings of a project are the defaults, and so are those of the files that have them
written. -/
theorem exists_default_project (hplaces : f.SamePlaces g)
    (habsolute : f.absoluteRoot options.root = .ok root) (hf : Config.IsFor f root .default)
    (hg : Config.IsFor g root .default) :
    ∃ p, Check.IsProject f options p ∧ Check.IsProject g options p ∧ p.root = root ∧
      p.config = .default :=
  have hdir := rfl
  ⟨⟨.default, root, root.join ((options.langRoot.map Path.text).getD Config.default.langRoot), []⟩,
    ⟨habsolute, hf, hdir, rfl⟩,
    ⟨(hplaces.absoluteRoot_eq _).trans habsolute, hg, hdir, rfl⟩, rfl, rfl⟩

/-- The new file is neither a table nor a source of a project with the default settings. -/
theorem examine_eq {p : Check.Project} (hf : f.root.Proper) (hlinks : f.root.LinkFree)
    (hground : f.Grounded) (h : Creates (f.cwd ++ [Config.fileName]) defaultBytes f (written f))
    (hleads : f.LeadsDir p.root f.cwd) (hconfig : p.config = .default) (race : Nat)
    (verbose : Bool) :
    Check.examine race (written f) p verbose = Check.examine race f p verbose := by
  have hg : (written f).root.Proper := hf.insert hground isFileName.1 (.file _)
  have hlinks' : (written f).root.LinkFree := hlinks.insert hground (.file _)
  have hplaces := h.changed.samePlaces
  have hinputs : p.SameInputs f (written f) := by
    refine Check.sameInputs_of_fileChanged hf hg hlinks hlinks' h.changed ?_ ?_ fun hroot => ?_
    · rw [hconfig]
      decide +kernel
    · rw [hconfig]
      decide +kernel
    · simpa using hleads.eq_of_place? hroot
  have hbars : Sources.SameBars f (written f) p.root := by
    by_cases hlong : maxPath < p.root.text.utf8ByteSize
    · exact Sources.sameBars_of_long hlong
    · exact Sources.sameBars_of_isDir hf hg hplaces
        (isDir_iff.2 ⟨_, hleads.place?_eq (Nat.not_lt.1 hlong), .inl hground⟩)
  exact hinputs.examine_eq hf hg hlinks hlinks' hplaces hbars race verbose

end Check

/-- With the new file, a directory that had no settings is treated as before. -/
structure Neutral (f g : Files) (given : Option Path) (p : Path) : Prop where
  find_eq : (p.join Config.fileName).text.utf8ByteSize ≤ maxPath →
    Config.find g p = some (p.join Config.fileName)
  load_eq : Config.load g p = .ok ⟨.default, Config.find g p⟩
  check_eq : ∀ (race : Nat) (options : Check.Options), options.root = given →
    (Check.run race g options).outcome = (Check.run race f options).outcome ∧
      (Check.run race g options).notices =
        usingConfig options.verbose (Config.find g p) ++ (Check.run race f options).notices
  start_eq : ∀ marks arguments options, Request.parse arguments = .ok (.check options) →
    options.root = given → ∀ race race',
    (Program.start marks race' g arguments).code = (Program.start marks race f arguments).code ∧
      (∀ palette, Notice.renderAll palette .output (Program.start marks race' g arguments).notices =
        Notice.renderAll palette .output (Program.start marks race f arguments).notices) ∧
      (race' = race ∨ Check.SingleFault f options →
        (Program.start marks race' g arguments).notices =
          usingConfig options.verbose (Config.find g p) ++
            (Program.start marks race f arguments).notices)
  specs_eq : Patch.specs g given = Patch.specs f given

/-- What a check says first comes first in all that is printed. -/
theorem start_of_run {options : Check.Options} {first : List Notice} {arguments : List String}
    {race : Nat} (marks : Stream → Bool)
    (harguments : Request.parse arguments = .ok (.check options))
    (houtcome : (Check.run race g options).outcome = (Check.run race f options).outcome)
    (hnotices : (Check.run race g options).notices = first ++ (Check.run race f options).notices) :
    (Program.start marks race g arguments).code = (Program.start marks race f arguments).code ∧
      (Program.start marks race g arguments).notices =
        first ++ (Program.start marks race f arguments).notices := by
  simp only [Program.start, harguments, Program.carryOut, Program.report, houtcome, hnotices]
  cases (Check.run race f options).outcome with
  | error e => cases e <;> exact ⟨rfl, by simp⟩
  | ok result =>
    cases hcomplete : Report.isComplete options.verbose result.summary <;> simp [hcomplete]

/-- What names the settings is not printed on the output. -/
theorem renderAll_usingConfig (palette : Palette) (verbose : Bool) (source : Option Path)
    (notices : List Notice) :
    Notice.renderAll palette .output (usingConfig verbose source ++ notices) =
      Notice.renderAll palette .output notices := by
  have hnone : (usingConfig verbose source).filter (·.stream == .output) = [] := by
    cases source <;> cases verbose <;> rfl
  rw [Notice.renderAll, Notice.renderAll, List.filter_append, hnone, List.nil_append]

theorem neutral_written {given : Option Path} {p : Path} (hf : f.root.Proper)
    (hlinks : f.root.LinkFree) (hground : f.Grounded) (hcwd : ∀ name ∈ f.cwd, IsFileName name)
    (habsent : ¬ Config.Holds f.root f.cwd Config.fileName)
    (hplace : f.place? (given.getD ⟨"."⟩) = some f.cwd) (habsolute : f.absoluteRoot given = .ok p)
    (hmissing : Config.find f p = none) : Neutral f (written f) given p := by
  obtain ⟨_, habsolute', hread⟩ := exists_absoluteRoot hplace
  rw [habsolute, Except.ok.injEq] at habsolute'
  subst habsolute'
  have hleads := leadsDir_of_absolute? hlinks hcwd hplace hground hread
  have hcreates := creates_written hground habsent
  have hfor : Config.IsFor f p .default := .default hmissing
  have hfor' := isFor_default hlinks hcreates hmissing
  have hplaces := hcreates.changed.samePlaces
  have hcheck : ∀ (race : Nat) (options : Check.Options), options.root = given →
      (Check.run race (written f) options).outcome = (Check.run race f options).outcome ∧
        (Check.run race (written f) options).notices =
          usingConfig options.verbose (Config.find (written f) p) ++
            (Check.run race f options).notices := by
    rintro race options rfl
    obtain ⟨q, hq, hq', rfl, hconfig⟩ := exists_default_project hplaces habsolute hfor hfor'
    have hexamine := examine_eq hf hlinks hground hcreates hleads hconfig race options.verbose
    constructor
    · rw [Check.outcome_run_of_ok hq.resolve_eq, Check.outcome_run_of_ok hq'.resolve_eq, hexamine]
    · rw [Check.notices_run_of_ok hq.resolve_eq, Check.notices_run_of_ok hq'.resolve_eq, hexamine,
        Check.opening, Check.opening, notices_resolve hq.root hq.settings,
        notices_resolve hq'.root hq'.settings, hmissing]
      simp only [usingConfig, List.nil_append, List.append_assoc]
  exact
    { find_eq := find_of_fits hlinks hleads hcreates
      load_eq := hfor'.load_eq
      check_eq := hcheck
      start_eq := fun marks arguments options harguments hgiven race race' => by
        obtain ⟨houtcome, hnotices⟩ := hcheck race' options hgiven
        obtain ⟨hcode, hall⟩ := start_of_run marks harguments houtcome hnotices
        obtain ⟨hcode', houtput, hsingle⟩ := Check.start_race hf marks harguments race race'
        refine ⟨hcode.trans hcode', fun palette => ?_, ?_⟩
        · rw [hall, renderAll_usingConfig, houtput]
        · rintro (rfl | h)
          · exact hall
          · rw [hall, hsingle h]
      specs_eq := by
        have habsolute' : (written f).absoluteRoot given = .ok p :=
          (hplaces.absoluteRoot_eq given).trans habsolute
        simp only [Patch.specs, habsolute, habsolute', hfor.load_eq, hfor'.load_eq]
        rfl }

/-- `init` changes no file that is there: it fails and leaves all as it was, as it always does where
there is a settings file, or it makes one file. In a tree without links, where nothing stands under
the file's name, it makes it; and for a root that is the working directory, and for which no
settings were found, the default settings hold as before. The new file is found for such a root if
the path to it is not too long, a check and a patch run come to the same, and `init` fails when it
is run again. -/
theorem run_neutral (f : Files) :
    Ends f (run f) ∧
      (∀ names node, node.isFile = true → f.root.at? names = some node →
        (run f).2.root.at? names = some node) ∧
      (f.isThere ⟨Config.fileName⟩ = true → run f = (⟨[], .error .configExists⟩, f)) ∧
      (f.Grounded → f.root.Proper → f.root.LinkFree → (∀ name ∈ f.cwd, IsFileName name) →
        ¬ Config.Holds f.root f.cwd Config.fileName →
        ∃ g, run f = (⟨[], .ok ⟨.init ⟨Config.fileName⟩, false⟩⟩, g) ∧
          run g = (⟨[], .error .configExists⟩, g) ∧
          ∀ given p, f.place? (given.getD ⟨"."⟩) = some f.cwd → f.absoluteRoot given = .ok p →
            Config.find f p = none → Neutral f g given p) := by
  have hends := ends_run f
  refine ⟨hends, fun names node => hends.at?_file, run_of_isThere, ?_⟩
  intro hground hf hlinks hcwd habsent
  have hcreates := creates_written hground habsent
  have hthere : (written f).isThere ⟨Config.fileName⟩ = true :=
    isThere_iff.2 ⟨_, _,
      by rw [hcreates.changed.samePlaces.place?_eq, place?_fileName hground hlinks], hcreates.made⟩
  exact ⟨written f, run_of_absent hground hlinks habsent, run_of_isThere hthere,
    fun given p => neutral_written hf hlinks hground hcwd habsent⟩

theorem run_neutral_sample :
    Check.sample.Grounded ∧ Check.sample.root.Proper ∧ Check.sample.root.LinkFree ∧
      (∀ name ∈ Check.sample.cwd, IsFileName name) ∧
      ¬ Config.Holds Check.sample.root Check.sample.cwd Config.fileName ∧
      Config.find Check.sample ⟨"/"⟩ = none ∧
      ∃ g, run Check.sample = (⟨[], .ok ⟨.init ⟨Config.fileName⟩, false⟩⟩, g) ∧
        Neutral Check.sample g none ⟨"/"⟩ := by
  have hcwd : ∀ name ∈ Check.sample.cwd, IsFileName name := by simp [Check.sample]
  have habsent : ¬ Config.Holds Check.sample.root Check.sample.cwd Config.fileName := by
    rintro ⟨_, hn⟩
    cases hn
  obtain ⟨-, -, -, hmade⟩ := run_neutral Check.sample
  obtain ⟨g, hrun, -, hneutral⟩ :=
    hmade Check.sample_grounded Check.sample_proper Check.sample_linkFree hcwd habsent
  exact ⟨Check.sample_grounded, Check.sample_proper, Check.sample_linkFree, hcwd, habsent,
    Check.sample_config, g, hrun,
    hneutral none ⟨"/"⟩ Check.sample_root_place?.2 Check.sample_absoluteRoot Check.sample_config⟩

/-! ### A directory too deep for its new file -/

/-- So many directories of one name, each in the one before. -/
def nest (name : String) : Nat → Node
  | 0 => .emptyDir
  | n + 1 => .dir [(name, nest name n)]

theorem nest_proper {name : String} (h : IsName name) (n : Nat) : (nest name n).Proper := by
  induction n with
  | zero => exact .dir _ .nil (by simp) (by simp)
  | succ n ih => exact .dir _ (by simp) (by simpa using h) (by simpa using ih)

theorem nest_linkFree (name : String) (n : Nat) : (nest name n).LinkFree := by
  induction n with
  | zero => exact .dir _ (by simp)
  | succ n ih => exact .dir _ (by simpa using ih)

theorem at?_nest (name : String) (n : Nat) :
    (nest name n).at? (List.replicate n name) = some .emptyDir := by
  induction n with
  | zero => rfl
  | succ n ih => simpa [nest, List.replicate_succ, at?, child?, lookup] using ih

theorem nest_holds {name other : String} (h : other ≠ name) (n : Nat) (dir : List String) :
    ¬ Config.Holds (nest name n) dir other := by
  rintro ⟨m, hm⟩
  induction n generalizing dir with
  | zero => cases dir <;> simp [nest, emptyDir, at?, child?, lookup] at hm
  | succ n ih =>
    cases dir with
    | nil => simp [nest, at?, child?, lookup, Ne.symm h] at hm
    | cons first dir =>
      rw [nest, List.cons_append, at?, child?, lookup] at hm
      split at hm
      · exact ih dir hm
      · cases hm

/-- Where there is no settings file, none is found. -/
theorem find_eq_none (hlinks : f.root.LinkFree)
    (h : ∀ dir, ¬ Config.Holds f.root dir Config.fileName) (start : Path) :
    Config.find f start = none := by
  refine Option.eq_none_iff_forall_ne_some.2 fun path hfound => ?_
  obtain ⟨dir, -, rfl⟩ := Config.exists_of_findIn hfound
  obtain ⟨place, n, hplace, hat⟩ := isThere_iff.1 (Config.isThere_of_findIn hfound)
  obtain ⟨front, rfl⟩ := exists_front_of_join hlinks isFileName.1 hplace
  exact h front ⟨n, hat⟩

def deepName : String := String.ofList (List.replicate 226 'd')

/-- The path of the working directory has 4086 bytes. -/
def deep : Files where
  root := nest deepName 18
  cwd := List.replicate 18 deepName

theorem toList_deepName : deepName.toList = List.replicate 226 'd' := String.toList_ofList

theorem deepName_ne {other : String} (h : other.toList.length ≠ 226) : deepName ≠ other := by
  rintro rfl
  exact h (by rw [toList_deepName, List.length_replicate])

theorem deepName_isFileName : IsFileName deepName := by
  have hsize : deepName.utf8ByteSize = 226 := by
    rw [← String.utf8Len_toList, toList_deepName]
    decide +kernel
  refine ⟨⟨deepName_ne (by decide), deepName_ne (by decide), deepName_ne (by decide), ?_⟩, ?_, ?_⟩
  · rw [toList_deepName, List.mem_replicate]
    decide
  · rw [toList_deepName, List.mem_replicate]
    decide
  · rw [hsize]
    decide

theorem deep_size : maxPath < (deep.here.join Config.fileName).text.utf8ByteSize := by
  have hsize : deep.here.text.utf8ByteSize = 4086 := by
    rw [← String.utf8Len_toList, toList_here,
      show deep.cwd = List.replicate 18 deepName from rfl, List.map_replicate, toList_deepName]
    decide +kernel
  obtain ⟨size, -, hle, hjoin⟩ := Path.exists_size_join
    (Path.text_ne_empty (isAbsolute_here deep))
  rw [hjoin Config.fileName isFileName.1.head?_ne, show Config.fileName.utf8ByteSize = 13 by decide,
    maxPath]
  omega

/-- In a working directory whose path is almost as long as a path can be, `init` makes the file, and
the search from there does not find it. -/
theorem deep_not_found :
    deep.root.Proper ∧ deep.root.LinkFree ∧ deep.Grounded ∧
      (∀ name ∈ deep.cwd, IsFileName name) ∧
      ¬ Config.Holds deep.root deep.cwd Config.fileName ∧
      deep.absoluteRoot none = .ok deep.here ∧ Config.find deep deep.here = none ∧
      ∃ g, run deep = (⟨[], .ok ⟨.init ⟨Config.fileName⟩, false⟩⟩, g) ∧
        Config.find g deep.here = none := by
  have hlinks : deep.root.LinkFree := nest_linkFree _ _
  have hground : deep.Grounded := ⟨[], at?_nest _ _⟩
  have hcwd : ∀ name ∈ deep.cwd, IsFileName name := by
    intro name hname
    rw [List.eq_of_mem_replicate hname]
    exact deepName_isFileName
  have hholds : ∀ dir, ¬ Config.Holds deep.root dir Config.fileName :=
    nest_holds (deepName_ne (by decide)).symm 18
  have hnames := names_here hcwd
  have hspells : deep.SpellsDir deep.here :=
    { isAbsolute := isAbsolute_here deep
      dirAt := by rwa [hnames]
      noParent := fun hup => (hcwd _ (hnames ▸ hup)).1.2.2.1 rfl
      short := fun name hname => (hcwd name (hnames ▸ hname)).2.2
      noNul := not_mem_here hcwd }
  have hcreates := creates_written hground (hholds deep.cwd)
  rw [← hnames] at hcreates
  have hmissing := find_eq_none hlinks hholds deep.here
  exact ⟨nest_proper deepName_isFileName.1 _, hlinks, hground, hcwd, hholds _,
    absoluteRoot_of_absolute? rfl hground.hasHere, hmissing, _,
    run_of_absent hground hlinks (hholds _),
    find_of_long hlinks hspells hcreates hmissing deep_size⟩

end Init

end FirmwareKit
