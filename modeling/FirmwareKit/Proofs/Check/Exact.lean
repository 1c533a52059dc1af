import FirmwareKit.Program
import FirmwareKit.Proofs.Check.Run
import FirmwareKit.Proofs.Check.Uses
import FirmwareKit.Proofs.Issue.Exact
import FirmwareKit.Proofs.Table.Listing
import FirmwareKit.Proofs.Usage.Linewise

/-! Exactness of a whole check. Its findings are the keys used in the sources and the
tables that lack them, each once, at the first use and in the order of the places of
these and of the names of the tables. The report and the exit status say just that, unless the
report is verbose and ends where a padding is too wide. -/

namespace FirmwareKit.Check

open Report

/-- A file of the language directory holds the table. -/
def IsTable (files : Files) (p : Project) (t : Table) : Prop :=
  t.IsListed files p.langDir p.config.langExtension

/-- A use with its place, and a table that lacks the key. -/
structure Finding where
  place : Place
  use : Usage
  table : Table
  deriving DecidableEq, Repr

namespace Finding

def issue (f : Finding) : Issue := .between f.use f.table

/-- At an earlier place, or at the same place and about a table with a smaller name. -/
def Before (f g : Finding) : Prop :=
  f.place.Before g.place ∨ f.place = g.place ∧ f.table.name < g.table.name

end Finding

/-- What the findings in a project have to be. -/
structure Exact (files : Files) (p : Project) (found : List Finding) : Prop where
  lacks : ∀ f ∈ found, IsTable files p f.table ∧ f.table.contains f.use.key = false
  first_use : ∀ f ∈ found, IsUse files p f.place f.use ∧
    ∀ place u, IsUse files p place u → u.key = f.use.key →
      place = f.place ∨ f.place.Before place
  complete : ∀ place u t, IsUse files p place u → IsTable files p t →
    t.contains u.key = false → ∃ f ∈ found, f.use.key = u.key ∧ f.table = t
  once : found.Pairwise fun f g => ¬ (f.use.key = g.use.key ∧ f.table.name = g.table.name)
  ordered : found.Pairwise Finding.Before

/-! ### Only one list is exact -/

instance : Std.Asymm Finding.Before where
  asymm f g h := by
    rcases h with h | ⟨hplace, h⟩
    · rintro (h' | ⟨hplace', -⟩)
      · exact h.asymm h'
      · rw [hplace'] at h
        exact h.asymm h
    · rintro (h' | ⟨-, h'⟩)
      · rw [hplace] at h'
        exact h'.asymm h'
      · exact lt_asymm h h'

namespace Exact

variable {files : Files} {p : Project} {found other : List Finding}

theorem subset (h : Exact files p found) (h' : Exact files p other) : found ⊆ other := by
  intro f hf
  obtain ⟨hu, hfirst⟩ := h.first_use f hf
  obtain ⟨htable, hlacks⟩ := h.lacks f hf
  obtain ⟨g, hg, hkey, hgtable⟩ := h'.complete _ _ _ hu htable hlacks
  obtain ⟨hv, hfirst'⟩ := h'.first_use g hg
  -- each place is the first one for the key, so they are the same
  have hplace : g.place = f.place := by
    rcases hfirst g.place g.use hv hkey with heq | hbefore
    · exact heq
    · rcases hfirst' f.place f.use hu hkey.symm with heq | hbefore'
      · exact heq.symm
      · exact absurd hbefore' hbefore.asymm
  have huse : g.use = f.use := (hplace ▸ hv).unique hu
  have heq : f = g := by
    rw [show g = ⟨g.place, g.use, g.table⟩ from rfl, hplace, huse, hgtable]
  rw [heq]
  exact hg

theorem unique (h : Exact files p found) (h' : Exact files p other) : found = other :=
  List.Subset.antisymm_of_pairwise h.ordered h'.ordered (h.subset h') (h'.subset h)

end Exact

/-! ### From positions to places -/

/-- In an ordered list a smaller position has an earlier element. -/
theorem before_of_lt {α : Type} {R : α → α → Prop} {l : List α} (h : l.Pairwise R) {i j : Nat}
    {a b : α} (ha : l[i]? = some a) (hb : l[j]? = some b) (hlt : i < j) : R a b := by
  obtain ⟨hi, rfl⟩ := List.getElem?_eq_some_iff.1 ha
  obtain ⟨hj, rfl⟩ := List.getElem?_eq_some_iff.1 hb
  exact List.pairwise_iff_getElem.1 h i j hi hj hlt

/-- The place at a position; what stands for positions that there are none of does not matter. -/
def placeAt (placed : List (Place × Usage)) (i : Nat) : Place :=
  (placed[i]?.map Prod.fst).getD ⟨[], 0, 0⟩

/-- A finding by positions, with the place instead. -/
def ofPositions (placed : List (Place × Usage)) (f : Issue.Finding) : Finding :=
  ⟨placeAt placed f.useIndex, f.use, f.table⟩

section Placed

variable {files : Files} {p : Project} {placed : List (Place × Usage)} {tables : List Table}
  {f g : Issue.Finding}

theorem placed_of_mem (hf : f ∈ Issue.findings tables (placed.map Prod.snd)) :
    placed[f.useIndex]? = some (placeAt placed f.useIndex, f.use) := by
  have huse := (Issue.isFirst_of_mem hf).use_at
  rw [List.getElem?_map] at huse
  obtain ⟨x, hx, hsnd⟩ := Option.map_eq_some_iff.1 huse
  rw [placeAt, hx, ← hsnd]
  rfl

/-- The place of a finding is the first one where its key is used. -/
theorem first_of_mem (hordered : placed.Pairwise fun a b => a.1.Before b.1)
    (hf : f ∈ Issue.findings tables (placed.map Prod.snd)) {place : Place} {u : Usage}
    (hu : (place, u) ∈ placed) (hkey : u.key = f.use.key) :
    place = placeAt placed f.useIndex ∨ (placeAt placed f.useIndex).Before place := by
  obtain ⟨j, hj⟩ := List.mem_iff_getElem?.1 hu
  have hplaced := placed_of_mem hf
  rcases Nat.lt_trichotomy j f.useIndex with hlt | rfl | hlt
  · refine absurd hkey ((Issue.isFirst_of_mem hf).use_first j hlt u ?_)
    rw [List.getElem?_map, hj]
    rfl
  · rw [hj, Option.some.injEq] at hplaced
    exact .inl (congrArg Prod.fst hplaced)
  · exact .inr (before_of_lt hordered hplaced hj hlt)

theorem before_ofPositions (hordered : placed.Pairwise fun a b => a.1.Before b.1)
    (hnames : tables.Pairwise fun s t => s.name < t.name)
    (hf : f ∈ Issue.findings tables (placed.map Prod.snd))
    (hg : g ∈ Issue.findings tables (placed.map Prod.snd)) (h : f.Before g) :
    (ofPositions placed f).Before (ofPositions placed g) := by
  rcases h with hlt | ⟨heq, hlt⟩
  · exact .inl (before_of_lt hordered (placed_of_mem hf) (placed_of_mem hg) hlt)
  · refine .inr ⟨congrArg (placeAt placed) heq, ?_⟩
    exact before_of_lt hnames (Issue.isFirst_of_mem hf).table_at (Issue.isFirst_of_mem hg).table_at
      hlt

/-- The findings of the comparison are those of the project. -/
theorem exact_of_placed (hordered : placed.Pairwise fun a b => a.1.Before b.1)
    (hplaced : ∀ place u, (place, u) ∈ placed ↔ IsUse files p place u)
    (hnames : tables.Pairwise fun s t => s.name < t.name)
    (htables : ∀ t, t ∈ tables ↔ IsTable files p t) :
    Exact files p ((Issue.findings tables (placed.map Prod.snd)).map (ofPositions placed)) where
  lacks := by
    intro f' hf'
    obtain ⟨f, hf, rfl⟩ := List.mem_map.1 hf'
    have hfirst := Issue.isFirst_of_mem hf
    exact ⟨(htables _).1 (List.mem_of_getElem? hfirst.table_at), hfirst.lacks⟩
  first_use := by
    intro f' hf'
    obtain ⟨f, hf, rfl⟩ := List.mem_map.1 hf'
    refine ⟨(hplaced _ _).1 (List.mem_of_getElem? (placed_of_mem hf)), fun place u hu hkey => ?_⟩
    exact first_of_mem hordered hf ((hplaced _ _).2 hu) hkey
  complete := by
    intro place u t hu ht hlack
    have hmem : u ∈ placed.map Prod.snd := List.mem_map.2 ⟨_, (hplaced _ _).2 hu, rfl⟩
    have hlacks : Issue.Lacks tables u.key t.name := ⟨t, (htables t).2 ht, rfl, hlack⟩
    obtain ⟨f, hf, hkey, hname⟩ := Issue.exists_finding ⟨u, hmem, rfl⟩ hlacks
    refine ⟨_, List.mem_map_of_mem hf, hkey, ?_⟩
    have hnodup : (tables.map Table.name).Nodup := List.pairwise_map.2 (hnames.imp ne_of_lt)
    have htable := List.mem_of_getElem? (Issue.isFirst_of_mem hf).table_at
    exact List.inj_on_of_nodup_map hnodup htable ((htables t).2 ht) hname
  once := by
    refine List.pairwise_map.2 ((Issue.findings_ordered _ _).imp_of_mem fun hf hg hlt h => ?_)
    exact (Issue.isFirst_of_mem hf).not_before (Issue.isFirst_of_mem hg) h.1 h.2 hlt
  ordered := by
    refine List.pairwise_map.2 ((Issue.findings_ordered _ _).imp_of_mem fun hf hg hlt => ?_)
    exact before_ofPositions hordered hnames hf hg hlt

end Placed

/-! ### Projects of one source and one table -/

/-- A source file with a text and a table without keys, both in the root directory. -/
def holding (text : String) : Files where
  root := .dir [("a.c", .file text.toByteArray), ("e.lang", .file "{}".toByteArray)]
  cwd := []

/-- The project whose source uses one key. -/
def sample : Files where
  root := .dir
    [("a.c", .file "localized_string(\"k\")".toByteArray), ("e.lang", .file "{}".toByteArray)]
  cwd := []

def sampleOptions : Options := { langRoot := some ⟨"/"⟩, strict := true }

def sampleProject : Project := ⟨.default, ⟨"/"⟩, ⟨"/"⟩, []⟩

section Holding

variable (text : String)

theorem holding_proper : (holding text).root.Proper := by
  refine .dir _ (by simp) ?_ ?_
  · simp only [List.forall_mem_cons]
    exact ⟨by simp [Node.IsName], by simp [Node.IsName], by simp⟩
  · simp only [List.forall_mem_cons]
    exact ⟨.file _, .file _, by simp⟩

theorem holding_find (aim : Files.Aim) :
    (holding text).find aim ⟨"/"⟩ = .ok (holding text).root ∧
      (holding text).find aim ⟨"/a.c"⟩ = .ok (.file text.toByteArray) ∧
      (holding text).find aim ⟨"/e.lang"⟩ = .ok (.file "{}".toByteArray) ∧
      (holding text).find aim ⟨"/.git"⟩ = .error .notFound ∧
      (holding text).find aim ⟨"/.esperrc.json"⟩ = .error .notFound := by
  simp +decide [Files.find, Files.locate, Files.start, Files.piecesOf, Path.pieces, Files.resolve,
    holding, Node.at?, Node.child?, Node.lookup]

theorem holding_isFile : (holding text).isFile ⟨"/"⟩ = false ∧ (holding text).isFile ⟨"/a.c"⟩ ∧
    (holding text).isFile ⟨"/e.lang"⟩ := by
  obtain ⟨hroot, hsource, htable, -, -⟩ := holding_find text .target
  rw [Files.isFile, Files.isFile, Files.isFile, hroot, hsource, htable]
  exact ⟨rfl, rfl, rfl⟩

theorem sample_extension? : (Path.mk "/a.c").extension? = some "c" ∧
    (Path.mk "/e.lang").extension? = some "lang" := by
  decide +kernel

theorem holding_list : (holding text).list ⟨"/"⟩ = .ok ["a.c", "e.lang"] := by
  rw [Files.list, (holding_find text _).1]
  rfl

theorem holding_absoluteRoot : (holding text).absoluteRoot none = .ok ⟨"/"⟩ := by
  rw [Files.absoluteRoot, show (holding text).here = ⟨"/"⟩ from rfl,
    show Path.absolute? ⟨"/"⟩ ((none : Option Path).getD ⟨"."⟩) = some ⟨"/"⟩ by decide +kernel]
  rfl

theorem holding_config : Config.find (holding text) ⟨"/"⟩ = none := by
  obtain ⟨-, -, -, hgit, hconfig⟩ := holding_find text .target
  rw [Config.find, show Path.ancestors ⟨"/"⟩ = [⟨"/"⟩] by decide +kernel]
  simp [Config.findIn, Path.join, Config.fileName, Files.isThere, hgit, hconfig, Except.toOption]

theorem holding_resolve (verbose : Bool) :
    resolve (holding text) { sampleOptions with verbose } = ⟨[], .ok sampleProject⟩ := by
  have hproject : Project.ofConfig { sampleOptions with verbose } ⟨"/"⟩ .default =
      .ok sampleProject := by cases verbose <;> rfl
  rw [resolve, show sampleOptions.root = none from rfl, holding_absoluteRoot]
  simp only [Config.load, holding_config, hproject]

theorem holding_hasLangDir : sampleProject.hasLangDir (holding text) = true := by
  rw [Project.hasLangDir, Files.isDir, show sampleProject.langDir = ⟨"/"⟩ from rfl,
    (holding_find text .target).1]
  rfl

theorem holding_tables :
    Table.readDir (holding text) sampleProject.langDir sampleProject.config.langExtension =
      .ok [⟨"e.lang", ⟨"/e.lang"⟩, []⟩] := by
  obtain ⟨-, -, htable, -, -⟩ := holding_find text .target
  obtain ⟨-, hsourceFile, htableFile⟩ := holding_isFile text
  obtain ⟨hsource, hwanted⟩ := sample_extension?
  have hsorted : ["a.c", "e.lang"].mergeSort (· ≤ ·) = ["a.c", "e.lang"] :=
    List.mergeSort_of_pairwise (by decide +kernel)
  have hjson : Json.parse Json.Reader.names "{}" = .ok [] := by cbv
  have hname : (Path.mk "/e.lang").fileName? = some "e.lang" := by decide +kernel
  have hread : Table.read (holding text) ⟨"/e.lang"⟩ = .ok ⟨"e.lang", ⟨"/e.lang"⟩, []⟩ := by
    simp only [Table.read, Files.readText_of_find htable, hjson, Table.nameOf?, Files.isNamed,
      (holding_find text .entry).2.2.1, if_true, hname]
  show Table.readDir (holding text) ⟨"/"⟩ "lang" = _
  rw [Table.readDir, if_pos (by exact holding_hasLangDir text), holding_list]
  simp +decide [hsorted, Path.join, Table.isTable, hsourceFile, htableFile, hsource, hwanted,
    Table.readAll, hread, Except.map]

theorem holding_sources :
    Sources.scan (holding text) sampleProject.root sampleProject.config.sourceExtensions
      sampleProject.ignores = ⟨[⟨"/a.c"⟩], 0⟩ := by
  obtain ⟨hrootFile, hsourceFile, htableFile⟩ := holding_isFile text
  obtain ⟨hwanted, htable⟩ := sample_extension?
  have hsorted : Node.byName (holding text).root.entries = (holding text).root.entries :=
    List.mergeSort_of_pairwise (by simp [holding, Node.entries])
  have hwalk : Sources.walk (holding text) ⟨"/"⟩ = [.met [], .met ["a.c"], .met ["e.lang"]] := by
    rw [Sources.walk, (holding_find text _).1, (holding_find text _).1]
    show Sources.visit (holding text) ⟨"/"⟩ [] (.dir (holding text).root.entries) = _
    rw [Sources.visit_dir, hsorted, Sources.behind, Sources.joinNames, List.foldl_nil,
      holding_list]
    simp [holding, Node.entries, Sources.visit]
  show Sources.scan (holding text) ⟨"/"⟩ Config.default.sourceExtensions [] = _
  rw [Sources.scan, hwalk]
  simp +decide [Sources.Visit.place?, Sources.Visit.fault?, Sources.keeps, Sources.ignored,
    Sources.joinNames, Path.join, Sources.hasExtension, hrootFile, hsourceFile, htableFile, hwanted,
    htable]

theorem holding_usages (race : Nat) :
    Sources.usages (holding text) sampleProject.extractor race [⟨"/a.c"⟩] =
      .ok (sampleProject.extractor.usages "/a.c" text) := by
  have hread := Files.readText_of_find (holding_find text .target).2.1
  refine Sources.usages_eq_ok_iff.2 ⟨?_, ?_⟩
  · simpa using ⟨_, hread⟩
  · rw [List.flatMap_singleton, Sources.usesIn, hread]

/-- The findings are all uses, the table being empty. -/
theorem holding_run (race : Nat) (verbose : Bool) :
    (run race (holding text) { sampleOptions with verbose }).outcome =
      .ok ⟨.check
        { langDir := ⟨"/"⟩
          langDirMissing := false
          issues := Issue.missing [⟨"e.lang", ⟨"/e.lang"⟩, []⟩]
            (sampleProject.extractor.usages "/a.c" text)
          filesChecked := 1
          tablesChecked := 1 }, true⟩ := by
  rw [run, holding_resolve]
  simp only [examine, if_pos (holding_hasLangDir text), load, holding_tables, holding_sources,
    compare, holding_usages]
  rfl

end Holding

theorem sample_proper : sample.root.Proper := holding_proper _

theorem sample_absoluteRoot : sample.absoluteRoot none = .ok ⟨"/"⟩ := holding_absoluteRoot _

theorem sample_config : Config.find sample ⟨"/"⟩ = none := holding_config _

theorem sample_resolve : resolve sample sampleOptions = ⟨[], .ok sampleProject⟩ :=
  holding_resolve _ false

theorem sample_hasLangDir : sampleProject.hasLangDir sample = true := holding_hasLangDir _

theorem sample_tables :
    Table.readDir sample sampleProject.langDir sampleProject.config.langExtension =
      .ok [⟨"e.lang", ⟨"/e.lang"⟩, []⟩] :=
  holding_tables _

theorem sample_sources :
    Sources.scan sample sampleProject.root sampleProject.config.sourceExtensions
      sampleProject.ignores = ⟨[⟨"/a.c"⟩], 0⟩ :=
  holding_sources _

def sampleSummary : CheckSummary where
  langDir := ⟨"/"⟩
  langDirMissing := false
  issues := [⟨"k", ⟨"/e.lang"⟩, ⟨⟨"/a.c", 1, 1⟩, "localized_string(\"k\")"⟩⟩]
  filesChecked := 1
  tablesChecked := 1

theorem sample_run (race : Nat) :
    (run race sample sampleOptions).outcome = .ok ⟨.check sampleSummary, true⟩ := by
  have hfound : sampleProject.extractor.usages "/a.c" "localized_string(\"k\")" =
      [⟨"k", ⟨⟨"/a.c", 1, 1⟩, "localized_string(\"k\")"⟩⟩] := by
    decide +kernel
  refine (holding_run _ race false).trans ?_
  rw [hfound]
  rfl

/-! ### A call behind blanks -/

/-- Blanks take a column each. -/
theorem measure_blanks (n : Nat) :
    Text.measure (List.replicate n ' ') = (↑n, Text.Ahead.nothing) := by
  induction n with
  | zero => rfl
  | succ n ih =>
    rw [Text.measure] at ih
    rw [List.replicate_succ, Text.measure, List.foldr_cons, ih, Int.natCast_succ]
    rfl

theorem width_blanks (n : Nat) : Text.width (List.replicate n ' ') = n := by
  rw [Text.width, measure_blanks, Int.toNat_natCast]

theorem quote_not_mem_key : '"' ∉ ['k'] := by
  simp

/-- A call of the one key. -/
def plainCall : Usage.Written where
  beforeOpening := []
  afterOpening := []
  key := ['k']
  beforeClosing := []
  blank_beforeOpening := Usage.blanks_nil
  blank_afterOpening := Usage.blanks_nil
  plain := quote_not_mem_key
  blank_beforeClosing := Usage.blanks_nil

/-- The call behind blanks. -/
def indentedLine (n : Nat) : List Char :=
  List.replicate n ' ' ++ plainCall.text "localized_string".toList

theorem indented_usages (n : Nat) :
    sampleProject.extractor.usages "/a.c" (String.ofList (indentedLine n)) =
      [⟨"k", ⟨⟨"/a.c", 1, n + 1⟩, String.ofList (indentedLine n)⟩⟩] := by
  have hline : '\n' ∉ indentedLine n := by simp [indentedLine, plainCall, Usage.Written.text]
  have hmarker : ¬ sampleProject.extractor.isExempt (indentedLine n) := by
    rw [Extractor.isExempt_iff]
    intro hmarker
    have hmem : ':' ∈ indentedLine n :=
      hmarker.subset (show ':' ∈ "esper:untranslated".toList by simp)
    simp [indentedLine, plainCall, Usage.Written.text] at hmem
  have hcalls : Usage.calls "localized_string".toList 0 (indentedLine n) = [(n, ['k'])] := by
    have hgap : '"' ∉ List.replicate n ' ' := by simp
    have hassembled := @Usage.calls_assemble "localized_string".toList
      ⟨'l', by simp, by decide⟩ (by simp) [⟨List.replicate n ' ', plainCall, hgap⟩] []
      List.not_mem_nil 0
    simpa [Usage.assemble, plainCall, indentedLine] using hassembled
  rw [Extractor.usages_of_not_mem _ _ hline, Extractor.onLine, if_neg hmarker]
  rw [show sampleProject.extractor.callName = "localized_string" from rfl, hcalls]
  rfl

theorem padding_indented (n : Nat) :
    padding ⟨⟨"/a.c", 1, n + 1⟩, String.ofList (indentedLine n)⟩ = n := by
  rw [padding, String.toList_ofList, Nat.add_sub_cancel, indentedLine,
    List.take_left' List.length_replicate, width_blanks]

theorem holding_issues (context : SourceContext) :
    Issue.missing [⟨"e.lang", ⟨"/e.lang"⟩, []⟩] [⟨"k", context⟩] =
      [⟨"k", ⟨"/e.lang"⟩, context⟩] := by
  rfl

/-! ### Whole checks -/

theorem exists_exact {race : Nat} {files : Files} {p : Project} {summary : CheckSummary}
    {verbose : Bool} (hroot : files.root.Proper) (hdir : p.hasLangDir files)
    (h : (examine race files p verbose).outcome = .ok summary) :
    ∃ found, Exact files p found ∧ summary.langDirMissing = false ∧
      summary.issues = found.map Finding.issue := by
  obtain ⟨tables, us, htables, hus, hmissing, hissues⟩ := examine_of_ok hdir h
  obtain ⟨placed, rfl, hordered, hplaced⟩ := exists_placed hroot hus
  refine ⟨_, exact_of_placed hordered hplaced (Table.readDir_pairwise hroot htables)
    (Table.mem_readDir htables), hmissing, ?_⟩
  rw [hissues, Issue.missing_eq_findings, List.map_map]
  rfl

/-- A report that comes to its end stands behind what was printed before. -/
theorem report_of_complete {verbose : Bool} {printed : Printed CommandResult} {files : Files}
    {result : CommandResult} (h : printed.outcome = .ok result)
    (hcomplete : isComplete verbose result.summary = true) :
    Program.report verbose printed files =
      ⟨printed.notices ++ notices verbose result.summary, .ok result.exitStatus, files⟩ := by
  simp only [Program.report, h, hcomplete, if_true]

theorem report_of_incomplete {verbose : Bool} {printed : Printed CommandResult} {files : Files}
    {result : CommandResult} (h : printed.outcome = .ok result)
    (hcomplete : isComplete verbose result.summary = false) :
    (Program.report verbose printed files).outcome = .error .formattingOverflow := by
  simp only [Program.report, h, hcomplete]
  rfl

/-- The report of a check is printed to its end if it is not verbose, or the text before each call
it shows is not too wide. -/
theorem isCheckComplete_iff {found : List Finding} {summary : CheckSummary} (verbose : Bool)
    (hmissing : summary.langDirMissing = false)
    (hissues : summary.issues = found.map Finding.issue) :
    isCheckComplete verbose summary = true ↔
      (verbose = true → ∀ f ∈ found, padding f.use.context ≤ maxPadding) := by
  rw [isCheckComplete, hmissing, hissues, Bool.false_or, List.all_map, List.all_eq_true]
  cases verbose with
  | false => simp [isIssueComplete]
  | true =>
    simp only [forall_const]
    exact forall₂_congr fun f _ => decide_eq_true_iff

/-- A check of a tree that stands for files, if it ends well with the language directory there, is
exact: it finds the keys that are used in the sources and the tables that lack them. Unless the
report is verbose and the text before a call is too wide, it warns about just these, in their
order, and confirms that there are none only then; the exit status is a failure if the strict option
is given and there are some. With a text that is too wide, the program ends without a status. -/
theorem carryOut_exact {race : Nat} {files : Files} {options : Options} {p : Project}
    {result : CommandResult} (marks : Stream → Bool) (hroot : files.root.Proper)
    (hp : (resolve files options).outcome = .ok p) (hdir : p.hasLangDir files)
    (h : (run race files options).outcome = .ok result) :
    ∃ found : List Finding, Exact files p found ∧ (∀ other, Exact files p other → other = found) ∧
      (∃ summary, result = ⟨.check summary, options.strict⟩ ∧
        summary.issues = found.map Finding.issue) ∧
      ((options.verbose = true → ∀ f ∈ found, padding f.use.context ≤ maxPadding) →
        (Program.carryOut marks race files (.check options)).notices.filter isUntranslated =
            found.map (fun f => warning f.issue) ∧
          (Program.carryOut marks race files (.check options)).notices.filter isConfirmation =
            (if found = [] then [success] else []) ∧
          (Program.carryOut marks race files (.check options)).outcome =
            .ok (if options.strict ∧ found ≠ [] then .failure else .success)) ∧
      (options.verbose = true → (∃ f ∈ found, maxPadding < padding f.use.context) →
        (Program.carryOut marks race files (.check options)).outcome =
          .error .formattingOverflow) := by
  obtain ⟨summary, hsummary, rfl⟩ := run_of_ok hp h
  obtain ⟨found, hexact, hmissing, hissues⟩ := exists_exact hroot hdir hsummary
  obtain ⟨hwarnings, hconfirmations⟩ := filter_asides (isAside_run race files options)
  have hempty : summary.issues = [] ↔ found = [] := by rw [hissues, List.map_eq_nil_iff]
  have hcomplete := isCheckComplete_iff options.verbose hmissing hissues
  refine ⟨found, hexact, fun other hother => hother.unique hexact, ⟨summary, rfl, hissues⟩,
    fun hwidth => ?_, fun hverbose ⟨f, hf, hwide⟩ => ?_⟩
  · have hprinted : Program.report options.verbose (run race files options) files = _ :=
      report_of_complete h (hcomplete.2 hwidth)
    rw [Program.carryOut, hprinted]
    refine ⟨?_, ?_, ?_⟩
    · rw [List.filter_append, hwarnings, List.nil_append]
      show (check options.verbose summary).filter isUntranslated = _
      rw [filter_isUntranslated_check hmissing (hcomplete.2 hwidth), hissues, List.map_map]
      rfl
    · rw [List.filter_append, hconfirmations, List.nil_append]
      show (check options.verbose summary).filter isConfirmation = _
      rw [filter_isConfirmation_check hmissing]
      simp only [hempty]
    · have hcount : 0 < summary.issues.length ↔ found ≠ [] := by
        rw [List.length_pos_iff, ne_eq, hempty]
      rw [CommandResult.exitStatus]
      simp only [CommandResult.issueCount, Bool.and_eq_true, decide_eq_true_eq, hcount]
  · refine report_of_incomplete h (Bool.eq_false_iff.2 fun htrue => ?_)
    exact absurd (hcomplete.1 htrue hverbose f hf) (Nat.not_le.2 hwide)

theorem carryOut_exact_sample :
    sample.root.Proper ∧ (resolve sample sampleOptions).outcome = .ok sampleProject ∧
      sampleProject.hasLangDir sample ∧
      (run 0 sample sampleOptions).outcome = .ok ⟨.check sampleSummary, true⟩ ∧
      ∃ found : List Finding, found ≠ [] ∧ Exact sample sampleProject found ∧
        (Program.carryOut (fun _ => false) 0 sample (.check sampleOptions)).notices.filter
          isUntranslated = found.map fun f => warning f.issue := by
  have hproject : (resolve sample sampleOptions).outcome = .ok sampleProject := by
    rw [sample_resolve]
  obtain ⟨found, hexact, -, ⟨summary, hsummary, hissues⟩, hprinted, -⟩ :=
    carryOut_exact (fun _ => false) sample_proper hproject sample_hasLangDir (sample_run 0)
  obtain ⟨hwarnings, -⟩ := hprinted fun hverbose => nomatch hverbose
  refine ⟨sample_proper, hproject, sample_hasLangDir, sample_run 0, found, ?_, hexact, hwarnings⟩
  rintro rfl
  cases hsummary
  cases hissues

/-- A check can find an issue and end without a status: a verbose report breaks off at a call that
stands behind a text which is too wide. -/
theorem exists_broken_off : ∃ (files : Files) (options : Options) (p : Project),
    files.root.Proper ∧ (resolve files options).outcome = .ok p ∧ p.hasLangDir files ∧
      (∃ result, (run 0 files options).outcome = .ok result) ∧
      ∀ marks status, (Program.carryOut marks 0 files (.check options)).outcome ≠ .ok status := by
  have hrun := holding_run (String.ofList (indentedLine (maxPadding + 1))) 0 true
  rw [indented_usages, holding_issues] at hrun
  refine ⟨_, _, sampleProject, holding_proper _, by rw [holding_resolve], holding_hasLangDir _,
    ⟨_, hrun⟩, fun marks status h => ?_⟩
  rw [Program.carryOut, report_of_incomplete hrun] at h
  · cases h
  · simp [isComplete, isCheckComplete, isIssueComplete, isPaddable, padding_indented]
end FirmwareKit.Check
