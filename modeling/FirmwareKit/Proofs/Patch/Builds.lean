import FirmwareKit.Command.Patch
import FirmwareKit.Proofs.Config.Written
import FirmwareKit.Proofs.Files.Rewritten
import FirmwareKit.Proofs.Patch.Once

/-! Build after build. Every run of the patch command loads the settings anew, and applies the
patches that they have then. A command that succeeded is not started again by any later run
for a patch with the same sentinel, if this sentinel could be made and no patch removes it; a
sentinel that cannot be made is the error of its run, and the next one starts the command
again. -/

namespace FirmwareKit.Patch

variable {program : ShellCommand → Files → Reply Files} {root : Option Path}

/-! ### Runs of the command -/

/-- A run of the command, with what programs do left open. -/
def build (program : ShellCommand → Files → Reply Files) (root : Option Path) (verbose : Bool)
    (f : Files) : Course Files (List (Spec × Outcome)) :=
  match specs f root with
  | .error e => ⟨[], [], f, .error e⟩
  | .ok specs => applyAll (systemWith program) verbose specs f

/-- With the programs of a host it is what the patch command does. -/
theorem build_execute {options : Options} (h : options.dryRun = false) (f : Files) :
    build Host.execute options.root options.verbose f = course f options := by
  simp only [build, course, Options.environment, h]
  rfl

/-- What a run of the command visits. -/
def buildVisits (program : ShellCommand → Files → Reply Files) (root : Option Path) (f : Files) :
    List (Visit Files) :=
  match specs f root with
  | .error _ => []
  | .ok specs => visits (systemWith program) specs f

/-- The files after some runs, one after the other. -/
def afterBuilds (program : ShellCommand → Files → Reply Files) (root : Option Path) (start : Files)
    (runs : List Bool) : Files :=
  runs.foldl (fun f verbose => (build program root verbose f).state) start

theorem afterBuilds_concat (start : Files) (runs : List Bool) (verbose : Bool) :
    afterBuilds program root start (runs ++ [verbose]) =
      (build program root verbose (afterBuilds program root start runs)).state := by
  rw [afterBuilds, List.foldl_append]
  rfl

/-- The calls of a run are those of its visits. -/
theorem calls_build (verbose : Bool) (f : Files) :
    (build program root verbose f).calls =
      ((buildVisits program root f).flatMap (·.log)).map (·.call) := by
  unfold build buildVisits
  cases specs f root with
  | error e => rfl
  | ok specs => exact (journey_visits (systemWith program) verbose specs f).2

/-- All that a run visits is legal. -/
theorem legal_of_mem {f : Files} {v : Visit Files} (hv : v ∈ buildVisits program root f) :
    Legal (systemWith program) v ∧ ∃ specs, Patch.specs f root = .ok specs ∧ v.spec ∈ specs := by
  unfold buildVisits at hv
  cases hspecs : specs f root with
  | error e => simp [hspecs] at hv
  | ok specs =>
    rw [hspecs] at hv
    have hjourney := (journey_visits (systemWith program) false specs f).1
    exact ⟨hjourney.legal v hv, specs, rfl,
      hjourney.in_order.subset (List.mem_map_of_mem hv)⟩

/-- A visit that fails is the error of its run. -/
theorem outcome_build_of_error {f : Files} {v : Visit Files} {e : Failure}
    (hv : v ∈ buildVisits program root f) (he : v.outcome = .error e) (verbose : Bool) :
    (build program root verbose f).outcome = .error e := by
  unfold buildVisits at hv
  unfold build
  cases hspecs : specs f root with
  | error e => simp [hspecs] at hv
  | ok specs =>
    rw [hspecs] at hv
    exact ((journey_visits (systemWith program) verbose specs f).1.error_iff e).2 ⟨v, hv, he⟩

section Preserves

variable {P : Files → Prop} {f start : Files}

/-- What every visit keeps, a run keeps, and all its visits start with it. -/
theorem build_preserves (hkeep : ∀ v ∈ buildVisits program root f, P v.reached → P v.left)
    (verbose : Bool) (hP : P f) :
    P (build program root verbose f).state ∧
      ∀ v ∈ buildVisits program root f, P v.reached ∧ P v.left := by
  unfold buildVisits at hkeep ⊢
  unfold build
  cases hspecs : specs f root with
  | error e => exact ⟨hP, by simp⟩
  | ok specs =>
    rw [hspecs] at hkeep
    exact (journey_visits (systemWith program) verbose specs f).1.preserves hkeep hP

/-- What every visit keeps is still so after the run if some visit left it so. -/
theorem build_preserves_from (hkeep : ∀ v ∈ buildVisits program root f, P v.reached → P v.left)
    (verbose : Bool) {v : Visit Files} (hv : v ∈ buildVisits program root f) (hleft : P v.left) :
    P (build program root verbose f).state := by
  unfold buildVisits at hkeep hv
  unfold build
  cases hspecs : specs f root with
  | error e => simp [hspecs] at hv
  | ok specs =>
    rw [hspecs] at hkeep hv
    exact (journey_visits (systemWith program) verbose specs f).1.preserves_from hkeep hv hleft

/-- What every visit keeps, run after run keeps. -/
theorem afterBuilds_preserves {runs more : List Bool}
    (hkeep : ∀ front, front <+: runs ++ more →
      ∀ v ∈ buildVisits program root (afterBuilds program root start front),
        P v.reached → P v.left)
    (hP : P (afterBuilds program root start runs)) :
    P (afterBuilds program root start (runs ++ more)) := by
  induction more using List.reverseRecOn with
  | nil => rwa [List.append_nil]
  | append_singleton more verbose ih =>
    rw [← List.append_assoc] at hkeep ⊢
    have hfront : runs ++ more <+: runs ++ more ++ [verbose] := List.prefix_append _ _
    rw [afterBuilds_concat]
    exact (build_preserves (hkeep _ hfront) verbose
      (ih fun front h => hkeep front (h.trans hfront))).1

end Preserves

/-! ### Sentinels that stay -/

/-- In none of the runs the sentinel is removed by a patch for its file. -/
def Spares (program : ShellCommand → Files → Reply Files) (root : Option Path) (start : Files)
    (runs : List Bool) (sentinel : Path) : Prop :=
  ∀ front, front <+: runs →
    ∀ u ∈ buildVisits program root (afterBuilds program root start front),
      start.SameFile u.spec.target sentinel → u.reached.isThere sentinel = true →
        (program u.spec.command u.reached).state.isThere sentinel = true

/-- Every path leads where it led at the start, and the sentinel is there. -/
structure Keeps (start : Files) (sentinel : Path) (st : Files) : Prop where
  samePlaces : start.SamePlaces st
  isThere : st.isThere sentinel = true

/-- A sentinel stays, whatever patch is visited, if the visit does not remove it as its target. -/
theorem Legal.keeps {start : Files} {v : Visit Files} {sentinel : Path}
    (h : Legal (systemWith program) v) (hprogram : ChangesTarget program) (hstart : start.Grounded)
    (hspare : start.SameFile v.spec.target sentinel → v.reached.isThere sentinel = true →
      (program v.spec.command v.reached).state.isThere sentinel = true)
    (hreached : Keeps start sentinel v.reached) : Keeps start sentinel v.left := by
  obtain ⟨hplaces, hthere⟩ := hreached
  have haltered := h.altered hprogram (hplaces.grounded hstart)
  refine ⟨hplaces.trans haltered.samePlaces, ?_⟩
  rcases haltered.lost_of_isThere sentinel hthere with hleft | ⟨hsame, hgone⟩
  · exact hleft
  · rw [hspare (hplaces.sameFile_iff.1 hsame) hthere] at hgone
    cases hgone

/-- Where the command of a patch succeeded, the patch is applied, or its sentinel could not be
made. -/
theorem Legal.of_executed {v : Visit Files} (h : Legal (systemWith program) v)
    (hran : (.execute v.spec.command, .ok ()) ∈ v.log.map fun a => (a.call, a.outcome)) :
    v.outcome = .ok .applied ∨
      ∃ fault, v.outcome = .error (.notCreated v.spec.sentinel fault) := by
  cases h with
  | skipped | blocked => cases hran
  | refused s st e _ _ he =>
    simp at hran
  | unmarked s st e _ _ he ht =>
    refine .inr ?_
    have ht : (Host.touch s.sentinel (program s.command st).state).outcome = .error e := ht
    unfold Host.touch at ht
    cases hwrite : (program s.command st).state.write s.sentinel .empty with
    | ok g => simp [hwrite] at ht
    | error fault =>
      simp only [hwrite, Except.error.injEq] at ht
      exact ⟨fault, congrArg Except.error ht.symm⟩
  | marked => exact .inl rfl

/-- Once the command of a patch succeeded, either its sentinel could not be made, which is the error
of that run; or no later run starts a command for a patch with this sentinel, whatever settings it
loads and however it and the runs in between end, if no patch removes the file of the sentinel. -/
theorem not_started_again (hprogram : ChangesTarget program) {start : Files}
    (hstart : start.Grounded) (before between : List Bool) (verbose : Bool) {v : Visit Files}
    (hv : v ∈ buildVisits program root (afterBuilds program root start before))
    (hran : (.execute v.spec.command, .ok ()) ∈ v.log.map fun a => (a.call, a.outcome))
    (hspare : Spares program root start (before ++ verbose :: between) v.spec.sentinel) :
    let run := build program root verbose (afterBuilds program root start before)
    let later := afterBuilds program root start (before ++ verbose :: between)
    (∃ fault, v.outcome = .error (.notCreated v.spec.sentinel fault) ∧
      run.outcome = .error (.notCreated v.spec.sentinel fault)) ∨
    v.outcome = .ok .applied ∧
      (∀ w ∈ buildVisits program root later, start.SameFile w.spec.sentinel v.spec.sentinel →
        w.log = [] ∧ w.outcome = .ok .alreadyApplied) ∧
      ∀ verbose', (build program root verbose' later).calls =
        ((buildVisits program root later).flatMap (·.log)).map (·.call) := by
  intro run later
  obtain ⟨hlegal, -⟩ := legal_of_mem hv
  rcases hlegal.of_executed hran with happlied | ⟨fault, hfault⟩
  · refine .inr ⟨happlied, fun w hw hsame => ?_, fun verbose' => calls_build verbose' later⟩
    have hmove (f : Files) u (hu : u ∈ buildVisits program root f)
        (hplaces : start.SamePlaces u.reached) : start.SamePlaces u.left :=
      hplaces.trans ((legal_of_mem hu).1.altered hprogram (hplaces.grounded hstart)).samePlaces
    have hkeep front (hfront : front <+: before ++ verbose :: between) u
        (hu : u ∈ buildVisits program root (afterBuilds program root start front)) :=
      (legal_of_mem hu).1.keeps hprogram hstart (hspare front hfront u hu)
    -- the sentinel is made by the visit, and stays from there on
    have hplaces : start.SamePlaces (afterBuilds program root start ([] ++ before)) :=
      afterBuilds_preserves (fun front _ => hmove _) (.refl start)
    obtain ⟨hreached, hleft⟩ := (build_preserves (hmove _) verbose hplaces).2 v hv
    have hmade := hlegal.isThere_sentinel hprogram (hreached.grounded hstart) happlied
    have hruns : before ++ verbose :: between = before ++ [verbose] ++ between := by simp
    have hfinish : Keeps start v.spec.sentinel
        (afterBuilds program root start (before ++ [verbose])) := by
      rw [afterBuilds_concat]
      exact build_preserves_from (hkeep before (List.prefix_append _ _)) verbose hv ⟨hleft, hmade⟩
    have hlater : Keeps start v.spec.sentinel later := by
      show Keeps start v.spec.sentinel
        (afterBuilds program root start (before ++ verbose :: between))
      rw [hruns] at hkeep ⊢
      exact afterBuilds_preserves hkeep hfinish
    obtain ⟨hagain, -⟩ := legal_of_mem hw
    obtain ⟨⟨hsteady, hthere⟩, -⟩ :=
      (build_preserves (hkeep _ List.prefix_rfl) false hlater).2 w hw
    have hskip : w.spec.isApplied w.reached = true := by
      have hfile : w.reached.SameFile w.spec.sentinel v.spec.sentinel :=
        hsteady.sameFile_iff.2 hsame
      exact hfile.isThere_eq.trans hthere
    rw [hagain.eq_visit, visit_of_isApplied (systemWith program) hskip]
    exact ⟨rfl, rfl⟩
  · exact .inl ⟨fault, hfault, outcome_build_of_error hv hfault verbose⟩

/-- The root directory with settings and more in it. -/
def project (settings : ByteArray) (entries : List (String × Node)) : Files where
  root := .dir ((Config.fileName, .file settings) :: entries)
  cwd := []

/-- The settings in the root directory are loaded, whatever else is there. -/
theorem specs_project {c : Config} (h : c.validate = .ok ()) (entries : List (String × Node)) :
    specs (project c.pretty.toByteArray entries) none = .ok (resolved c) := by
  have habsolute : (project c.pretty.toByteArray entries).absoluteRoot none = .ok ⟨"/"⟩ := by
    have hhere : (project c.pretty.toByteArray entries).here = ⟨"/"⟩ := by
      simp [Files.here, project, String.intercalate_nil]
    rw [Files.absoluteRoot, hhere,
      show Path.absolute? ⟨"/"⟩ ((none : Option Path).getD ⟨"."⟩) = some ⟨"/"⟩ by decide +kernel]
    rfl
  have hfile : (project c.pretty.toByteArray entries).find .target ⟨"/.esperrc.json"⟩ =
      .ok (.file c.pretty.toByteArray) := by
    simp +decide [Files.find, Files.locate, Files.start, Files.piecesOf, Path.pieces,
      Files.resolve, project, Config.fileName, Node.at?, Node.child?, Node.lookup]
  have hfound : Config.find (project c.pretty.toByteArray entries) ⟨"/"⟩ =
      some ⟨"/.esperrc.json"⟩ := by
    rw [Config.find, show Path.ancestors ⟨"/"⟩ = [⟨"/"⟩] by decide +kernel]
    simp [Config.findIn, Path.join, Config.fileName, Files.isThere, hfile, Except.toOption]
  have hparse : Config.parse c.pretty = .ok c := by
    simpa [Config.pretty, Json.Value.pretty] using
      Config.parse_spaced Json.spaces_nil Json.spaces_nil c
  simp only [specs, habsolute, Config.load, hfound, Config.read, Files.readText_of_find hfile,
    hparse, h, Except.map]
  rfl

theorem buildVisits_project {c : Config} (h : c.validate = .ok ())
    (entries : List (String × Node)) :
    buildVisits program none (project c.pretty.toByteArray entries) =
      visits (systemWith program) (resolved c) (project c.pretty.toByteArray entries) := by
  simp only [buildVisits, specs_project h]

theorem build_project {c : Config} (h : c.validate = .ok ()) (verbose : Bool)
    (entries : List (String × Node)) :
    build program none verbose (project c.pretty.toByteArray entries) =
      applyAll (systemWith program) verbose (resolved c)
        (project c.pretty.toByteArray entries) := by
  simp only [build, specs_project h]

/-- What a run over the sample leaves behind. -/
def patchedEntries : List (String × Node) :=
  [("t", .file "a\na\n".toByteArray), ("u", .file "a\na\nb\n".toByteArray),
   ("p", .file growth.toByteArray), ("a", .file .empty), ("b", .file .empty)]

theorem state_applyAll_sample (settings : ByteArray) :
    (applyAll (systemWith patching) false (resolved ownSentinels)
        (project settings sampleFiles.root.entries)).state = project settings patchedEntries := by
  cbv

theorem afterBuilds_sample :
    afterBuilds patching none (project ownSentinels.pretty.toByteArray sampleFiles.root.entries)
        [false] = project ownSentinels.pretty.toByteArray patchedEntries :=
  (congrArg Course.state (build_project (settings_validate _) false _)).trans
    (state_applyAll_sample _)

/-- Both runs load the two patches, whose targets are no sentinels. -/
theorem spares_sample :
    Spares patching none (project ownSentinels.pretty.toByteArray sampleFiles.root.entries) [false]
      markedSpec.sentinel := by
  intro front hfront u hu hsame
  have hvalid : ownSentinels.validate = .ok () := settings_validate _
  have hloaded : specs (afterBuilds patching none
      (project ownSentinels.pretty.toByteArray sampleFiles.root.entries) front) none =
        .ok (resolved ownSentinels) := by
    rcases List.prefix_cons_iff.1 hfront with rfl | ⟨more, rfl, hmore⟩
    · exact specs_project hvalid _
    · rw [List.prefix_nil.1 hmore, afterBuilds_sample]
      exact specs_project hvalid _
  obtain ⟨-, specs, hspecs, hmem⟩ := legal_of_mem hu
  rw [hloaded] at hspecs
  cases hspecs
  have hplaces (settings : ByteArray) :
      (project settings sampleFiles.root.entries).place? ⟨"/a"⟩ = some ["a"] ∧
        (project settings sampleFiles.root.entries).place? ⟨"/t"⟩ = some ["t"] ∧
        (project settings sampleFiles.root.entries).place? ⟨"/u"⟩ = some ["u"] :=
    ⟨by cbv, by cbv, by cbv⟩
  obtain ⟨ha, ht, hu⟩ := hplaces ownSentinels.pretty.toByteArray
  have hapart (path : Path) (place : List String) (hpath : path ≠ ⟨"/a"⟩) (hplace : place ≠ ["a"])
      (h : (project ownSentinels.pretty.toByteArray sampleFiles.root.entries).place? path =
        some place) :
      ¬ (project ownSentinels.pretty.toByteArray sampleFiles.root.entries).SameFile path
        ⟨"/a"⟩ := by
    simp [Files.SameFile, hpath, ha, h, hplace.symm]
  rcases List.mem_pair.1 hmem with hspec | hspec
  · rw [hspec] at hsame
    exact absurd hsame (hapart ⟨"/t"⟩ ["t"] (by decide) (by decide) ht)
  · rw [hspec] at hsame
    exact absurd hsame (hapart ⟨"/u"⟩ ["u"] (by decide) (by decide) hu)

theorem not_started_again_sample :
    let start := project ownSentinels.pretty.toByteArray sampleFiles.root.entries
    let v := visit (systemWith patching) markedSpec start
    v ∈ buildVisits patching none start ∧
      (.execute v.spec.command, .ok ()) ∈ v.log.map (fun a => (a.call, a.outcome)) ∧
      Spares patching none start [false] v.spec.sentinel ∧
      ∃ w ∈ buildVisits patching none (afterBuilds patching none start [false]),
        w.spec = v.spec ∧ w.log = [] := by
  intro start v
  have hvalid : ownSentinels.validate = .ok () := settings_validate _
  have hv : v ∈ buildVisits patching none start := by
    rw [buildVisits_project hvalid]
    exact List.mem_cons_self
  have hran (settings : ByteArray) :
      (visit (systemWith patching) markedSpec
        (project settings sampleFiles.root.entries)).log.map (fun a => (a.call, a.outcome)) =
      [(.execute markedSpec.command, .ok ()), (.touch markedSpec.sentinel, .ok ())] := by cbv
  have hdone : (visit (systemWith patching) markedSpec start).log.map
      (fun a => (a.call, a.outcome)) = _ := hran _
  have hspare : Spares patching none start [false] v.spec.sentinel := spares_sample
  have hmem : (.execute v.spec.command, .ok ()) ∈ v.log.map fun a => (a.call, a.outcome) := by
    rw [show v.log.map _ = _ from hdone]
    exact List.mem_cons_self
  have hw : visit (systemWith patching) markedSpec (afterBuilds patching none start [false]) ∈
      buildVisits patching none (afterBuilds patching none start [false]) := by
    rw [afterBuilds_sample, buildVisits_project hvalid]
    exact List.mem_cons_self
  refine ⟨hv, hmem, hspare, _, hw, rfl, ?_⟩
  rcases not_started_again patching_changesTarget ⟨_, rfl⟩ [] [] false hv hmem hspare
    with ⟨fault, hfault, -⟩ | ⟨-, hskipped, -⟩
  · have happlied (settings : ByteArray) :
        (visit (systemWith patching) markedSpec
          (project settings sampleFiles.root.entries)).outcome = .ok .applied := by cbv
    rw [show v.outcome = _ from happlied _] at hfault
    cases hfault
  · exact (hskipped _ hw (.inl rfl)).1

/-- No run starts the command of a patch again that succeeded in an earlier one. -/
def StartsOnce (program : ShellCommand → Files → Reply Files) (root : Option Path) (start : Files) :
    Prop :=
  ∀ (before between : List Bool) (verbose : Bool) (v w : Visit Files),
    v ∈ buildVisits program root (afterBuilds program root start before) →
    (.execute v.spec.command, .ok ()) ∈ v.log.map (fun a => (a.call, a.outcome)) →
    w ∈ buildVisits program root
      (afterBuilds program root start (before ++ verbose :: between)) →
    w.spec = v.spec → .execute v.spec.command ∉ w.log.map (·.call)

/-- Settings whose first patch is started by both of two runs are settings that some patch is
started again with. -/
theorem not_startsOnce_project {c : Config} {s : Spec} {more : List Spec}
    {entries later : List (String × Node)} (hvalid : c.validate = .ok ())
    (hspecs : resolved c = s :: more)
    (hran : (.execute s.command, .ok ()) ∈
      (visit (systemWith program) s (project c.pretty.toByteArray entries)).log.map
        fun a => (a.call, a.outcome))
    (hstate : (applyAll (systemWith program) false (resolved c)
      (project c.pretty.toByteArray entries)).state = project c.pretty.toByteArray later)
    (hagain : .execute s.command ∈
      (visit (systemWith program) s (project c.pretty.toByteArray later)).log.map (·.call)) :
    ¬ StartsOnce program none (project c.pretty.toByteArray entries) := by
  intro honce
  have hfirst (entries : List (String × Node)) :
      visit (systemWith program) s (project c.pretty.toByteArray entries) ∈
        buildVisits program none (project c.pretty.toByteArray entries) := by
    rw [buildVisits_project hvalid, hspecs]
    exact List.mem_cons_self
  have hlater : afterBuilds program none (project c.pretty.toByteArray entries) ([] ++ [false]) =
      project c.pretty.toByteArray later := by
    rw [afterBuilds_concat]
    exact (congrArg Course.state (build_project hvalid false _)).trans hstate
  have hw : visit (systemWith program) s (project c.pretty.toByteArray later) ∈
      buildVisits program none (afterBuilds program none
        (project c.pretty.toByteArray entries) ([] ++ [false])) := by
    rw [hlater]
    exact hfirst later
  exact honce [] [] false _ _ (hfirst entries) hran hw rfl hagain

/-- The sentinel of the patch is in a directory that does not exist. -/
def strayedSentinel : Config := settings [⟨"/", "t", "p", "n/a"⟩]

/-- The patch of these settings. -/
def strayedSpec : Spec := ⟨⟨"/"⟩, ⟨"/t"⟩, ⟨"/p"⟩, ⟨"/n/a"⟩⟩

/-- What a run over it leaves behind. -/
def strayedEntries : List (String × Node) :=
  [("t", .file "a\na\n".toByteArray), ("u", .file "a\nb\n".toByteArray),
   ("p", .file growth.toByteArray)]

/-- The second patch fills the sentinel of the first, and the third one removes it. -/
def clearedSentinel : Config :=
  settings [⟨"/", "t", "p", "a"⟩, ⟨"/", "a", "f", "b"⟩, ⟨"/", "a", "c", "d"⟩]

/-- A diff that fills an empty file, and one that removes the file again. -/
def filling : String := "--- a\n+++ a\n@@ -0,0 +1 @@\n+x\n"

def clearing : String := "--- a\n+++ /dev/null\n@@ -1 +0,0 @@\n-x\n"

/-- A target, a diff for it, two for its sentinel, and what was made. -/
def clearedEntries (target : String) (made : List (String × Node)) : List (String × Node) :=
  [("t", .file target.toByteArray), ("p", .file growth.toByteArray),
   ("f", .file filling.toByteArray), ("c", .file clearing.toByteArray)] ++ made

theorem resolved_cleared : resolved clearedSentinel =
    [markedSpec, ⟨⟨"/"⟩, ⟨"/a"⟩, ⟨"/f"⟩, ⟨"/b"⟩⟩, ⟨⟨"/"⟩, ⟨"/a"⟩, ⟨"/c"⟩, ⟨"/d"⟩⟩] := by
  decide +kernel

/-- The first patch of the settings makes its sentinel, the second one fills it, and the third one
removes it. -/
theorem run_cleared (settings : ByteArray) :
    (visit (systemWith patching) markedSpec
        (project settings (clearedEntries "a\n" []))).IsDone ∧
      (applyAll (systemWith patching) false (resolved clearedSentinel)
          (project settings (clearedEntries "a\n" []))).state =
        project settings (clearedEntries "a\na\n" [("b", .file .empty), ("d", .file .empty)]) := by
  have hmarked : (visit (systemWith patching) markedSpec
        (project settings (clearedEntries "a\n" []))).outcome = .ok .applied ∧
      (visit (systemWith patching) markedSpec (project settings (clearedEntries "a\n" []))).left =
        project settings (clearedEntries "a\na\n" [("a", .file .empty)]) :=
    ⟨by cbv, by cbv⟩
  have hfilled : (visit (systemWith patching) ⟨⟨"/"⟩, ⟨"/a"⟩, ⟨"/f"⟩, ⟨"/b"⟩⟩
        (project settings (clearedEntries "a\na\n" [("a", .file .empty)]))).outcome =
          .ok .applied ∧
      (visit (systemWith patching) ⟨⟨"/"⟩, ⟨"/a"⟩, ⟨"/f"⟩, ⟨"/b"⟩⟩
        (project settings (clearedEntries "a\na\n" [("a", .file .empty)]))).left =
          project settings (clearedEntries "a\na\n"
            [("a", .file "x\n".toByteArray), ("b", .file .empty)]) :=
    ⟨by cbv, by cbv⟩
  have hcleared : (applyAll (systemWith patching) false [⟨⟨"/"⟩, ⟨"/a"⟩, ⟨"/c"⟩, ⟨"/d"⟩⟩]
        (project settings (clearedEntries "a\na\n"
          [("a", .file "x\n".toByteArray), ("b", .file .empty)]))).state =
      project settings
        (clearedEntries "a\na\n" [("b", .file .empty), ("d", .file .empty)]) := by cbv
  refine ⟨by unfold Visit.IsDone; cbv, ?_⟩
  rw [resolved_cleared, state_applyAll_cons false hmarked.1, hmarked.2,
    state_applyAll_cons false hfilled.1, hfilled.2, hcleared]

theorem cleared_not_startsOnce : ¬ StartsOnce patching none
    (project clearedSentinel.pretty.toByteArray (clearedEntries "a\n" [])) := by
  have hagain (settings : ByteArray) :
      (visit (systemWith patching) markedSpec (project settings
        (clearedEntries "a\na\n" [("b", .file .empty), ("d", .file .empty)]))).log.map
          (·.call) = [.execute markedSpec.command, .touch markedSpec.sentinel] := by cbv
  obtain ⟨hdone, hstate⟩ := run_cleared clearedSentinel.pretty.toByteArray
  refine not_startsOnce_project (settings_validate _) resolved_cleared ?_ hstate ?_
  · rw [show _ = _ from hdone]
    exact List.mem_cons_self
  · rw [hagain]
    exact List.mem_cons_self

theorem strayed_not_startsOnce : ¬ StartsOnce patching none
    (project strayedSentinel.pretty.toByteArray sampleFiles.root.entries) := by
  have hran (settings : ByteArray) :
      (visit (systemWith patching) strayedSpec
        (project settings sampleFiles.root.entries)).log.map (fun a => (a.call, a.outcome)) =
      [(.execute strayedSpec.command, .ok ()),
       (.touch strayedSpec.sentinel, .error (.notCreated strayedSpec.sentinel .notFound))] := by
    cbv
  have hstate (settings : ByteArray) :
      (applyAll (systemWith patching) false (resolved strayedSentinel)
        (project settings sampleFiles.root.entries)).state = project settings strayedEntries := by
    cbv
  have hagain (settings : ByteArray) :
      (visit (systemWith patching) strayedSpec (project settings strayedEntries)).log.map
        (·.call) = [.execute strayedSpec.command, .touch strayedSpec.sentinel] := by cbv
  have hspecs : resolved strayedSentinel = [strayedSpec] := by decide +kernel
  refine not_startsOnce_project (settings_validate _) hspecs ?_ (hstate _) ?_
  · rw [hran]
    exact List.mem_cons_self
  · rw [hagain]
    exact List.mem_cons_self

/-- A command that succeeded is started again by the next run where its sentinel could not be made,
and where another patch removes it. -/
theorem exists_started_again :
    ChangesTarget patching ∧
      (strayedSentinel.validate = .ok () ∧
        (project strayedSentinel.pretty.toByteArray sampleFiles.root.entries).Grounded ∧
        ¬ StartsOnce patching none
          (project strayedSentinel.pretty.toByteArray sampleFiles.root.entries)) ∧
      clearedSentinel.validate = .ok () ∧
        (project clearedSentinel.pretty.toByteArray (clearedEntries "a\n" [])).Grounded ∧
        ¬ StartsOnce patching none
          (project clearedSentinel.pretty.toByteArray (clearedEntries "a\n" [])) :=
  ⟨patching_changesTarget, ⟨settings_validate _, ⟨_, rfl⟩, strayed_not_startsOnce⟩,
    settings_validate _, ⟨_, rfl⟩, cleared_not_startsOnce⟩

end FirmwareKit.Patch
