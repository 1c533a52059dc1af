import FirmwareKit.Program
import FirmwareKit.Proofs.Patch.System

/-! A dry run tells what a run would do. It changes nothing, and where everything a run asks
for succeeds, and no sentinel is another patch's sentinel, target or patch file, the
lines of the dry run are the calls of the run, and both end alike. -/

namespace FirmwareKit.Patch

open Files (SameKind)

variable {σ : Type} {env : Environment σ} {specs : List Spec} {files : Files}

/-- The line in which a dry run tells of a call. -/
def forecast : Call → Notice
  | .execute command =>
    .line .output [.tinted .cyan "would run:", .plain (" " ++ command.display)]
  | .touch path => .line .output [.tinted .cyan "would create:", .plain (" " ++ path.text)]

/-- The line tells of a call that would be made. -/
def isForecast (n : Notice) : Bool :=
  match n.pieces with
  | start :: _ => start == .tinted .cyan "would run:" || start == .tinted .cyan "would create:"
  | [] => false

/-- All that is asked for is done: commands change no path's existence or kind, and the making of
a sentinel at most that of the paths that denoted the same file when the run began. -/
structure Obliging (env : Environment σ) (files : Files) : Prop where
  execute_ok : ∀ command st, (env.execute command st).outcome = .ok ()
  execute_same : ∀ command st path,
    (env.files st).SameKind (env.files (env.execute command st).state) path
  touch_ok : ∀ path st, (env.touch path st).outcome = .ok ()
  touch_same : ∀ path st other, ¬ files.SameFile path other →
    (env.files st).SameKind (env.files (env.touch path st).state) other

/-- The paths that are looked at for a patch. -/
def Spec.looksAt (s : Spec) : List Path :=
  [s.sentinel, s.target, s.patch]

/-- The sentinel of a patch is no file that matters to a later one. -/
def Apart (files : Files) (specs : List Spec) : Prop :=
  specs.Pairwise fun s t => ∀ path ∈ t.looksAt, ¬ files.SameFile s.sentinel path

/-! ### Dry runs -/

theorem filter_announcement (s : Spec) : s.announcement.filter isForecast = [] := by
  simp [Spec.announcement, isForecast, Notice.say, Notice.line, Piece.plain, Piece.tinted]

/-- A dry run leaves the files alone and tells of its calls, among other things. -/
theorem dry_apply (verbose : Bool) (s : Spec) (files : Files) :
    (apply Host.dryEnvironment verbose s files).state = files ∧
      (apply Host.dryEnvironment verbose s files).notices.filter isForecast =
        (apply Host.dryEnvironment verbose s files).calls.map forecast := by
  have hstart : (if verbose then s.announcement else []).filter isForecast = [] := by
    cases verbose
    · rfl
    · exact filter_announcement s
  cases ha : s.isApplied files with
  | true => simp [apply, Host.dryEnvironment, ha]
  | false =>
    cases ho : s.obstacle? files with
    | some e => simp [apply, Host.dryEnvironment, ha, ho]
    | none =>
      have happly : apply Host.dryEnvironment verbose s files =
          ⟨[.execute s.command, .touch s.sentinel],
            (if verbose then s.announcement else []) ++ [forecast (.execute s.command)] ++
              [forecast (.touch s.sentinel)], files, .ok .applied⟩ := by
        simp [apply, Host.dryEnvironment, ha, ho, Except.map, forecast]
      rw [happly]
      refine ⟨rfl, ?_⟩
      rw [List.filter_append, List.filter_append, hstart]
      rfl

theorem dry_applyAll (verbose : Bool) (specs : List Spec) (files : Files) :
    (applyAll Host.dryEnvironment verbose specs files).state = files ∧
      (applyAll Host.dryEnvironment verbose specs files).notices.filter isForecast =
        (applyAll Host.dryEnvironment verbose specs files).calls.map forecast := by
  induction specs with
  | nil => exact ⟨rfl, rfl⟩
  | cons s specs ih =>
    obtain ⟨hstate, hnotices⟩ := dry_apply verbose s files
    rw [applyAll]
    split
    · next heq =>
      rw [heq] at hstate hnotices
      exact ⟨hstate, hnotices⟩
    · next heq =>
      rw [heq] at hstate hnotices
      subst hstate
      refine ⟨ih.1, ?_⟩
      rw [List.filter_append, List.map_append, hnotices, ih.2]

/-! ### The run that is foretold -/

/-- What is known of a visit from outside. -/
def Visit.seen (v : Visit σ) : Spec × List Call × Except Failure Outcome :=
  (v.spec, v.log.map (·.call), v.outcome)

theorem calls_of_seen (vs : List (Visit σ)) :
    (vs.flatMap (·.log)).map (·.call) = (vs.map Visit.seen).flatMap (·.2.1) := by
  rw [List.map_flatMap, List.flatMap_map]
  rfl

theorem isApplied_eq {s : Spec} {f g : Files} (h : ∀ path ∈ s.looksAt, f.SameKind g path) :
    s.isApplied g = s.isApplied f :=
  (h s.sentinel (by simp [Spec.looksAt])).isThere_eq

theorem obstacle?_eq {s : Spec} {f g : Files} (h : ∀ path ∈ s.looksAt, f.SameKind g path) :
    s.obstacle? g = s.obstacle? f := by
  unfold Spec.obstacle?
  rw [(h s.target (by simp [Spec.looksAt])).isFile_eq,
    (h s.patch (by simp [Spec.looksAt])).isFile_eq]

/-- A patch that is tried where everything succeeds is applied. -/
theorem visit_of_obliging (henv : Obliging env files) {s : Spec} {st : σ}
    (ha : s.isApplied (env.files st) = false) (ho : s.obstacle? (env.files st) = none) :
    visit env s st =
      ⟨s, st,
        [⟨.execute s.command, st, .ok ()⟩,
          ⟨.touch s.sentinel, (env.execute s.command st).state, .ok ()⟩],
        (env.touch s.sentinel (env.execute s.command st).state).state, .ok .applied⟩ :=
  (Legal.marked s st ha ho (henv.execute_ok _ _) (henv.touch_ok _ _)).eq_visit.symm

theorem visit_of_obstacle (env : Environment σ) {s : Spec} {st : σ} {e : Failure}
    (ha : s.isApplied (env.files st) = false) (ho : s.obstacle? (env.files st) = some e) :
    visit env s st = ⟨s, st, [], st, .error e⟩ :=
  (Legal.blocked s st e ha ho).eq_visit.symm

theorem dry_obliging (files : Files) : Obliging Host.dryEnvironment files where
  execute_ok _ _ := rfl
  execute_same _ _ _ := ⟨rfl, rfl, rfl⟩
  touch_ok _ _ := rfl
  touch_same _ _ _ _ := ⟨rfl, rfl, rfl⟩

/-- The run goes the way of the dry run: the paths that matter to patches to come look to it as
they did when it began, whatever sentinels it has made. -/
theorem seen_visits (henv : Obliging env files) (hapart : Apart files specs) (st : σ)
    (hlook : ∀ s ∈ specs, ∀ path ∈ s.looksAt, files.SameKind (env.files st) path) :
    (visits env specs st).map Visit.seen =
      (visits Host.dryEnvironment specs files).map Visit.seen := by
  induction specs generalizing st with
  | nil => rfl
  | cons s specs ih =>
    obtain ⟨hs, hspecs⟩ := List.forall_mem_cons.1 hlook
    obtain ⟨hafter, hapart⟩ := List.pairwise_cons.1 hapart
    have ha := isApplied_eq hs
    have ho := obstacle?_eq hs
    rw [visits, visits]
    cases happlied : s.isApplied files with
    | true =>
      rw [happlied] at ha
      rw [visit_of_isApplied env ha, visit_of_isApplied Host.dryEnvironment happlied]
      simp only [List.map_cons, ih hapart st hspecs]
      rfl
    | false =>
      rw [happlied] at ha
      cases hobstacle : s.obstacle? files with
      | some e =>
        rw [hobstacle] at ho
        rw [visit_of_obstacle env ha ho, visit_of_obstacle Host.dryEnvironment happlied hobstacle]
        rfl
      | none =>
        rw [hobstacle] at ho
        rw [visit_of_obliging henv ha ho,
          visit_of_obliging (dry_obliging files) happlied hobstacle]
        simp only [List.map_cons]
        rw [ih hapart _ fun t ht path hpath => ?_]
        · rfl
        · exact ((hspecs t ht path hpath).trans (henv.execute_same s.command st path)).trans
            (henv.touch_same s.sentinel _ path (hafter t ht path hpath))

/-- How a run ends can be read off its visits. -/
theorem Journey.outcome_eq {start finish : σ} {vs : List (Visit σ)}
    {outcome : Except Failure (List (Spec × Outcome))}
    (h : Journey env specs start vs finish outcome) :
    outcome = (vs.map Visit.seen).mapM fun (s, _, o) => o.map (s, ·) := by
  induction h with
  | done => rfl
  | stop v _ e _ he =>
    rw [List.map_singleton, List.mapM_cons, Visit.seen, he]
    rfl
  | @next v o _ vs _ outcome _ ho _ ih =>
    rw [List.map_cons, List.mapM_cons, ← ih, Visit.seen, ho]
    cases outcome <;> rfl

/-- A run where everything succeeds fails only at a file that is missing. -/
theorem Legal.missing {v : Visit σ} {e : Failure} (h : Legal env v) (henv : Obliging env files)
    (he : v.outcome = .error e) :
    e = .targetMissing v.spec.target ∨ e = .patchMissing v.spec.patch := by
  cases h with
  | skipped | marked => cases he
  | blocked s st f _ ho =>
    cases he
    unfold Spec.obstacle? at ho
    split at ho
    · exact .inl (Option.some.inj ho).symm
    split at ho
    · exact .inr (Option.some.inj ho).symm
    · cases ho
  | refused s st f _ _ hf =>
    rw [henv.execute_ok] at hf
    cases hf
  | unmarked s st f _ _ _ hf =>
    rw [henv.touch_ok] at hf
    cases hf

/-- What is reported of a dry run tells of no call. -/
theorem filter_patched (verbose : Bool) (results : List (Spec × Outcome)) :
    (Report.patch verbose ⟨results, true⟩).filter isForecast = [] := by
  induction results with
  | nil => rfl
  | cons result results ih =>
    obtain ⟨s, o⟩ := result
    rw [Report.patch, List.flatMap_cons, List.filter_append]
    rw [Report.patch] at ih
    rw [ih, List.append_nil]
    cases o with
    | applied => rfl
    | alreadyApplied =>
      cases verbose with
      | false => rfl
      | true =>
        simp [Report.patched, isForecast, Notice.say, Notice.line, Piece.plain, Piece.tinted]

/-- The dry command prints what the dry run prints, among other things, and leaves the files. -/
theorem carryOut_dry (marks : Stream → Bool) (race : Nat) {options : Options}
    (hdry : options.dryRun = true)
    (hspecs : Patch.specs files options.root = .ok specs) :
    (Program.carryOut marks race files (.patch options)).files = files ∧
      (Program.carryOut marks race files (.patch options)).notices.filter isForecast =
        (applyAll Host.dryEnvironment options.verbose specs files).notices.filter isForecast := by
  have hcourse : course files options =
      applyAll Host.dryEnvironment options.verbose specs files := by
    simp only [course, hspecs, Options.environment, hdry, if_true]
  have hstate := (dry_applyAll options.verbose specs files).1
  simp only [Program.carryOut, Patch.run, hcourse, Program.report]
  cases (applyAll Host.dryEnvironment options.verbose specs files).outcome with
  | error e => exact ⟨hstate, rfl⟩
  | ok results =>
    refine ⟨hstate, ?_⟩
    simp only [Except.map, Report.notices, hdry, List.filter_append, filter_patched,
      List.append_nil]

/-- A dry run over patches whose sentinels lie apart changes nothing, and its lines are the calls of
a run from the same files in which everything succeeds. Both come to the same patches with the same
outcomes, and if one fails, so does the other, at the same patch, of which the target or the patch
file is missing. As a command it prints these lines and leaves the files as they are. -/
theorem dryRun_foretells (start : σ) (henv : Obliging env (env.files start))
    (hapart : Apart (env.files start) specs) (verbose verbose' : Bool) :
    (applyAll Host.dryEnvironment verbose specs (env.files start)).state = env.files start ∧
      (applyAll Host.dryEnvironment verbose specs (env.files start)).notices.filter isForecast =
        (applyAll env verbose' specs start).calls.map forecast ∧
      (applyAll Host.dryEnvironment verbose specs (env.files start)).outcome =
        (applyAll env verbose' specs start).outcome ∧
      (visits Host.dryEnvironment specs (env.files start)).map (fun v => (v.spec, v.outcome)) =
        (visits env specs start).map (fun v => (v.spec, v.outcome)) ∧
      (∀ e, (applyAll env verbose' specs start).outcome = .error e →
        ∃ s ∈ specs, e = .targetMissing s.target ∨ e = .patchMissing s.patch) ∧
      ∀ marks race options, options.dryRun = true →
        Patch.specs (env.files start) options.root = .ok specs →
        (Program.carryOut marks race (env.files start) (.patch options)).files = env.files start ∧
          (Program.carryOut marks race (env.files start) (.patch options)).notices.filter
              isForecast =
            (applyAll env verbose' specs start).calls.map forecast := by
  obtain ⟨hreal, hrealCalls⟩ := journey_visits env verbose' specs start
  obtain ⟨hdry, hdryCalls⟩ :=
    journey_visits Host.dryEnvironment verbose specs (env.files start)
  have hseen := seen_visits henv hapart start fun s _ path _ => ⟨rfl, rfl, rfl⟩
  have hcalls (verbose : Bool) :
      (applyAll Host.dryEnvironment verbose specs (env.files start)).calls =
        (applyAll env verbose' specs start).calls := by
    rw [(journey_visits Host.dryEnvironment verbose specs _).2, hrealCalls, calls_of_seen,
      calls_of_seen, hseen]
  refine ⟨(dry_applyAll verbose specs _).1, ?_, ?_, ?_, fun e he => ?_,
    fun marks race options hoption hspecs => ?_⟩
  · rw [(dry_applyAll verbose specs _).2, hcalls]
  · rw [hdry.outcome_eq, hreal.outcome_eq, hseen]
  · have hpairs := congrArg (List.map fun x : Spec × List Call × Except Failure Outcome =>
      (x.1, x.2.2)) hseen
    rw [List.map_map, List.map_map] at hpairs
    exact hpairs.symm
  · obtain ⟨v, hv, hve⟩ := (hreal.error_iff e).1 he
    refine ⟨v.spec, ?_, (hreal.legal v hv).missing henv hve⟩
    exact hreal.in_order.subset (List.mem_map_of_mem hv)
  · obtain ⟨hfiles, hnotices⟩ := carryOut_dry marks race hoption hspecs
    exact ⟨hfiles, by rw [hnotices, (dry_applyAll _ specs _).2, hcalls]⟩

/-- The trees in which paths lead where they lead in the sample, with programs that do nothing, and
sentinels that are made where they can be, and passed over where not. -/
def willingEnvironment : Environment {f : Files // sampleFiles.SamePlaces f} :=
  let env := { systemWith idle with
    touch := fun path f => ⟨(Host.touch path f).state, [], .ok ()⟩ }
  env.within sampleFiles.SamePlaces (fun _ _ h => h)
    fun path _ h => h.trans (samePlaces_touch (h.grounded sampleFiles_grounded) path)

theorem willing_obliging : Obliging willingEnvironment sampleFiles where
  execute_ok _ _ := rfl
  execute_same _ _ _ := ⟨rfl, rfl, rfl⟩
  touch_ok _ _ := rfl
  touch_same _ st _ hother :=
    sameKind_touch (st.2.grounded sampleFiles_grounded) fun hsame =>
      hother (st.2.sameFile_iff.1 hsame)

theorem ownSentinels_apart : Apart sampleFiles (resolved ownSentinels) := by
  obtain ⟨ha, hb, -, hu, hp⟩ := sampleFiles_place?
  refine List.pairwise_pair.2 fun path hpath => ?_
  show ¬ sampleFiles.SameFile ⟨"/a"⟩ path
  have hpath : path ∈ [⟨"/b"⟩, ⟨"/u"⟩, ⟨"/p"⟩] := hpath
  simp only [List.mem_cons, List.not_mem_nil, or_false] at hpath
  rcases hpath with rfl | rfl | rfl
  · simp [Files.SameFile, ha, hb]
  · simp [Files.SameFile, ha, hu]
  · simp [Files.SameFile, ha, hp]

theorem dryRun_foretells_sample :
    (applyAll Host.dryEnvironment false (resolved ownSentinels) sampleFiles).notices.filter
        isForecast =
      (applyAll willingEnvironment false (resolved ownSentinels) sampleStart).calls.map forecast ∧
      (applyAll Host.dryEnvironment false (resolved ownSentinels) sampleFiles).outcome =
        (applyAll willingEnvironment false (resolved ownSentinels) sampleStart).outcome := by
  obtain ⟨-, hlines, houtcome, -⟩ :=
    dryRun_foretells sampleStart willing_obliging ownSentinels_apart false false
  exact ⟨hlines, houtcome⟩

end FirmwareKit.Patch
