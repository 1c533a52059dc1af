import FirmwareKit.Proofs.Patch.System
import FirmwareKit.Report

/-! Going on with a run. Where sentinels stay once they are made, a run that ended well
leaves nothing to do, and after one that failed the next run comes at once to the patch
that failed. -/

namespace FirmwareKit.Patch

variable {σ : Type} {env : Environment σ} {specs : List Spec}

/-- Sentinels that were made are there, and none of those of the patches is ever lost. -/
structure Remembers (env : Environment σ) (specs : List Spec) : Prop where
  made : ∀ path st, (env.touch path st).outcome = .ok () →
    (env.files (env.touch path st).state).isThere path = true
  kept : ∀ s ∈ specs, ∀ call st, s.isApplied (env.files st) = true →
    s.isApplied (env.files (env.answer call st).state) = true

/-! ### Runs over patches that are applied -/

/-- There is nothing to do for patches that are applied. -/
theorem applyAll_of_isApplied {st : σ} (verbose : Bool)
    (h : ∀ s ∈ specs, s.isApplied (env.files st) = true) :
    applyAll env verbose specs st =
      ⟨[], [], st, .ok (specs.map (·, .alreadyApplied))⟩ := by
  induction specs with
  | nil => rfl
  | cons s specs ih =>
    obtain ⟨hs, hspecs⟩ := List.forall_mem_cons.1 h
    have happly : apply env verbose s st = ⟨[], [], st, .ok .alreadyApplied⟩ := by
      simp [apply, hs]
    simp [applyAll, happly, ih hspecs, Except.map]

/-- The first patches are skipped if they are applied. -/
theorem take_visits_of_isApplied {st : σ} {n : Nat}
    (h : ∀ s ∈ specs.take n, s.isApplied (env.files st) = true) :
    (visits env specs st).take n =
      (specs.take n).map fun s => ⟨s, st, [], st, .ok .alreadyApplied⟩ := by
  induction specs generalizing n with
  | nil => simp [visits]
  | cons s specs ih =>
    cases n with
    | zero => rfl
    | succ n =>
      rw [List.take_succ_cons] at h
      obtain ⟨hs, hspecs⟩ := List.forall_mem_cons.1 h
      rw [visits, visit_of_isApplied env hs, List.take_succ_cons, List.take_succ_cons,
        List.map_cons, ih hspecs]

/-! ### What a run leaves applied -/

/-- A sentinel that no call removes is there after a visit if it was there before. -/
theorem Legal.isApplied_left {v : Visit σ} {s : Spec} (h : Legal env v)
    (hkept : ∀ call st, s.isApplied (env.files st) = true →
      s.isApplied (env.files (env.answer call st).state) = true)
    (hs : s.isApplied (env.files v.reached) = true) : s.isApplied (env.files v.left) = true := by
  cases h with
  | skipped | blocked => exact hs
  | refused t st => exact hkept (.execute t.command) st hs
  | unmarked t st | marked t st =>
    exact hkept (.touch t.sentinel) _ (hkept (.execute t.command) st hs)

/-- A patch that is done with has its sentinel. -/
theorem Legal.isApplied_of_ok {v : Visit σ} {o : Outcome} (h : Legal env v)
    (hmade : ∀ path st, (env.touch path st).outcome = .ok () →
      (env.files (env.touch path st).state).isThere path = true)
    (ho : v.outcome = .ok o) : v.spec.isApplied (env.files v.left) = true := by
  cases h with
  | skipped s st ha => exact ha
  | blocked | refused | unmarked => cases ho
  | marked s st _ _ _ ht => exact hmade s.sentinel _ ht

namespace Journey

variable {start finish : σ} {vs : List (Visit σ)}
  {outcome : Except Failure (List (Spec × Outcome))}

/-- All that a run has done with is applied when it ends. -/
theorem isApplied_finish (h : Journey env specs start vs finish outcome)
    (henv : Remembers env specs) {v : Visit σ} {o : Outcome} (hv : v ∈ vs)
    (ho : v.outcome = .ok o) : v.spec.isApplied (env.files finish) = true := by
  have hlegal := h.legal v hv
  have hkept := henv.kept v.spec (h.in_order.subset (List.mem_map_of_mem hv))
  exact h.preserves_from (P := fun st => v.spec.isApplied (env.files st) = true)
    (fun u hu => (h.legal u hu).isApplied_left hkept) hv (hlegal.isApplied_of_ok henv.made ho)

/-- A run that fails does so in its last visit. -/
theorem exists_last {e : Failure} (h : Journey env specs start vs finish outcome)
    (he : outcome = .error e) :
    ∃ before v, vs = before ++ [v] ∧ v.outcome = .error e ∧
      ∀ u ∈ before, ∃ o, u.outcome = .ok o := by
  induction h with
  | done => cases he
  | stop v _ _ _ hv =>
    cases he
    exact ⟨[], v, rfl, hv, by simp⟩
  | @next w o _ _ _ outcome _ ho _ ih =>
    have houtcome : outcome = .error e := by
      cases outcome with
      | error f => exact he
      | ok results => cases he
    obtain ⟨before, v, rfl, hv, hbefore⟩ := ih houtcome
    exact ⟨w :: before, v, rfl, hv, List.forall_mem_cons.2 ⟨⟨o, ho⟩, hbefore⟩⟩

end Journey

/-! ### The next run -/

/-- After a run that ended well the next one makes no call, changes nothing, finds every patch
applied, and has nothing to say unless it is verbose. After a run that failed, the next one makes
no call for any patch before the one that failed. -/
theorem applyAll_resumes (henv : Remembers env specs) (verbose verbose' : Bool) (start : σ) :
    let first := applyAll env verbose specs start
    let next := applyAll env verbose' specs first.state
    (∀ results, first.outcome = .ok results →
      next = ⟨[], [], first.state, .ok (specs.map (·, .alreadyApplied))⟩ ∧
        ∀ dryRun, Report.notices false (.patch ⟨specs.map (·, .alreadyApplied), dryRun⟩) = []) ∧
    ∀ e, first.outcome = .error e →
      ∃ before v, visits env specs start = before ++ [v] ∧ v.outcome = .error e ∧
        specs[before.length]? = some v.spec ∧
        (visits env specs first.state).take before.length =
          ((specs.take before.length).map fun s =>
            ⟨s, first.state, [], first.state, .ok .alreadyApplied⟩) ∧
        next.calls = ((visits env specs first.state).flatMap (·.log)).map (·.call) := by
  intro first next
  obtain ⟨hjourney, -⟩ := journey_visits env verbose specs start
  constructor
  · intro results hok
    have hspecs : (visits env specs start).map (·.spec) = specs :=
      (hjourney.ok_iff.1 ⟨results, hok⟩).1
    refine ⟨applyAll_of_isApplied verbose' fun s hs => ?_, fun dryRun => ?_⟩
    · rw [← hspecs] at hs
      obtain ⟨v, hv, rfl⟩ := List.mem_map.1 hs
      cases ho : v.outcome with
      | ok o => exact hjourney.isApplied_finish henv hv ho
      | error e =>
        have herror : first.outcome = .error e := (hjourney.error_iff e).2 ⟨v, hv, ho⟩
        rw [herror] at hok
        cases hok
    · simp [Report.notices, Report.patch, Report.patched]
  · intro e he
    obtain ⟨before, v, hvisits, hv, hbefore⟩ := hjourney.exists_last he
    refine ⟨before, v, hvisits, hv, hjourney.getElem?_spec (by simp [hvisits]),
      take_visits_of_isApplied fun s hs => ?_, (journey_visits env verbose' specs _).2⟩
    have hprefix : before.map (·.spec) <+: specs := by
      have horder := hjourney.in_order
      rw [hvisits, List.map_append] at horder
      exact (List.prefix_append _ _).trans horder
    rw [← List.length_map (·.spec), ← List.prefix_iff_eq_take.1 hprefix] at hs
    obtain ⟨u, hu, rfl⟩ := List.mem_map.1 hs
    obtain ⟨o, ho⟩ := hbefore u hu
    exact hjourney.isApplied_finish henv (by rw [hvisits]; exact List.mem_append_left _ hu) ho

/-- The trees in which paths lead where they lead in the sample, with programs that do nothing. -/
def idleEnvironment : Environment {f : Files // sampleFiles.SamePlaces f} :=
  (systemWith idle).within sampleFiles.SamePlaces (fun _ _ h => h)
    fun path _ h => h.trans (samePlaces_touch (h.grounded sampleFiles_grounded) path)

theorem idle_remembers (specs : List Spec) : Remembers idleEnvironment specs where
  made path st h := isThere_of_write (st.2.grounded sampleFiles_grounded) (write_of_touch h)
  kept s _ call st h := by
    cases call with
    | execute => exact h
    | touch path =>
      show (Host.touch path st.1).state.isThere s.sentinel = true
      cases ho : (Host.touch path st.1).outcome with
      | error e =>
        rw [state_touch_of_error ho]
        exact h
      | ok =>
        have hwritten := altered_of_write (st.2.grounded sampleFiles_grounded) (write_of_touch ho)
        exact (hwritten.lost_of_isThere _ h).elim id False.elim

theorem applyAll_resumes_sample :
    let first := applyAll idleEnvironment false (resolved ownSentinels) sampleStart
    first.outcome = .ok ((resolved ownSentinels).map (·, .applied)) ∧
      applyAll idleEnvironment false (resolved ownSentinels) first.state =
        ⟨[], [], first.state, .ok ((resolved ownSentinels).map (·, .alreadyApplied))⟩ := by
  have hok : (applyAll idleEnvironment false (resolved ownSentinels) sampleStart).outcome =
      .ok ((resolved ownSentinels).map (·, .applied)) := by cbv
  exact ⟨hok, ((applyAll_resumes (idle_remembers _) false false _).1 _ hok).1⟩

end FirmwareKit.Patch
