import FirmwareKit.Proofs.Patch.Protocol

/-! The visits of a run, computed. Each visit is what the environment logs about one patch, and
a run makes the visits to its patches up to the first that fails. What every visit keeps,
the whole run keeps. -/

namespace FirmwareKit.Patch

variable {σ : Type} {env : Environment σ}

/-- What becomes of a patch that is reached in a state. -/
def visit (env : Environment σ) (s : Spec) (st : σ) : Visit σ :=
  let course := apply env.logged false s (st, [])
  ⟨s, st, course.state.2, course.state.1, course.outcome⟩

/-- All that a run over patches visits, from a state. -/
def visits (env : Environment σ) : List Spec → σ → List (Visit σ)
  | [], _ => []
  | s :: specs, st =>
    let v := visit env s st
    v :: match v.outcome with
      | .ok _ => visits env specs v.left
      | .error _ => []

/-- What becomes of a patch depends on the state alone in which it is reached. -/
theorem Legal.eq_visit {v : Visit σ} (h : Legal env v) : v = visit env v.spec v.reached := by
  cases h with
  | skipped s st ha => simp [visit, apply, Environment.logged, ha]
  | blocked s st e ha ho => simp [visit, apply, Environment.logged, ha, ho]
  | refused s st e ha ho he =>
    simp [visit, apply, Environment.logged, Environment.logAnswer, Environment.answer, ha, ho, he]
  | unmarked s st e ha ho he ht =>
    simp [visit, apply, Environment.logged, Environment.logAnswer, Environment.answer, ha, ho, he,
      ht, Except.map]
  | marked s st ha ho he ht =>
    simp [visit, apply, Environment.logged, Environment.logAnswer, Environment.answer, ha, ho, he,
      ht, Except.map]

/-- A patch whose sentinel exists is left alone. -/
theorem visit_of_isApplied (env : Environment σ) {s : Spec} {st : σ}
    (h : s.isApplied (env.files st) = true) :
    visit env s st = ⟨s, st, [], st, .ok .alreadyApplied⟩ :=
  (Legal.skipped s st h).eq_visit.symm

theorem Journey.eq_visits {specs : List Spec} {start finish : σ} {vs : List (Visit σ)}
    {outcome : Except Failure (List (Spec × Outcome))}
    (h : Journey env specs start vs finish outcome) : vs = visits env specs start := by
  induction h with
  | done => rfl
  | stop v specs e hv he => rw [visits, ← hv.eq_visit, he]
  | next v o hv ho _ ih => rw [visits, ← hv.eq_visit, ho, ih]

/-- Patches are visited in their order. -/
theorem Journey.getElem?_spec {specs : List Spec} {start finish : σ} {vs : List (Visit σ)}
    {outcome : Except Failure (List (Spec × Outcome))} {v : Visit σ} {i : Nat}
    (h : Journey env specs start vs finish outcome) (hv : vs[i]? = some v) :
    specs[i]? = some v.spec := by
  obtain ⟨hi, rfl⟩ := List.getElem?_eq_some_iff.1 hv
  rw [List.prefix_iff_getElem?.1 h.in_order i (by rwa [List.length_map]), List.getElem_map]

/-- A run makes its visits, and the calls of the run are the calls of these. -/
theorem journey_visits (env : Environment σ) (verbose : Bool) (specs : List Spec) (start : σ) :
    Journey env specs start (visits env specs start) (applyAll env verbose specs start).state
        (applyAll env verbose specs start).outcome ∧
      (applyAll env verbose specs start).calls =
        ((visits env specs start).flatMap (·.log)).map (·.call) := by
  obtain ⟨vs, finish, outcome, notices, hjourney, hplain, -⟩ :=
    exists_journey env verbose specs start
  have hvs := hjourney.eq_visits
  subst hvs
  rw [hplain]
  exact ⟨hjourney, rfl⟩

/-- After a patch that is done with, a run goes on from what its visit left. -/
theorem state_applyAll_cons {s : Spec} {specs : List Spec} {st : σ} {o : Outcome} (verbose : Bool)
    (h : (visit env s st).outcome = .ok o) :
    (applyAll env verbose (s :: specs) st).state =
      (applyAll env verbose specs (visit env s st).left).state := by
  obtain ⟨v, notices, hv, rfl, rfl, happly, -⟩ := exists_legal env verbose s st
  rw [← hv.eq_visit] at h ⊢
  rw [applyAll, happly, h]

/-- What every visit keeps, the run keeps, and all its visits start with it. -/
theorem Journey.preserves {P : σ → Prop} {specs : List Spec} {start finish : σ}
    {vs : List (Visit σ)} {outcome : Except Failure (List (Spec × Outcome))}
    (h : Journey env specs start vs finish outcome)
    (hkeep : ∀ v ∈ vs, P v.reached → P v.left) (hstart : P start) :
    P finish ∧ ∀ v ∈ vs, P v.reached ∧ P v.left := by
  induction h with
  | done => exact ⟨hstart, by simp⟩
  | stop v specs e hv =>
    have hleft := hkeep v List.mem_cons_self hstart
    refine ⟨hleft, fun w hw => ?_⟩
    rw [List.mem_singleton.1 hw]
    exact ⟨hstart, hleft⟩
  | next v o hv _ _ ih =>
    have hleft := hkeep v List.mem_cons_self hstart
    obtain ⟨hfinish, hvs⟩ := ih (fun w hw => hkeep w (List.mem_cons_of_mem _ hw)) hleft
    refine ⟨hfinish, fun w hw => ?_⟩
    rcases List.mem_cons.1 hw with rfl | hw
    · exact ⟨hstart, hleft⟩
    · exact hvs w hw

/-- What every visit keeps is still so at the end if some visit left it so. -/
theorem Journey.preserves_from {P : σ → Prop} {specs : List Spec} {start finish : σ}
    {vs : List (Visit σ)} {outcome : Except Failure (List (Spec × Outcome))} {v : Visit σ}
    (h : Journey env specs start vs finish outcome)
    (hkeep : ∀ u ∈ vs, P u.reached → P u.left) (hv : v ∈ vs)
    (hleft : P v.left) : P finish := by
  induction h with
  | done => cases hv
  | stop w =>
    rw [List.mem_singleton.1 hv] at hleft
    exact hleft
  | next w _ _ _ more ih =>
    have hkeep' u (hu : u ∈ _) := hkeep u (List.mem_cons_of_mem _ hu)
    rcases List.mem_cons.1 hv with rfl | hv
    · exact (more.preserves hkeep' hleft).1
    · exact ih hkeep' hv

end FirmwareKit.Patch
