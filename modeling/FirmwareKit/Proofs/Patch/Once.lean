import FirmwareKit.Proofs.Patch.System

/-! Every patch once. In a run that ends well every patch is applied, unless the sentinel that
an earlier one made is its own as well. -/

namespace FirmwareKit.Patch

variable {σ : Type} {env : Environment σ} {program : ShellCommand → Files → Reply Files}
  {specs : List Spec}

/-! ### A run that ends well -/

/-- The calls that are made for a patch with such an outcome. -/
def doneCalls : Spec × Outcome → List Call
  | (s, .applied) => [.execute s.command, .touch s.sentinel]
  | (_, .alreadyApplied) => []

theorem Legal.calls_eq {v : Visit σ} {o : Outcome} (h : Legal env v) (ho : v.outcome = .ok o) :
    v.log.map (·.call) = doneCalls (v.spec, o) := by
  cases h with
  | skipped | marked => cases ho; rfl
  | blocked | refused | unmarked => cases ho

namespace Journey

/-- The results of a run that ends well are what became of its visits. -/
theorem results_visits {start finish : σ} {vs : List (Visit σ)}
    {outcome : Except Failure (List (Spec × Outcome))} {results : List (Spec × Outcome)}
    (h : Journey env specs start vs finish outcome) (hr : outcome = .ok results) :
    vs.map (fun v => (v.spec, v.outcome)) = results.map (fun r => (r.1, .ok r.2)) ∧
      (vs.flatMap (·.log)).map (·.call) = results.flatMap doneCalls := by
  induction h generalizing results with
  | done => cases hr; exact ⟨rfl, rfl⟩
  | stop => cases hr
  | @next v o _ _ _ outcome hv ho _ ih =>
    cases outcome with
    | error e => cases hr
    | ok more =>
      cases hr
      obtain ⟨hvisits, hcalls⟩ := ih rfl
      refine ⟨?_, ?_⟩
      · rw [List.map_cons, List.map_cons, hvisits, ho]
      · rw [List.flatMap_cons, List.flatMap_cons, List.map_append, hcalls, hv.calls_eq ho]

/-- What is there when a patch is reached was there from the start, or is the sentinel of a patch
that was applied before. -/
theorem made_before {start finish : Files} {vs before after : List (Visit Files)}
    {v : Visit Files} {outcome : Except Failure (List (Spec × Outcome))} {p : Path}
    (h : Journey (systemWith program) specs start vs finish outcome)
    (hprogram : ChangesTarget program) (hstart : start.Grounded)
    (hvs : vs = before ++ v :: after) (hp : v.reached.isThere p = true) :
    start.isThere p = true ∨
      ∃ u ∈ before, u.outcome = .ok .applied ∧ start.SameFile u.spec.sentinel p := by
  induction h generalizing before with
  | done => simp at hvs
  | stop w =>
    cases before with
    | nil => cases hvs; exact .inl hp
    | cons => simp at hvs
  | next w o hw ho _ ih =>
    cases before with
    | nil => cases hvs; exact .inl hp
    | cons u before =>
      obtain ⟨rfl, htail⟩ := List.cons.inj hvs
      have haltered := hw.altered hprogram hstart
      rcases ih (haltered.samePlaces.grounded hstart) htail with hleft | ⟨u, hu, happlied, hsame⟩
      · exact (haltered.made_of_isThere p hleft).imp_right
          fun hmade => ⟨w, List.mem_cons_self, hmade⟩
      · exact .inr ⟨u, List.mem_cons_of_mem _ hu, happlied,
          haltered.samePlaces.sameFile_iff.1 hsame⟩

/-- What a run reports as applied already has the sentinel of a patch that was applied before. -/
theorem applied_before {start finish : Files} {vs : List (Visit Files)}
    {results before after : List (Spec × Outcome)} {s : Spec}
    (h : Journey (systemWith program) specs start vs finish (.ok results))
    (hprogram : ChangesTarget program) (hstart : start.Grounded)
    (hnew : ∀ s ∈ specs, s.isApplied start = false)
    (hresults : results = before ++ (s, .alreadyApplied) :: after) :
    ∃ t, (t, .applied) ∈ before ∧ start.SameFile t.sentinel s.sentinel := by
  obtain ⟨hvisits, -⟩ := h.results_visits rfl
  rw [hresults, List.map_append, List.map_cons] at hvisits
  obtain ⟨vbefore, rest, hvs, hbefore, hrest⟩ := List.map_eq_append_iff.1 hvisits
  obtain ⟨v, vafter, rfl, hv, -⟩ := List.map_eq_cons_iff.1 hrest
  obtain ⟨rfl, hskipped⟩ := Prod.mk.inj hv
  have hmem : v ∈ vs := by simp [hvs]
  have hthere : v.reached.isThere v.spec.sentinel = true := by
    rcases (h.legal v hmem).of_ok hskipped with ⟨hwas, -⟩ | ⟨-, happlied⟩
    · exact hwas
    · cases happlied
  rcases h.made_before hprogram hstart hvs hthere with hold | ⟨u, hu, happlied, hsame⟩
  · have hspec : v.spec ∈ specs := h.in_order.subset (List.mem_map_of_mem hmem)
    exact absurd hold (Bool.eq_false_iff.1 (hnew _ hspec))
  · have hreported : (u.spec, u.outcome) ∈ before.map fun r => (r.1, .ok r.2) :=
      hbefore ▸ List.mem_map_of_mem hu
    obtain ⟨⟨t, o⟩, hr, hpair⟩ := List.mem_map.1 hreported
    rw [happlied] at hpair
    cases hpair
    exact ⟨u.spec, hr, hsame⟩

end Journey

/-- In a run that ends well, started without any sentinel, exactly the patches reported as applied
were, in order. One that is reported as applied already shares its sentinel with an earlier one that
was applied in this run. So if no two sentinels are the same file, the commands of all patches
were executed, each once and in order. -/
theorem applyAll_each_once (hprogram : ChangesTarget program) {start : Files}
    (hstart : start.Grounded) (hnew : ∀ s ∈ specs, s.isApplied start = false) (verbose : Bool)
    {results : List (Spec × Outcome)}
    (hok : (applyAll (systemWith program) verbose specs start).outcome = .ok results) :
    results.map (·.1) = specs ∧
      (applyAll (systemWith program) verbose specs start).calls = results.flatMap doneCalls ∧
      (∀ before s after, results = before ++ (s, .alreadyApplied) :: after →
        ∃ t, (t, .applied) ∈ before ∧ start.SameFile t.sentinel s.sentinel) ∧
      (specs.Pairwise (fun s t => ¬ start.SameFile s.sentinel t.sentinel) →
        results = specs.map (·, .applied) ∧
          (applyAll (systemWith program) verbose specs start).calls =
            specs.flatMap fun s => [.execute s.command, .touch s.sentinel]) := by
  obtain ⟨hjourney, hcalls⟩ := journey_visits (systemWith program) verbose specs start
  rw [hok] at hjourney
  obtain ⟨hvisits, hlog⟩ := hjourney.results_visits rfl
  have hspecs : results.map (·.1) = specs := by
    have hfirst := congrArg (List.map Prod.fst) hvisits
    rw [List.map_map, List.map_map] at hfirst
    exact hfirst.symm.trans (hjourney.ok_iff.1 ⟨results, rfl⟩).1
  have hshared (before s after) (hresults : results = before ++ (s, .alreadyApplied) :: after) :=
    hjourney.applied_before hprogram hstart hnew hresults
  refine ⟨hspecs, hcalls.trans hlog, hshared, fun hdistinct => ?_⟩
  have hall : ∀ r ∈ results, r.2 = .applied := by
    rintro ⟨s, o⟩ hr
    cases o with
    | applied => rfl
    | alreadyApplied =>
      obtain ⟨before, after, hresults⟩ := List.append_of_mem hr
      obtain ⟨t, ht, hsame⟩ := hshared before s after hresults
      rw [← hspecs, hresults, List.map_append, List.map_cons, List.pairwise_append] at hdistinct
      exact absurd hsame (hdistinct.2.2 t (List.mem_map.2 ⟨_, ht, rfl⟩) s List.mem_cons_self)
  have happlied : results = specs.map (·, .applied) := by
    rw [← hspecs, List.map_map]
    exact (List.map_id _).symm.trans (List.map_congr_left fun r hr => Prod.ext rfl (hall r hr))
  refine ⟨happlied, ?_⟩
  rw [hcalls, hlog, happlied, List.flatMap_map]
  rfl

/-- The second patch of these settings is not applied. -/
def sharedSentinel : Config := settings [⟨"/", "t", "p", "a"⟩, ⟨"/", "u", "p", "a"⟩]

theorem applyAll_each_once_sample :
    (∀ s ∈ resolved ownSentinels, s.isApplied sampleFiles = false) ∧
      (resolved ownSentinels).Pairwise
        (fun s t => ¬ sampleFiles.SameFile s.sentinel t.sentinel) ∧
      (applyAll (systemWith patching) false (resolved ownSentinels) sampleFiles).outcome =
        .ok ((resolved ownSentinels).map (·, .applied)) ∧
      (applyAll (systemWith patching) false (resolved ownSentinels) sampleFiles).calls =
        (resolved ownSentinels).flatMap fun s => [.execute s.command, .touch s.sentinel] := by
  have hnew : ∀ s ∈ resolved ownSentinels, s.isApplied sampleFiles = false := by
    simp only [resolved, ownSentinels, settings, List.map_cons, List.map_nil, List.forall_mem_cons]
    exact ⟨by cbv, by cbv, by simp⟩
  have hapart : (resolved ownSentinels).Pairwise
      fun s t => ¬ sampleFiles.SameFile s.sentinel t.sentinel := by
    obtain ⟨ha, hb, -⟩ := sampleFiles_place?
    refine List.pairwise_pair.2 ?_
    show ¬ sampleFiles.SameFile ⟨"/a"⟩ ⟨"/b"⟩
    simp [Files.SameFile, ha, hb]
  have hok : (applyAll (systemWith patching) false (resolved ownSentinels) sampleFiles).outcome =
      .ok ((resolved ownSentinels).map (·, .applied)) := by cbv
  exact ⟨hnew, hapart, hok, ((applyAll_each_once patching_changesTarget sampleFiles_grounded hnew
    false hok).2.2.2 hapart).2⟩

/-- A run that ends well, started without any sentinel, can leave a patch out: the one whose
sentinel is made for the patch before it. -/
theorem exists_left_out :
    ChangesTarget patching ∧ sampleFiles.Grounded ∧ sharedSentinel.validate = .ok () ∧
      (∀ s ∈ resolved sharedSentinel, s.isApplied sampleFiles = false) ∧
      ∃ s t, resolved sharedSentinel = [s, t] ∧
        (applyAll (systemWith patching) false (resolved sharedSentinel) sampleFiles).outcome =
          .ok [(s, .applied), (t, .alreadyApplied)] ∧
        .execute t.command ∉
          (applyAll (systemWith patching) false (resolved sharedSentinel) sampleFiles).calls := by
  refine ⟨patching_changesTarget, sampleFiles_grounded, settings_validate _, ?_, _, _, rfl, ?_, ?_⟩
  · simp only [resolved, sharedSentinel, settings, List.map_cons, List.map_nil,
      List.forall_mem_cons]
    exact ⟨by cbv, by cbv, by simp⟩
  · cbv
  · have hcalls : (applyAll (systemWith patching) false (resolved sharedSentinel)
        sampleFiles).calls = [.execute ⟨"patch", ["/t", "/p"]⟩, .touch ⟨"/a"⟩] := by cbv
    rw [hcalls]
    decide

end FirmwareKit.Patch
