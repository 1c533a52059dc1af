import Mathlib.Tactic.Tauto
import FirmwareKit.Proofs.Patch.Journey

/-! The protocol of sentinels. In any environment a sentinel is made right after the
command of its patch succeeded, a patch whose sentinel exists or whose files are
missing is not tried, calls come in the order of the patches, and the first failure
ends the run. -/

namespace FirmwareKit.Patch

variable {σ : Type}

/-- The entries are what the environment does on the way from one state to another. -/
def Replays (env : Environment σ) : σ → List (Entry σ) → σ → Prop
  | s, [], t => s = t
  | s, a :: log, t =>
    a.state = s ∧ a.outcome = (env.answer a.call s).outcome ∧
      Replays env (env.answer a.call s).state log t

/-- Every visit starts in the state that the visit before it left. -/
def Linked (env : Environment σ) : σ → List (Visit σ) → σ → Prop
  | s, [], t => s = t
  | s, v :: visits, t =>
    v.reached = s ∧ Replays env v.reached v.log v.left ∧ Linked env v.left visits t

namespace Visit

/-- The command of the patch and the making of its sentinel were called, and succeeded. -/
def IsDone (v : Visit σ) : Prop :=
  v.log.map (fun a => (a.call, a.outcome)) =
    [(.execute v.spec.command, .ok ()), (.touch v.spec.sentinel, .ok ())]

/-- The sentinel of the patch existed when the patch was reached. -/
def WasApplied (env : Environment σ) (v : Visit σ) : Prop :=
  v.spec.isApplied (env.files v.reached) = true

/-- Target and patch file were files when the patch was reached. -/
def HadFiles (env : Environment σ) (v : Visit σ) : Prop :=
  (env.files v.reached).isFile v.spec.target = true ∧
    (env.files v.reached).isFile v.spec.patch = true

end Visit

/-- What a run does on its environment, patch by patch. -/
structure Protocol (env : Environment σ) (specs : List Spec) (start : σ)
    (run : Course (σ × List (Entry σ)) (List (Spec × Outcome))) (visits : List (Visit σ)) :
    Prop where
  /-- The patches visited are the first ones, in order. -/
  in_order : visits.map (·.spec) <+: specs
  /-- The log is that of the visits, one after the other. -/
  log_eq : run.state.2 = visits.flatMap (·.log)
  linked : Linked env start visits run.state.1
  once : ∀ v ∈ visits, v.log.map (·.call) <+: [.execute v.spec.command, .touch v.spec.sentinel]
  touch_after : ∀ v ∈ visits, ∀ i a p, v.log[i]? = some a → a.call = .touch p →
    p = v.spec.sentinel ∧ ∃ j b, i = j + 1 ∧ v.log[j]? = some b ∧
      b.call = .execute v.spec.command ∧ b.outcome = .ok ()
  quiet : ∀ v ∈ visits, v.WasApplied env ∨ ¬ v.HadFiles env → v.log = []
  /-- A visit fails where a file is missing or a call fails. -/
  fails_iff : ∀ v ∈ visits, ∀ e, v.outcome = .error e ↔
    (¬ v.WasApplied env ∧ v.spec.obstacle? (env.files v.reached) = some e) ∨
      ∃ a ∈ v.log, a.outcome = .error e
  last_call : ∀ v ∈ visits, ∀ before a after e, v.log = before ++ a :: after →
    a.outcome = .error e → after = []
  last_visit : ∀ before v after e, visits = before ++ v :: after → v.outcome = .error e → after = []
  error_iff : ∀ e, run.outcome = .error e ↔ ∃ v ∈ visits, v.outcome = .error e
  ok_iff : (∃ results, run.outcome = .ok results) ↔
    visits.map (·.spec) = specs ∧ ∀ v ∈ visits, v.WasApplied env ∨ v.IsDone
  results_eq : ∀ results, run.outcome = .ok results →
    results = visits.map fun v =>
      (v.spec, if .execute v.spec.command ∈ v.log.map (·.call) then .applied else .alreadyApplied)

theorem Spec.obstacle?_eq_none_iff {s : Spec} {files : Files} :
    s.obstacle? files = none ↔ files.isFile s.target = true ∧ files.isFile s.patch = true := by
  unfold obstacle?
  cases files.isFile s.target <;> cases files.isFile s.patch <;> simp

/-! ### Legal visits -/

namespace Legal

variable {env : Environment σ} {v : Visit σ}

theorem replays (h : Legal env v) : Replays env v.reached v.log v.left := by
  cases h with
  | skipped | blocked => rfl
  | refused _ _ _ _ _ he => exact ⟨rfl, he.symm, rfl⟩
  | unmarked _ _ _ _ _ he ht => exact ⟨rfl, he.symm, rfl, ht.symm, rfl⟩
  | marked _ _ _ _ he ht => exact ⟨rfl, he.symm, rfl, ht.symm, rfl⟩

theorem once (h : Legal env v) :
    v.log.map (·.call) <+: [.execute v.spec.command, .touch v.spec.sentinel] := by
  cases h with
  | skipped | blocked => exact List.nil_prefix
  | refused => exact ⟨[_], rfl⟩
  | unmarked | marked => exact List.prefix_rfl

theorem touch_after (h : Legal env v) {i : Nat} {a : Entry σ} {p : Path} (hi : v.log[i]? = some a)
    (ha : a.call = .touch p) :
    p = v.spec.sentinel ∧ ∃ j b, i = j + 1 ∧ v.log[j]? = some b ∧
      b.call = .execute v.spec.command ∧ b.outcome = .ok () := by
  cases h with
  | skipped | blocked => simp at hi
  | refused =>
    -- the only entry is the command
    obtain ⟨rfl, rfl⟩ : i = 0 ∧ _ = a := by simpa [List.getElem?_cons] using hi
    cases ha
  | unmarked | marked =>
    match i with
    | 0 => cases hi; cases ha
    | 1 => cases hi; cases ha; exact ⟨rfl, 0, _, rfl, rfl, rfl, rfl⟩
    | i + 2 => simp at hi

theorem quiet (h : Legal env v) (hq : v.WasApplied env ∨ ¬ v.HadFiles env) : v.log = [] := by
  cases h with
  | skipped | blocked => rfl
  | refused _ _ _ ha ho | unmarked _ _ _ ha ho | marked _ _ ha ho =>
    rcases hq with hq | hq
    · rw [Visit.WasApplied, ha] at hq
      cases hq
    · exact absurd (Spec.obstacle?_eq_none_iff.1 ho) hq

theorem fails_iff (h : Legal env v) (e : Failure) :
    v.outcome = .error e ↔
      (¬ v.WasApplied env ∧ v.spec.obstacle? (env.files v.reached) = some e) ∨
        ∃ a ∈ v.log, a.outcome = .error e := by
  cases h with
  | skipped s st ha => simp [Visit.WasApplied, ha]
  | blocked s st f ha ho => simp [Visit.WasApplied, ha, ho]
  | refused s st f ha ho he => simp [ho]
  | unmarked s st f ha ho he ht => simp [ho]
  | marked s st ha ho he ht => simp [ho]

theorem last_call (h : Legal env v) {before after : List (Entry σ)} {a : Entry σ} {e : Failure}
    (hlog : v.log = before ++ a :: after) (ha : a.outcome = .error e) : after = [] := by
  cases h with
  | skipped | blocked => simp at hlog
  | refused =>
    match before with
    | [] => cases hlog; rfl
    | _ :: _ => simp at hlog
  | unmarked | marked =>
    match before with
    | [] => cases hlog; cases ha
    | [_] => cases hlog; rfl
    | _ :: _ :: _ => simp at hlog

/-- A visit that succeeds found the sentinel or did all there is to do. -/
theorem of_ok (h : Legal env v) {o : Outcome} (ho : v.outcome = .ok o) :
    (v.WasApplied env ∧ v.log = [] ∧ o = .alreadyApplied) ∨ (v.IsDone ∧ o = .applied) := by
  cases h with
  | skipped s st ha => cases ho; exact .inl ⟨ha, rfl, rfl⟩
  | blocked | refused | unmarked => cases ho
  | marked => cases ho; exact .inr ⟨rfl, rfl⟩

theorem ok_of (h : Legal env v) (hv : v.WasApplied env ∨ v.IsDone) : ∃ o, v.outcome = .ok o := by
  cases ho : v.outcome with
  | ok o => exact ⟨o, rfl⟩
  | error e =>
    exfalso
    rcases (h.fails_iff e).1 ho with ⟨hna, hobs⟩ | ⟨a, ha, hae⟩
    · rcases hv with hv | hv
      · exact hna hv
      · have hlog := h.quiet (.inr fun hfiles => by
          rw [Spec.obstacle?_eq_none_iff.2 hfiles] at hobs
          cases hobs)
        simp [Visit.IsDone, hlog] at hv
    · rcases hv with hv | hv
      · rw [h.quiet (.inl hv)] at ha
        cases ha
      · have hmem := List.mem_map_of_mem (f := fun a => (a.call, a.outcome)) ha
        rw [hv, hae] at hmem
        simp at hmem

end Legal

/-! ### Journeys -/

namespace Journey

variable {env : Environment σ} {specs : List Spec} {start finish : σ} {visits : List (Visit σ)}
  {outcome : Except Failure (List (Spec × Outcome))}

theorem legal (h : Journey env specs start visits finish outcome) : ∀ v ∈ visits, Legal env v := by
  induction h with
  | done => simp
  | stop v _ _ hv => simpa using hv
  | next v _ hv _ _ ih => exact List.forall_mem_cons.2 ⟨hv, ih⟩

theorem in_order (h : Journey env specs start visits finish outcome) :
    visits.map (·.spec) <+: specs := by
  induction h with
  | done => exact List.nil_prefix
  | stop v specs => exact ⟨specs, rfl⟩
  | next v _ _ _ _ ih => exact List.cons_prefix_cons.2 ⟨rfl, ih⟩

theorem linked (h : Journey env specs start visits finish outcome) :
    Linked env start visits finish := by
  induction h with
  | done => rfl
  | stop v _ _ hv => exact ⟨rfl, hv.replays, rfl⟩
  | next v _ hv _ _ ih => exact ⟨rfl, hv.replays, ih⟩

theorem last_visit (h : Journey env specs start visits finish outcome)
    {before after : List (Visit σ)} {v : Visit σ} {e : Failure}
    (hvisits : visits = before ++ v :: after) (he : v.outcome = .error e) : after = [] := by
  induction h generalizing before with
  | done => simp at hvisits
  | stop w =>
    cases before with
    | nil => cases hvisits; rfl
    | cons => simp at hvisits
  | next w o hw ho _ ih =>
    cases before with
    | nil =>
      cases hvisits
      rw [ho] at he
      cases he
    | cons _ before => exact ih (List.cons.inj hvisits).2

theorem error_iff (h : Journey env specs start visits finish outcome) (e : Failure) :
    outcome = .error e ↔ ∃ v ∈ visits, v.outcome = .error e := by
  induction h with
  | done => simp
  | stop v _ f _ hf => simp [hf]
  | @next v o _ _ _ outcome _ ho _ ih =>
    have hmap : outcome.map ((v.spec, o) :: ·) = .error e ↔ outcome = .error e := by
      cases outcome <;> simp [Except.map]
    rw [hmap, ih]
    simp [ho]

theorem ok_iff (h : Journey env specs start visits finish outcome) :
    (∃ results, outcome = .ok results) ↔
      visits.map (·.spec) = specs ∧ ∀ v ∈ visits, v.WasApplied env ∨ v.IsDone := by
  induction h with
  | done => simp
  | stop v specs e hv he =>
    constructor
    · rintro ⟨_, h⟩
      cases h
    · rintro ⟨-, hall⟩
      obtain ⟨o, ho⟩ := hv.ok_of (hall v (by simp))
      rw [he] at ho
      cases ho
  | @next v o _ _ _ outcome hv ho _ ih =>
    have hmap : (∃ results, outcome.map ((v.spec, o) :: ·) = .ok results) ↔
        ∃ results, outcome = .ok results := by
      cases outcome <;> simp [Except.map]
    have hv' : v.WasApplied env ∨ v.IsDone := by
      rcases hv.of_ok ho with ⟨ha, -⟩ | ⟨hd, -⟩
      · exact .inl ha
      · exact .inr hd
    rw [hmap, ih, List.map_cons, List.cons.injEq, List.forall_mem_cons]
    tauto

theorem results_eq (h : Journey env specs start visits finish outcome)
    {results : List (Spec × Outcome)} (hr : outcome = .ok results) :
    results = visits.map fun v =>
      (v.spec,
        if .execute v.spec.command ∈ v.log.map (·.call) then .applied else .alreadyApplied) := by
  induction h generalizing results with
  | done => cases hr; rfl
  | stop => cases hr
  | @next v o _ _ _ outcome hv ho _ ih =>
    cases outcome with
    | error e => cases hr
    | ok more =>
      cases hr
      rw [List.map_cons, ← ih rfl]
      rcases hv.of_ok ho with ⟨-, hlog, rfl⟩ | ⟨hdone, rfl⟩
      · simp [hlog]
      · have hcalls : v.log.map (·.call) = [.execute v.spec.command, .touch v.spec.sentinel] := by
          have := congrArg (List.map Prod.fst) hdone
          rwa [List.map_map] at this
        simp [hcalls]

theorem protocol {run : Course (σ × List (Entry σ)) (List (Spec × Outcome))}
    (h : Journey env specs start visits run.state.1 run.outcome)
    (hlog : run.state.2 = visits.flatMap (·.log)) : Protocol env specs start run visits where
  in_order := h.in_order
  log_eq := hlog
  linked := h.linked
  once v hv := (h.legal v hv).once
  touch_after v hv _ _ _ := (h.legal v hv).touch_after
  quiet v hv := (h.legal v hv).quiet
  fails_iff v hv := (h.legal v hv).fails_iff
  last_call v hv _ _ _ _ := (h.legal v hv).last_call
  last_visit _ _ _ _ := h.last_visit
  error_iff := h.error_iff
  ok_iff := h.ok_iff
  results_eq _ := h.results_eq

end Journey

/-- A run over any patches, from any state of any environment, keeps to the protocol; the log of
the calls is kept by the environment itself, which changes nothing else about the run. -/
theorem applyAll_protocol (env : Environment σ) (verbose : Bool) (specs : List Spec) (start : σ) :
    ∃ visits, Protocol env specs start (applyAll env.logged verbose specs (start, [])) visits ∧
      (applyAll env.logged verbose specs (start, [])).outcome =
        (applyAll env verbose specs start).outcome ∧
      (applyAll env.logged verbose specs (start, [])).notices =
        (applyAll env verbose specs start).notices ∧
      (applyAll env.logged verbose specs (start, [])).state.1 =
        (applyAll env verbose specs start).state ∧
      (applyAll env.logged verbose specs (start, [])).state.2.map (·.call) =
        (applyAll env verbose specs start).calls := by
  obtain ⟨visits, finish, outcome, notices, hjourney, hplain, hlogged⟩ :=
    exists_journey env verbose specs start
  rw [hplain, hlogged []]
  exact ⟨visits, hjourney.protocol (by simp), rfl, rfl, rfl, by simp⟩

end FirmwareKit.Patch
