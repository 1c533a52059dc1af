import FirmwareKit.Patch.Run

/-! The way of a run through its patches. A patch that is reached is left alone,
blocked, or tried, and a run visits its patches in order up to the first one that
fails. The environment keeps the log of the calls made on it, with the states they
were made in. -/

namespace FirmwareKit.Patch

variable {σ : Type}

/-- A call as an environment sees it: what is asked, in which state, and how it ends. -/
structure Entry (σ : Type) where
  call : Call
  state : σ
  outcome : Except Failure Unit

namespace Environment

/-- What the environment does when it is called. -/
def answer (env : Environment σ) : Call → σ → Reply σ
  | .execute command => env.execute command
  | .touch path => env.touch path

/-- An answer of an environment that keeps a log. -/
def logAnswer (env : Environment σ) (call : Call) (s : σ × List (Entry σ)) :
    Reply (σ × List (Entry σ)) :=
  let reply := env.answer call s.1
  ⟨(reply.state, s.2 ++ [⟨call, s.1, reply.outcome⟩]), reply.notices, reply.outcome⟩

/-- The environment with a log of all calls made on it. -/
def logged (env : Environment σ) : Environment (σ × List (Entry σ)) where
  files s := env.files s.1
  execute command := env.logAnswer (.execute command)
  touch path := env.logAnswer (.touch path)

end Environment

/-- What became of a patch that a run reached: the state then, the calls made for it, the state it
was left in, and the outcome. -/
structure Visit (σ : Type) where
  spec : Spec
  reached : σ
  log : List (Entry σ)
  left : σ
  outcome : Except Failure Outcome

/-- All that can happen to a patch: it is applied already, blocked, its command fails, its sentinel
cannot be made, or it is applied now. -/
inductive Legal (env : Environment σ) : Visit σ → Prop
  | skipped (s : Spec) (st : σ) (ha : s.isApplied (env.files st) = true) :
    Legal env ⟨s, st, [], st, .ok .alreadyApplied⟩
  | blocked (s : Spec) (st : σ) (e : Failure) (ha : s.isApplied (env.files st) = false)
      (ho : s.obstacle? (env.files st) = some e) :
    Legal env ⟨s, st, [], st, .error e⟩
  | refused (s : Spec) (st : σ) (e : Failure) (ha : s.isApplied (env.files st) = false)
      (ho : s.obstacle? (env.files st) = none)
      (he : (env.execute s.command st).outcome = .error e) :
    Legal env ⟨s, st, [⟨.execute s.command, st, .error e⟩], (env.execute s.command st).state,
      .error e⟩
  | unmarked (s : Spec) (st : σ) (e : Failure) (ha : s.isApplied (env.files st) = false)
      (ho : s.obstacle? (env.files st) = none)
      (he : (env.execute s.command st).outcome = .ok ())
      (ht : (env.touch s.sentinel (env.execute s.command st).state).outcome = .error e) :
    Legal env ⟨s, st,
      [⟨.execute s.command, st, .ok ()⟩,
       ⟨.touch s.sentinel, (env.execute s.command st).state, .error e⟩],
      (env.touch s.sentinel (env.execute s.command st).state).state, .error e⟩
  | marked (s : Spec) (st : σ) (ha : s.isApplied (env.files st) = false)
      (ho : s.obstacle? (env.files st) = none)
      (he : (env.execute s.command st).outcome = .ok ())
      (ht : (env.touch s.sentinel (env.execute s.command st).state).outcome = .ok ()) :
    Legal env ⟨s, st,
      [⟨.execute s.command, st, .ok ()⟩,
       ⟨.touch s.sentinel, (env.execute s.command st).state, .ok ()⟩],
      (env.touch s.sentinel (env.execute s.command st).state).state, .ok .applied⟩

/-- A run over patches: all that it visits, the state at the end, and the outcome. -/
inductive Journey (env : Environment σ) :
    List Spec → σ → List (Visit σ) → σ → Except Failure (List (Spec × Outcome)) → Prop
  | done (st : σ) : Journey env [] st [] st (.ok [])
  | stop (v : Visit σ) (specs : List Spec) (e : Failure) (hv : Legal env v)
      (he : v.outcome = .error e) :
    Journey env (v.spec :: specs) v.reached [v] v.left (.error e)
  | next (v : Visit σ) (o : Outcome) {specs : List Spec} {visits : List (Visit σ)} {finish : σ}
      {outcome : Except Failure (List (Spec × Outcome))} (hv : Legal env v) (ho : v.outcome = .ok o)
      (more : Journey env specs v.left visits finish outcome) :
    Journey env (v.spec :: specs) v.reached (v :: visits) finish
      (outcome.map ((v.spec, o) :: ·))

/-- Applying a patch is a legal visit to it, and the environment logs the calls of that visit. -/
theorem exists_legal (env : Environment σ) (verbose : Bool) (s : Spec) (st : σ) :
    ∃ v notices, Legal env v ∧ v.spec = s ∧ v.reached = st ∧
      apply env verbose s st = ⟨v.log.map (·.call), notices, v.left, v.outcome⟩ ∧
      ∀ log, apply env.logged verbose s (st, log) =
        ⟨v.log.map (·.call), notices, (v.left, log ++ v.log), v.outcome⟩ := by
  cases ha : s.isApplied (env.files st) with
  | true =>
    refine ⟨_, (apply env verbose s st).notices, .skipped s st ha, rfl, rfl, ?_, fun log => ?_⟩
    · simp [apply, ha]
    · simp [apply, Environment.logged, ha]
  | false =>
    cases ho : s.obstacle? (env.files st) with
    | some e =>
      refine ⟨_, (apply env verbose s st).notices, .blocked s st e ha ho, rfl, rfl, ?_,
        fun log => ?_⟩
      · simp [apply, ha, ho]
      · simp [apply, Environment.logged, ha, ho]
    | none =>
      cases he : (env.execute s.command st).outcome with
      | error e =>
        refine ⟨_, (apply env verbose s st).notices, .refused s st e ha ho he, rfl, rfl, ?_,
          fun log => ?_⟩
        · simp [apply, ha, ho, he]
        · simp [apply, Environment.logged, Environment.logAnswer, Environment.answer, ha, ho, he]
      | ok =>
        cases ht : (env.touch s.sentinel (env.execute s.command st).state).outcome with
        | error e =>
          refine ⟨_, (apply env verbose s st).notices, .unmarked s st e ha ho he ht, rfl, rfl, ?_,
            fun log => ?_⟩
          · simp [apply, ha, ho, he, ht, Except.map]
          · simp [apply, Environment.logged, Environment.logAnswer, Environment.answer, ha, ho, he,
              ht, Except.map]
        | ok =>
          refine ⟨_, (apply env verbose s st).notices, .marked s st ha ho he ht, rfl, rfl, ?_,
            fun log => ?_⟩
          · simp [apply, ha, ho, he, ht, Except.map]
          · simp [apply, Environment.logged, Environment.logAnswer, Environment.answer, ha, ho, he,
              ht, Except.map]

/-- Every run is a journey, and the environment logs the calls of its visits. -/
theorem exists_journey (env : Environment σ) (verbose : Bool) (specs : List Spec) (st : σ) :
    ∃ visits finish outcome notices, Journey env specs st visits finish outcome ∧
      applyAll env verbose specs st =
        ⟨(visits.flatMap (·.log)).map (·.call), notices, finish, outcome⟩ ∧
      ∀ log, applyAll env.logged verbose specs (st, log) =
        ⟨(visits.flatMap (·.log)).map (·.call), notices,
          (finish, log ++ visits.flatMap (·.log)), outcome⟩ := by
  induction specs generalizing st with
  | nil => exact ⟨[], st, .ok [], [], .done st, rfl, fun log => by simp [applyAll]⟩
  | cons s specs ih =>
    obtain ⟨v, notices, hv, rfl, rfl, hplain, hlogged⟩ := exists_legal env verbose s st
    cases ho : v.outcome with
    | error e =>
      rw [ho] at hplain hlogged
      exact ⟨[v], v.left, .error e, notices, .stop v specs e hv ho,
        by simp [applyAll, hplain], fun log => by simp [applyAll, hlogged]⟩
    | ok o =>
      rw [ho] at hplain hlogged
      obtain ⟨visits, finish, outcome, more, hjourney, hplain', hlogged'⟩ := ih v.left
      exact ⟨v :: visits, finish, _, notices ++ more, .next v o hv ho hjourney,
        by simp [applyAll, hplain, hplain'], fun log => by simp [applyAll, hlogged, hlogged']⟩

end FirmwareKit.Patch
