import GuardedDispatch.Proofs.Pipeline.Steps

/-!
# Runs with a record of what they asked for

A run acts on its surroundings only by asking: a stage to work, the clock to wait, the session to
commit or to roll back, the sink to take a letter. Recorded surroundings answer like the ones they
record and write down what they were asked and what they answered. A run in them is the run in the
surroundings themselves, and its record grows by what each step asks.
-/

namespace GuardedDispatch

variable {σ μ π : Type}

/-- One thing that a run asked of its surroundings, with the answer. -/
inductive Deed (μ π : Type) where
  | worked (stage : Stage) (payload : π) (answer : Except StageFailure π)
  | slept (wait : Nat)
  | committed (session : DeliverySession) (answer : Except String Unit)
  | rolledBack (session : DeliverySession) (answer : Except String Unit)
  | reported (message : μ) (letter : DeadLetter) (answer : Except String Unit)

/-- Surroundings that write down what they are asked. -/
def Surroundings.recorded (around : Surroundings σ μ π) :
    Surroundings (σ × List (Deed μ π)) μ π where
  work? stage := (around.work? stage).map fun work e shared payload =>
    let (env, notes, answer) := work e.1 shared payload
    ((env, e.2 ++ [.worked stage payload answer]), notes, answer)
  now e := around.now e.1
  sleep e wait := (around.sleep e.1 wait, e.2 ++ [.slept wait])
  commit e session :=
    let (env, answer) := around.commit e.1 session
    ((env, e.2 ++ [.committed session answer]), answer)
  rollback e session :=
    let (env, answer) := around.rollback e.1 session
    ((env, e.2 ++ [.rolledBack session answer]), answer)
  report? := around.report?.map fun report e message letter =>
    let (env, answer) := report e.1 message letter
    ((env, e.2 ++ [.reported message letter answer]), answer)

namespace PipelineRun

variable {policy : PipelinePolicy} {around : Surroundings σ μ π} {env env' : σ}
  {stats stats' : PipelineStats} {r r' : PipelineRun μ π}

/-- What the next step of a run asks of its surroundings. -/
def deeds (around : Surroundings σ μ π) (env : σ) (r : PipelineRun μ π) : List (Deed μ π) :=
  match r.phase with
  | .working stage payload =>
    match around.work? stage with
    | some work => [.worked stage payload (work env r.shared payload).2.2]
    | none => []
  | .pausing wait _ _ => if wait = 0 then [] else [.slept wait]
  | .committing s _ => [.committed s (around.commit env s).2]
  | .rollingBack s _ _ => [.rolledBack s (around.rollback env s).2]
  | .reporting letter _ _ =>
    match around.report? with
    | some report =>
      [.reported r.shared.context.message letter (report env r.shared.context.message letter).2]
    | none => []
  | .finished _ => []

/-- A recorded step is the step, with what it asks written down. -/
theorem step?_recorded (past : List (Deed μ π)) :
    r.step? policy around.recorded (env, past) stats =
      (r.step? policy around env stats).map fun moved =>
        ((moved.1, past ++ r.deeds around env), moved.2) := by
  cases hat : r.phase with
  | working stage payload =>
    cases hw : around.work? stage with
    | none =>
      have hp : around.perform stage env r.shared payload = (env, [], .ok payload) := by
        rw [Surroundings.perform, hw]
      have hq : around.recorded.perform stage (env, past) r.shared payload =
          ((env, past), [], .ok payload) := by
        simp only [Surroundings.perform, Surroundings.recorded, hw, Option.map_none]
      rw [step?_of_working hat hp, step?_of_working hat hq]
      simp only [deeds, hat, hw, List.append_nil, Option.map_some]
      rfl
    | some work =>
      have hp : around.perform stage env r.shared payload = work env r.shared payload := by
        rw [Surroundings.perform, hw]
      have hq : around.recorded.perform stage (env, past) r.shared payload =
          (((work env r.shared payload).1,
              past ++ [.worked stage payload (work env r.shared payload).2.2]),
            (work env r.shared payload).2) := by
        simp only [Surroundings.perform, Surroundings.recorded, hw, Option.map_some]
      rw [step?_of_working hat hp, step?_of_working hat hq]
      simp only [deeds, hat, hw, Option.map_some]
      rfl
  | pausing wait stage payload =>
    by_cases hz : wait = 0
    · simp [step?, deeds, hat, hz, Surroundings.recorded]
    · simp [step?, deeds, hat, hz, Surroundings.recorded]
  | committing s output => simp [step?, deeds, hat, Surroundings.recorded]
  | rollingBack s letter cause => simp [step?, deeds, hat, Surroundings.recorded]
  | reporting letter cause rollback =>
    cases hr : around.report? with
    | none => simp [step?, deeds, hat, hr, Surroundings.recorded]
    | some report => simp [step?, deeds, hat, hr, Surroundings.recorded]
  | finished result => simp [step?, hat]

/-- A recorded run is the run. -/
theorem runFor_recorded (fuel : Nat) (past : List (Deed μ π)) :
    (runFor fuel policy around.recorded (env, past) stats r).2 =
      (runFor fuel policy around env stats r).2 := by
  induction fuel generalizing env past stats r with
  | zero => rfl
  | succ fuel ih =>
    rw [runFor, runFor, step?_recorded]
    cases r.step? policy around env stats with
    | none => rfl
    | some moved => exact ih _

/-- What every step keeps, with what it asks written down, holds at the end of a recorded run. -/
theorem runFor_recorded_keeps {I : PipelineRun μ π → List (Deed μ π) → Prop}
    (hstep : ∀ env stats r env' stats' r' past, I r past →
      Moved policy around env stats r env' stats' r' → I r' (past ++ r.deeds around env))
    {past : List (Deed μ π)} (h : I r past) (fuel : Nat) :
    I (runFor fuel policy around.recorded (env, past) stats r).2.2
      (runFor fuel policy around.recorded (env, past) stats r).1.2 := by
  refine runFor_keeps (I := fun (e : σ × List (Deed μ π)) _ r ↦ I r e.2) ?_ h fuel
  rintro ⟨env, past⟩ stats r e' stats' r' h hs
  rw [step?_recorded] at hs
  obtain ⟨⟨env₁, stats₁, r₁⟩, hmoved, heq⟩ := Option.map_eq_some_iff.mp hs
  cases heq
  exact hstep _ _ _ _ _ _ _ h (moved_of_step? hmoved)

/-! ### The sink -/

/-- A finished run stays as it is. -/
theorem runFor_of_finished (h : r.result?.isSome = true) (fuel : Nat) :
    runFor fuel policy around env stats r = (env, stats, r) := by
  cases fuel with
  | zero => rfl
  | succ fuel => rw [runFor, step?_eq_none_iff.mpr h]

private theorem result?_bury (stats : PipelineStats) (r : PipelineRun μ π) (letter : DeadLetter)
    (cause : StageFailure) (rollback : Except ConnectorFailure Unit) :
    (bury stats r letter cause rollback).2.result?.isSome = true := by
  unfold bury
  dsimp only
  split <;> rfl

/-- Whether there is a sink, and how it answers, makes no difference to a run. -/
theorem runFor_sink (report? : Option (σ → μ → DeadLetter → σ × Except String Unit))
    (fuel : Nat) :
    (runFor fuel policy { around with report? } env stats r).2 =
      (runFor fuel policy around env stats r).2 := by
  induction fuel generalizing env stats r with
  | zero => rfl
  | succ fuel ih =>
    cases hat : r.phase with
    | reporting letter cause rollback =>
      have hdone := result?_bury stats r letter cause rollback
      simp only [runFor, step?, hat, runFor_of_finished hdone]
    | working stage payload =>
      rcases hwork : around.perform stage env r.shared payload with ⟨env₁, notes, answer⟩
      have hwork' : Surroundings.perform { around with report? } stage env r.shared payload =
          (env₁, notes, answer) := hwork
      rw [runFor, runFor, step?_of_working hat hwork, step?_of_working hat hwork']
      exact ih
    | pausing wait stage payload =>
      simp only [runFor, step?, hat]
      exact ih
    | committing s output =>
      simp only [runFor, step?, hat]
      exact ih
    | rollingBack s letter cause =>
      simp only [runFor, step?, hat]
      exact ih
    | finished result => simp only [runFor, step?, hat]

end PipelineRun

/-- A message takes the same way when it is recorded. -/
theorem PipelinePolicy.run_recorded (policy : PipelinePolicy) (around : Surroundings σ μ π)
    (env : σ) (stats : PipelineStats) (context : ProcessingContext μ) (payload : π) :
    (policy.run around.recorded (env, []) stats context payload).2 =
      (policy.run around env stats context payload).2 :=
  PipelineRun.runFor_recorded _ []

/-- A message takes the same way with any sink, and with none. -/
theorem PipelinePolicy.run_sink (policy : PipelinePolicy) (around : Surroundings σ μ π) (env : σ)
    (stats : PipelineStats) (context : ProcessingContext μ) (payload : π)
    (report? : Option (σ → μ → DeadLetter → σ × Except String Unit)) :
    (policy.run { around with report? } env stats context payload).2 =
      (policy.run around env stats context payload).2 :=
  PipelineRun.runFor_sink report? _

end GuardedDispatch
