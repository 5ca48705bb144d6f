import GuardedDispatch.Processing.Stage
import GuardedDispatch.Processing.Trail

/-!
# The processing pipeline

A message passes through five stages. A failure that another attempt may get past sends it back,
after a wait, to the stage that failed or to the first one, until the attempts are used up; every
other failure ends it. A message that made it commits its session. One that did not rolls its
session back and is then reported to the sink as a dead letter.

A run is a value that says what it waits for: a stage's work, the end of a pause, or an answer of
the session or the sink. `PipelineRun.step?` performs the awaited action in an environment and
takes the answer in, so what a run does is the same for every environment.
-/

namespace GuardedDispatch

open Number

/-- How often a message is tried, where it enters again, which stages end it at their first
failure, and how long to wait in between. -/
structure PipelinePolicy where
  maxAttempts : Nat := 3
  retryEntry : RetryEntry := .failingStage
  nonRetryable : List Stage := [.validate]
  backoff : Backoff := ⟨1000, 2, some 30000⟩
  deriving DecidableEq, Repr, Inhabited

/-- Why a message is dead: its failure or its stage is not retryable, or its attempts are used
up. -/
inductive DeadLetterReason where
  | nonRetryable
  | exhausted
  deriving DecidableEq, Repr

/-- The reason's name. -/
def DeadLetterReason.name : DeadLetterReason → String
  | .nonRetryable => "non_retryable"
  | .exhausted => "exhausted"

/-- What the sink is told about a dead message. The time of day at which it is told is left out: it is
only passed on. -/
structure DeadLetter where
  correlationId : String
  stage : Stage
  attempts : Nat
  reason : DeadLetterReason
  error : String
  firstAttemptAt : Int
  deriving DecidableEq, Repr

/-- Why a run failed: its message is dead, or its session could not be settled. -/
inductive PipelineFailure where
  | deadLettered (letter : DeadLetter) (cause : StageFailure)
  | session (failure : ConnectorFailure) (letter? : Option DeadLetter)
  deriving DecidableEq, Repr

namespace PipelineFailure

/-- The failure in one line. -/
def display : PipelineFailure → String
  | .deadLettered l _ =>
    s!"message {l.correlationId} dead-lettered at {l.stage.name} after {l.attempts} " ++
      s!"attempt(s): {l.error}"
  | .session e _ => s!"delivery session failed: {e.display}"

/-- The dead letter, if the message is dead. -/
def letter? : PipelineFailure → Option DeadLetter
  | .deadLettered l _ => some l
  | .session _ l => l

/-- The texts of what was behind the failure, nearest first. -/
def sources : PipelineFailure → List String
  | .deadLettered _ c => c.message :: c.sources
  | .session e _ => e.display :: e.sources

end PipelineFailure

/-- The counters of a pipeline. -/
structure PipelineStats where
  processed : Nat := 0
  completed : Nat := 0
  retried : Nat := 0
  deadLettered : Nat := 0
  sessionFailures : Nat := 0
  deriving DecidableEq, Repr, Inhabited

/-- The share of processed messages that completed; one before the first message. -/
def PipelineStats.successRate (s : PipelineStats) : Double :=
  if s.processed = 0 then 1 else Binary.ofNat s.completed / Binary.ofNat s.processed

/-- What a run waits for. -/
inductive RunPhase (π : Type) where
  | working (stage : Stage) (payload : π)
  | pausing (wait : Nat) (stage : Stage) (payload : π)
  | committing (session : DeliverySession) (output : π)
  | rollingBack (session : DeliverySession) (letter : DeadLetter) (cause : StageFailure)
  | reporting (letter : DeadLetter) (cause : StageFailure) (rollback : Except ConnectorFailure Unit)
  | finished (result : Except PipelineFailure π)

/-- A message on its way: its shared context, what each stage received on its latest run, and what
it waits for. -/
structure PipelineRun (μ π : Type) where
  shared : SharedContext μ
  inputs : List π
  phase : RunPhase π

/-- What surrounds a pipeline: the work of its stages, its clock, the delivery sessions and the
sink. A stage without work hands its payload on, and a sink may fail. -/
structure Surroundings (σ μ π : Type) where
  work? : Stage → Option (σ → SharedContext μ → π →
    σ × List SharedContext.ContextNote × Except StageFailure π)
  now : σ → Int
  sleep : σ → Nat → σ
  commit : σ → DeliverySession → σ × Except String Unit
  rollback : σ → DeliverySession → σ × Except String Unit
  report? : Option (σ → μ → DeadLetter → σ × Except String Unit)

namespace PipelineRun

variable {σ μ π : Type}

/-- Lets a stage begin with a payload. -/
def enter (r : PipelineRun μ π) (stage : Stage) (payload : π) (now : Int) : PipelineRun μ π :=
  { shared := r.shared.stageStarted stage.name now
    inputs := r.inputs.take stage.index ++ [payload]
    phase := .working stage payload }

/-- A run at its first stage. -/
def begin_ (context : ProcessingContext μ) (payload : π) (now : Int) : PipelineRun μ π :=
  enter { shared := { context }, inputs := [], phase := .pausing 0 .validate payload }
    .validate payload now

/-- Ends a dead message: it is counted, and a session that could not be rolled back is reported
with its letter. -/
def bury (stats : PipelineStats) (r : PipelineRun μ π) (letter : DeadLetter) (cause : StageFailure)
    (rollback : Except ConnectorFailure Unit) : PipelineStats × PipelineRun μ π :=
  let stats := { stats with deadLettered := stats.deadLettered + 1 }
  match rollback with
  | .ok () => (stats, { r with phase := .finished (.error (.deadLettered letter cause)) })
  | .error e =>
    ({ stats with sessionFailures := stats.sessionFailures + 1 },
      { r with phase := .finished (.error (.session e (some letter))) })

/-- Ends a message: its session is rolled back first, if it is transactional. -/
def terminate (r : PipelineRun μ π) (stage : Stage) (cause : StageFailure)
    (reason : DeadLetterReason) : PipelineRun μ π :=
  let c := r.shared.context
  let letter : DeadLetter :=
    { correlationId := c.correlationId, stage, attempts := c.attempt, reason
      error := cause.message, firstAttemptAt := c.firstAttemptAt }
  match c.transactionalSession? with
  | some s => { r with phase := .rollingBack s letter cause }
  | none => { r with phase := .reporting letter cause (.ok ()) }

/-- Takes in the failure of a stage: another attempt if the failure and the stage allow one and one
is left, else the end of the message. -/
def afterFailure (policy : PipelinePolicy) (stats : PipelineStats) (r : PipelineRun μ π)
    (stage : Stage) (payload : π) (e : StageFailure) (now : Int) :
    PipelineStats × PipelineRun μ π :=
  let r := { r with shared := r.shared.stageFailed stage.name e.message now }
  if !e.retryable || policy.nonRetryable.contains stage then
    (stats, r.terminate stage e .nonRetryable)
  else
    match r.shared.nextAttempt? stage.name e.message policy.backoff now with
    | none => (stats, r.terminate stage e .exhausted)
    | some shared =>
      let entry := match policy.retryEntry with
        | .failingStage => stage
        | .start => .validate
      let input := r.inputs[entry.index]?.getD payload
      ({ stats with retried := stats.retried + 1 },
        { r with shared, phase := .pausing shared.context.snapshot.nextBackoff entry input })

/-- Takes in the success of a stage: the next stage begins, or the message is complete. -/
def afterSuccess (stats : PipelineStats) (r : PipelineRun μ π) (stage : Stage) (output : π)
    (now : Int) : PipelineStats × PipelineRun μ π :=
  let r := { r with shared := r.shared.stageSucceeded stage.name now }
  match stage.next? with
  | some next => (stats, r.enter next output now)
  | none =>
    match r.shared.context.transactionalSession? with
    | some s => (stats, { r with phase := .committing s output })
    | none =>
      ({ stats with completed := stats.completed + 1 }, { r with phase := .finished (.ok output) })

/-- Takes in the session's answer to a commit. -/
def afterCommit (stats : PipelineStats) (r : PipelineRun μ π) (output : π)
    (answer : Except String Unit) : PipelineStats × PipelineRun μ π :=
  match r.shared.context.afterCommit answer with
  | .ok () =>
    ({ stats with completed := stats.completed + 1 }, { r with phase := .finished (.ok output) })
  | .error e =>
    ({ stats with sessionFailures := stats.sessionFailures + 1 },
      { r with phase := .finished (.error (.session e none)) })

/-- Performs what a run waits for and takes the answer in; `none` once it is finished. -/
def step? (policy : PipelinePolicy) (around : Surroundings σ μ π) (env : σ) (stats : PipelineStats)
    (r : PipelineRun μ π) : Option (σ × PipelineStats × PipelineRun μ π) :=
  match r.phase with
  | .finished _ => none
  | .working stage payload =>
    let (env, notes, answer) := match around.work? stage with
      | some work => work env r.shared payload
      | none => (env, [], .ok payload)
    let now := around.now env
    let r := { r with shared := r.shared.noteAll now notes }
    match answer with
    | .ok output => some (env, afterSuccess stats r stage output now)
    | .error e => some (env, afterFailure policy stats r stage payload e now)
  | .pausing wait stage payload =>
    let env := if wait = 0 then env else around.sleep env wait
    some (env, stats, r.enter stage payload (around.now env))
  | .committing session output =>
    let (env, answer) := around.commit env session
    some (env, afterCommit stats r output answer)
  | .rollingBack session letter cause =>
    let (env, answer) := around.rollback env session
    some (env, stats,
      { r with phase := .reporting letter cause (r.shared.context.afterRollback answer) })
  | .reporting letter cause rollback =>
    -- the sink's answer decides nothing: the message is dead whether or not it failed
    let env := around.report?.elim env fun report => (report env r.shared.context.message letter).1
    some (env, bury stats r letter cause rollback)

/-- Performs at most `fuel` steps. -/
def runFor (fuel : Nat) (policy : PipelinePolicy) (around : Surroundings σ μ π) (env : σ)
    (stats : PipelineStats) (r : PipelineRun μ π) : σ × PipelineStats × PipelineRun μ π :=
  match fuel with
  | 0 => (env, stats, r)
  | fuel + 1 =>
    match r.step? policy around env stats with
    | some (env, stats, r) => runFor fuel policy around env stats r
    | none => (env, stats, r)

/-- A bound on the steps of a run: five stages and a pause an attempt, and four at the end. -/
def stepBound (context : ProcessingContext μ) : Nat := 6 * (context.maxAttempts + 1) + 4

end PipelineRun

/-- Sends a message through the stages; gives the counters, the run and its surroundings
afterwards. -/
def PipelinePolicy.run {σ μ π : Type} (policy : PipelinePolicy) (around : Surroundings σ μ π)
    (env : σ) (stats : PipelineStats) (context : ProcessingContext μ) (payload : π) :
    σ × PipelineStats × PipelineRun μ π :=
  PipelineRun.runFor (PipelineRun.stepBound context) policy around env
    { stats with processed := stats.processed + 1 } (.begin_ context payload (around.now env))

/-- The result of a finished run. -/
def PipelineRun.result? {μ π : Type} (r : PipelineRun μ π) : Option (Except PipelineFailure π) :=
  match r.phase with
  | .finished result => some result
  | _ => none

end GuardedDispatch
