import GuardedDispatch.Processing.Pipeline

/-!
# What a step of a pipeline run does

A run takes one of a few steps: a stage passes its output on, the last stage ends the message well,
a failed stage ends it or sends it back, a pause is over, or an answer of the session or the sink
comes in. Every step keeps the identity of the message and leads nearer to the end, so every run
finishes within the steps it is given.
-/

namespace GuardedDispatch

variable {σ μ π : Type}

/-! ### Contexts of one delivery -/

/-- Contexts of the same message: only attempts and attributes tell them apart. -/
structure ProcessingContext.SameDelivery (c d : ProcessingContext μ) : Prop where
  message_eq : d.message = c.message
  session_eq : d.session? = c.session?
  correlationId_eq : d.correlationId = c.correlationId
  maxAttempts_eq : d.maxAttempts = c.maxAttempts
  firstAttemptAt_eq : d.firstAttemptAt = c.firstAttemptAt

namespace ProcessingContext

variable {c d e : ProcessingContext μ}

theorem SameDelivery.refl (c : ProcessingContext μ) : c.SameDelivery c := ⟨rfl, rfl, rfl, rfl, rfl⟩

theorem SameDelivery.trans (h : c.SameDelivery d) (h' : d.SameDelivery e) : c.SameDelivery e where
  message_eq := h'.message_eq.trans h.message_eq
  session_eq := h'.session_eq.trans h.session_eq
  correlationId_eq := h'.correlationId_eq.trans h.correlationId_eq
  maxAttempts_eq := h'.maxAttempts_eq.trans h.maxAttempts_eq
  firstAttemptAt_eq := h'.firstAttemptAt_eq.trans h.firstAttemptAt_eq

/-- Contexts of one delivery settle the same session. -/
theorem SameDelivery.transactionalSession?_eq (h : c.SameDelivery d) :
    d.transactionalSession? = c.transactionalSession? := by
  rw [transactionalSession?, transactionalSession?, h.session_eq]

/-- Contexts of one delivery learn the same from an answer to a commit. -/
theorem SameDelivery.afterCommit_eq (h : c.SameDelivery d) (answer : Except String Unit) :
    d.afterCommit answer = c.afterCommit answer := by
  unfold afterCommit sessionFailure
  rw [h.correlationId_eq]

/-- Contexts of one delivery learn the same from an answer to a rollback. -/
theorem SameDelivery.afterRollback_eq (h : c.SameDelivery d) (answer : Except String Unit) :
    d.afterRollback answer = c.afterRollback answer := by
  unfold afterRollback sessionFailure
  rw [h.correlationId_eq]

/-- The next attempt is one more of the same delivery. -/
theorem nextAttempt?_eq_some {stage cause : String} {backoff : Backoff} {now : Int}
    (h : c.nextAttempt? stage cause backoff now = some d) :
    c.SameDelivery d ∧ d.attempt = c.attempt + 1 ∧ c.attempt < c.maxAttempts := by
  simp only [nextAttempt?] at h
  split at h
  · cases h
  · next hlast =>
    cases h
    refine ⟨⟨rfl, rfl, rfl, rfl, rfl⟩, ?_, ?_⟩
    · change c.snapshot.attempt + 1 = c.attempt + 1
      rw [snapshot, attempt]
      cases c.snapshot? <;> rfl
    · simpa [isLastAttempt] using hlast

end ProcessingContext

namespace SharedContext

/-- The shared context once a stage has ended, which left notes while it worked. -/
def afterWork (c : SharedContext μ) (now : Int) (notes : List ContextNote) (stage : Stage)
    (outcome : StageOutcome) : SharedContext μ :=
  (c.noteAll now notes).stageEnded stage.name outcome now

private theorem noteAll_context (c : SharedContext μ) (now : Int) (notes : List ContextNote) :
    c.context.SameDelivery (c.noteAll now notes).context ∧
      (c.noteAll now notes).context.attempt = c.context.attempt := by
  induction notes generalizing c with
  | nil => exact ⟨.refl _, rfl⟩
  | cons note rest ih =>
    obtain ⟨hsame, hattempt⟩ := ih (c.note now note)
    have hone : c.context.SameDelivery (c.note now note).context ∧
        (c.note now note).context.attempt = c.context.attempt := by
      cases note <;> exact ⟨⟨rfl, rfl, rfl, rfl, rfl⟩, rfl⟩
    exact ⟨hone.1.trans hsame, hattempt.trans hone.2⟩

/-- A stage works within one attempt of one delivery. -/
theorem afterWork_context (c : SharedContext μ) (now : Int) (notes : List ContextNote)
    (stage : Stage) (outcome : StageOutcome) :
    c.context.SameDelivery (c.afterWork now notes stage outcome).context ∧
      (c.afterWork now notes stage outcome).context.attempt = c.context.attempt :=
  c.noteAll_context now notes

end SharedContext

/-! ### Steps -/

/-- The work of a stage; a stage without work hands its payload on. -/
def Surroundings.perform (around : Surroundings σ μ π) (stage : Stage) (env : σ)
    (shared : SharedContext μ) (payload : π) :
    σ × List SharedContext.ContextNote × Except StageFailure π :=
  match around.work? stage with
  | some work => work env shared payload
  | none => (env, [], .ok payload)

/-- Whether a policy lets no other attempt get past a failure of a stage. -/
def PipelinePolicy.endsAt (policy : PipelinePolicy) (stage : Stage) (e : StageFailure) : Bool :=
  !e.retryable || policy.nonRetryable.contains stage

/-- The stage at which a message enters again that failed at a stage. -/
def PipelinePolicy.entry (policy : PipelinePolicy) (stage : Stage) : Stage :=
  match policy.retryEntry with
  | .failingStage => stage
  | .start => .validate

/-- A message does not enter again behind the stage at which it failed. -/
theorem PipelinePolicy.index_entry_le (policy : PipelinePolicy) (stage : Stage) :
    (policy.entry stage).index ≤ stage.index := by
  unfold entry
  split
  · exact Nat.le_refl _
  · exact Nat.zero_le _

namespace PipelineRun

/-- What a step can make of the surroundings, the counters and the run. -/
inductive Moved (policy : PipelinePolicy) (around : Surroundings σ μ π) (env : σ)
    (stats : PipelineStats) (r : PipelineRun μ π) :
    σ → PipelineStats → PipelineRun μ π → Prop
  | passed {stage next : Stage} {payload output : π} {env' : σ}
      {notes : List SharedContext.ContextNote} (hat : r.phase = .working stage payload)
      (hwork : around.perform stage env r.shared payload = (env', notes, .ok output))
      (hnext : stage.next? = some next) :
      Moved policy around env stats r env' stats
        (enter { r with shared := r.shared.afterWork (around.now env') notes stage .success } next
          output (around.now env'))
  | completed {stage : Stage} {payload output : π} {env' : σ}
      {notes : List SharedContext.ContextNote} (hat : r.phase = .working stage payload)
      (hwork : around.perform stage env r.shared payload = (env', notes, .ok output))
      (hlast : stage.next? = none) (hsession : r.shared.context.transactionalSession? = none) :
      Moved policy around env stats r env' { stats with completed := stats.completed + 1 }
        { r with
          shared := r.shared.afterWork (around.now env') notes stage .success
          phase := .finished (.ok output) }
  | asked {stage : Stage} {payload output : π} {env' : σ} {s : DeliverySession}
      {notes : List SharedContext.ContextNote} (hat : r.phase = .working stage payload)
      (hwork : around.perform stage env r.shared payload = (env', notes, .ok output))
      (hlast : stage.next? = none) (hsession : r.shared.context.transactionalSession? = some s) :
      Moved policy around env stats r env' stats
        { r with
          shared := r.shared.afterWork (around.now env') notes stage .success
          phase := .committing s output }
  | died {stage : Stage} {payload : π} {env' : σ} {notes : List SharedContext.ContextNote}
      {e : StageFailure} (hat : r.phase = .working stage payload)
      (hwork : around.perform stage env r.shared payload = (env', notes, .error e))
      {reason : DeadLetterReason}
      (hreason : if policy.endsAt stage e then reason = .nonRetryable
        else reason = .exhausted ∧ r.shared.context.isLastAttempt = true) :
      Moved policy around env stats r env' stats
        (terminate
          { r with
            shared := r.shared.afterWork (around.now env') notes stage (.failure e.message) }
          stage e reason)
  | retried {stage : Stage} {payload : π} {env' : σ} {notes : List SharedContext.ContextNote}
      {e : StageFailure} {next : SharedContext μ} (hat : r.phase = .working stage payload)
      (hwork : around.perform stage env r.shared payload = (env', notes, .error e))
      (hends : policy.endsAt stage e = false)
      (hnext : (r.shared.afterWork (around.now env') notes stage
        (.failure e.message)).nextAttempt? stage.name e.message policy.backoff
          (around.now env') = some next) :
      Moved policy around env stats r env' { stats with retried := stats.retried + 1 }
        { r with
          shared := next
          phase := .pausing next.context.snapshot.nextBackoff (policy.entry stage)
            (r.inputs[(policy.entry stage).index]?.getD payload) }
  | resumed {wait : Nat} {stage : Stage} {payload : π} (hat : r.phase = .pausing wait stage payload)
      {env' : σ} (henv : env' = if wait = 0 then env else around.sleep env wait) :
      Moved policy around env stats r env' stats (r.enter stage payload (around.now env'))
  | committed {s : DeliverySession} {output : π} (hat : r.phase = .committing s output)
      {env' : σ} {answer : Except String Unit} (hanswer : around.commit env s = (env', answer))
      {stats' : PipelineStats} {r' : PipelineRun μ π}
      (hafter : afterCommit stats r output answer = (stats', r')) :
      Moved policy around env stats r env' stats' r'
  | rolledBack {s : DeliverySession} {letter : DeadLetter} {cause : StageFailure}
      (hat : r.phase = .rollingBack s letter cause) {env' : σ} {answer : Except String Unit}
      (hanswer : around.rollback env s = (env', answer)) :
      Moved policy around env stats r env' stats
        { r with phase := .reporting letter cause (r.shared.context.afterRollback answer) }
  | reported {letter : DeadLetter} {cause : StageFailure} {rollback : Except ConnectorFailure Unit}
      (hat : r.phase = .reporting letter cause rollback) {env' : σ}
      (henv : env' = around.report?.elim env fun report =>
        (report env r.shared.context.message letter).1)
      {stats' : PipelineStats} {r' : PipelineRun μ π}
      (hbury : bury stats r letter cause rollback = (stats', r')) :
      Moved policy around env stats r env' stats' r'

variable {policy : PipelinePolicy} {around : Surroundings σ μ π} {env env' : σ}
  {stats stats' : PipelineStats} {r r' : PipelineRun μ π}

/-- Takes in the answer of a stage. -/
def afterAnswer (policy : PipelinePolicy) (stats : PipelineStats) (r : PipelineRun μ π)
    (stage : Stage) (payload : π) (now : Int) :
    Except StageFailure π → PipelineStats × PipelineRun μ π
  | .ok output => afterSuccess stats r stage output now
  | .error e => afterFailure policy stats r stage payload e now

/-- The step of a working run takes in what the stage makes of its payload. -/
theorem step?_of_working {stage : Stage} {payload : π} (hat : r.phase = .working stage payload)
    {notes : List SharedContext.ContextNote} {answer : Except StageFailure π}
    (hwork : around.perform stage env r.shared payload = (env', notes, answer)) :
    r.step? policy around env stats =
      some (env', afterAnswer policy stats
        { r with shared := r.shared.noteAll (around.now env') notes } stage payload
        (around.now env') answer) := by
  cases hw : around.work? stage with
  | none =>
    simp only [Surroundings.perform, hw] at hwork
    cases hwork
    simp only [step?, hat, hw]
    rfl
  | some work =>
    simp only [Surroundings.perform, hw] at hwork
    simp only [step?, hat, hw, hwork]
    cases answer <;> rfl

private theorem moved_of_ok {stage : Stage} {payload output : π}
    (hat : r.phase = .working stage payload) {notes : List SharedContext.ContextNote}
    (hwork : around.perform stage env r.shared payload = (env', notes, .ok output))
    (h : afterSuccess stats { r with shared := r.shared.noteAll (around.now env') notes } stage
      output (around.now env') = (stats', r')) :
    Moved policy around env stats r env' stats' r' := by
  cases hnext : stage.next? with
  | some next =>
    simp only [afterSuccess, hnext] at h
    cases h
    exact .passed hat hwork hnext
  | none =>
    have hsession := (r.shared.afterWork_context (around.now env') notes stage
      .success).1.transactionalSession?_eq
    unfold SharedContext.afterWork at hsession
    cases hs : r.shared.context.transactionalSession? with
    | none =>
      rw [hs] at hsession
      simp only [afterSuccess, hnext, SharedContext.stageSucceeded, hsession] at h
      cases h
      exact .completed hat hwork hnext hs
    | some s =>
      rw [hs] at hsession
      simp only [afterSuccess, hnext, SharedContext.stageSucceeded, hsession] at h
      cases h
      exact .asked hat hwork hnext hs

private theorem moved_of_error {stage : Stage} {payload : π} {e : StageFailure}
    (hat : r.phase = .working stage payload) {notes : List SharedContext.ContextNote}
    (hwork : around.perform stage env r.shared payload = (env', notes, .error e))
    (h : afterFailure policy stats { r with shared := r.shared.noteAll (around.now env') notes }
      stage payload e (around.now env') = (stats', r')) :
    Moved policy around env stats r env' stats' r' := by
  unfold afterFailure at h
  cases hends : policy.endsAt stage e with
  | true =>
    have hends' := hends
    rw [PipelinePolicy.endsAt] at hends'
    simp only [hends', if_true] at h
    cases h
    exact .died hat hwork (by rw [hends, if_pos rfl])
  | false =>
    have hends' := hends
    rw [PipelinePolicy.endsAt] at hends'
    simp only [hends', Bool.false_eq_true, if_false] at h
    split at h
    · next hnext =>
      cases h
      have hlast := Option.map_eq_none_iff.mp hnext
      rw [ProcessingContext.nextAttempt?_eq_none_iff] at hlast
      have hkept := r.shared.noteAll_context (around.now env') notes
      refine .died hat hwork ?_
      rw [hends, if_neg Bool.false_ne_true]
      refine ⟨rfl, ?_⟩
      rw [ProcessingContext.isLastAttempt] at hlast ⊢
      rw [← hkept.1.maxAttempts_eq, ← hkept.2]
      exact hlast
    · next next hnext =>
      cases h
      exact .retried hat hwork hends hnext

/-- Every step is one of these. -/
theorem moved_of_step? (h : r.step? policy around env stats = some (env', stats', r')) :
    Moved policy around env stats r env' stats' r' := by
  cases hat : r.phase with
  | working stage payload =>
    rcases hwork : around.perform stage env r.shared payload with ⟨env₁, notes, answer⟩
    rw [step?_of_working hat hwork, Option.some.injEq, Prod.mk.injEq] at h
    obtain ⟨rfl, h⟩ := h
    cases answer with
    | ok output => exact moved_of_ok hat hwork h
    | error e => exact moved_of_error hat hwork h
  | pausing wait stage payload =>
    simp only [step?, hat] at h
    cases h
    exact .resumed hat rfl
  | committing s output =>
    simp only [step?, hat, Option.some.injEq, Prod.mk.injEq] at h
    obtain ⟨rfl, h⟩ := h
    exact .committed hat rfl h
  | rollingBack s letter cause =>
    simp only [step?, hat] at h
    cases h
    exact .rolledBack hat rfl
  | reporting letter cause rollback =>
    simp only [step?, hat, Option.some.injEq, Prod.mk.injEq] at h
    obtain ⟨rfl, h⟩ := h
    exact .reported hat rfl h
  | finished result =>
    simp only [step?, hat] at h
    cases h

/-! ### Every run finishes -/

/-- What waits for nothing any more is finished. -/
theorem step?_eq_none_iff :
    r.step? policy around env stats = none ↔ r.result?.isSome = true := by
  cases hat : r.phase with
  | working stage payload =>
    rcases hwork : around.perform stage env r.shared payload with ⟨env₁, notes, answer⟩
    simp [step?_of_working hat hwork, result?, hat]
  | pausing wait stage payload => simp [step?, result?, hat]
  | committing s output => simp [step?, result?, hat]
  | rollingBack s letter cause => simp [step?, result?, hat]
  | reporting letter cause rollback => simp [step?, result?, hat]
  | finished result => simp [step?, result?, hat]

/-- How many more attempts the context of a run allows. -/
def attemptsLeft (r : PipelineRun μ π) : Nat :=
  r.shared.context.maxAttempts - r.shared.context.attempt

/-- A bound on the steps that a run has left: an attempt has a pause and five stages. -/
def stepsLeft (r : PipelineRun μ π) : Nat :=
  match r.phase with
  | .finished _ => 0
  | .committing .. | .reporting .. => 1
  | .rollingBack .. => 2
  | .working stage _ => 6 * r.attemptsLeft + (4 - stage.index) + 3
  | .pausing _ stage _ => 6 * r.attemptsLeft + (4 - stage.index) + 4

private theorem stepsLeft_terminate_le (r : PipelineRun μ π) (stage : Stage) (cause : StageFailure)
    (reason : DeadLetterReason) : (r.terminate stage cause reason).stepsLeft ≤ 2 := by
  unfold terminate
  dsimp only
  split
  · exact Nat.le_refl _
  · exact Nat.le_succ _

private theorem attemptsLeft_afterWork (r : PipelineRun μ π) (now : Int)
    (notes : List SharedContext.ContextNote) (stage : Stage) (outcome : StageOutcome) :
    attemptsLeft { r with shared := r.shared.afterWork now notes stage outcome } =
      r.attemptsLeft := by
  obtain ⟨hsame, hattempt⟩ := r.shared.afterWork_context now notes stage outcome
  rw [attemptsLeft, attemptsLeft, hsame.maxAttempts_eq, hattempt]

private theorem stepsLeft_afterCommit (stats : PipelineStats) (r : PipelineRun μ π) (output : π)
    (answer : Except String Unit) : (afterCommit stats r output answer).2.stepsLeft = 0 := by
  unfold afterCommit
  split <;> rfl

private theorem stepsLeft_bury (stats : PipelineStats) (r : PipelineRun μ π) (letter : DeadLetter)
    (cause : StageFailure) (rollback : Except ConnectorFailure Unit) :
    (bury stats r letter cause rollback).2.stepsLeft = 0 := by
  unfold bury
  dsimp only
  split <;> rfl

/-- Every step leads nearer to the end. -/
theorem Moved.stepsLeft_lt (h : Moved policy around env stats r env' stats' r') :
    r'.stepsLeft < r.stepsLeft := by
  cases h with
  | @passed stage next payload output env' notes hat hwork hnext =>
    have hleft := attemptsLeft_afterWork r (around.now env') notes stage .success
    have hindex := Stage.index_of_next? hnext
    have hbound : next.index ≤ 4 := by cases next <;> decide
    simp only [attemptsLeft] at hleft
    simp only [stepsLeft, hat, enter, attemptsLeft, SharedContext.stageStarted]
    omega
  | completed hat hwork hlast hsession =>
    simp only [stepsLeft, hat]
    omega
  | asked hat hwork hlast hsession =>
    simp only [stepsLeft, hat]
    omega
  | @died stage payload env' notes e hat hwork reason hreason =>
    have htwo := stepsLeft_terminate_le
      { r with shared := r.shared.afterWork (around.now env') notes stage (.failure e.message) }
      stage e reason
    have hthree : 3 ≤ r.stepsLeft := by
      simp only [stepsLeft, hat]
      omega
    omega
  | @retried stage payload env' notes e next hat hwork hends hnext =>
    have hleft := attemptsLeft_afterWork r (around.now env') notes stage (.failure e.message)
    obtain ⟨c, hc, rfl⟩ := Option.map_eq_some_iff.mp hnext
    obtain ⟨hsame, hattempt, hlt⟩ := ProcessingContext.nextAttempt?_eq_some hc
    have hmax := hsame.maxAttempts_eq
    simp only [attemptsLeft] at hleft
    simp only [stepsLeft, hat, attemptsLeft]
    omega
  | resumed hat henv =>
    simp only [stepsLeft, hat, enter, attemptsLeft, SharedContext.stageStarted]
    omega
  | @committed s output hat env' answer hanswer stats' r' hafter =>
    have hzero := stepsLeft_afterCommit stats r output answer
    rw [hafter] at hzero
    simp only [stepsLeft, hat] at hzero ⊢
    omega
  | rolledBack hat hanswer =>
    simp only [stepsLeft, hat]
    omega
  | @reported letter cause rollback hat env' henv stats' r' hbury =>
    have hzero := stepsLeft_bury stats r letter cause rollback
    rw [hbury] at hzero
    simp only [stepsLeft, hat] at hzero ⊢
    omega

/-- What every step keeps holds at the end of a run. -/
theorem runFor_keeps {I : σ → PipelineStats → PipelineRun μ π → Prop}
    (hstep : ∀ env stats r env' stats' r', I env stats r →
      r.step? policy around env stats = some (env', stats', r') → I env' stats' r')
    (h : I env stats r) (fuel : Nat) :
    I (runFor fuel policy around env stats r).1 (runFor fuel policy around env stats r).2.1
      (runFor fuel policy around env stats r).2.2 := by
  induction fuel generalizing env stats r with
  | zero => exact h
  | succ fuel ih =>
    cases hs : r.step? policy around env stats with
    | none =>
      simp only [runFor, hs]
      exact h
    | some moved =>
      simp only [runFor, hs]
      exact ih (hstep _ _ _ _ _ _ h hs)

/-- Given the steps it has left, a run finishes. -/
theorem runFor_finishes {fuel : Nat} (h : r.stepsLeft ≤ fuel) :
    (runFor fuel policy around env stats r).2.2.result?.isSome = true := by
  induction fuel generalizing env stats r with
  | zero =>
    rw [runFor]
    cases hat : r.phase with
    | finished result => simp only [result?, hat, Option.isSome_some]
    | working _ _ | pausing _ _ _ | committing _ _ | rollingBack _ _ _ | reporting _ _ _ =>
      simp only [stepsLeft, hat] at h
      omega
  | succ fuel ih =>
    cases hs : r.step? policy around env stats with
    | none =>
      simp only [runFor, hs]
      exact step?_eq_none_iff.mp hs
    | some moved =>
      have hlt := (moved_of_step? hs).stepsLeft_lt
      simp only [runFor, hs]
      exact ih (by omega)

/-- The bound on the steps of a run is one. -/
theorem stepsLeft_begin_le (context : ProcessingContext μ) (payload : π) (now : Int) :
    (begin_ context payload now).stepsLeft ≤ stepBound context := by
  have hleft : (begin_ context payload now).attemptsLeft ≤ context.maxAttempts := Nat.sub_le _ _
  change 6 * (begin_ context payload now).attemptsLeft + (4 - 0) + 3 ≤
    6 * (context.maxAttempts + 1) + 4
  omega

end PipelineRun

/-- Every message is sent to its end. -/
theorem PipelinePolicy.run_finishes (policy : PipelinePolicy) (around : Surroundings σ μ π) (env : σ)
    (stats : PipelineStats) (context : ProcessingContext μ) (payload : π) :
    (policy.run around env stats context payload).2.2.result?.isSome = true :=
  PipelineRun.runFor_finishes (PipelineRun.stepsLeft_begin_le context payload _)

end GuardedDispatch
