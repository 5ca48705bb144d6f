import GuardedDispatch.Proofs.Lists
import GuardedDispatch.Proofs.Pipeline.Payloads
import GuardedDispatch.Proofs.Pipeline.Settlement

/-!
# The attempts of a message

Each failure of a stage ends an attempt. Whether another follows is decided by two rules that know
nothing of each other: the policy, which looks at the failure and at the stage, and the context,
which counts attempts. The course of a message is what follows from both, one attempt after the
other, with the wait of each between them. Every run takes such a course, and no course has more
attempts than are left at its start.
-/

namespace GuardedDispatch

variable {σ μ π : Type}

/-! ### Courses -/

/-- Whether a message is sent back that failed at a stage in an attempt, out of so many. -/
def PipelinePolicy.Retries (policy : PipelinePolicy) (maxAttempts attempt : Nat) (stage : Stage)
    (e : StageFailure) : Prop :=
  e.retryable = true ∧ stage ∉ policy.nonRetryable ∧ attempt < maxAttempts

/-- A policy ends a message whose failure, or whose stage, may not be tried again. -/
theorem PipelinePolicy.endsAt_iff {policy : PipelinePolicy} {stage : Stage} {e : StageFailure} :
    policy.endsAt stage e = true ↔ e.retryable = false ∨ stage ∈ policy.nonRetryable := by
  simp [endsAt]

/-- A policy does not end a message whose failure and whose stage may be tried again. -/
theorem PipelinePolicy.endsAt_eq_false_iff {policy : PipelinePolicy} {stage : Stage}
    {e : StageFailure} :
    policy.endsAt stage e = false ↔ e.retryable = true ∧ stage ∉ policy.nonRetryable := by
  simp [endsAt]

/-- What a wait between two attempts asks for: nothing, if there is no time to wait. -/
def pause (wait : Nat) : List (Deed μ π) := if wait = 0 then [] else [.slept wait]

/-- The dead letter that a result carries. -/
def deadLetter? : Except PipelineFailure π → Option DeadLetter
  | .ok _ => none
  | .error failure => failure.letter?

/-- A letter that tells in which attempt and at which stage the message of a context died, and which
of the two rules ended it. -/
structure DeadLetter.Tells (letter : DeadLetter) (policy : PipelinePolicy) (c : ProcessingContext μ)
    (attempt : Nat) (stage : Stage) (e : StageFailure) : Prop where
  attempts_eq : letter.attempts = attempt
  stage_eq : letter.stage = stage
  correlationId_eq : letter.correlationId = c.correlationId
  reason_eq : letter.reason =
    if e.retryable = false ∨ stage ∈ policy.nonRetryable then .nonRetryable else .exhausted

/-- How a message can go from a stage of an attempt to its result, and what this asks of the
surroundings. -/
inductive Course (policy : PipelinePolicy) (c : ProcessingContext μ)
    (result : Except PipelineFailure π) : Nat → Stage → List (Deed μ π) → Prop
  | passed {attempt : Nat} {stage next : Stage} {payload output : π} {deeds : List (Deed μ π)}
      (hnext : stage.next? = some next) (hmore : Course policy c result attempt next deeds) :
      Course policy c result attempt stage (.worked stage payload (.ok output) :: deeds)
  | completed {attempt : Nat} {stage : Stage} {payload output : π} {deeds : List (Deed μ π)}
      (hlast : stage.next? = none) (hends : ∀ d ∈ deeds, d.isWork = false) :
      Course policy c result attempt stage (.worked stage payload (.ok output) :: deeds)
  | retried {attempt : Nat} {stage : Stage} {payload : π} {e : StageFailure}
      {deeds : List (Deed μ π)} (hretries : policy.Retries c.maxAttempts attempt stage e)
      (hmore : Course policy c result (attempt + 1) (policy.entry stage) deeds) :
      Course policy c result attempt stage
        (.worked stage payload (.error e) :: (pause (policy.backoff.delayAfter attempt) ++ deeds))
  | died {attempt : Nat} {stage : Stage} {payload : π} {e : StageFailure} {letter : DeadLetter}
      {deeds : List (Deed μ π)} (hover : ¬ policy.Retries c.maxAttempts attempt stage e)
      (hends : ∀ d ∈ deeds, d.isWork = false) (hletter : deadLetter? result = some letter)
      (htells : letter.Tells policy c attempt stage e) :
      Course policy c result attempt stage (.worked stage payload (.error e) :: deeds)

/-! ### Every run takes a course -/

private theorem ProcessingContext.nextBackoff_of_nextAttempt? {c d : ProcessingContext μ}
    {stage cause : String} {backoff : Backoff} {now : Int}
    (h : c.nextAttempt? stage cause backoff now = some d) :
    d.snapshot.nextBackoff = backoff.delayAfter c.attempt := by
  simp only [nextAttempt?] at h
  split at h
  · cases h
  · cases h
    change backoff.delayAfter c.snapshot.attempt = _
    rw [snapshot, attempt]
    cases c.snapshot? <;> rfl

namespace PipelineRun

/-- What a run can still ask for on the way to a result, by what it waits for. -/
def Ahead (policy : PipelinePolicy) (c : ProcessingContext μ) (result : Except PipelineFailure π)
    (r : PipelineRun μ π) (deeds : List (Deed μ π)) : Prop :=
  match r.phase with
  | .working stage _ => Course policy c result r.shared.context.attempt stage deeds
  | .pausing wait stage _ =>
    ∃ rest, deeds = pause wait ++ rest ∧
      Course policy c result r.shared.context.attempt stage rest
  | .committing _ _ => ∀ d ∈ deeds, d.isWork = false
  | .rollingBack _ letter _ | .reporting letter _ _ =>
    (∀ d ∈ deeds, d.isWork = false) ∧ deadLetter? result = some letter
  | .finished result' => deeds = [] ∧ result' = result

variable {policy : PipelinePolicy} {around : Surroundings σ μ π} {env env' : σ}
  {stats stats' : PipelineStats} {r r' : PipelineRun μ π} {c : ProcessingContext μ}
  {result : Except PipelineFailure π} {deeds : List (Deed μ π)}

private theorem Moved.sameDelivery (hm : r.Moved policy around env stats env' stats' r') :
    r.shared.context.SameDelivery r'.shared.context := by
  cases hm with
  | @passed stage next payload output env' notes hat hwork hnext =>
    exact (r.shared.afterWork_context (around.now env') notes stage .success).1
  | @completed stage payload output env' notes hat hwork hlast hsession =>
    exact (r.shared.afterWork_context (around.now env') notes stage .success).1
  | @asked stage payload output env' s notes hat hwork hlast hsession =>
    exact (r.shared.afterWork_context (around.now env') notes stage .success).1
  | @died stage payload env' notes e hat hwork reason hreason =>
    have hsame := (r.shared.afterWork_context (around.now env') notes stage (.failure e.message)).1
    unfold terminate
    dsimp only
    split <;> exact hsame
  | @retried stage payload env' notes e next hat hwork hends hnext =>
    have hsame := (r.shared.afterWork_context (around.now env') notes stage (.failure e.message)).1
    obtain ⟨d, hd, rfl⟩ := Option.map_eq_some_iff.mp hnext
    exact hsame.trans (ProcessingContext.nextAttempt?_eq_some hd).1
  | @committed s output hat env' answer hanswer stats' r' hafter =>
    unfold afterCommit at hafter
    split at hafter <;> cases hafter <;> exact .refl _
  | @reported letter cause rollback hat env' henv stats' r' hbury =>
    unfold bury at hbury
    dsimp only at hbury
    split at hbury <;> cases hbury <;> exact .refl _
  | resumed hat henv | rolledBack hat hanswer => exact .refl _

private theorem ahead_of_terminate {stage : Stage} {e : StageFailure} {reason : DeadLetterReason}
    (h : (r.terminate stage e reason).Ahead policy c result deeds) :
    (∀ d ∈ deeds, d.isWork = false) ∧
      deadLetter? result = some
        { correlationId := r.shared.context.correlationId, stage
          attempts := r.shared.context.attempt, reason, error := e.message
          firstAttemptAt := r.shared.context.firstAttemptAt } := by
  unfold terminate at h
  dsimp only at h
  split at h <;> exact h

private theorem Ahead.died {stage : Stage} {payload : π} {e : StageFailure}
    {reason : DeadLetterReason}
    {shared : SharedContext μ} (hsame : c.SameDelivery shared.context)
    (hattempt : shared.context.attempt = r.shared.context.attempt)
    (hreason : if policy.endsAt stage e then reason = .nonRetryable
      else reason = .exhausted ∧ r.shared.context.isLastAttempt = true)
    (hlimit : c.maxAttempts = r.shared.context.maxAttempts)
    (h : (terminate { r with shared } stage e reason).Ahead policy c result deeds) :
    Course policy c result r.shared.context.attempt stage
      (.worked stage payload (.error e) :: deeds) := by
  obtain ⟨hends, hletter⟩ := ahead_of_terminate h
  refine .died ?_ hends hletter ⟨hattempt, rfl, hsame.correlationId_eq, ?_⟩
  · rintro ⟨hretryable, hstage, hlt⟩
    rw [PipelinePolicy.endsAt_eq_false_iff.mpr ⟨hretryable, hstage⟩, if_neg Bool.false_ne_true,
      ProcessingContext.isLastAttempt, decide_eq_true_eq, ← hlimit] at hreason
    omega
  · change reason = _
    split
    · next hends =>
      rw [PipelinePolicy.endsAt_iff.mpr hends, if_pos rfl] at hreason
      exact hreason
    · next hends =>
      rw [if_neg (PipelinePolicy.endsAt_iff.not.mpr hends)] at hreason
      exact hreason.1

private theorem Moved.ahead (hm : r.Moved policy around.filled env stats env' stats' r')
    (hsame : c.SameDelivery r.shared.context) (h : r'.Ahead policy c result deeds) :
    r.Ahead policy c result (r.deeds around.filled env ++ deeds) := by
  have hworked {stage : Stage} {payload : π} (hat : r.phase = .working stage payload)
      {env' : σ} {notes : List SharedContext.ContextNote} {answer : Except StageFailure π}
      (hwork : around.filled.perform stage env r.shared payload = (env', notes, answer)) :
      r.deeds around.filled env = [.worked stage payload answer] :=
    deeds_filled_of_working hat hwork
  cases hm with
  | @passed stage next payload output env' notes hat hwork hnext =>
    have hattempt := (r.shared.afterWork_context (around.filled.now env') notes stage .success).2
    rw [hworked hat hwork, Ahead, hat]
    exact .passed hnext (hattempt ▸ h)
  | completed hat hwork hlast hsession =>
    obtain ⟨rfl, rfl⟩ := h
    rw [hworked hat hwork, Ahead, hat]
    exact .completed hlast fun _ hd ↦ nomatch hd
  | asked hat hwork hlast hsession =>
    rw [hworked hat hwork, Ahead, hat]
    exact .completed hlast h
  | @died stage payload env' notes e hat hwork reason hreason =>
    obtain ⟨hkept, hattempt⟩ :=
      r.shared.afterWork_context (around.filled.now env') notes stage (.failure e.message)
    rw [hworked hat hwork, Ahead, hat]
    exact h.died (hsame.trans hkept) hattempt hreason hsame.maxAttempts_eq.symm
  | @retried stage payload env' notes e next hat hwork hends hnext =>
    obtain ⟨hkept, hattempt⟩ :=
      r.shared.afterWork_context (around.filled.now env') notes stage (.failure e.message)
    obtain ⟨d, hd, rfl⟩ := Option.map_eq_some_iff.mp hnext
    obtain ⟨-, hmore, hlt⟩ := ProcessingContext.nextAttempt?_eq_some hd
    have hwait := ProcessingContext.nextBackoff_of_nextAttempt? hd
    rw [hattempt] at hmore hlt hwait
    obtain ⟨rest, rfl, hcourse⟩ := h
    obtain ⟨hretryable, hstage⟩ := PipelinePolicy.endsAt_eq_false_iff.mp hends
    rw [hworked hat hwork, Ahead, hat]
    change Course policy c result r.shared.context.attempt stage (_ :: (pause _ ++ rest))
    rw [hwait]
    refine .retried ⟨hretryable, hstage, ?_⟩ (hmore ▸ hcourse)
    rw [← hsame.maxAttempts_eq, ← hkept.maxAttempts_eq]
    exact hlt
  | @resumed wait stage payload hat env' henv =>
    have hpause : r.deeds around.filled env = pause wait := by
      simp only [PipelineRun.deeds, hat, pause]
    rw [hpause, Ahead, hat]
    exact ⟨deeds, rfl, h⟩
  | @committed s output hat env' answer hanswer stats' r' hafter =>
    have hover : deeds = [] := by
      unfold afterCommit at hafter
      split at hafter <;> cases hafter <;> exact h.1
    simp only [PipelineRun.deeds, Ahead, hat, hover, List.append_nil, List.mem_singleton, forall_eq]
    rfl
  | @rolledBack s letter cause hat env' answer hanswer =>
    obtain ⟨hends, hletter⟩ := h
    simp only [PipelineRun.deeds, Ahead, hat, List.singleton_append, List.forall_mem_cons]
    exact ⟨⟨rfl, hends⟩, hletter⟩
  | @reported letter cause rollback hat env' henv stats' r' hbury =>
    have hover : deeds = [] ∧ deadLetter? result = some letter := by
      unfold bury at hbury
      dsimp only at hbury
      split at hbury <;> cases hbury <;> obtain ⟨hnil, rfl⟩ := h <;> exact ⟨hnil, rfl⟩
    obtain ⟨rfl, hletter⟩ := hover
    simp only [PipelineRun.deeds, Ahead, hat, List.append_nil]
    refine ⟨fun d hd ↦ ?_, hletter⟩
    split at hd
    · rw [List.mem_singleton.mp hd]
      rfl
    · cases hd

private theorem ahead_of_result? (h : r.result? = some result) : r.Ahead policy c result [] := by
  cases hat : r.phase with
  | finished result' =>
    simp only [result?, hat, Option.some.injEq] at h
    simp only [Ahead, hat]
    exact ⟨trivial, h⟩
  | working _ _ | pausing _ _ _ | committing _ _ | rollingBack _ _ _ | reporting _ _ _ =>
    simp only [result?, hat] at h
    cases h

variable (policy around env) in
/-- Given the steps it has left, a run asks for what is ahead of it. -/
theorem ahead_runFor (stats : PipelineStats) {fuel : Nat} (hfuel : r.stepsLeft ≤ fuel)
    (hsame : c.SameDelivery r.shared.context) (past : List (Deed μ π)) :
    ∃ result deeds,
      (runFor fuel policy around.filled.recorded (env, past) stats r).2.2.result? = some result ∧
        (runFor fuel policy around.filled.recorded (env, past) stats r).1.2 = past ++ deeds ∧
          r.Ahead policy c result deeds := by
  induction fuel generalizing env past stats r with
  | zero =>
    have hdone : (runFor 0 policy around.filled.recorded (env, past) stats r).2.2.result?.isSome =
        true := runFor_finishes hfuel
    obtain ⟨result, hresult⟩ := Option.isSome_iff_exists.mp hdone
    exact ⟨result, [], hresult, (List.append_nil _).symm, ahead_of_result? hresult⟩
  | succ fuel ih =>
    rw [runFor, step?_recorded]
    cases hs : r.step? policy around.filled env stats with
    | none =>
      obtain ⟨result, hresult⟩ := Option.isSome_iff_exists.mp (step?_eq_none_iff.mp hs)
      exact ⟨result, [], hresult, (List.append_nil _).symm, ahead_of_result? hresult⟩
    | some moved =>
      obtain ⟨env', stats', r'⟩ := moved
      have hm := moved_of_step? hs
      have hlt := hm.stepsLeft_lt
      obtain ⟨result, deeds, hresult, hdeeds, hahead⟩ := ih env' stats' (by omega)
        (hsame.trans hm.sameDelivery) (past ++ r.deeds around.filled env)
      refine ⟨result, r.deeds around.filled env ++ deeds, hresult, ?_, hm.ahead hsame hahead⟩
      rw [← List.append_assoc]
      exact hdeeds

end PipelineRun

/-! ### What holds of every course -/

/-- Whether a stage failed. -/
def Deed.isFailure : Deed μ π → Bool
  | .worked _ _ (.error _) => true
  | _ => false

/-- How long was slept. -/
def Deed.slept? : Deed μ π → Option Nat
  | .slept wait => some wait
  | _ => none

/-- The attempts that deeds belong to: the first, and another after each failure that was followed
by more work. -/
def attemptsMade (deeds : List (Deed μ π)) : Nat :=
  (entries deeds).dropLast.countP (!·.answer.isOk) + 1

namespace Course

variable {policy : PipelinePolicy} {c : ProcessingContext μ} {result : Except PipelineFailure π}
  {attempt wait : Nat} {stage : Stage} {deeds before after : List (Deed μ π)} {payload : π}
  {e : StageFailure}

private theorem exists_cons (h : Course policy c result attempt stage deeds) :
    ∃ payload answer rest, deeds = .worked stage payload answer :: rest := by
  cases h with
  | passed hnext hmore | completed hlast hends | retried hretries hmore
  | died hover hends hletter htells => exact ⟨_, _, _, rfl⟩

/-- Some stage is entered on every course. -/
theorem entries_ne_nil (h : Course policy c result attempt stage deeds) : entries deeds ≠ [] := by
  obtain ⟨payload, answer, rest, rfl⟩ := h.exists_cons
  exact List.cons_ne_nil _ _

/-- Pauses enter no stage. -/
theorem entries_pause_append (wait : Nat) (deeds : List (Deed μ π)) :
    entries (pause wait ++ deeds) = entries deeds := by
  rw [entries_append]
  unfold pause
  split <;> rfl

/-- What is no work enters no stage, and nothing is slept in it. -/
theorem entries_of_ends (hends : ∀ d ∈ deeds, d.isWork = false) :
    entries deeds = [] ∧ deeds.filterMap Deed.slept? = [] := by
  refine ⟨List.filterMap_eq_nil_iff.mpr fun d hd ↦ ?_, List.filterMap_eq_nil_iff.mpr fun d hd ↦ ?_⟩
  all_goals
    have hidle := hends d hd
    cases d with
    | worked stage payload answer | slept wait => cases hidle
    | committed s answer | rolledBack s answer | reported message letter answer => rfl

private theorem attemptsMade_worked (hdeeds : entries deeds ≠ []) (answer : Except StageFailure π) :
    attemptsMade (.worked stage payload answer :: deeds) =
      attemptsMade deeds + (!answer.isOk).toNat := by
  have hentries : entries (.worked stage payload answer :: deeds) =
      ⟨stage, payload, answer⟩ :: entries deeds := rfl
  rw [attemptsMade, hentries, List.dropLast_cons_of_ne_nil hdeeds, countP_cons_toNat, attemptsMade,
    Nat.add_right_comm]

private theorem attemptsMade_last (hends : ∀ d ∈ deeds, d.isWork = false)
    (answer : Except StageFailure π) :
    attemptsMade (.worked stage payload answer :: deeds) = 1 := by
  have hentries : entries (.worked stage payload answer :: deeds) = [⟨stage, payload, answer⟩] :=
    congrArg (List.cons _) (entries_of_ends hends).1
  rw [attemptsMade, hentries]
  rfl

private theorem attemptsMade_le (h : Course policy c result attempt stage deeds) :
    attemptsMade deeds ≤ c.maxAttempts - attempt + 1 := by
  induction h with
  | passed hnext hmore ih =>
    rw [attemptsMade_worked hmore.entries_ne_nil]
    exact ih
  | completed hlast hends | died hover hends hletter htells =>
    rw [attemptsMade_last hends]
    exact Nat.le_add_left 1 _
  | @retried attempt stage payload e deeds hretries hmore ih =>
    have hne := entries_pause_append (policy.backoff.delayAfter attempt) deeds
    rw [attemptsMade_worked (hne ▸ hmore.entries_ne_nil), attemptsMade, hne, ← attemptsMade]
    have hleft := hretries.2.2
    change attemptsMade deeds + 1 ≤ _
    omega

/-- What is slept on a course are the waits after all its attempts but the last. -/
theorem slept_eq (h : Course policy c result attempt stage deeds) :
    deeds.filterMap Deed.slept? =
      ((List.range (attemptsMade deeds - 1)).map fun i ↦
        policy.backoff.delayAfter (attempt + i)).filter (· ≠ 0) := by
  induction h with
  | passed hnext hmore ih =>
    rw [attemptsMade_worked hmore.entries_ne_nil]
    exact ih
  | completed hlast hends | died hover hends hletter htells =>
    rw [attemptsMade_last hends]
    exact (entries_of_ends hends).2
  | @retried attempt stage payload e deeds hretries hmore ih =>
    have hne := entries_pause_append (policy.backoff.delayAfter attempt) deeds
    have hmade : attemptsMade (.worked stage payload (.error e) ::
        (pause (policy.backoff.delayAfter attempt) ++ deeds)) - 1 =
          attemptsMade deeds - 1 + 1 := by
      rw [attemptsMade_worked (hne ▸ hmore.entries_ne_nil), attemptsMade, hne]
      rfl
    have hlater : (fun i ↦ policy.backoff.delayAfter (attempt + 1 + i)) =
        (fun i ↦ policy.backoff.delayAfter (attempt + i)) ∘ Nat.succ := by
      funext i
      rw [Function.comp_apply, Nat.add_right_comm]
      rfl
    rw [hlater, ← List.map_map] at ih
    rw [hmade, List.range_succ_eq_map, List.map_cons, List.filter_cons, Nat.add_zero, ← ih]
    change (pause _ ++ deeds).filterMap Deed.slept? = _
    rw [List.filterMap_append, pause]
    by_cases hzero : policy.backoff.delayAfter attempt = 0
    · rw [if_pos hzero, if_neg (by simpa using hzero)]
      rfl
    · rw [if_neg hzero, if_pos (by simpa using hzero)]
      rfl

private theorem eq_pause_append
    (h : pause wait ++ deeds = before ++ .worked stage payload (.error e) :: after) :
    ∃ rest, before = pause wait ++ rest ∧
      deeds = rest ++ .worked stage payload (.error e) :: after := by
  by_cases hzero : wait = 0
  · rw [pause, if_pos hzero] at h ⊢
    exact ⟨before, rfl, h⟩
  · rw [pause, if_neg hzero] at h ⊢
    cases before with
    | nil => cases h
    | cons d rest =>
      obtain ⟨rfl, hrest⟩ := List.cons.inj h
      exact ⟨rest, rfl, hrest⟩

private theorem countP_isFailure_pause_append (wait : Nat) (deeds : List (Deed μ π)) :
    (pause wait ++ deeds).countP Deed.isFailure = deeds.countP Deed.isFailure := by
  unfold pause
  split <;> rfl

private theorem worked_notMem_of_ends (hends : ∀ d ∈ deeds, d.isWork = false)
    {answer : Except StageFailure π}
    (heq : deeds = before ++ .worked stage payload answer :: after) : False := by
  have hidle := hends (.worked stage payload answer)
    (heq ▸ List.mem_append_right before List.mem_cons_self)
  cases hidle

private theorem after_failure (h : Course policy c result attempt stage deeds) {failed : Stage}
    (heq : deeds = before ++ .worked failed payload (.error e) :: after) :
    let number := attempt + before.countP Deed.isFailure
    (policy.Retries c.maxAttempts number failed e → ∃ payload' answer rest,
      after = pause (policy.backoff.delayAfter number) ++
        .worked (policy.entry failed) payload' answer :: rest) ∧
    (¬ policy.Retries c.maxAttempts number failed e → (∀ d ∈ after, d.isWork = false) ∧
      ∃ letter, deadLetter? result = some letter ∧ letter.Tells policy c number failed e) := by
  induction h generalizing before with
  | passed hnext hmore ih =>
    cases before with
    | nil => cases heq
    | cons d before =>
      obtain ⟨hfirst, hrest⟩ := List.cons.inj (heq.trans (List.cons_append ..))
      rw [List.countP_cons_of_neg (hfirst ▸ Bool.false_ne_true)]
      exact ih hrest
  | completed hlast hends =>
    cases before with
    | nil => cases heq
    | cons d before =>
      exact (worked_notMem_of_ends hends (List.cons.inj (heq.trans (List.cons_append ..))).2).elim
  | @retried attempt stage payload e deeds hretries hmore ih =>
    cases before with
    | nil =>
      cases heq
      obtain ⟨payload', answer, rest, rfl⟩ := hmore.exists_cons
      exact ⟨fun _ ↦ ⟨payload', answer, rest, rfl⟩, fun hnot ↦ absurd hretries hnot⟩
    | cons d before =>
      obtain ⟨rfl, hrest⟩ := List.cons.inj (heq.trans (List.cons_append ..))
      obtain ⟨before, rfl, hdeeds⟩ := eq_pause_append hrest
      have hnumber : attempt + ((.worked stage payload (.error e) : Deed μ π) ::
          (pause (policy.backoff.delayAfter attempt) ++ before)).countP Deed.isFailure =
            attempt + 1 + before.countP Deed.isFailure := by
        rw [List.countP_cons_of_pos rfl, countP_isFailure_pause_append]
        omega
      rw [hnumber]
      exact ih hdeeds
  | died hover hends hletter htells =>
    cases before with
    | nil =>
      cases heq
      exact ⟨fun hretries ↦ absurd hretries hover, fun _ ↦ ⟨hends, _, hletter, htells⟩⟩
    | cons d before =>
      exact (worked_notMem_of_ends hends (List.cons.inj (heq.trans (List.cons_append ..))).2).elim

end Course

private theorem PipelinePolicy.not_retries_validate (maxAttempts attempt : Nat) (e : StageFailure) :
    ¬ ({} : PipelinePolicy).Retries maxAttempts attempt .validate e :=
  fun hretries ↦ hretries.2.1 (List.mem_singleton_self _)

/-- The attempts of a message are those the policy and the budget of its context allow. Its run
finishes, with no more attempts than are left at its start, and what it sleeps are the waits of the
policy after all of them but the last. A stage that failed is followed by that wait and by the
stage at which the policy begins anew, exactly if the failure and the stage may be tried again and
attempts are left. Else no work follows, and the result carries a letter that counts the attempts,
names the stage and the delivery, and says which of the rules ended it. Under the default policy a
failed validation ends the message in its first attempt. The deeds are those of all stages, those
included whose work is left out. -/
theorem attempts_follow_policy (policy : PipelinePolicy) (around : Surroundings σ μ π) (env : σ)
    (stats : PipelineStats) (context : ProcessingContext μ) (payload : π) :
    let ran := policy.run around env stats context payload
    let asked := (policy.run around.recorded (env, []) stats context payload).1.2
    let filled := policy.run around.filled.recorded (env, []) stats context payload
    let deeds := filled.1.2
    filled.2 = ran.2 ∧ asked = deeds.filter around.isAsked ∧
      ∃ result, ran.2.2.result? = some result ∧
      attemptsMade deeds ≤ context.maxAttempts - context.attempt + 1 ∧
      deeds.filterMap Deed.slept? =
        ((List.range (attemptsMade deeds - 1)).map fun i ↦
          policy.backoff.delayAfter (context.attempt + i)).filter (· ≠ 0) ∧
      (∀ before stage payload e after,
        deeds = before ++ .worked stage payload (.error e) :: after →
        let number := context.attempt + before.countP Deed.isFailure
        (policy.Retries context.maxAttempts number stage e → ∃ payload' answer rest,
          after = pause (policy.backoff.delayAfter number) ++
            .worked (policy.entry stage) payload' answer :: rest) ∧
        (¬ policy.Retries context.maxAttempts number stage e →
          (∀ d ∈ after, d.isWork = false) ∧ ∃ letter, deadLetter? result = some letter ∧
            letter.Tells policy context number stage e)) ∧
      (policy = {} → ∀ before payload e after,
        deeds = before ++ .worked .validate payload (.error e) :: after →
        (∀ d ∈ after, d.isWork = false) ∧
          ∃ letter, deadLetter? result = some letter ∧ letter.reason = .nonRetryable) := by
  intro ran asked filled deeds
  have hrun : filled.2 = ran.2 := by
    have hfilled := PipelinePolicy.run_recorded policy around.filled env stats context payload
    rw [PipelinePolicy.run, PipelinePolicy.run, PipelineRun.runFor_filled] at hfilled
    exact hfilled
  have hasked : asked = deeds.filter around.isAsked :=
    PipelineRun.runFor_recorded_filled (PipelineRun.stepBound context) []
  obtain ⟨result, deeds', hresult, hdeeds, hahead⟩ := PipelineRun.ahead_runFor policy around env
    { stats with processed := stats.processed + 1 }
    (PipelineRun.stepsLeft_begin_le context payload (around.now env)) (.refl context) []
  have hcourse : Course policy context result context.attempt .validate deeds := by
    have heq : deeds = deeds' := hdeeds
    rw [heq]
    exact hahead
  have hafter {before after : List (Deed μ π)} {stage : Stage} {payload : π} {e : StageFailure}
      (heq : deeds = before ++ .worked stage payload (.error e) :: after) :=
    hcourse.after_failure heq
  refine ⟨hrun, hasked, result, hrun ▸ hresult, hcourse.attemptsMade_le, hcourse.slept_eq,
    fun before stage payload e after heq ↦ hafter heq, ?_⟩
  rintro rfl before payload e after heq
  obtain ⟨hends, letter, hletter, htells⟩ :=
    (hafter heq).2 (PipelinePolicy.not_retries_validate _ _ e)
  refine ⟨hends, letter, hletter, ?_⟩
  rw [htells.reason_eq, if_pos (.inr (List.mem_singleton_self _))]

/-- Surroundings in which the second stage is busy whenever it is visited. -/
def alwaysBusy : Surroundings Unit Unit Nat where
  work?
    | .enrich => some fun env _ _ => (env, [], .error ⟨"busy", true, []⟩)
    | _ => none
  now _ := 0
  sleep env _ := env
  commit env _ := (env, .ok ())
  rollback env _ := (env, .ok ())
  report? := none

/-- A message that a stage never takes is tried three times, with both waits between, and dies
exhausted. -/
theorem attempts_of_a_busy_stage :
    let policy : PipelinePolicy := { backoff := ⟨10, 2, some 30⟩ }
    let context := ProcessingContext.new () "order" 3 0
    let deeds := (policy.run alwaysBusy.filled.recorded ((), []) {} context 5).1.2
    attemptsMade deeds = 3 ∧ deeds.filterMap Deed.slept? = [10, 20] ∧
      (((policy.run alwaysBusy () {} context 5).2.2.result?.bind deadLetter?).map fun letter ↦
        (letter.attempts, letter.stage, letter.reason)) = some (3, .enrich, .exhausted) := by
  intro policy context deeds
  have hmade : attemptsMade deeds = 3 := by decide +kernel
  obtain ⟨-, -, -, -, -, hslept, -⟩ := attempts_follow_policy policy alwaysBusy () {} context 5
  rw [hmade] at hslept
  exact ⟨hmade, hslept.trans (by decide +kernel), by decide +kernel⟩

end GuardedDispatch
