import GuardedDispatch.Proofs.Pipeline.Record
import Mathlib.Data.List.Basic

/-!
# How a run settles its message

All that a run asks before its end is work of stages and pauses. At the end a message whose last
stage succeeded has its session committed, and one whose last failure ends it has its session rolled
back and is then reported, each once, and nothing is asked of a session that is not transactional.
The result of the run tells which of these happened and what came of it; the sink has no part in
it.
-/

namespace GuardedDispatch

variable {σ μ π : Type}

namespace Deed

/-- Whether a deed belongs to the way through the stages. -/
def isWork : Deed μ π → Bool
  | .worked .. | .slept _ => true
  | _ => false

/-- Whether a commit was asked for. -/
def isCommit : Deed μ π → Bool
  | .committed .. => true
  | _ => false

/-- Whether a rollback was asked for. -/
def isRollback : Deed μ π → Bool
  | .rolledBack .. => true
  | _ => false

private theorem asks_nothing_of_isWork {d : Deed μ π} (h : d.isWork = true) :
    d.isCommit = false ∧ d.isRollback = false := by
  cases d with
  | worked stage payload answer | slept wait => exact ⟨rfl, rfl⟩
  | committed s answer | rolledBack s answer | reported message letter answer => cases h

/-- What the work of a stage came to: its failure, or none if it succeeded. -/
def verdict? : Deed μ π → Option (Option (Stage × StageFailure))
  | .worked stage _ (.error e) => some (some (stage, e))
  | .worked _ _ (.ok _) => some none
  | _ => none

end Deed

/-- The failure of the stage that worked last, if it failed. -/
def lastFailure? (deeds : List (Deed μ π)) : Option (Stage × StageFailure) :=
  (deeds.filterMap Deed.verdict?).getLast?.join

/-- The work of a stage decides what the last failure is. -/
theorem lastFailure?_append_worked (deeds : List (Deed μ π)) (stage : Stage) (payload : π)
    (answer : Except StageFailure π) :
    lastFailure? (deeds ++ [.worked stage payload answer]) =
      match answer with
      | .ok _ => none
      | .error e => some (stage, e) := by
  cases answer <;> simp [lastFailure?, Deed.verdict?]

/-- Deeds that are no work of a stage leave the last failure as it is. -/
theorem lastFailure?_append_of_none {deeds more : List (Deed μ π)}
    (h : ∀ d ∈ more, d.verdict? = none) : lastFailure? (deeds ++ more) = lastFailure? deeds := by
  have hnil : more.filterMap Deed.verdict? = [] := List.filterMap_eq_nil_iff.mpr h
  rw [lastFailure?, List.filterMap_append, hnil, List.append_nil, lastFailure?]

/-! ### What a run owes -/

/-- A letter about the failure of a stage, for the message of a context. -/
structure DeadLetter.Blames (letter : DeadLetter) (c : ProcessingContext μ) (stage : Stage)
    (cause : StageFailure) : Prop where
  stage_eq : letter.stage = stage
  error_eq : letter.error = cause.message
  correlationId_eq : letter.correlationId = c.correlationId
  firstAttemptAt_eq : letter.firstAttemptAt = c.firstAttemptAt

/-- What rolling back the session of a context asks for, and what is learnt from it. -/
inductive RollsBack (c : ProcessingContext μ) :
    Except ConnectorFailure Unit → List (Deed μ π) → Prop
  | spared (hs : c.transactionalSession? = none) : RollsBack c (.ok ()) []
  | asked {s : DeliverySession} (hs : c.transactionalSession? = some s)
      (answer : Except String Unit) :
      RollsBack c (c.afterRollback answer) [.rolledBack s answer]

/-- What reporting a letter asks for, with or without a sink. -/
inductive Reports (message : μ) (letter : DeadLetter) : Bool → List (Deed μ π) → Prop
  | unheard : Reports message letter false []
  | heard (answer : Except String Unit) :
      Reports message letter true [.reported message letter answer]

/-- The failure of a dead message, whose session was or was not rolled back well. -/
def buriedAs (letter : DeadLetter) (cause : StageFailure) :
    Except ConnectorFailure Unit → PipelineFailure
  | .ok () => .deadLettered letter cause
  | .error e => .session e (some letter)

/-- How a run ends that had a last failure or none: its result, and the deeds it ends with. -/
inductive Settled (c : ProcessingContext μ) (sink : Bool) :
    Option (Stage × StageFailure) → Except PipelineFailure π → List (Deed μ π) → Prop
  | unsettled (hs : c.transactionalSession? = none) (output : π) :
      Settled c sink none (.ok output) []
  | committed {s : DeliverySession} (hs : c.transactionalSession? = some s) (output : π) :
      Settled c sink none (.ok output) [.committed s (.ok ())]
  | commitFailed {s : DeliverySession} (hs : c.transactionalSession? = some s) (text : String) :
      Settled c sink none
        (.error (.session (c.sessionFailure .sessionCommit "commit" text) none))
        [.committed s (.error text)]
  | buried {stage : Stage} {cause : StageFailure} {letter : DeadLetter}
      (hletter : letter.Blames c stage cause) {rollback : Except ConnectorFailure Unit}
      {rolled : List (Deed μ π)} (hrolled : RollsBack c rollback rolled)
      {reports : List (Deed μ π)} (hreports : Reports c.message letter sink reports) :
      Settled c sink (some (stage, cause)) (.error (buriedAs letter cause rollback))
        (rolled ++ reports)

/-- Whether the last failure, if there is one, is not behind a stage. -/
def Outstanding (around : Surroundings σ μ π) (stage : Stage)
    (failure? : Option (Stage × StageFailure)) : Prop :=
  ∀ f e, failure? = some (f, e) → stage.index ≤ f.index ∧ (around.work? f).isSome = true

/-- What a run has asked for at its end so far, by what it waits for. -/
inductive Stands (c : ProcessingContext μ) (around : Surroundings σ μ π) :
    Option (Stage × StageFailure) → RunPhase π → List (Deed μ π) → Prop
  | working {failure? : Option (Stage × StageFailure)} {stage : Stage} {payload : π}
      (h : Outstanding around stage failure?) : Stands c around failure? (.working stage payload) []
  | pausing {failure? : Option (Stage × StageFailure)} {wait : Nat} {stage : Stage} {payload : π}
      (h : Outstanding around stage failure?) :
      Stands c around failure? (.pausing wait stage payload) []
  | committing {s : DeliverySession} (hs : c.transactionalSession? = some s) (output : π) :
      Stands c around none (.committing s output) []
  | rollingBack {s : DeliverySession} (hs : c.transactionalSession? = some s) {stage : Stage}
      {cause : StageFailure} {letter : DeadLetter} (hletter : letter.Blames c stage cause) :
      Stands c around (some (stage, cause)) (.rollingBack s letter cause) []
  | reporting {stage : Stage} {cause : StageFailure} {letter : DeadLetter}
      (hletter : letter.Blames c stage cause) {rollback : Except ConnectorFailure Unit}
      {rolled : List (Deed μ π)} (hrolled : RollsBack c rollback rolled) :
      Stands c around (some (stage, cause)) (.reporting letter cause rollback) rolled
  | finished {failure? : Option (Stage × StageFailure)} {result : Except PipelineFailure π}
      {ends : List (Deed μ π)} (h : Settled c around.report?.isSome failure? result ends) :
      Stands c around failure? (.finished result) ends

/-- A run of the message of a context: before its end it asked for work and pauses only. -/
structure Underway (c : ProcessingContext μ) (around : Surroundings σ μ π) (r : PipelineRun μ π)
    (deeds : List (Deed μ π)) : Prop where
  same : c.SameDelivery r.shared.context
  stands : ∃ work ends, deeds = work ++ ends ∧ (∀ d ∈ work, d.isWork = true) ∧
    Stands c around (lastFailure? work) r.phase ends

private theorem Stands.of_work {c : ProcessingContext μ} {around : Surroundings σ μ π}
    {failure? : Option (Stage × StageFailure)} {phase : RunPhase π} {ends : List (Deed μ π)}
    (h : Stands c around failure? phase ends) {stage : Stage} {payload : π}
    (hat : phase = .working stage payload ∨ ∃ wait, phase = .pausing wait stage payload) :
    ends = [] ∧ Outstanding around stage failure? := by
  cases h with
  | working hout =>
    obtain hat | ⟨_, hat⟩ := hat
    · cases hat
      exact ⟨rfl, hout⟩
    · cases hat
  | pausing hout =>
    obtain hat | ⟨_, hat⟩ := hat
    · cases hat
    · cases hat
      exact ⟨rfl, hout⟩
  | committing _ _ | rollingBack _ _ | reporting _ _ | finished _ =>
    obtain hat | ⟨_, hat⟩ := hat <;> cases hat

variable {policy : PipelinePolicy} {around : Surroundings σ μ π} {env env' : σ}
  {stats stats' : PipelineStats} {r r' : PipelineRun μ π} {c : ProcessingContext μ}
  {deeds : List (Deed μ π)}

private theorem PipelineRun.deeds_of_working {stage : Stage} {payload : π}
    (hat : r.phase = .working stage payload) {notes : List SharedContext.ContextNote}
    {answer : Except StageFailure π}
    (hwork : around.perform stage env r.shared payload = (env', notes, answer)) :
    ((around.work? stage).isSome = true ∧ r.deeds around env = [.worked stage payload answer]) ∨
      (around.work? stage = none ∧ answer = .ok payload ∧ r.deeds around env = []) := by
  cases hw : around.work? stage with
  | none =>
    rw [Surroundings.perform, hw] at hwork
    cases hwork
    exact .inr ⟨rfl, rfl, by simp only [deeds, hat, hw]⟩
  | some work =>
    rw [Surroundings.perform, hw] at hwork
    simp only at hwork
    exact .inl ⟨rfl, by simp only [deeds, hat, hw, hwork]⟩

private theorem Outstanding.passed {stage : Stage} {payload output : π} {work : List (Deed μ π)}
    (h : Outstanding around stage (lastFailure? work)) (hat : r.phase = .working stage payload)
    {notes : List SharedContext.ContextNote}
    (hwork : around.perform stage env r.shared payload = (env', notes, .ok output)) {f : Stage}
    {e : StageFailure} (hlast : lastFailure? (work ++ r.deeds around env) = some (f, e)) :
    stage.index + 1 ≤ f.index ∧ (around.work? f).isSome = true := by
  obtain ⟨hsome, hdeeds⟩ | ⟨hnone, _, hdeeds⟩ := PipelineRun.deeds_of_working hat hwork
  · rw [hdeeds, lastFailure?_append_worked] at hlast
    cases hlast
  · rw [hdeeds, List.append_nil] at hlast
    obtain ⟨hle, hsome⟩ := h f e hlast
    refine ⟨?_, hsome⟩
    have hne : stage ≠ f := by
      rintro rfl
      rw [hnone] at hsome
      cases hsome
    have hindex : stage.index ≠ f.index := by
      revert hne
      cases stage <;> cases f <;> decide
    omega

private theorem Outstanding.passed_last {stage : Stage} {payload output : π}
    {work : List (Deed μ π)}
    (h : Outstanding around stage (lastFailure? work)) (hat : r.phase = .working stage payload)
    {notes : List SharedContext.ContextNote}
    (hwork : around.perform stage env r.shared payload = (env', notes, .ok output))
    (hlast : stage.next? = none) : lastFailure? (work ++ r.deeds around env) = none := by
  cases hf : lastFailure? (work ++ r.deeds around env) with
  | none => rfl
  | some failure =>
    have hle := (h.passed hat hwork hf).1
    have hbound : failure.1.index ≤ 4 := by cases failure.1 <;> decide
    have hfour : stage.index = 4 := by
      revert hlast
      cases stage <;> decide
    omega

private theorem PipelineRun.isWork_deeds_of_working {stage : Stage} {payload : π}
    (hat : r.phase = .working stage payload) {d : Deed μ π} (hd : d ∈ r.deeds around env) :
    d.isWork = true := by
  simp only [deeds, hat] at hd
  split at hd
  · obtain rfl := List.mem_singleton.mp hd
    rfl
  · cases hd

private theorem Underway.terminate {work : List (Deed μ π)} (hwork : ∀ d ∈ work, d.isWork = true)
    {stage : Stage} {cause : StageFailure} (hlast : lastFailure? work = some (stage, cause))
    (hsame : c.SameDelivery r.shared.context) (reason : DeadLetterReason) :
    Underway c around (r.terminate stage cause reason) work := by
  have hsession := hsame.transactionalSession?_eq
  unfold PipelineRun.terminate
  cases hs : c.transactionalSession? with
  | none =>
    rw [hs] at hsession
    simp only [hsession]
    refine ⟨hsame, work, [], (List.append_nil _).symm, hwork, ?_⟩
    rw [hlast]
    refine .reporting ?_ (.spared hs)
    exact ⟨rfl, rfl, hsame.correlationId_eq, hsame.firstAttemptAt_eq⟩
  | some s =>
    rw [hs] at hsession
    simp only [hsession]
    refine ⟨hsame, work, [], (List.append_nil _).symm, hwork, ?_⟩
    rw [hlast]
    refine .rollingBack hs ?_
    exact ⟨rfl, rfl, hsame.correlationId_eq, hsame.firstAttemptAt_eq⟩

private theorem underway_of_work {work more : List (Deed μ π)}
    (hwork : ∀ d ∈ work, d.isWork = true) (hmore : ∀ d ∈ more, d.isWork = true)
    (hsame : c.SameDelivery r'.shared.context)
    (hstands : Stands c around (lastFailure? (work ++ more)) r'.phase []) :
    Underway c around r' (work ++ [] ++ more) := by
  refine ⟨hsame, work ++ more, [], by simp, ?_, hstands⟩
  intro d hd
  exact (List.mem_append.mp hd).elim (hwork d) (hmore d)

private theorem Underway.worked (h : Underway c around r deeds) {stage : Stage} {payload : π}
    (hat : r.phase = .working stage payload)
    (hsame : r.shared.context.SameDelivery r'.shared.context)
    (hstands : ∀ work, Outstanding around stage (lastFailure? work) →
      Stands c around (lastFailure? (work ++ r.deeds around env)) r'.phase []) :
    Underway c around r' (deeds ++ r.deeds around env) := by
  obtain ⟨hcontext, work, ends, rfl, hwork, hat'⟩ := h
  obtain ⟨rfl, hout⟩ := hat'.of_work (.inl hat)
  exact underway_of_work hwork (fun d ↦ PipelineRun.isWork_deeds_of_working hat)
    (hcontext.trans hsame) (hstands work hout)

private theorem Underway.died (h : Underway c around r deeds) {stage : Stage} {payload : π}
    (hat : r.phase = .working stage payload) {e : StageFailure}
    (hdeeds : r.deeds around env = [.worked stage payload (.error e)]) {shared : SharedContext μ}
    (hsame : r.shared.context.SameDelivery shared.context) (reason : DeadLetterReason) :
    Underway c around ({ r with shared }.terminate stage e reason)
      (deeds ++ r.deeds around env) := by
  obtain ⟨hcontext, work, ends, rfl, hwork, hat'⟩ := h
  obtain ⟨rfl, -⟩ := hat'.of_work (.inl hat)
  rw [hdeeds, List.append_nil]
  refine Underway.terminate ?_ (lastFailure?_append_worked _ _ _ _) (hcontext.trans hsame) reason
  intro d hd
  obtain hd | hd := List.mem_append.mp hd
  · exact hwork d hd
  · obtain rfl := List.mem_singleton.mp hd
    rfl

private theorem Underway.resumed (h : Underway c around r deeds) {wait : Nat} {stage : Stage}
    {payload : π}
    (hat : r.phase = .pausing wait stage payload) (now : Int) :
    Underway c around (r.enter stage payload now) (deeds ++ r.deeds around env) := by
  obtain ⟨hsame, work, ends, rfl, hwork, hstands⟩ := h
  obtain ⟨rfl, hout⟩ := hstands.of_work (.inr ⟨_, hat⟩)
  have hmore : ∀ d ∈ r.deeds around env, d.isWork = true ∧ d.verdict? = none := by
    intro d hd
    simp only [PipelineRun.deeds, hat] at hd
    split at hd
    · cases hd
    · obtain rfl := List.mem_singleton.mp hd
      exact ⟨rfl, rfl⟩
  refine underway_of_work hwork (fun d hd ↦ (hmore d hd).1) hsame ?_
  rw [lastFailure?_append_of_none fun d hd ↦ (hmore d hd).2]
  exact .working hout

private theorem Underway.committed (h : Underway c around r deeds) {s : DeliverySession}
    {output : π}
    (hat : r.phase = .committing s output) {answer : Except String Unit}
    (hanswer : around.commit env s = (env', answer))
    (hafter : r.afterCommit stats output answer = (stats', r')) :
    Underway c around r' (deeds ++ r.deeds around env) := by
  obtain ⟨hsame, work, ends, rfl, hwork, hstands⟩ := h
  have hdeeds : r.deeds around env = [.committed s answer] := by
    simp only [PipelineRun.deeds, hat, hanswer]
  rw [PipelineRun.afterCommit, hsame.afterCommit_eq] at hafter
  rw [hdeeds]
  rw [hat] at hstands
  generalize hf : lastFailure? work = failure? at hstands
  cases hstands with
  | committing hs =>
    rw [List.append_nil]
    cases answer with
    | ok =>
      cases hafter
      refine ⟨hsame, work, _, rfl, hwork, ?_⟩
      rw [hf]
      exact .finished (.committed hs output)
    | error text =>
      cases hafter
      refine ⟨hsame, work, _, rfl, hwork, ?_⟩
      rw [hf]
      exact .finished (.commitFailed hs text)

private theorem Underway.rolledBack (h : Underway c around r deeds) {s : DeliverySession}
    {letter : DeadLetter} {cause : StageFailure} (hat : r.phase = .rollingBack s letter cause)
    {answer : Except String Unit} (hanswer : around.rollback env s = (env', answer)) :
    Underway c around
      { r with phase := .reporting letter cause (r.shared.context.afterRollback answer) }
      (deeds ++ r.deeds around env) := by
  obtain ⟨hsame, work, ends, rfl, hwork, hstands⟩ := h
  have hdeeds : r.deeds around env = [.rolledBack s answer] := by
    simp only [PipelineRun.deeds, hat, hanswer]
  rw [hat] at hstands
  generalize hf : lastFailure? work = failure? at hstands
  cases hstands with
  | rollingBack hs hletter =>
    rw [hdeeds, List.append_nil]
    refine ⟨hsame, work, _, rfl, hwork, ?_⟩
    rw [hf, hsame.afterRollback_eq]
    exact .reporting hletter (.asked hs answer)

private theorem Underway.reported (h : Underway c around r deeds) {letter : DeadLetter}
    {cause : StageFailure} {rollback : Except ConnectorFailure Unit}
    (hat : r.phase = .reporting letter cause rollback)
    (hbury : r.bury stats letter cause rollback = (stats', r')) :
    Underway c around r' (deeds ++ r.deeds around env) := by
  obtain ⟨hsame, work, ends, rfl, hwork, hstands⟩ := h
  have hreports : Reports c.message letter around.report?.isSome (r.deeds around env) := by
    simp only [PipelineRun.deeds, hat]
    cases around.report? with
    | none => exact .unheard
    | some report =>
      simp only [hsame.message_eq]
      exact .heard _
  have hdone : r'.phase = .finished (.error (buriedAs letter cause rollback)) ∧
      r'.shared = r.shared := by
    cases rollback <;> cases hbury <;> exact ⟨rfl, rfl⟩
  rw [hat] at hstands
  generalize hf : lastFailure? work = failure? at hstands
  cases hstands with
  | reporting hletter hrolled =>
    refine ⟨hdone.2 ▸ hsame, work, _, List.append_assoc _ _ _, hwork, ?_⟩
    rw [hf, hdone.1]
    exact .finished (.buried hletter hrolled hreports)

/-- Every step leaves a run of the same message, with what it owes at its end. -/
theorem Underway.moved (h : Underway c around r deeds)
    (hm : r.Moved policy around env stats env' stats' r') :
    Underway c around r' (deeds ++ r.deeds around env) := by
  cases hm with
  | @passed stage next payload output env' notes hat hperform hnext =>
    have hkept := (r.shared.afterWork_context (around.now env') notes stage .success).1
    refine h.worked hat hkept fun work hout ↦ .working ?_
    intro f e hf
    obtain ⟨hle, hsome⟩ := hout.passed hat hperform hf
    rw [Stage.index_of_next? hnext]
    exact ⟨hle, hsome⟩
  | @completed stage payload output env' notes hat hperform hlast hsession =>
    have hkept := (r.shared.afterWork_context (around.now env') notes stage .success).1
    refine h.worked hat hkept fun work hout ↦ ?_
    rw [hout.passed_last hat hperform hlast]
    rw [h.same.transactionalSession?_eq] at hsession
    exact .finished (.unsettled hsession output)
  | @asked stage payload output env' s notes hat hperform hlast hsession =>
    have hkept := (r.shared.afterWork_context (around.now env') notes stage .success).1
    refine h.worked hat hkept fun work hout ↦ ?_
    rw [hout.passed_last hat hperform hlast]
    rw [h.same.transactionalSession?_eq] at hsession
    exact .committing hsession output
  | @died stage payload env' notes e hat hperform reason hreason =>
    have hkept := (r.shared.afterWork_context (around.now env') notes stage (.failure e.message)).1
    obtain ⟨_, hdeeds⟩ | ⟨_, hok, _⟩ := PipelineRun.deeds_of_working hat hperform
    · exact h.died hat hdeeds hkept reason
    · cases hok
  | @retried stage payload env' notes e next hat hperform hends hnext =>
    have hkept := (r.shared.afterWork_context (around.now env') notes stage (.failure e.message)).1
    obtain ⟨d, hd, rfl⟩ := Option.map_eq_some_iff.mp hnext
    have hnext := (ProcessingContext.nextAttempt?_eq_some hd).1
    obtain ⟨hsome, hdeeds⟩ | ⟨_, hok, _⟩ := PipelineRun.deeds_of_working hat hperform
    · refine h.worked hat (hkept.trans hnext) fun work _ ↦ ?_
      rw [hdeeds, lastFailure?_append_worked]
      refine .pausing ?_
      intro f e' hf
      cases hf
      exact ⟨policy.index_entry_le stage, hsome⟩
    · cases hok
  | resumed hat henv => exact h.resumed hat _
  | committed hat hanswer hafter => exact h.committed hat hanswer hafter
  | rolledBack hat hanswer => exact h.rolledBack hat hanswer
  | reported hat henv hbury => exact h.reported hat hbury

/-! ### Finished runs -/

/-- A run that begins has asked for nothing. -/
theorem underway_begin (context : ProcessingContext μ) (around : Surroundings σ μ π) (payload : π)
    (now : Int) : Underway context around (.begin_ context payload now) [] := by
  refine ⟨.refl context, [], [], rfl, fun _ hd ↦ (nomatch hd), .working ?_⟩
  intro f e hf
  cases hf

/-- A recorded run ends with a result and with the deeds that settle its message. -/
theorem PipelinePolicy.settled_run (policy : PipelinePolicy) (around : Surroundings σ μ π) (env : σ)
    (stats : PipelineStats) (context : ProcessingContext μ) (payload : π) :
    ∃ result work ends,
      (policy.run around.recorded (env, []) stats context payload).2.2.result? = some result ∧
      (policy.run around.recorded (env, []) stats context payload).1.2 = work ++ ends ∧
      (∀ d ∈ work, d.isWork = true) ∧
      Settled context around.report?.isSome (lastFailure? work) result ends := by
  obtain ⟨result, hresult⟩ := Option.isSome_iff_exists.mp
    (policy.run_finishes around.recorded (env, []) stats context payload)
  have hunder : Underway context around
      (policy.run around.recorded (env, []) stats context payload).2.2
      (policy.run around.recorded (env, []) stats context payload).1.2 :=
    PipelineRun.runFor_recorded_keeps
      (fun _ _ _ _ _ _ _ h hm ↦ h.moved hm) (underway_begin context around payload _) _
  generalize policy.run around.recorded (env, []) stats context payload = run at hresult hunder ⊢
  obtain ⟨_, work, ends, hdeeds, hwork, hstands⟩ := hunder
  refine ⟨result, work, ends, hresult, hdeeds, hwork, ?_⟩
  unfold PipelineRun.result? at hresult
  split at hresult
  · next hat =>
    rw [hat] at hstands
    cases hresult
    generalize lastFailure? work = failure? at hstands
    cases hstands with
    | finished h => exact h
  · cases hresult

/-! ### What the end of a run shows -/

section

variable {sink : Bool} {failure? : Option (Stage × StageFailure)}
  {result : Except PipelineFailure π} {ends : List (Deed μ π)}

/-- No stage works at the end of a run. -/
theorem Settled.verdict?_eq_none (h : Settled c sink failure? result ends) :
    ∀ d ∈ ends, d.verdict? = none := by
  intro d hd
  cases h with
  | unsettled hs output => cases hd
  | committed hs output | commitFailed hs text =>
    obtain rfl := List.mem_singleton.mp hd
    rfl
  | buried hletter hrolled hreports =>
    obtain hd | hd := List.mem_append.mp hd
    · cases hrolled with
      | spared hs => cases hd
      | asked hs answer =>
        obtain rfl := List.mem_singleton.mp hd
        rfl
    · cases hreports with
      | unheard => cases hd
      | heard answer =>
        obtain rfl := List.mem_singleton.mp hd
        rfl

private theorem Settled.asks_le_one (h : Settled c sink failure? result ends) :
    ends.countP Deed.isCommit + ends.countP Deed.isRollback ≤ 1 := by
  cases h with
  | unsettled hs output => exact Nat.zero_le _
  | committed hs output | commitFailed hs text => exact Nat.le_refl _
  | buried hletter hrolled hreports =>
    cases hrolled <;> cases hreports <;> simp [List.countP_cons, Deed.isCommit, Deed.isRollback]

private theorem Settled.spares (h : Settled c sink failure? result ends)
    (hnone : c.transactionalSession? = none) :
    ∀ d ∈ ends, d.isCommit = false ∧ d.isRollback = false := by
  intro d hd
  cases h with
  | unsettled hs output => cases hd
  | committed hs output | commitFailed hs text =>
    rw [hnone] at hs
    cases hs
  | buried hletter hrolled hreports =>
    cases hrolled with
    | asked hs answer =>
      rw [hnone] at hs
      cases hs
    | spared hs =>
      cases hreports with
      | unheard => cases hd
      | heard answer =>
        obtain rfl := List.mem_singleton.mp hd
        exact ⟨rfl, rfl⟩

private theorem Settled.ends_of_ok {output : π} (h : Settled c sink failure? (.ok output) ends) :
    ends = c.transactionalSession?.toList.map (.committed · (.ok ())) := by
  cases h with
  | unsettled hs output =>
    rw [hs]
    rfl
  | committed hs output =>
    rw [hs]
    rfl

private theorem Settled.ends_of_failure {stage : Stage} {cause : StageFailure}
    (h : Settled c sink (some (stage, cause)) result ends) :
    ∃ letter rollback rolled reports, letter.Blames c stage cause ∧
      result = .error (buriedAs letter cause rollback) ∧ ends = rolled ++ reports ∧
      RollsBack c rollback rolled ∧ Reports c.message letter sink reports := by
  cases h with
  | buried hletter hrolled hreports =>
    exact ⟨_, _, _, _, hletter, rfl, rfl, hrolled, hreports⟩

/-- A failure carries a letter exactly if a stage failed last. -/
theorem Settled.letter?_eq_none_iff {e : PipelineFailure}
    (h : Settled c sink failure? (.error e) ends) : e.letter? = none ↔ failure? = none := by
  cases h with
  | commitFailed hs text => exact ⟨fun _ ↦ rfl, fun _ ↦ rfl⟩
  | @buried stage cause letter hletter rollback rolled hrolled reports hreports =>
    have hsome : (buriedAs letter cause rollback).letter? = some letter := by
      cases rollback <;> rfl
    rw [hsome]
    simp

private theorem Settled.of_commit_error (h : Settled c sink failure? result ends)
    {s : DeliverySession}
    {text : String} (hmem : .committed s (.error text) ∈ ends) :
    result = .error (.session (c.sessionFailure .sessionCommit "commit" text) none) ∧
      ∀ d ∈ ends, d.isRollback = false := by
  cases h with
  | unsettled hs output => cases hmem
  | committed hs output => cases List.mem_singleton.mp hmem
  | commitFailed hs text =>
    cases List.mem_singleton.mp hmem
    refine ⟨rfl, ?_⟩
    intro d hd
    obtain rfl := List.mem_singleton.mp hd
    rfl
  | buried hletter hrolled hreports =>
    obtain hmem | hmem := List.mem_append.mp hmem
    · cases hrolled with
      | spared hs => cases hmem
      | asked hs answer => cases List.mem_singleton.mp hmem
    · cases hreports with
      | unheard => cases hmem
      | heard answer => cases List.mem_singleton.mp hmem

private theorem Settled.of_rollback_error (h : Settled c sink failure? result ends)
    {s : DeliverySession}
    {text : String} (hmem : .rolledBack s (.error text) ∈ ends) :
    ∃ letter, result =
      .error (.session (c.sessionFailure .sessionRollback "rollback" text) (some letter)) := by
  cases h with
  | unsettled hs output => cases hmem
  | committed hs output | commitFailed hs text => cases List.mem_singleton.mp hmem
  | @buried stage cause letter hletter rollback rolled hrolled reports hreports =>
    obtain hmem | hmem := List.mem_append.mp hmem
    · cases hrolled with
      | spared hs => cases hmem
      | asked hs answer =>
        cases List.mem_singleton.mp hmem
        exact ⟨letter, rfl⟩
    · cases hreports with
      | unheard => cases hmem
      | heard answer => cases List.mem_singleton.mp hmem

end

/-- A message is settled once. Its run finishes, with one result whatever the sink does. Before the
end it asks for work only; at the end it asks its session for a commit or for a rollback, once and
not for both, and for neither if the session is not transactional. A message that made it has its
session committed and is not reported. A message that the last failure of a stage ended has its
session rolled back and is then reported, in a letter about that failure, which the result carries.
A commit that fails gives a failure without a letter, and a rollback that fails one with it. -/
theorem message_settled_once (policy : PipelinePolicy) (around : Surroundings σ μ π) (env : σ)
    (stats : PipelineStats) (context : ProcessingContext μ) (payload : π) :
    let run := policy.run around.recorded (env, []) stats context payload
    let deeds := run.1.2
    ∃ (result : Except PipelineFailure π) (work ends : List (Deed μ π)),
      run.2.2.result? = some result ∧
      (∀ report?, (policy.run { around with report? } env stats context payload).2.2.result? =
        some result) ∧
      deeds = work ++ ends ∧ (∀ d ∈ work, d.isWork = true) ∧
      ends.countP Deed.isCommit + ends.countP Deed.isRollback ≤ 1 ∧
      (context.transactionalSession? = none →
        ∀ d ∈ deeds, d.isCommit = false ∧ d.isRollback = false) ∧
      (∀ output, result = .ok output →
        ends = context.transactionalSession?.toList.map (.committed · (.ok ()))) ∧
      (∀ stage cause, lastFailure? deeds = some (stage, cause) →
        ∃ letter rollback rolled reports, letter.Blames context stage cause ∧
          result = .error (buriedAs letter cause rollback) ∧ ends = rolled ++ reports ∧
          RollsBack context rollback rolled ∧
          Reports context.message letter around.report?.isSome reports) ∧
      (∀ e, result = .error e → (e.letter? = none ↔ lastFailure? deeds = none)) ∧
      (∀ s text, .committed s (.error text) ∈ deeds →
        result = .error (.session (context.sessionFailure .sessionCommit "commit" text) none) ∧
          ∀ d ∈ deeds, d.isRollback = false) ∧
      (∀ s text, .rolledBack s (.error text) ∈ deeds →
        ∃ letter, result =
          .error (.session (context.sessionFailure .sessionRollback "rollback" text)
            (some letter))) := by
  intro run deeds
  obtain ⟨result, work, ends, hresult, hdeeds, hwork, hsettled⟩ :=
    policy.settled_run around env stats context payload
  refine ⟨result, work, ends, hresult, ?_, hdeeds, hwork, ?_⟩
  · intro report?
    rw [policy.run_sink around env stats context payload report?,
      ← policy.run_recorded around env stats context payload]
    exact hresult
  change deeds = work ++ ends at hdeeds
  -- what holds at the end holds of all deeds, since the others are work
  have hlast : lastFailure? deeds = lastFailure? work := by
    rw [hdeeds, lastFailure?_append_of_none hsettled.verdict?_eq_none]
  have hends {d : Deed μ π} (hd : d ∈ deeds) (hno : d.isWork = false) : d ∈ ends := by
    rw [hdeeds] at hd
    refine (List.mem_append.mp hd).resolve_left fun hw ↦ ?_
    rw [hwork d hw] at hno
    cases hno
  refine ⟨hsettled.asks_le_one, ?_, ?_, ?_, ?_, ?_, ?_⟩
  · intro hnone d hd
    cases hw : d.isWork with
    | true => exact Deed.asks_nothing_of_isWork hw
    | false => exact hsettled.spares hnone d (hends hd hw)
  · rintro output rfl
    exact hsettled.ends_of_ok
  · intro stage cause hf
    rw [hlast.symm.trans hf] at hsettled
    exact hsettled.ends_of_failure
  · rintro e rfl
    rw [hlast]
    exact hsettled.letter?_eq_none_iff
  · intro s text hmem
    obtain ⟨hresult, hno⟩ := hsettled.of_commit_error (hends hmem rfl)
    refine ⟨hresult, ?_⟩
    intro d hd
    cases hw : d.isWork with
    | true => exact (Deed.asks_nothing_of_isWork hw).2
    | false => exact hno d (hends hd hw)
  · intro s text hmem
    exact hsettled.of_rollback_error (hends hmem rfl)

/-- Surroundings in which a stage takes no odd payload, and is busy when it first meets one that
leaves two over four. Sessions with an odd number are gone when they are settled. -/
def fragile : Surroundings Unit Unit Nat where
  work?
    | .transform => some fun env shared payload =>
      (env, [], if payload % 2 = 1 then .error ⟨"odd", false, []⟩
        else if payload % 4 = 2 ∧ shared.context.attempt = 1 then .error ⟨"busy", true, []⟩
        else .ok payload)
    | _ => none
  now _ := 0
  sleep env _ := env
  commit env session := (env, if session.id % 2 = 1 then .error "gone" else .ok ())
  rollback env session := (env, if session.id % 2 = 1 then .error "gone" else .ok ())
  report? := some fun env _ _ => (env, .ok ())

/-- An order in a session. -/
def orderIn (session : Nat) : ProcessingContext Unit :=
  (ProcessingContext.new () "order" 3 0).withSession ⟨session, true⟩

/-- An order that a stage takes at its second attempt has its session committed. One that no stage
takes is reported although its session is gone as it should be rolled back. -/
theorem two_orders_settled_once :
    let policy : PipelinePolicy := {}
    let taken := policy.run fragile.recorded ((), []) {} (orderIn 2) 6
    let dead := policy.run fragile.recorded ((), []) {} (orderIn 1) 5
    let letter : DeadLetter := ⟨"order", .transform, 1, .nonRetryable, "odd", 0⟩
    (taken.2.2.result? = some (.ok 6) ∧ taken.2.1.retried = 1 ∧
      .committed ⟨2, true⟩ (.ok ()) ∈ taken.1.2) ∧
    (dead.2.2.result? = some (.error (.session
        ((orderIn 1).sessionFailure .sessionRollback "rollback" "gone") (some letter))) ∧
      letter.Blames (orderIn 1) .transform ⟨"odd", false, []⟩ ∧
      ∃ answer, .reported () letter answer ∈ dead.1.2) := by
  intro policy taken dead letter
  have htaken : taken.2.2.result? = some (.ok 6) := by decide +kernel
  have hdead : dead.2.2.result? = some (.error (.session
      ((orderIn 1).sessionFailure .sessionRollback "rollback" "gone") (some letter))) := by
    decide +kernel
  have hfailure : lastFailure? dead.1.2 = some (.transform, ⟨"odd", false, []⟩) := by
    decide +kernel
  refine ⟨⟨htaken, by decide +kernel, ?_⟩, hdead, ?_⟩
  · obtain ⟨result, work, ends, hresult, -, hdeeds, -, -, -, hcommitted, -⟩ :=
      message_settled_once policy fragile () {} (orderIn 2) 6
    have hends := hcommitted 6 (Option.some.inj (hresult.symm.trans htaken))
    change taken.1.2 = work ++ ends at hdeeds
    rw [hdeeds, hends]
    exact List.mem_append_right _ List.mem_cons_self
  · obtain ⟨result, work, ends, hresult, -, hdeeds, -, -, -, -, hburied, -⟩ :=
      message_settled_once policy fragile () {} (orderIn 1) 5
    obtain ⟨letter', rollback, rolled, reports, hblames, hsays, hends, -, hreports⟩ :=
      hburied .transform ⟨"odd", false, []⟩ hfailure
    obtain rfl : letter' = letter := by
      have hsame := hsays.symm.trans (Option.some.inj (hresult.symm.trans hdead))
      cases rollback with
      | ok _ => cases hsame
      | error e =>
        cases hsame
        rfl
    refine ⟨hblames, ?_⟩
    change dead.1.2 = work ++ ends at hdeeds
    rw [hdeeds, hends]
    cases hreports with
    | heard answer =>
      exact ⟨answer, List.mem_append_right _ (List.mem_append_right _ List.mem_cons_self)⟩

end GuardedDispatch
