import GuardedDispatch.Proofs.Lists
import GuardedDispatch.Proofs.Pipeline.Settlement

/-!
# Messages under way together

A workload is a pipeline with all the messages that came to it. Their runs share its counters and
its surroundings, and any of them may take the next step. What can happen next is an event, and an
event that cannot happen leaves the workload as it is, so a list of events is an interleaving and
every interleaving is one. An action that was begun and has not ended is a step not taken yet: what
others do in the meantime is done before it, and what it then meets with is left to the
surroundings, which may change by themselves at any time.

Every step counts what it makes of its own run, so at any time the counters are what can be read
off the runs.
-/

namespace GuardedDispatch

variable {σ μ π : Type}

/-! ### What a run adds to the counters -/

namespace PipelineStats

/-- The counters of two pipelines taken together. -/
instance : Add PipelineStats where
  add s t :=
    { processed := s.processed + t.processed
      completed := s.completed + t.completed
      retried := s.retried + t.retried
      deadLettered := s.deadLettered + t.deadLettered
      sessionFailures := s.sessionFailures + t.sessionFailures }

/-- Counts the result of a run, once there is one. -/
def settled (stats : PipelineStats) : Option (Except PipelineFailure π) → PipelineStats
  | none => stats
  | some (.ok _) => { stats with completed := stats.completed + 1 }
  | some (.error (.deadLettered _ _)) => { stats with deadLettered := stats.deadLettered + 1 }
  | some (.error (.session _ none)) => { stats with sessionFailures := stats.sessionFailures + 1 }
  | some (.error (.session _ (some _))) =>
    { stats with
      deadLettered := stats.deadLettered + 1
      sessionFailures := stats.sessionFailures + 1 }

variable {s t : PipelineStats} {result? : Option (Except PipelineFailure π)}

private theorem add_settled : s + t.settled result? = (s + t).settled result? := by
  match result? with
  | none | some (.ok _) | some (.error (.deadLettered _ _)) | some (.error (.session _ none))
  | some (.error (.session _ (some _))) => rfl

private theorem settled_add : s.settled result? + t = (s + t).settled result? := by
  have hone (m n : Nat) : m + 1 + n = m + n + 1 := Nat.add_right_comm m 1 n
  match result? with
  | none => rfl
  | some (.ok _) => exact congrArg (mk _ · _ _ _) (hone _ _)
  | some (.error (.deadLettered _ _)) => exact congrArg (mk _ _ _ · _) (hone _ _)
  | some (.error (.session _ none)) => exact congrArg (mk _ _ _ _ ·) (hone _ _)
  | some (.error (.session _ (some _))) => exact congrArg₂ (mk _ _ _ · ·) (hone _ _) (hone _ _)

end PipelineStats

namespace PipelineRun

variable {policy : PipelinePolicy} {around : Surroundings σ μ π} {env env' : σ}
  {stats stats' : PipelineStats} {r r' : PipelineRun μ π}

private theorem result?_terminate (r : PipelineRun μ π) (stage : Stage) (cause : StageFailure)
    (reason : DeadLetterReason) :
    (r.terminate stage cause reason).result? = none ∧
      (r.terminate stage cause reason).shared = r.shared := by
  unfold terminate
  dsimp only
  split <;> exact ⟨rfl, rfl⟩

private theorem stats_afterCommit (stats : PipelineStats) (r : PipelineRun μ π) (output : π)
    (answer : Except String Unit) :
    (afterCommit stats r output answer).2.shared = r.shared ∧
      (afterCommit stats r output answer).1 =
        stats.settled (afterCommit stats r output answer).2.result? := by
  unfold afterCommit
  split <;> exact ⟨rfl, rfl⟩

private theorem stats_bury (stats : PipelineStats) (r : PipelineRun μ π) (letter : DeadLetter)
    (cause : StageFailure) (rollback : Except ConnectorFailure Unit) :
    (bury stats r letter cause rollback).2.shared = r.shared ∧
      (bury stats r letter cause rollback).1 =
        stats.settled (bury stats r letter cause rollback).2.result? := by
  unfold bury
  dsimp only
  split <;> exact ⟨rfl, rfl⟩

private theorem Moved.stats_eq (h : Moved policy around env stats r env' stats' r') :
    ∃ more, r'.shared.context.attempt = r.shared.context.attempt + more ∧
      stats' = { stats with retried := stats.retried + more }.settled r'.result? := by
  cases h with
  | @passed stage next payload output env' notes hat hwork hnext =>
    exact ⟨0, (r.shared.afterWork_context (around.now env') notes stage .success).2, rfl⟩
  | @completed stage payload output env' notes hat hwork hlast hsession =>
    exact ⟨0, (r.shared.afterWork_context (around.now env') notes stage .success).2, rfl⟩
  | @asked stage payload output env' s notes hat hwork hlast hsession =>
    exact ⟨0, (r.shared.afterWork_context (around.now env') notes stage .success).2, rfl⟩
  | @died stage payload env' notes e hat hwork reason hreason =>
    have hkept := (r.shared.afterWork_context (around.now env') notes stage (.failure e.message)).2
    obtain ⟨hnone, hshared⟩ := result?_terminate
      { r with shared := r.shared.afterWork (around.now env') notes stage (.failure e.message) }
      stage e reason
    rw [hnone, hshared]
    exact ⟨0, hkept, rfl⟩
  | @retried stage payload env' notes e next hat hwork hends hnext =>
    have hkept := (r.shared.afterWork_context (around.now env') notes stage (.failure e.message)).2
    obtain ⟨c, hc, rfl⟩ := Option.map_eq_some_iff.mp hnext
    have hattempt := (ProcessingContext.nextAttempt?_eq_some hc).2.1
    rw [hkept] at hattempt
    exact ⟨1, hattempt, rfl⟩
  | resumed hat henv => exact ⟨0, rfl, rfl⟩
  | @committed s output hat env' answer hanswer stats' r' hafter =>
    obtain ⟨hshared, hstats⟩ := stats_afterCommit stats r output answer
    rw [hafter] at hshared hstats
    exact ⟨0, congrArg (·.context.attempt) hshared, hstats⟩
  | rolledBack hat hanswer => exact ⟨0, rfl, rfl⟩
  | @reported letter cause rollback hat env' henv stats' r' hbury =>
    obtain ⟨hshared, hstats⟩ := stats_bury stats r letter cause rollback
    rw [hbury] at hshared hstats
    exact ⟨0, congrArg (·.context.attempt) hshared, hstats⟩

private theorem result?_of_step? (h : r.step? policy around env stats = some (env', stats', r')) :
    r.result? = none := by
  cases hr : r.result? with
  | none => rfl
  | some result =>
    have hdone : r.result?.isSome = true := by rw [hr, Option.isSome_some]
    rw [step?_eq_none_iff.mpr hdone] at h
    cases h

end PipelineRun

/-! ### Workloads -/

/-- A message that came to a pipeline: the context it came with, its run, and what the run has asked
for. -/
structure Journey (μ π : Type) where
  context : ProcessingContext μ
  run : PipelineRun μ π
  deeds : List (Deed μ π) := []

/-- One thing that happens to a pipeline: a message comes, a run takes a step, or the surroundings
change by themselves. -/
inductive WorkloadEvent (σ μ π : Type) where
  | arrive (context : ProcessingContext μ) (payload : π)
  | move (i : Nat)
  | shift (env : σ)

/-- A pipeline with the messages that came to it, which are known by number. -/
structure Workload (σ μ π : Type) where
  env : σ
  stats : PipelineStats := {}
  journeys : List (Journey μ π) := []

/-- Whether a deed is a commit that failed. -/
def Deed.isFailedCommit : Deed μ π → Bool
  | .committed _ (.error _) => true
  | _ => false

/-- Whether a deed is a rollback that failed. -/
def Deed.isFailedRollback : Deed μ π → Bool
  | .rolledBack _ (.error _) => true
  | _ => false

namespace Journey

/-- Whether the run has not returned yet. -/
def isUnderWay (j : Journey μ π) : Bool := j.run.result?.isNone

/-- The number of the attempt that the message is at, or ended with. -/
def attempt (j : Journey μ π) : Nat := j.run.shared.context.attempt

/-- How many commits failed. -/
def failedCommits (j : Journey μ π) : Nat := j.deeds.countP Deed.isFailedCommit

/-- How many rollbacks failed. -/
def failedRollbacks (j : Journey μ π) : Nat := j.deeds.countP Deed.isFailedRollback

/-- The journey once its run has taken the step that it asks for in given surroundings. -/
def advance (j : Journey μ π) (around : Surroundings σ μ π) (env : σ) (run : PipelineRun μ π) :
    Journey μ π :=
  { j with run, deeds := j.deeds ++ j.run.deeds around env }

/-- What the counters would be if no other message had come. -/
def share (j : Journey μ π) : PipelineStats :=
  { processed := 1, retried := j.attempt - j.context.attempt : PipelineStats }.settled
    j.run.result?

end Journey

namespace Workload

/-- A new pipeline, to which no message came yet. -/
def new (env : σ) : Workload σ μ π where
  env

/-- Lets an event happen. -/
def apply (policy : PipelinePolicy) (around : Surroundings σ μ π) (t : Workload σ μ π) :
    WorkloadEvent σ μ π → Workload σ μ π
  | .arrive context payload =>
    { t with
      stats := { t.stats with processed := t.stats.processed + 1 }
      journeys :=
        t.journeys ++ [{ context, run := .begin_ context payload (around.now t.env) }] }
  | .move i =>
    match t.journeys[i]? with
    | some j =>
      match j.run.step? policy around t.env t.stats with
      | some (env, stats, run) =>
        { env, stats, journeys := t.journeys.set i (j.advance around t.env run) }
      | none => t
    | none => t
  | .shift env => { t with env }

/-- Lets one event happen after another. -/
def run (policy : PipelinePolicy) (around : Surroundings σ μ π) (t : Workload σ μ π)
    (events : List (WorkloadEvent σ μ π)) : Workload σ μ π :=
  events.foldl (apply policy around) t

/-- How many runs have not returned yet. -/
def inProgress (t : Workload σ μ π) : Nat := t.journeys.countP Journey.isUnderWay

/-- How many commits failed. -/
def failedCommits (t : Workload σ μ π) : Nat := (t.journeys.map Journey.failedCommits).sum

/-- How many rollbacks failed of runs that have returned. -/
def failedRollbacks (t : Workload σ μ π) : Nat :=
  ((t.journeys.filter (!·.isUnderWay)).map Journey.failedRollbacks).sum

end Workload

/-! ### The counters of a workload -/

/-- A message on its way: what its run asked for is what its place calls for, and it is at no
earlier attempt than it came with. -/
structure Journey.Kept (around : Surroundings σ μ π) (j : Journey μ π) : Prop where
  underway : Underway j.context around j.run j.deeds
  attempt_le : j.context.attempt ≤ j.attempt

/-- A run that takes a step has its share of the counters grow as the counters do. -/
theorem Journey.Kept.moved {policy : PipelinePolicy} {around : Surroundings σ μ π} {env env' : σ}
    {stats stats' : PipelineStats} {j : Journey μ π} {run : PipelineRun μ π} (h : j.Kept around)
    (hs : j.run.step? policy around env stats = some (env', stats', run)) :
    (j.advance around env run).Kept around ∧
      stats' + j.share = stats + (j.advance around env run).share := by
  have hmoved := PipelineRun.moved_of_step? hs
  obtain ⟨more, hattempt, rfl⟩ := hmoved.stats_eq
  have hle : j.context.attempt ≤ j.run.shared.context.attempt := h.attempt_le
  have hle' : j.context.attempt ≤ run.shared.context.attempt := by omega
  refine ⟨⟨h.underway.moved hmoved, hle'⟩, ?_⟩
  have hretries : stats.retried + more + (j.run.shared.context.attempt - j.context.attempt) =
      stats.retried + (run.shared.context.attempt - j.context.attempt) := by
    omega
  rw [share, PipelineRun.result?_of_step? hs, PipelineStats.settled_add]
  refine Eq.trans ?_ PipelineStats.add_settled.symm
  exact congrArg (PipelineStats.settled · run.result?)
    (congrArg (PipelineStats.mk _ _ · _ _) hretries)

namespace Workload

variable {policy : PipelinePolicy} {around : Surroundings σ μ π} {t : Workload σ μ π}

/-- The messages are on their way, and what one counter shows is the sum of their shares of it. -/
structure Booked (around : Surroundings σ μ π) (t : Workload σ μ π) : Prop where
  kept : ∀ j ∈ t.journeys, j.Kept around
  counts : ∀ counter : PipelineStats → Nat, counter {} = 0 →
    (∀ s s', counter (s + s') = counter s + counter s') →
    counter t.stats = (t.journeys.map fun j ↦ counter j.share).sum

/-- No message, and nothing counted. -/
theorem booked_new (around : Surroundings σ μ π) (env : σ) :
    (new env : Workload σ μ π).Booked around where
  kept _ hj := nomatch hj
  counts _ hzero _ := hzero

/-- Every event keeps the counters the sums of the shares. -/
theorem Booked.apply (h : t.Booked around) (e : WorkloadEvent σ μ π) :
    (t.apply policy around e).Booked around := by
  cases e with
  | arrive context payload =>
    refine ⟨?_, ?_⟩
    · intro j hj
      obtain hj | hj := List.mem_append.mp hj
      · exact h.kept j hj
      · obtain rfl := List.mem_singleton.mp hj
        exact ⟨underway_begin context around payload _, Nat.le_refl _⟩
    · intro counter hzero hadd
      have hone : Journey.share
          ⟨context, .begin_ context payload (around.now t.env), ([] : List (Deed μ π))⟩ =
          { processed := 1 } :=
        congrArg (PipelineStats.mk _ _ · _ _) (Nat.sub_self _)
      have hstats : { t.stats with processed := t.stats.processed + 1 } =
        t.stats + { processed := 1 } := rfl
      simp only [Workload.apply, List.map_append, List.sum_append, List.map_singleton,
        List.sum_singleton]
      rw [hone, hstats, hadd, h.counts counter hzero hadd]
  | move i =>
    unfold Workload.apply
    cases hj : t.journeys[i]? with
    | none =>
      simp only [hj]
      exact h
    | some j =>
      cases hs : j.run.step? policy around t.env t.stats with
      | none =>
        simp only [hj, hs]
        exact h
      | some moved =>
        obtain ⟨env, stats, run⟩ := moved
        have hmem : ∀ x, x ∈ t.journeys ↔ x ∈ j :: t.journeys.eraseIdx i :=
          fun x ↦ (perm_cons_eraseIdx hj).mem_iff
        obtain ⟨hkept, hshare⟩ := (h.kept j ((hmem j).mpr List.mem_cons_self)).moved hs
        have hset := set_perm_cons_eraseIdx hj (j.advance around t.env run)
        simp only [hj, hs]
        refine ⟨?_, ?_⟩
        · intro x hx
          obtain rfl | hx := List.mem_cons.mp (hset.mem_iff.mp hx)
          · exact hkept
          · exact h.kept x ((hmem x).mpr (List.mem_cons_of_mem j hx))
        · intro counter hzero hadd
          have hold := h.counts counter hzero hadd
          have hcount := congrArg counter hshare
          rw [hadd, hadd] at hcount
          rw [((perm_cons_eraseIdx hj).map _).sum_eq, sum_map_cons] at hold
          rw [(hset.map _).sum_eq, sum_map_cons]
          change counter stats = _
          omega
  | shift env => exact ⟨h.kept, h.counts⟩

/-- The counters are the sums of the shares at the end of every run. -/
theorem booked_run (policy : PipelinePolicy) (around : Surroundings σ μ π) (env : σ)
    (events : List (WorkloadEvent σ μ π)) : ((new env).run policy around events).Booked around := by
  have hkeep (t : Workload σ μ π) (h : t.Booked around) :
      (t.run policy around events).Booked around := by
    induction events generalizing t with
    | nil => exact h
    | cons e rest ih => exact ih _ (h.apply e)
  exact hkeep _ (booked_new around env)

end Workload

/-! ### What the counters tell -/

private theorem Deed.not_failed_of_isWork {d : Deed μ π} (h : d.isWork = true) :
    d.isFailedCommit = false ∧ d.isFailedRollback = false := by
  cases d with
  | worked stage payload answer | slept wait => exact ⟨rfl, rfl⟩
  | committed s answer | rolledBack s answer | reported message letter answer => cases h

private theorem Stands.answers {c : ProcessingContext μ} {around : Surroundings σ μ π}
    {failure? : Option (Stage × StageFailure)} {r : PipelineRun μ π} {ends : List (Deed μ π)}
    (h : Stands c around failure? r.phase ends) (stats : PipelineStats) :
    (stats.settled r.result?).completed + (stats.settled r.result?).deadLettered +
        ends.countP Deed.isFailedCommit + r.result?.isNone.toNat =
      stats.completed + stats.deadLettered + 1 ∧
    (stats.settled r.result?).sessionFailures =
      stats.sessionFailures + ends.countP Deed.isFailedCommit +
        if r.result?.isNone then 0 else ends.countP Deed.isFailedRollback := by
  generalize hat : r.phase = phase at h
  simp only [PipelineRun.result?, hat]
  cases h with
  | working hout | pausing hout | committing hs output | rollingBack hs hletter => exact ⟨rfl, rfl⟩
  | reporting hletter hrolled => cases hrolled <;> exact ⟨rfl, rfl⟩
  | finished h =>
    generalize around.report?.isSome = sink at h
    cases h with
    | unsettled hs output | committed hs output =>
      exact ⟨Nat.add_right_comm stats.completed 1 stats.deadLettered, rfl⟩
    | commitFailed hs text => exact ⟨rfl, rfl⟩
    | buried hletter hrolled hreports =>
      cases hrolled with
      | spared hs => cases hreports <;> exact ⟨rfl, rfl⟩
      | asked hs answer => cases answer <;> cases hreports <;> exact ⟨rfl, rfl⟩

private theorem Journey.Kept.share_eq {around : Surroundings σ μ π} {j : Journey μ π}
    (h : j.Kept around) :
    j.share.completed + j.share.deadLettered + j.failedCommits + j.isUnderWay.toNat = 1 ∧
      j.share.sessionFailures =
        j.failedCommits + if j.isUnderWay then 0 else j.failedRollbacks := by
  obtain ⟨-, work, ends, hdeeds, hwork, hstands⟩ := h.underway
  have hcommits : j.failedCommits = ends.countP Deed.isFailedCommit := by
    rw [failedCommits, hdeeds, List.countP_append, List.countP_eq_zero.mpr, Nat.zero_add]
    intro d hd
    simp only [(Deed.not_failed_of_isWork (hwork d hd)).1, Bool.false_eq_true, not_false_eq_true]
  have hrollbacks : j.failedRollbacks = ends.countP Deed.isFailedRollback := by
    rw [failedRollbacks, hdeeds, List.countP_append, List.countP_eq_zero.mpr, Nat.zero_add]
    intro d hd
    simp only [(Deed.not_failed_of_isWork (hwork d hd)).2, Bool.false_eq_true, not_false_eq_true]
  rw [hcommits, hrollbacks, isUnderWay, share]
  obtain ⟨hends, hfailures⟩ := hstands.answers
    { processed := 1, retried := j.attempt - j.context.attempt }
  rw [Nat.zero_add] at hfailures
  exact ⟨hends, hfailures⟩

private theorem sum_shares {around : Surroundings σ μ π} {l : List (Journey μ π)}
    (h : ∀ j ∈ l, j.Kept around) :
    l.length = (l.map (·.share.completed)).sum + (l.map (·.share.deadLettered)).sum +
        (l.map Journey.failedCommits).sum + l.countP Journey.isUnderWay ∧
      (l.map (·.share.sessionFailures)).sum = (l.map Journey.failedCommits).sum +
        ((l.filter (!·.isUnderWay)).map Journey.failedRollbacks).sum := by
  induction l with
  | nil => exact ⟨rfl, rfl⟩
  | cons j rest ih =>
    obtain ⟨hends, hfailures⟩ := (h j List.mem_cons_self).share_eq
    obtain ⟨ihends, ihfailures⟩ := ih fun x hx ↦ h x (List.mem_cons_of_mem j hx)
    rw [countP_cons_toNat]
    simp only [sum_map_cons, List.length_cons]
    refine ⟨by omega, ?_⟩
    cases hj : j.isUnderWay with
    | true =>
      rw [hj, if_pos rfl] at hfailures
      rw [List.filter_cons_of_neg (by simp [hj])]
      omega
    | false =>
      rw [hj, if_neg Bool.false_ne_true] at hfailures
      rw [List.filter_cons_of_pos (by simp [hj]), sum_map_cons]
      omega

private theorem Journey.share_counts (j : Journey μ π) :
    j.share.processed = 1 ∧ j.share.retried = j.attempt - j.context.attempt := by
  unfold share PipelineStats.settled
  split <;> exact ⟨rfl, rfl⟩

namespace Workload

/-- Nothing is lost between the counters of a pipeline. Whatever messages came, and in whatever
order their runs took their steps so far, a message that was processed has completed, is dead, had a
commit that failed, or is still in progress; the session failures are the commits that failed and
the rollbacks that failed of runs that have returned; and the retries are the attempts by which the
messages are ahead of the contexts they came with. -/
theorem counters_conserved (policy : PipelinePolicy) (around : Surroundings σ μ π) (env : σ)
    (events : List (WorkloadEvent σ μ π)) :
    let t := (new env).run policy around events
    t.stats.processed =
        t.stats.completed + t.stats.deadLettered + t.failedCommits + t.inProgress ∧
      t.stats.sessionFailures = t.failedCommits + t.failedRollbacks ∧
      t.stats.retried = (t.journeys.map fun j ↦ j.attempt - j.context.attempt).sum ∧
      ∀ j ∈ t.journeys, j.context.attempt ≤ j.attempt := by
  intro t
  have h : t.Booked around := booked_run policy around env events
  obtain ⟨hends, hfailures⟩ := sum_shares h.kept
  have hprocessed := h.counts (·.processed) rfl fun _ _ ↦ rfl
  have hretried := h.counts (·.retried) rfl fun _ _ ↦ rfl
  simp only [Journey.share_counts, List.map_const', List.sum_replicate_nat, Nat.mul_one]
    at hprocessed hretried
  have hcompleted := h.counts (·.completed) rfl fun _ _ ↦ rfl
  have hdead := h.counts (·.deadLettered) rfl fun _ _ ↦ rfl
  have hsession := h.counts (·.sessionFailures) rfl fun _ _ ↦ rfl
  refine ⟨?_, hsession.trans hfailures, hretried, fun j hj ↦ (h.kept j hj).attempt_le⟩
  rw [hprocessed, hcompleted, hdead]
  exact hends

/-- Five orders, of which the first four take their steps in turn, and the last takes two. -/
def fiveOrders : List (WorkloadEvent Unit Unit Nat) :=
  [.arrive (orderIn 2) 6, .arrive (orderIn 1) 4, .arrive (orderIn 2) 5, .arrive (orderIn 1) 3,
    .arrive (orderIn 2) 4] ++
    (List.replicate 8 [.move 0, .move 1, .move 2, .move 3]).flatten ++ [.move 4, .move 4]

/-- The first is retried and completes, the second cannot be committed, the next two die, one of
them with a session that cannot be rolled back, and the last is in progress. -/
theorem five_orders_counted :
    let t := (new ()).run {} fragile fiveOrders
    (t.stats = ⟨5, 1, 1, 2, 2⟩ ∧ t.failedCommits = 1 ∧ t.failedRollbacks = 1 ∧
      t.inProgress = 1) ∧
    t.stats.processed =
        t.stats.completed + t.stats.deadLettered + t.failedCommits + t.inProgress ∧
      t.stats.sessionFailures = t.failedCommits + t.failedRollbacks ∧
      t.stats.retried = (t.journeys.map fun j ↦ j.attempt - j.context.attempt).sum ∧
      ∀ j ∈ t.journeys, j.context.attempt ≤ j.attempt :=
  ⟨by decide +kernel, counters_conserved {} fragile () fiveOrders⟩

end Workload

end GuardedDispatch
