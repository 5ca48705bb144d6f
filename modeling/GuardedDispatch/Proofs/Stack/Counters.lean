import GuardedDispatch.Policy.Stack
import GuardedDispatch.Proofs.Breaker.Settings
import GuardedDispatch.Proofs.Stack.Seats

/-!
# The counters of the layers

Each layer counts for itself. What an operation of a layer adds to the layer's lifetime counters
depends on its answer alone, and whatever is not an answer to a call adds nothing.
-/

namespace GuardedDispatch

namespace Bulkhead

variable {b b' : Bulkhead} {now ticket : Nat}

/-- Asking for a slot is counted by its answer, unless that is to wait. -/
theorem counts_of_request {answer : SlotAnswer} (hr : b.request now = (b', answer)) :
    b'.admitted = b.admitted + (if answer = .admitted then 1 else 0) ∧
      b'.rejected = b.rejected + (if answer = .rejected then 1 else 0) := by
  have hreq := b.requested_request now
  rw [hr] at hreq
  cases hreq with
  | admitted hopen hfree => exact ⟨rfl, rfl⟩
  | rejected hwhy => exact ⟨rfl, rfl⟩
  | queued hopen hfull hwait hroom => exact ⟨rfl, rfl⟩

/-- Handing a slot back is not counted. -/
theorem counts_freeSlot (b : Bulkhead) :
    b.freeSlot.admitted = b.admitted ∧ b.freeSlot.rejected = b.rejected := by
  have hf := b.freed_freeSlot
  generalize b.freeSlot = b' at hf
  cases hf with
  | handed hopen hqueue hbefore hw => exact ⟨rfl, rfl⟩
  | kept hwhy => exact ⟨rfl, rfl⟩

/-- Coming for a slot is counted by whether it was there. -/
theorem counts_of_claim? {admitted : Bool} (hc : b.claim? ticket now = some (b', admitted)) :
    b'.admitted = b.admitted + admitted.toNat ∧ b'.rejected = b.rejected + (!admitted).toNat := by
  cases claimed_of_claim? hc with
  | admitted hw hopen hassigned => exact ⟨rfl, rfl⟩
  | @shut w hw hclosed =>
    refine ⟨?_, rfl⟩
    cases w.assigned with
    | true => exact (b.withdraw ticket).counts_freeSlot.1
    | false => rfl
  | expired hw hopen hassigned hdue => exact ⟨rfl, rfl⟩

/-- Leaving the queue is not counted. -/
theorem counts_abandon (b : Bulkhead) (ticket : Nat) :
    (b.abandon ticket).admitted = b.admitted ∧ (b.abandon ticket).rejected = b.rejected := by
  unfold abandon
  split
  · split
    · exact (b.withdraw ticket).counts_freeSlot
    · exact ⟨rfl, rfl⟩
  · exact ⟨rfl, rfl⟩

end Bulkhead

namespace RateLimiter

/-- A refill is not counted. -/
theorem counts_refresh (l : RateLimiter) (now : Nat) :
    (l.refresh now).permitted = l.permitted ∧ (l.refresh now).rejected = l.rejected :=
  ⟨rfl, rfl⟩

/-- Asking for a permit is counted by its answer, unless that is to sleep. -/
theorem counts_of_ask {l l' : RateLimiter} {since now : Nat} {answer : PermitAnswer}
    (hr : l.ask since now = (l', answer)) :
    l'.permitted = l.permitted + (if answer = .granted then 1 else 0) ∧
      l'.rejected = l.rejected + (if answer = .rejected then 1 else 0) := by
  simp only [ask] at hr
  split at hr
  all_goals
    cases hr
    exact ⟨rfl, rfl⟩

end RateLimiter

/-- A call is counted among the good ones exactly if it ended well. -/
theorem Retry.ok_count (r : Retry) (attempt : Nat) (ok : Bool) :
    (r.count attempt ok).okWithout + (r.count attempt ok).okWith =
      r.okWithout + r.okWith + ok.toNat := by
  cases ok <;> by_cases hlater : 1 < attempt <;> simp [count, hlater] <;> omega

namespace Breaker

variable {b b' : Breaker} {now : Nat}

/-- A request is counted if it is refused. -/
theorem counts_of_request {permit? : Option CallPermit} (hr : b.request now = (b', permit?)) :
    b'.successful = b.successful ∧ b'.failed = b.failed ∧
      b'.notPermitted = b.notPermitted + permit?.isNone.toNat := by
  have hreq := b.requested_request now
  rw [hr] at hreq
  cases hreq <;> exact ⟨rfl, rfl, rfl⟩

private theorem counts_judge (b : Breaker) (o : Outcome) (now : Nat) :
    (b.judge o now).successful = b.successful ∧ (b.judge o now).failed = b.failed ∧
      (b.judge o now).notPermitted = b.notPermitted := by
  have hj := b.judged_judge o now
  generalize b.judge o now = b' at hj ⊢
  cases hj <;> exact ⟨rfl, rfl, rfl⟩

/-- A completed call is counted by how it ended, whatever became of its generation. -/
theorem counts_complete (b : Breaker) (p : CallPermit) (duration : Nat) (failed : Bool)
    (now : Nat) :
    (b.complete p duration failed now).successful = b.successful + (!failed).toNat ∧
      (b.complete p duration failed now).failed = b.failed + failed.toNat ∧
      (b.complete p duration failed now).notPermitted = b.notPermitted := by
  by_cases hg : p.generation = b.generation
  · rw [complete_of_current hg]
    exact counts_judge _ _ now
  · rw [complete_of_stale hg]
    exact ⟨rfl, rfl, rfl⟩

private theorem slow_judge (b : Breaker) (o : Outcome) (now : Nat) :
    (b.judge o now).slow = b.slow := by
  have hj := b.judged_judge o now
  generalize b.judge o now = b' at hj ⊢
  cases hj <;> rfl

private theorem slow_complete (b : Breaker) (p : CallPermit) (duration : Nat) (failed : Bool)
    (now : Nat) :
    (b.complete p duration failed now).slow =
      b.slow + (b.config.outcome duration failed).slow.toNat := by
  by_cases hg : p.generation = b.generation
  · rw [complete_of_current hg, slow_judge]
    rfl
  · rw [complete_of_stale hg]
    rfl

/-- The outcome that shows in the lifetime counters between two states of a breaker, if one was
counted. -/
def counted? (b b' : Breaker) : Option Outcome :=
  if b'.recorded = b.recorded then none
  else some ⟨decide (b.failed < b'.failed), decide (b.slow < b'.slow)⟩

/-- The outcome of a completed call shows in the lifetime counters. -/
theorem counted?_complete (b : Breaker) (p : CallPermit) (duration : Nat) (failed : Bool)
    (now : Nat) :
    b.counted? (b.complete p duration failed now) = some (b.config.outcome duration failed) := by
  have hne : (b.complete p duration failed now).recorded ≠ b.recorded := by
    rw [recorded_complete]
    exact Nat.succ_ne_self _
  have hgrows (n : Nat) (x : Bool) : decide (n < n + x.toNat) = x := by
    cases x <;> simp
  rw [counted?, if_neg hne, (b.counts_complete p duration failed now).2.1, slow_complete, hgrows,
    hgrows]
  rfl

/-- Giving a permit back is not counted. -/
theorem counts_release (b : Breaker) (p : CallPermit) :
    (b.release p).successful = b.successful ∧ (b.release p).failed = b.failed ∧
      (b.release p).notPermitted = b.notPermitted := by
  unfold release
  split
  · exact ⟨rfl, rfl, rfl⟩
  · exact ⟨rfl, rfl, rfl⟩

/-- Other settings are not counted. -/
theorem counts_reconfigure (b : Breaker) (config : BreakerConfig) :
    (b.reconfigure config).successful = b.successful ∧ (b.reconfigure config).failed = b.failed ∧
      (b.reconfigure config).notPermitted = b.notPermitted := by
  unfold reconfigure
  split
  · exact ⟨rfl, rfl, rfl⟩
  · exact ⟨rfl, rfl, rfl⟩

end Breaker

/-- The end of an attempt is counted once, however it came about. -/
theorem TimeLimiter.counts_count {ε α : Type} (l : TimeLimiter) (r : Except (PolicyFailure ε) α) :
    (l.count r).completed + (l.count r).timedOut = l.completed + l.timedOut + 1 := by
  cases r with
  | ok value => exact Nat.add_right_comm _ _ _
  | error e =>
    simp only [count]
    split
    · rfl
    · exact Nat.add_right_comm _ _ _

end GuardedDispatch
