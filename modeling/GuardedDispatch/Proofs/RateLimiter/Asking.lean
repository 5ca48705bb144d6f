import GuardedDispatch.Policy.Stack
import GuardedDispatch.Proofs.RateLimiter.Periods

/-!
# Asking for a permit

What a caller is told depends on two things: whether a permit is left in the running period, and
whether the next period starts before the caller's timeout. Asking moves the budget to the running
period and nowhere else. Periods follow each other from the start of the first as long as the count
within a period does not wrap.
-/

namespace GuardedDispatch

/-! ### Milliseconds and nanoseconds -/

private theorem nanos_succ (millis : Nat) : nanos (millis + 1) = nanos millis + nanosPerMilli :=
  Nat.mul_succ _ _

/-- The sum of some milliseconds. -/
theorem nanos_add (millis more : Nat) : nanos (millis + more) = nanos millis + nanos more :=
  Nat.mul_add _ _ _

/-- A whole millisecond is reached in time exactly if the moment is. -/
theorem ceilMilli_le_iff {count millis : Nat} :
    ceilMilli count ≤ millis ↔ count ≤ nanos millis := by
  simp only [ceilMilli, nanos, nanosPerMilli]
  omega

/-- A moment comes after a whole millisecond exactly if the next whole one does. -/
theorem lt_ceilMilli_iff {count millis : Nat} :
    millis < ceilMilli count ↔ nanos millis < count := by
  rw [← Nat.not_le, ceilMilli_le_iff, Nat.not_le]

/-- A whole number of milliseconds is that number. -/
theorem ceilMilli_nanos (millis : Nat) : ceilMilli (nanos millis) = millis := by
  simp only [ceilMilli, nanos, nanosPerMilli]
  omega

/-- Whole milliseconds are added as they are. -/
theorem ceilMilli_add_nanos (count millis : Nat) :
    ceilMilli (count + nanos millis) = ceilMilli count + millis := by
  simp only [ceilMilli, nanos, nanosPerMilli]
  omega

/-- Later moments are rounded to later milliseconds. -/
theorem ceilMilli_mono {count later : Nat} (h : count ≤ later) :
    ceilMilli count ≤ ceilMilli later :=
  ceilMilli_le_iff.mpr (h.trans (ceilMilli_le_iff.mp (Nat.le_refl _)))

private theorem ceilMilli_max_succ {count now : Nat} (h : nanos now < count) :
    ceilMilli (max count (nanos (now + 1))) = ceilMilli count := by
  refine Nat.le_antisymm (ceilMilli_le_iff.mpr (max_le ?_ ?_)) (ceilMilli_mono (le_max_left _ _))
  · exact ceilMilli_le_iff.mp (Nat.le_refl _)
  · exact Nat.mul_le_mul_left _ (lt_ceilMilli_iff.mpr h)

/-! ### The running period -/

namespace Budget

variable {b : Budget} {pace : Pace} {now : Nat}

/-- A refresh stays in the running period while that lasts, and moves at least to the next one after
it. Either way the moment lies in the period it is moved to. -/
theorem start_refresh (b : Budget) (pace : Pace) (hbegun : b.start ≤ now) :
    (b.refresh pace now).start ≤ now ∧
      ((b.refresh pace now).start = b.start ∨
        b.start + pace.period ≤ (b.refresh pace now).start) ∧
      (pace.period ≠ 0 → now < (b.refresh pace now).start + pace.period) := by
  unfold refresh
  dsimp only
  split
  · next hperiod => exact ⟨hbegun, .inl rfl, fun h ↦ absurd hperiod h⟩
  · next hperiod =>
    split
    · next helapsed =>
      have hdiv := Nat.div_add_mod (now - b.start) pace.period
      have hmod := Nat.mod_lt (now - b.start) (Nat.pos_of_ne_zero hperiod)
      have hwrap := Nat.mod_le ((now - b.start) % pace.period) (wordMax + 1)
      have hwhole : pace.period ≤ pace.period * ((now - b.start) / pace.period) :=
        Nat.le_mul_of_pos_right _ (Nat.div_pos helapsed (Nat.pos_of_ne_zero hperiod))
      refine ⟨Nat.sub_le _ _, .inr ?_, fun _ ↦ ?_⟩
      · dsimp only
        omega
      · dsimp only
        omega
    · next helapsed =>
      refine ⟨hbegun, .inl rfl, fun _ ↦ ?_⟩
      omega

/-- While the count within a period does not wrap, a refresh moves to a period of those that follow
each other from the first. -/
theorem start_refresh_of_fits {start k : Nat} (hgrid : b.start = start + k * pace.period)
    (hbegun : b.start ≤ now)
    (hfits : pace.period ≤ wordMax + 1 ∨ now < start + (wordMax + 1)) :
    ∃ k', (b.refresh pace now).start = start + k' * pace.period := by
  unfold refresh
  dsimp only
  split
  · exact ⟨k, hgrid⟩
  · next hperiod =>
    split
    · have hdiv := Nat.div_add_mod (now - b.start) pace.period
      have hmod := Nat.mod_lt (now - b.start) (Nat.pos_of_ne_zero hperiod)
      generalize (now - b.start) % pace.period = into at hdiv hmod ⊢
      generalize (now - b.start) / pace.period = passed at hdiv
      have hfit : into % (wordMax + 1) = into := by
        refine Nat.mod_eq_of_lt ?_
        obtain hshort | hearly := hfits
        · exact hmod.trans_le hshort
        · omega
      have hmul : (k + passed) * pace.period = k * pace.period + pace.period * passed := by ring
      refine ⟨k + passed, ?_⟩
      dsimp only
      omega
    · exact ⟨k, hgrid⟩

/-- What asking does to a budget, and what the caller is told. -/
inductive Asked (b : Budget) (pace : Pace) (since now : Nat) : Budget → PermitAnswer → Prop
  | granted (hleft : 0 < (b.refresh pace now).permits) :
      Asked b pace since now
        { b.refresh pace now with permits := (b.refresh pace now).permits - 1 } .granted
  | rejected (hnone : (b.refresh pace now).permits = 0)
      (hlate : since + pace.timeout < now + (b.refresh pace now).untilNext pace now) :
      Asked b pace since now (b.refresh pace now) .rejected
  | sleep (hnone : (b.refresh pace now).permits = 0)
      (hsoon : now + (b.refresh pace now).untilNext pace now ≤ since + pace.timeout) :
      Asked b pace since now (b.refresh pace now)
        (.sleep (now + (b.refresh pace now).untilNext pace now))

private theorem asked_ask (b : Budget) (pace : Pace) (since now : Nat) :
    b.Asked pace since now (b.ask pace since now).1 (b.ask pace since now).2 := by
  simp only [ask, take]
  by_cases hleft : 0 < (b.refresh pace now).permits
  · rw [if_pos hleft]
    exact .granted hleft
  · rw [if_neg hleft]
    dsimp only
    split
    · next hlate => exact .rejected (Nat.eq_zero_of_not_pos hleft) hlate
    · next hsoon => exact .sleep (Nat.eq_zero_of_not_pos hleft) (Nat.le_of_not_lt hsoon)

end Budget

/-! ### What a caller is told -/

/-- Whether the answer is to sleep. -/
def PermitAnswer.isSleep : PermitAnswer → Bool
  | .sleep _ => true
  | _ => false

namespace RateLimiter

variable {l : RateLimiter} {since now : Nat}

/-- When the period after the running one starts, in nanoseconds. Without a period there is one
every millisecond. -/
def nextStart (l : RateLimiter) (now : Nat) : Nat :=
  if l.config.period = 0 then nanos (now + 1)
  else (l.refresh now).periodStart + nanos l.config.period

/-- What a caller that began at `since` is told: it is granted a permit if one is left in the
running period, and else rejected if the next period starts after its timeout, or to sleep until
then. -/
inductive Told (l : RateLimiter) (since now : Nat) : PermitAnswer → Prop
  | granted (hleft : 0 < (l.refresh now).permits) : Told l since now .granted
  | rejected (hnone : (l.refresh now).permits = 0)
      (hlate : nanos (since + l.config.timeout) < l.nextStart now) : Told l since now .rejected
  | sleep (hnone : (l.refresh now).permits = 0)
      (hsoon : l.nextStart now ≤ nanos (since + l.config.timeout)) :
      Told l since now (.sleep (ceilMilli (l.nextStart now)))

/-- The running period has begun, and the next one starts after now. -/
theorem begun_refresh (hbegun : l.periodStart ≤ nanos now) :
    (l.refresh now).periodStart ≤ nanos now ∧ nanos now < l.nextStart now := by
  obtain ⟨hle, -, hlt⟩ := l.budget.start_refresh l.config.pace hbegun
  refine ⟨hle, ?_⟩
  unfold nextStart
  split
  · simp only [nanos, nanosPerMilli]
    omega
  · next hperiod =>
    refine hlt ?_
    simp only [RateLimiterConfig.pace, nanos, nanosPerMilli]
    omega

private theorem untilNext_eq (hbegun : l.periodStart ≤ nanos now) :
    nanos now + (l.refresh now).budget.untilNext l.config.pace (nanos now) =
      max (l.nextStart now) (nanos (now + 1)) := by
  obtain ⟨hle, hlt⟩ := begun_refresh hbegun
  have hstart : (l.refresh now).budget.start = (l.refresh now).periodStart := rfl
  have hpace : l.config.pace.period = nanos l.config.period := rfl
  unfold Budget.untilNext nextStart at *
  rw [hstart, hpace, nanos_succ]
  split at hlt
  · next hperiod =>
    have hzero : nanos l.config.period = 0 := by rw [hperiod, nanos, Nat.mul_zero]
    rw [if_pos hperiod, hzero]
    omega
  · next hperiod =>
    rw [if_neg hperiod]
    omega

/-- The clock can tell every moment that a caller's question adds up, if the durations of the
configuration have sixty-four bits and the clock is no nearer to its end than that. -/
theorem moments_le_lastMoment (hbegun : l.periodStart ≤ nanos now) (hsince : since ≤ now)
    (hperiod : l.config.period ≤ wordMax) (htimeout : l.config.timeout ≤ wordMax)
    (hclock : now + wordMax ≤ lastMoment) :
    nanos since + l.config.pace.timeout ≤ nanos lastMoment ∧
      (l.refresh now).periodStart + l.config.pace.period ≤ nanos lastMoment ∧
      nanos now + (l.refresh now).budget.untilNext l.config.pace (nanos now) ≤
        nanos lastMoment := by
  obtain ⟨hstart, -⟩ := begun_refresh hbegun
  have htold (duration : Nat) (h : duration ≤ wordMax) :
      nanos now + nanos duration ≤ nanos lastMoment := by
    rw [← nanos_add]
    exact Nat.mul_le_mul_left _ ((Nat.add_le_add_left h now).trans hclock)
  have hnext : (l.refresh now).periodStart + nanos l.config.period ≤ nanos lastMoment :=
    (Nat.add_le_add_right hstart _).trans (htold _ hperiod)
  refine ⟨?_, hnext, ?_⟩
  · exact (Nat.add_le_add_right (Nat.mul_le_mul_left _ hsince) _).trans (htold _ htimeout)
  · rw [untilNext_eq hbegun, nextStart]
    refine max_le ?_ ((nanos_add now 1).trans_le (htold 1 (by decide)))
    split
    · exact (nanos_add now 1).trans_le (htold 1 (by decide))
    · exact hnext

private theorem told_of_ask {l' : RateLimiter} {answer : PermitAnswer}
    (h : l.ask since now = (l', answer)) (hbegun : l.periodStart ≤ nanos now) :
    l.Told since now answer ∧ l'.config = l.config ∧
      l'.periodStart = (l.refresh now).periodStart ∧ l'.waiting = l.waiting := by
  obtain ⟨-, hlt⟩ := begun_refresh hbegun
  have hwake := untilNext_eq hbegun
  have hasked := l.budget.asked_ask l.config.pace (nanos since) (nanos now)
  simp only [ask] at h
  generalize l.budget.ask l.config.pace (nanos since) (nanos now) = asked at h hasked
  obtain ⟨b', answer'⟩ := asked
  cases hasked with
  | granted hleft =>
    cases h
    exact ⟨.granted hleft, rfl, rfl, rfl⟩
  | rejected hnone hlate =>
    cases h
    change _ < nanos now + (l.refresh now).budget.untilNext l.config.pace (nanos now) at hlate
    rw [hwake, lt_max_iff] at hlate
    have htimeout : nanos since + l.config.pace.timeout = nanos (since + l.config.timeout) :=
      (nanos_add _ _).symm
    rw [htimeout] at hlate
    refine ⟨.rejected hnone ?_, rfl, rfl, rfl⟩
    obtain hlate | hnow := hlate
    · exact hlate
    · -- a timeout that is over within a millisecond is over now
      have hover : since + l.config.timeout ≤ now :=
        Nat.le_of_lt_succ (Nat.lt_of_mul_lt_mul_left hnow)
      exact (Nat.mul_le_mul_left _ hover).trans_lt hlt
  | sleep hnone hsoon =>
    cases h
    change nanos now + (l.refresh now).budget.untilNext l.config.pace (nanos now) ≤ _ at hsoon
    rw [hwake, max_le_iff] at hsoon
    change l.Told since now (.sleep (ceilMilli
      (nanos now + (l.refresh now).budget.untilNext l.config.pace (nanos now)))) ∧ _
    rw [hwake, ceilMilli_max_succ hlt]
    exact ⟨.sleep hnone ((nanos_add since l.config.timeout).symm ▸ hsoon.1), rfl, rfl, rfl⟩

/-! ### Falling asleep and waking up -/

/-- One look of a caller that may be asleep. Who is told to sleep is counted among the sleepers from
then on, and who is told anything else is not any more. -/
def poll (l : RateLimiter) (since now : Nat) (asleep : Bool) : RateLimiter × PermitAnswer :=
  match l.ask since now with
  | (l, .sleep wakeAt) => (if asleep then l else l.enterSleep, .sleep wakeAt)
  | (l, answer) => (if asleep then l.leaveSleep since now else l, answer)

/-- A caller that looks is told as it should be, the limiter moves to the running period, and there
is one sleeper more or less as the caller falls asleep or wakes up. -/
theorem told_of_poll {l' : RateLimiter} {answer : PermitAnswer} {asleep : Bool}
    (h : l.poll since now asleep = (l', answer)) (hbegun : l.periodStart ≤ nanos now)
    (hcounted : asleep.toNat ≤ l.waiting) :
    l.Told since now answer ∧ l'.config = l.config ∧
      l'.periodStart = (l.refresh now).periodStart ∧
      l'.waiting + asleep.toNat = l.waiting + answer.isSleep.toNat := by
  unfold poll at h
  split at h
  · next asked wakeAt hask =>
    cases h
    obtain ⟨htold, hconfig, hstart, hwaiting⟩ := told_of_ask hask hbegun
    cases asleep with
    | true => exact ⟨htold, hconfig, hstart, congrArg (· + 1) hwaiting⟩
    | false => exact ⟨htold, hconfig, hstart, congrArg (· + 1) hwaiting⟩
  · next asked answer' hnot hask =>
    cases h
    obtain ⟨htold, hconfig, hstart, hwaiting⟩ := told_of_ask hask hbegun
    have hawake : answer.isSleep = false := by
      cases answer with
      | granted | rejected => rfl
      | sleep wakeAt => exact (hnot wakeAt rfl).elim
    rw [hawake]
    cases asleep with
    | true =>
      refine ⟨htold, hconfig, hstart, ?_⟩
      change asked.waiting - 1 + 1 = l.waiting
      rw [hwaiting]
      exact Nat.sub_add_cancel hcounted
    | false => exact ⟨htold, hconfig, hstart, hwaiting⟩

/-- Trying to take a permit moves the limiter to the running period, and changes neither its
settings nor who sleeps. -/
theorem parts_tryTake (l : RateLimiter) (now : Nat) :
    (l.tryTake now).1.config = l.config ∧
      (l.tryTake now).1.periodStart = (l.refresh now).periodStart ∧
      (l.tryTake now).1.waiting = l.waiting := by
  refine ⟨rfl, ?_, rfl⟩
  change (l.budget.take l.config.pace (nanos now)).1.start =
    (l.budget.refresh l.config.pace (nanos now)).start
  simp only [Budget.take]
  split <;> rfl

end RateLimiter

/-- A call under a stack looks at the rate limiter as any caller does. -/
theorem Stack.throttle_eq_poll {ε α : Type} {s : Stack} {l : RateLimiter}
    (hl : s.rateLimiter? = some l) (c : Call ε α) (since now : Nat) (asleep : Bool) :
    s.throttle c since now asleep =
      match l.poll since now asleep with
      | (l, .granted) => ({ s with rateLimiter? := some l }, { c with phase := .preparing 1 })
      | (l, .rejected) => finish { s with rateLimiter? := some l } c (.error l.rejection)
      | (l, .sleep wakeAt) =>
        ({ s with rateLimiter? := some l }, { c with phase := .throttled since wakeAt }) := by
  simp only [throttle, hl, RateLimiter.poll]
  generalize l.ask since now = asked
  obtain ⟨l', answer⟩ := asked
  cases answer with
  | granted | sleep wakeAt => rfl
  | rejected => cases asleep <;> rfl

end GuardedDispatch
