import GuardedDispatch.Proofs.Bulkhead.Callers
import GuardedDispatch.Proofs.Stack.Coherence

/-!
# How long a call stays

Each layer bounds how long a call may wait at it: the bulkhead by its longest wait, the rate limiter
by its timeout, the time limiter by its deadline, and the retry policy by its attempts and the
pauses between them. Wherever a call stands there is a moment at which it can move on whatever the
other calls do. Under a clock that does not pass over such moments, no call stays longer than all
these bounds together.
-/

namespace GuardedDispatch

/-! ### What a call is allowed -/

/-- How long a call may wait for its slot and for its permit, how long each of its attempts may
take, and how it is tried again. -/
structure Allowance where
  slot : Nat
  permit : Nat
  attempt : Nat
  retries : RetryConfig
  deriving DecidableEq, Repr

namespace Allowance

/-- The pauses after the first attempts, of which there are so many. -/
def pauses (a : Allowance) (count : Nat) : Nat :=
  ((List.range' 1 count).map a.retries.backoff.delayAfter).sum

/-- How long after its arrival a call prepares an attempt at the latest. -/
def opens (a : Allowance) (number : Nat) : Nat :=
  a.slot + a.permit + (number - 1) * a.attempt + a.pauses (number - 1)

/-- How long a call may stay in all. -/
def stay (a : Allowance) : Nat :=
  a.slot + a.permit + a.retries.attempts * a.attempt + a.pauses (a.retries.attempts - 1)

variable {a : Allowance} {number : Nat}

private theorem pauses_succ (a : Allowance) (count : Nat) :
    a.pauses (count + 1) = a.pauses count + a.retries.backoff.delayAfter (count + 1) := by
  rw [pauses, List.range'_1_concat, List.map_append, List.sum_append, pauses, List.map_singleton,
    List.sum_singleton, Nat.add_comm 1 count]

private theorem opens_one (a : Allowance) : a.opens 1 = a.slot + a.permit := by
  simp [opens, pauses]

private theorem opens_succ (hpos : 1 ≤ number) :
    a.opens (number + 1) = a.opens number + a.attempt + a.retries.backoff.delayAfter number := by
  obtain ⟨past, rfl⟩ := Nat.exists_eq_add_of_le' hpos
  simp only [opens, Nat.add_sub_cancel, pauses_succ, Nat.succ_mul]
  omega

private theorem opens_mono {later : Nat} (hpos : 1 ≤ number) (hle : number ≤ later) :
    a.opens number ≤ a.opens later := by
  induction later, hle using Nat.le_induction with
  | base => exact Nat.le_refl _
  | succ later hle ih =>
    rw [opens_succ (hpos.trans hle)]
    omega

private theorem opens_add_attempt_le (hpos : 1 ≤ number) (hle : number ≤ a.retries.attempts) :
    a.opens number + a.attempt ≤ a.stay := by
  have hmono := opens_mono (a := a) hpos hle
  obtain ⟨past, hpast⟩ := Nat.exists_eq_add_of_le' (hpos.trans hle)
  have hlast : a.opens a.retries.attempts + a.attempt = a.stay := by
    simp only [opens, stay, hpast, Nat.add_sub_cancel, Nat.succ_mul]
    omega
  omega

end Allowance

private theorem RateLimiter.wakeAt_of_ask {l l' : RateLimiter} {since now wakeAt : Nat}
    (h : l.ask since now = (l', .sleep wakeAt)) :
    now ≤ wakeAt ∧ wakeAt ≤ since + l.config.timeout := by
  simp only [RateLimiter.ask, Budget.ask] at h
  split at h
  · cases h
  · cases h
  · next until_ hanswer =>
    cases h
    split at hanswer
    · cases hanswer
    · next taken =>
      split at hanswer
      · cases hanswer
      · next hlate =>
        cases hanswer
        simp only [RateLimiterConfig.pace, nanos, nanosPerMilli] at hlate ⊢
        simp only [ceilMilli, nanosPerMilli]
        omega

/-! ### Settings stay as they are -/

private theorem Retry.config_count (p : Retry) (attempt : Nat) (ok : Bool) :
    (p.count attempt ok).config = p.config := by
  unfold Retry.count
  split <;> rfl

private theorem TimeLimiter.config_count {ε α : Type} (l : TimeLimiter)
    (r : Except (PolicyFailure ε) α) : (l.count r).config = l.config := by
  unfold TimeLimiter.count
  split
  · split <;> rfl
  · rfl

private theorem RateLimiter.config_ask (l : RateLimiter) (since now : Nat) :
    (l.ask since now).1.config = l.config := by
  unfold RateLimiter.ask
  dsimp only
  split <;> rfl

namespace Stack

variable {σ ε α : Type} {op : Operation σ ε α} {eligible : PolicyFailure ε → Bool}
  {s s' : Stack} {env env' : σ} {c c' : Call ε α} {place : Phase ε α} {a : Allowance}
  {start due now since ticket holders : Nat} {tickets : List Nat}

/-- What the layers are configured with, the breaker apart. -/
def settings (s : Stack) : Option BulkheadConfig × Option RateLimiterConfig × Option RetryConfig ×
    Option TimeLimiterConfig :=
  (s.bulkhead?.map (·.config), s.rateLimiter?.map (·.config), s.retries?.map (·.config),
    s.timeLimiter?.map (·.config))

/-- Handing a slot back leaves the settings alone. -/
@[simp] theorem settings_freeSlot (s : Stack) : s.freeSlot.settings = s.settings := by
  simp only [settings, freeSlot, Option.map_map, Function.comp_def, Bulkhead.settings_freeSlot]

/-- Counting a call leaves the settings alone. -/
@[simp] theorem settings_noted (s : Stack) (number : Nat) (ok : Bool) :
    (s.noted number ok).settings = s.settings := by
  simp only [settings, noted, Option.map_map, Function.comp_def, Retry.config_count]

/-- Taking in a result leaves the settings alone. -/
@[simp] theorem settings_counted (s : Stack) (t : Attempt) (ok : Bool) (now : Nat)
    (r : Except (PolicyFailure ε) α) : (s.counted t ok now r).settings = s.settings := by
  simp only [settings, counted, Option.map_map, Function.comp_def, TimeLimiter.config_count]

/-- A step of a call leaves the settings alone. -/
theorem Moved.settings_eq (h : Moved op now s env c s' env' c') : s'.settings = s.settings := by
  have hrequest {b b' : Bulkhead} {answer : SlotAnswer} (hr : b.request now = (b', answer)) :
      b'.config = b.config := by
    have heq := (b.settings_request now).1
    rwa [hr] at heq
  have hask {l l' : RateLimiter} {since : Nat} {answer : PermitAnswer}
      (hr : l.ask since now = (l', answer)) : l'.config = l.config := by
    have heq := l.config_ask since now
    rwa [hr] at heq
  cases h with
  | unguarded hat hb | unlimited hat hl | resumed hat hdue => rfl
  | seated hat hb hr | turnedAway hat hb hr | queued hat hb hr =>
    simp only [settings, hb, Option.map_some, hrequest hr]
  | claimed hat hb hr | gaveUp hat hb hr =>
    simp only [settings, hb, Option.map_some, (Bulkhead.settings_of_claim? hr).1]
  | @granted since asleep l l' hat hl hr =>
    cases asleep <;> simp only [settings, hl, Option.map_some, ← hask hr] <;> rfl
  | @limited since asleep l l' hat hl hr =>
    rw [settings_freeSlot]
    cases asleep <;> simp only [settings, hl, Option.map_some, ← hask hr] <;> rfl
  | @slept since wakeAt asleep l l' hat hl hr =>
    cases asleep <;> simp only [settings, hl, Option.map_some, ← hask hr] <;> rfl
  | started hat hp =>
    cases hp with
    | unguarded hb | granted hb hr => rfl
  | refused hat hb hr =>
    rw [settings_freeSlot, settings_noted]
    rfl
  | ended hat hends hd =>
    cases hd with
    | done hok hrejected => rw [settings_freeSlot, settings_noted, settings_counted]
    | again hr hrejected => rw [settings_counted]

private theorem settings_drop (s : Stack) (c : Call ε α) (now : Nat) :
    (s.drop c now).settings = s.settings := by
  unfold drop
  split
  · rfl
  · rfl
  · simp only [settings, Option.map_map, Function.comp_def, Bulkhead.settings_abandon]
  · rw [settings_freeSlot]
    simp only [settings, mapLimiter, Option.map_map]
    rfl
  · split
    · rw [settings_freeSlot]
      rfl
    · exact s.settings_freeSlot
  · exact s.settings_freeSlot
  · exact s.settings_freeSlot
  · exact s.settings_freeSlot

/-- What the settings of a stack, and those that a call brings, allow that call. -/
structure Allows (s : Stack) (o : CallOptions) (a : Allowance) : Prop where
  slot_eq : s.bulkhead?.map (·.config.maxWait) = some a.slot
  permit_eq : s.rateLimiter?.map (·.config.timeout) = some a.permit
  attempt_eq : s.timeout? o = some a.attempt
  retries_eq : s.retryConfig? o = some a.retries

private theorem Allows.of_settings_eq {o : CallOptions} (h : s.Allows o a)
    (heq : s'.settings = s.settings) : s'.Allows o a := by
  simp only [settings, Prod.mk.injEq] at heq
  obtain ⟨hslot, hpermit, hretries, hattempt⟩ := heq
  refine ⟨?_, ?_, ?_, ?_⟩
  · have hwait := congrArg (Option.map BulkheadConfig.maxWait) hslot
    rw [Option.map_map, Option.map_map] at hwait
    exact hwait.trans h.slot_eq
  · have htimeout := congrArg (Option.map RateLimiterConfig.timeout) hpermit
    rw [Option.map_map, Option.map_map] at htimeout
    exact htimeout.trans h.permit_eq
  · have htimeout := congrArg (Option.map TimeLimiterConfig.timeout) hattempt
    rw [Option.map_map, Option.map_map] at htimeout
    exact (congrArg (o.timeout? <|> ·) htimeout).trans h.attempt_eq
  · exact (congrArg (o.retries? <|> ·) hretries).trans h.retries_eq

/-! ### When a waiting call gives up -/

/-- When the call with a ticket gives up. -/
def deadline? (s : Stack) (ticket : Nat) : Option Nat := s.bulkhead?.bind (·.deadline? ticket)

/-- Handing a slot back changes nobody's deadline. -/
@[simp] theorem deadline?_freeSlot (s : Stack) (ticket : Nat) :
    s.freeSlot.deadline? ticket = s.deadline? ticket := by
  cases hb : s.bulkhead? with
  | none => simp only [deadline?, freeSlot, hb, Option.map_none]
  | some b => simp only [deadline?, freeSlot, hb, Option.map_some, Option.bind_some,
      Bulkhead.deadline?_freeSlot]

private theorem Moved.deadline?_eq (hm : Moved op now s env c s' env' c')
    (h : s.deadline? ticket = some due) (hother : c.phase.ticket? ≠ some ticket) :
    s'.deadline? ticket = some due := by
  have hrequest {b b' : Bulkhead} {answer : SlotAnswer} (hb : s.bulkhead? = some b)
      (hr : b.request now = (b', answer)) : b'.deadline? ticket = some due := by
    rw [deadline?, hb] at h
    have hkept := Bulkhead.deadline?_request h now
    rwa [hr] at hkept
  have hclaim {b b' : Bulkhead} {mine : Nat} {admitted : Bool} (hat : c.phase = .queued mine)
      (hb : s.bulkhead? = some b) (hr : b.claim? mine now = some (b', admitted)) :
      b'.deadline? ticket = some due := by
    rw [deadline?, hb] at h
    rw [hat] at hother
    exact (Bulkhead.deadline?_of_claim? hr fun he ↦ hother (congrArg some he.symm)).trans h
  cases hm with
  | unguarded hat hb | unlimited hat hl | resumed hat hdue | granted hat hl hr
  | slept hat hl hr => exact h
  | seated hat hb hr | turnedAway hat hb hr | queued hat hb hr => exact hrequest hb hr
  | claimed hat hb hr | gaveUp hat hb hr => exact hclaim hat hb hr
  | limited hat hl hr | refused hat hb hr => exact (deadline?_freeSlot _ _).trans h
  | started hat hp =>
    cases hp with
    | unguarded hb | granted hb hr => exact h
  | ended hat hends hd =>
    cases hd with
    | done hok hrejected => exact (deadline?_freeSlot _ _).trans h
    | again hr hrejected => exact h

private theorem deadline?_drop (s : Stack) (c : Call ε α) (now : Nat)
    (hother : c.phase.ticket? ≠ some ticket) :
    (s.drop c now).deadline? ticket = s.deadline? ticket := by
  unfold drop
  split
  · rfl
  · rfl
  · next mine hat =>
    rw [hat] at hother
    cases hb : s.bulkhead? with
    | none => simp only [deadline?, hb, Option.map_none]
    | some b =>
      simp only [deadline?, hb, Option.map_some, Option.bind_some]
      exact b.deadline?_abandon fun he ↦ hother (congrArg some he.symm)
  · exact deadline?_freeSlot _ _
  · split
    · exact deadline?_freeSlot _ _
    · exact s.deadline?_freeSlot ticket
  · exact s.deadline?_freeSlot ticket
  · exact s.deadline?_freeSlot ticket
  · exact s.deadline?_freeSlot ticket

/-! ### Where a call stands in time -/

/-- A moment at which a call can move on that came at `start`, and what is known of this moment by
where the call stands. -/
def MovesBy (s : Stack) (a : Allowance) (start due : Nat) : Phase ε α → Prop
  | .arriving => due = start
  | .queued ticket => s.deadline? ticket = some due ∧ due ≤ start + a.slot
  | .admitted => due ≤ start + a.slot
  | .throttled since wakeAt => due = wakeAt ∧ since ≤ start + a.slot ∧ wakeAt ≤ since + a.permit
  | .preparing number =>
    1 ≤ number ∧ number ≤ a.retries.attempts ∧ due ≤ start + a.opens number
  | .attempting t => 1 ≤ t.number ∧ t.number ≤ a.retries.attempts ∧ t.deadline? = some due ∧
    due ≤ start + a.opens t.number + a.attempt
  | .pausing number wakeAt => 1 ≤ number ∧ number < a.retries.attempts ∧ due = wakeAt ∧
    due ≤ start + a.opens (number + 1)
  | .finished _ => True

private theorem MovesBy.due_le (h : s.MovesBy a start due place) (hat : place.result? = none) :
    due ≤ start + a.stay := by
  have hfirst := Allowance.opens_add_attempt_le (a := a) (Nat.le_refl 1) (Nat.le_max_left 1 _)
  rw [Allowance.opens_one] at hfirst
  cases place with
  | arriving =>
    cases h
    exact Nat.le_add_right _ _
  | queued ticket =>
    have hdue := h.2
    omega
  | admitted =>
    have hdue : due ≤ start + a.slot := h
    omega
  | throttled since wakeAt =>
    obtain ⟨rfl, hsince, hwake⟩ := h
    omega
  | preparing number =>
    obtain ⟨hpos, hle, hdue⟩ := h
    have hopens := Allowance.opens_add_attempt_le hpos hle
    omega
  | attempting t =>
    obtain ⟨hpos, hle, -, hdue⟩ := h
    have hopens := Allowance.opens_add_attempt_le hpos hle
    omega
  | pausing number wakeAt =>
    obtain ⟨hpos, hlt, -, hdue⟩ := h
    have hopens := Allowance.opens_add_attempt_le (a := a) (Nat.le_add_left 1 number) hlt
    omega
  | finished r => cases hat

private theorem MovesBy.step?_ne_none (h : s.MovesBy a start due c.phase)
    (hat : c.phase.result? = none) :
    s.step? op eligible due env c ≠ none := by
  intro hnone
  cases hplace : c.phase with
  | arriving =>
    simp only [step?, hplace] at hnone
    split at hnone
    · cases hnone
    · split at hnone <;> cases hnone
  | queued ticket =>
    rw [hplace] at h
    obtain ⟨b, hb, hdeadline⟩ := Option.bind_eq_some_iff.mp h.1
    obtain ⟨w, hw, hdue⟩ := Option.map_eq_some_iff.mp hdeadline
    simp only [step?, hplace, hb, Option.bind_eq_bind, Option.bind_some] at hnone
    cases hc : b.claim? ticket due with
    | none =>
      have hlt := (Bulkhead.claim?_eq_none hw hc).2.2
      exact absurd hdue (Nat.ne_of_gt hlt)
    | some answer =>
      obtain ⟨b', admitted⟩ := answer
      rw [hc] at hnone
      cases admitted <;> cases hnone
  | admitted | preparing number =>
    simp only [step?, hplace] at hnone
    cases hnone
  | throttled since wakeAt =>
    rw [hplace] at h
    obtain ⟨rfl, -⟩ := h
    simp only [step?, hplace, Nat.lt_irrefl, if_false] at hnone
    cases hnone
  | attempting t =>
    rw [hplace] at h
    have hdue : reached due t.deadline? = true := by
      rw [h.2.2.1]
      exact decide_eq_true (Nat.le_refl due)
    simp only [step?, hplace, hdue, if_true] at hnone
    split at hnone <;> cases hnone
  | pausing number wakeAt =>
    rw [hplace] at h
    obtain ⟨-, -, rfl, -⟩ := h
    simp only [step?, hplace, Nat.lt_irrefl, if_false] at hnone
    cases hnone
  | finished r =>
    rw [hplace] at hat
    cases hat

/-- A step of a call leaves its options alone. -/
theorem Moved.options_eq (h : Moved op now s env c s' env' c') : c'.options = c.options := by
  cases h with
  | unguarded hat hb | seated hat hb hr | turnedAway hat hb hr | queued hat hb hr
  | claimed hat hb hr | gaveUp hat hb hr | unlimited hat hl | granted hat hl hr | limited hat hl hr
  | slept hat hl hr | started hat hp | refused hat hb hr | resumed hat hdue => rfl
  | ended hat hends hd =>
    cases hd with
    | done hok hrejected | again hr hrejected => rfl

/-- An attempt that starts runs as long as its operation takes, and under the deadline in effect. -/
theorem limits_of_started {number : Nat} {t : Attempt} (hat : c.phase = .preparing number)
    (h : s.step? op eligible now env c = some (s', env', c')) (hat' : c'.phase = .attempting t) :
    t.ends? = (op.start env number).2.latency?.map (now + ·) ∧
      t.deadline? = (s.timeout? c.options).map (now + ·) := by
  have hrefused {s : Stack} {c c' : Call ε α} {r : Except (PolicyFailure ε) α}
      (hd : (s.afterAttempt eligible c number now r).2 = c') : c'.phase ≠ .attempting t := by
    have hdecided := decided_afterAttempt eligible s c number now r
    rw [hd] at hdecided
    intro hphase
    generalize (s.afterAttempt eligible c number now r).1 = s' at hdecided
    cases hdecided with
    | done hok hrejected | again hr hrejected => cases hphase
  simp only [step?, hat, beginAttempt, Option.some.injEq] at h
  split at h
  · cases h
    cases hat'
    exact ⟨rfl, rfl⟩
  · split at h
    · cases h
      cases hat'
      exact ⟨rfl, rfl⟩
    · have hc := congrArg (·.2.2) h
      exact absurd hat' (hrefused hc)

private theorem pausing_of_afterAttempt {t number wakeAt : Nat} {r : Except (PolicyFailure ε) α}
    (hat : (s.afterAttempt eligible c t now r).2.phase = .pausing number wakeAt) :
    ∃ config, s.retryConfig? c.options = some config ∧ number = t ∧ t < config.attempts ∧
      wakeAt = now + config.backoff.delayAfter t := by
  unfold afterAttempt at hat
  split at hat
  · cases hat
  · next config hconfig =>
    cases r with
    | ok value => cases hat
    | error e =>
      simp only [Retry.judge] at hat
      by_cases hend : (e.isRejection || !eligible e) = true
      · rw [if_pos hend] at hat
        cases hat
      · by_cases hlast : config.attempts ≤ t
        · rw [if_neg hend, if_pos hlast] at hat
          cases hat
        · rw [if_neg hend, if_neg hlast] at hat
          cases hat
          exact ⟨config, hconfig, rfl, Nat.lt_of_not_le hlast, rfl⟩

private theorem pausing_of_endAttempt {t : Attempt} {number wakeAt : Nat}
    {r : Except (PolicyFailure ε) α}
    (hat : (s.endAttempt eligible c t now r).2.phase = .pausing number wakeAt) :
    ∃ config, s.retryConfig? c.options = some config ∧ number = t.number ∧
      t.number < config.attempts ∧ wakeAt = now + config.backoff.delayAfter t.number := by
  unfold endAttempt at hat
  dsimp only at hat
  split at hat
  · have hpause := pausing_of_afterAttempt hat
    exact hpause
  · have hpause := pausing_of_afterAttempt hat
    exact hpause

private theorem pausing_of_ended {t : Attempt} {number wakeAt : Nat} (hat : c.phase = .attempting t)
    (h : s.step? op eligible now env c = some (s', env', c'))
    (hat' : c'.phase = .pausing number wakeAt) :
    ∃ config, s.retryConfig? c.options = some config ∧ number = t.number ∧
      t.number < config.attempts ∧ wakeAt = now + config.backoff.delayAfter t.number := by
  simp only [step?, hat] at h
  split at h
  · cases h
    exact pausing_of_endAttempt hat'
  · split at h
    · cases h
      exact pausing_of_endAttempt hat'
    · cases h

private theorem MovesBy.since_le {asleep : Bool} (h : s.MovesBy a start due place)
    (hnow : now ≤ due)
    (hat : Asking now place since asleep) : since ≤ start + a.slot ∧ now ≤ since + a.permit := by
  cases hat with
  | fresh => exact ⟨hnow.trans h, Nat.le_add_right _ _⟩
  | again hdue =>
    obtain ⟨rfl, hsince, hwake⟩ := h
    exact ⟨hsince, hnow.trans hwake⟩

/-- A step taken in time leads to a place that can be left in time. -/
theorem MovesBy.moved (h : s.MovesBy a start due c.phase) (hnow : now ≤ due)
    (hallows : s.Allows c.options a) (hseated : s.Seated holders tickets)
    (hstep : s.step? op eligible now env c = some (s', env', c')) :
    ∃ due', now ≤ due' ∧ s'.MovesBy a start due' c'.phase := by
  have hm := moved_of_step? hstep
  cases hm with
  | unguarded hat hb =>
    have hslot := hallows.slot_eq
    rw [hb] at hslot
    cases hslot
  | seated hat hb hr =>
    rw [hat] at h
    cases h
    exact ⟨now, Nat.le_refl _, hnow.trans (Nat.le_add_right _ _)⟩
  | turnedAway hat hb hr | gaveUp hat hb hr | limited hat hl hr | refused hat hb hr =>
    exact ⟨now, Nat.le_refl _, trivial⟩
  | @queued ticket b b' hat hb hr =>
    rw [hat] at h
    cases h
    have hslot : b.config.maxWait = a.slot := by
      have heq := hallows.slot_eq
      rw [hb] at heq
      exact Option.some.inj heq
    have hdeadline := (hseated b hb).deadline?_of_request hr
    rw [hslot] at hdeadline
    exact ⟨now + a.slot, Nat.le_add_right _ _, hdeadline, Nat.add_le_add_right hnow _⟩
  | claimed hat hb hr =>
    rw [hat] at h
    exact ⟨now, Nat.le_refl _, hnow.trans h.2⟩
  | unlimited hat hl =>
    have hpermit := hallows.permit_eq
    rw [hl] at hpermit
    cases hpermit
  | granted hat hl hr =>
    obtain ⟨hsince, hasked⟩ := h.since_le hnow hat
    refine ⟨now, Nat.le_refl _, Nat.le_refl 1, Nat.le_max_left 1 _, ?_⟩
    rw [Allowance.opens_one]
    omega
  | @slept since wakeAt asleep l l' hat hl hr =>
    obtain ⟨hsince, -⟩ := h.since_le hnow hat
    obtain ⟨hafter, hwithin⟩ := RateLimiter.wakeAt_of_ask hr
    have hpermit : l.config.timeout = a.permit := by
      have heq := hallows.permit_eq
      rw [hl] at heq
      exact Option.some.inj heq
    rw [hpermit] at hwithin
    exact ⟨wakeAt, hafter, rfl, hsince, hwithin⟩
  | @started number s' permit? ends? deadline? hat hp =>
    have hdeadline := (limits_of_started hat hstep rfl).2
    rw [hallows.attempt_eq] at hdeadline
    rw [hat] at h
    obtain ⟨hpos, hle, hdue⟩ := h
    refine ⟨now + a.attempt, Nat.le_add_right _ _, hpos, hle, hdeadline, ?_⟩
    change now + a.attempt ≤ start + a.opens number + a.attempt
    omega
  | @ended t r s' env' c' hat hends hd =>
    rw [hat] at h
    obtain ⟨hpos, hle, -, hdue⟩ := h
    cases hd with
    | done hok hrejected => exact ⟨now, Nat.le_refl _, trivial⟩
    | @again wakeAt e hr hrejected =>
      obtain ⟨config, hconfig, -, hmore, hwait⟩ := pausing_of_ended hat hstep rfl
      cases hallows.retries_eq.symm.trans hconfig
      refine ⟨wakeAt, hwait ▸ Nat.le_add_right _ _, hpos, hmore, rfl, ?_⟩
      rw [Allowance.opens_succ hpos]
      omega
  | @resumed number wakeAt hat hdue =>
    rw [hat] at h
    obtain ⟨hpos, hlt, rfl, hdue'⟩ := h
    exact ⟨now, Nat.le_refl _, Nat.le_add_left 1 number, hlt, hnow.trans hdue'⟩

private theorem MovesBy.of_deadline? (h : s.MovesBy a start due place)
    (hkept : ∀ ticket, place.ticket? = some ticket → s.deadline? ticket = some due →
      s'.deadline? ticket = some due) : s'.MovesBy a start due place := by
  cases place with
  | queued ticket => exact ⟨hkept ticket rfl h.1, h.2⟩
  | arriving | admitted | throttled since wakeAt | preparing number | attempting t
  | pausing number wakeAt | finished r => exact h

private theorem deadline?_close (s : Stack) (ticket : Nat) :
    s.close.deadline? ticket = s.deadline? ticket := by
  cases hb : s.bulkhead? with
  | none => simp only [deadline?, close, hb, Option.map_none]
  | some b => simp only [deadline?, close, hb, Option.map_some, Option.bind_some]; rfl

end Stack

namespace Crowd

variable {σ ε α : Type}

/-! ### Time passes while nobody can move -/

/-- Whether the call with a number can take a step at a moment. -/
def canMove (t : Crowd σ ε α) (moment i : Nat) : Bool :=
  (t.visit? i).any fun v ↦
    (t.stack.step? (v.op.noted i) v.eligible moment (t.env, t.log) v.call).isSome

/-- At a moment no call can take a step. -/
def Still (t : Crowd σ ε α) (moment : Nat) : Prop :=
  ∀ i < t.visits.length, t.canMove moment i = false

/-- A run in which time passes over no moment at which a call can take a step. -/
def Punctual : Crowd σ ε α → List (CrowdEvent σ ε α) → Prop
  | _, [] => True
  | t, e :: rest =>
    (∀ moment, t.now ≤ moment → moment < (t.apply e).now → t.Still moment) ∧
      Punctual (t.apply e) rest

/-- Whether a crowd is still can be found out. -/
instance (t : Crowd σ ε α) (moment : Nat) : Decidable (t.Still moment) :=
  inferInstanceAs (Decidable (∀ i < t.visits.length, t.canMove moment i = false))

/-- Whether a run is punctual can be found out. -/
instance decidablePunctual : (t : Crowd σ ε α) → (events : List (CrowdEvent σ ε α)) →
    Decidable (t.Punctual events)
  | _, [] => .isTrue trivial
  | t, e :: rest =>
    have := decidablePunctual (t.apply e) rest
    inferInstanceAs (Decidable (_ ∧ _))

variable {t : Crowd σ ε α} {i j : Nat} {v w : Visit σ ε α} {o : CallOptions} {a : Allowance}
  {start : Nat}

/-! ### A call stays within its allowance -/

/-- The settings of a stack stay as they are, those of its breaker apart. -/
theorem settings_apply (t : Crowd σ ε α) (e : CrowdEvent σ ε α) :
    (t.apply e).stack.settings = t.stack.settings := by
  cases e with
  | move i =>
    obtain he | ⟨v, s', env', log', c', hv, hstep, he⟩ := t.apply_move i
    · rw [he]
    · rw [he]
      exact (Stack.moved_of_step? hstep).settings_eq
  | drop i =>
    simp only [apply]
    split
    · next v hv => exact t.stack.settings_drop v.call t.now
    · rfl
  | close =>
    simp only [apply, Stack.settings, Stack.close, Option.map_map]
    rfl
  | observe =>
    simp only [apply, Stack.settings, Stack.observe, Option.map_map]
    rfl
  | arrive options op eligible | trip | reset | reconfigure config | shift env
  | wait duration => rfl

private theorem Coherent.ticket_ne (h : t.Coherent) {b : Bulkhead} (hb : t.stack.bulkhead? = some b)
    (hv : t.visit? i = some v) (hw : t.visit? j = some w) (hne : j ≠ i) {ticket : Nat}
    (hat : v.call.phase.ticket? = some ticket) : w.call.phase.ticket? ≠ some ticket := by
  intro hsame
  have hseats := (h.balanced.perm (places_perm hv)).seated b hb
  rw [List.filterMap_cons_some hat] at hseats
  obtain ⟨hw, hgone⟩ := visit?_eq_some.mp hw
  have hrest : w ∈ t.visits.eraseIdx i := List.mem_eraseIdx_iff_getElem?.mpr ⟨j, hne, hw⟩
  exact (List.nodup_cons.mp hseats.nodup).1 (List.mem_filterMap.mpr
    ⟨_, List.mem_filterMap.mpr ⟨w, hrest, Visit.place?_of_present hgone⟩, hsame⟩)

/-- A call that came at `start` with some options stands where it is allowed to stand now, unless
it was taken away. -/
structure Stays (t : Crowd σ ε α) (i : Nat) (o : CallOptions) (a : Allowance) (start : Nat) :
    Prop where
  came : i < t.visits.length
  allows : t.stack.Allows o a
  inTime : ∀ v, t.visit? i = some v →
    v.call.options = o ∧ ∃ due, t.now ≤ due ∧ t.stack.MovesBy a start due v.call.phase

private theorem stays_arrive (hallows : t.stack.Allows o a) (op : Operation σ ε α)
    (eligible : PolicyFailure ε → Bool) :
    (t.apply (.arrive o op eligible)).Stays t.visits.length o a t.now where
  came := by
    rw [apply, List.length_append]
    exact Nat.lt_succ_self _
  allows := hallows
  inTime v hv := by
    obtain ⟨hv, -⟩ := visit?_eq_some.mp hv
    rw [apply, List.getElem?_concat_length] at hv
    cases hv
    exact ⟨rfl, t.now, Nat.le_refl _, rfl⟩

private theorem Stays.withStack (h : t.Stays i o a start) {s : Stack} (hallows : s.Allows o a)
    (hkept : ∀ ticket due, t.stack.deadline? ticket = some due → s.deadline? ticket = some due) :
    Stays { t with stack := s } i o a start where
  came := h.came
  allows := hallows
  inTime v hv := by
    obtain ⟨hoptions, due, hnow, hmoves⟩ := h.inTime v hv
    exact ⟨hoptions, due, hnow, hmoves.of_deadline? fun ticket _ hd ↦ hkept ticket due hd⟩

private theorem Stays.other (h : t.Stays i o a start) (hc : t.Coherent) {w' : Visit σ ε α}
    {s : Stack}
    {env : σ} {log : OperationLog} (hw : t.visit? j = some w) (hne : j ≠ i)
    (hallows : s.Allows o a)
    (hkept : ∀ ticket due, w.call.phase.ticket? ≠ some ticket →
      t.stack.deadline? ticket = some due → s.deadline? ticket = some due) :
    Stays { t with stack := s, env, log, visits := t.visits.set j w' } i o a start where
  came := by
    rw [List.length_set]
    exact h.came
  allows := hallows
  inTime v hv := by
    have hv : t.visit? i = some v := by
      rwa [visit?, List.getElem?_set_ne hne] at hv
    obtain ⟨hoptions, due, hnow, hmoves⟩ := h.inTime v hv
    refine ⟨hoptions, due, hnow, hmoves.of_deadline? fun ticket hat hd ↦ ?_⟩
    obtain ⟨b, hb, -⟩ := Option.bind_eq_some_iff.mp hd
    exact hkept ticket due (hc.ticket_ne hb hv hw hne hat) hd

private theorem Stays.move (h : t.Stays i o a start) (hc : t.Coherent) (j : Nat) :
    (t.apply (.move j)).Stays i o a start := by
  have hallows := h.allows.of_settings_eq (t.settings_apply (.move j))
  obtain he | ⟨w, s', env', log', c', hw, hstep, he⟩ := t.apply_move j
  · rw [he]
    exact h
  rw [he] at hallows ⊢
  by_cases hne : j = i
  · subst hne
    obtain ⟨hat, hgone⟩ := visit?_eq_some.mp hw
    refine ⟨by rw [List.length_set]; exact h.came, hallows, fun v hv ↦ ?_⟩
    obtain ⟨hv, -⟩ := visit?_eq_some.mp hv
    rw [getElem?_set_of_some hat] at hv
    cases hv
    obtain ⟨hoptions, due, hnow, hmoves⟩ := h.inTime w hw
    have hseated := (hc.balanced.perm (places_perm hw)).seated
    exact ⟨(Stack.moved_of_step? hstep).options_eq.trans hoptions,
      hmoves.moved hnow (hoptions ▸ h.allows) hseated hstep⟩
  · exact h.other hc hw hne hallows fun ticket due hother hd ↦
      (Stack.moved_of_step? hstep).deadline?_eq hd hother

private theorem Stays.drop (h : t.Stays i o a start) (hc : t.Coherent) (j : Nat) :
    (t.apply (.drop j)).Stays i o a start := by
  have hallows := h.allows.of_settings_eq (t.settings_apply (.drop j))
  simp only [apply] at hallows ⊢
  split
  · next w hw =>
    rw [hw] at hallows
    by_cases hne : j = i
    · subst hne
      obtain ⟨hat, -⟩ := visit?_eq_some.mp hw
      refine ⟨by rw [List.length_set]; exact h.came, hallows, fun v hv ↦ ?_⟩
      obtain ⟨hv, hgone⟩ := visit?_eq_some.mp hv
      rw [getElem?_set_of_some hat] at hv
      cases hv
      cases hgone
    · exact h.other hc hw hne hallows fun ticket due hother hd ↦
        (t.stack.deadline?_drop w.call t.now hother).trans hd
  · exact h

private theorem Stays.wait (h : t.Stays i o a start) {duration : Nat}
    (hstill : ∀ moment, t.now ≤ moment → moment < t.now + duration → t.Still moment) :
    (t.apply (.wait duration)).Stays i o a start where
  came := h.came
  allows := h.allows
  inTime v hv := by
    have hv : t.visit? i = some v := hv
    obtain ⟨hoptions, due, hnow, hmoves⟩ := h.inTime v hv
    refine ⟨hoptions, ?_⟩
    cases hresult : v.call.phase.result? with
    | some r =>
      have hfinished : v.call.phase = .finished r := by
        unfold Phase.result? at hresult
        split at hresult
        · next hat =>
          cases hresult
          exact hat
        · cases hresult
      rw [hfinished]
      exact ⟨t.now + duration, Nat.le_refl _, trivial⟩
    | none =>
      refine ⟨due, Nat.le_of_not_lt fun hlt ↦ ?_, hmoves⟩
      have hcannot := hstill due hnow hlt i h.came
      rw [canMove, hv, Option.any_some, Option.isSome_eq_false_iff, Option.isNone_iff_eq_none]
        at hcannot
      exact hmoves.step?_ne_none hresult hcannot

/-- Every event keeps a call within its allowance, if time does not pass over a moment at which
some call can move on. -/
theorem Stays.apply (h : t.Stays i o a start) (hc : t.Coherent) (e : CrowdEvent σ ε α)
    (hstill : ∀ moment, t.now ≤ moment → moment < (t.apply e).now → t.Still moment) :
    (t.apply e).Stays i o a start := by
  have hallows := h.allows.of_settings_eq (t.settings_apply e)
  cases e with
  | arrive options op eligible =>
    refine ⟨?_, h.allows, fun v hv ↦ h.inTime v ?_⟩
    · rw [Crowd.apply, List.length_append]
      exact Nat.lt_add_right _ h.came
    · rwa [Crowd.apply, visit?, List.getElem?_append_left h.came] at hv
  | move j => exact h.move hc j
  | drop j => exact h.drop hc j
  | close => exact h.withStack hallows fun ticket due hd ↦ (t.stack.deadline?_close ticket).trans hd
  | trip | reset | reconfigure config | observe => exact h.withStack hallows fun _ _ hd ↦ hd
  | shift env => exact ⟨h.came, h.allows, h.inTime⟩
  | wait duration => exact h.wait hstill

/-- A punctual run keeps a call within its allowance. -/
theorem Stays.run (h : t.Stays i o a start) (hc : t.Coherent) {events : List (CrowdEvent σ ε α)}
    (hpunctual : t.Punctual events) : (t.run events).Stays i o a start := by
  induction events generalizing t with
  | nil => exact h
  | cons e rest ih => exact ih (h.apply hc e hpunctual.1) (hc.apply e) hpunctual.2

/-- A new stack with all these layers allows what they are configured with. -/
theorem allows_run (name : String) (bulkhead : BulkheadConfig) (limiter : RateLimiterConfig)
    (retries : RetryConfig) (breaker? : Option BreakerConfig) (timer : TimeLimiterConfig) (env : σ)
    (start : Nat) (events : List (CrowdEvent σ ε α)) (o : CallOptions) :
    ((new name ⟨some bulkhead, some limiter, some retries, breaker?, some timer⟩ env start).run
      events).stack.Allows o
        { slot := bulkhead.maxWait
          permit := limiter.timeout
          attempt := o.timeout?.getD timer.timeout
          retries := o.retries?.getD retries } := by
  refine run_keeps (I := fun t ↦ t.stack.Allows o _)
    (fun t e h ↦ h.of_settings_eq (t.settings_apply e)) ⟨rfl, rfl, ?_, ?_⟩ events
  · cases h : o.timeout? <;> simp [new, Stack.timeout?, Stack.new, h]
  · cases h : o.retries? <;> simp [new, Stack.retryConfig?, Stack.new, h]

/-- No call overstays. Under a stack with a bulkhead, a rate limiter, retries and a time limiter,
with a breaker or without, and a clock that passes over no moment at which a call can take a step,
a call that is not finished has been there no longer than the longest wait for a slot, the timeout
of the rate limiter, the deadline of each of its attempts and the pauses between them come to,
whatever the other calls do and whether its operation ever ends or not. -/
theorem stay_bounded (name : String) (bulkhead : BulkheadConfig) (limiter : RateLimiterConfig)
    (retries : RetryConfig) (breaker? : Option BreakerConfig) (timer : TimeLimiterConfig) (env : σ)
    (start : Nat) (earlier later : List (CrowdEvent σ ε α)) (options : CallOptions)
    (op : Operation σ ε α) (eligible : PolicyFailure ε → Bool)
    (hpunctual :
      (((new name ⟨some bulkhead, some limiter, some retries, breaker?, some timer⟩ env start).run
        earlier).apply (.arrive options op eligible)).Punctual later) :
    let before :=
      (new name ⟨some bulkhead, some limiter, some retries, breaker?, some timer⟩ env start).run
        earlier
    let after := (before.apply (.arrive options op eligible)).run later
    let effective := options.retries?.getD retries
    let deadline := options.timeout?.getD timer.timeout
    ∀ v, after.visit? before.visits.length = some v → v.call.phase.result? = none →
      after.now ≤ before.now + bulkhead.maxWait + limiter.timeout +
        effective.attempts * deadline +
        ((List.range' 1 (effective.attempts - 1)).map effective.backoff.delayAfter).sum := by
  intro before after effective deadline v hv hat
  have hallows := allows_run name bulkhead limiter retries breaker? timer env start earlier options
  have hcoherent := coherent_run name
    ⟨some bulkhead, some limiter, some retries, breaker?, some timer⟩ env start earlier
  have hstays := (stays_arrive hallows op eligible).run (hcoherent.apply _) hpunctual
  obtain ⟨-, due, hnow, hmoves⟩ := hstays.inTime v hv
  have hdue := hmoves.due_le hat
  simp only [Allowance.stay, Allowance.pauses, ← Nat.add_assoc] at hdue
  exact hnow.trans hdue

/-- An operation that never ends. -/
def endless : Operation Unit Unit Unit where
  start env _ := (env, { latency? := none })
  finish env _ := (env, .ok ())

/-- A call whose operation never ends is tried twice, and is over after both deadlines and the pause
between them: until then it stays as long as it may. -/
theorem stay_bounded_of_endless :
    let config : StackConfig := ⟨some { maxWait := 0 }, some { timeout := 0 },
      some ⟨2, .fixed 3⟩, none, some { timeout := 10 }⟩
    let crowd : Crowd Unit Unit Unit := (new "endless" config () 0).apply
      (.arrive {} endless fun _ ↦ true)
    let later : List (CrowdEvent Unit Unit Unit) := [.move 0, .move 0, .move 0, .wait 10, .move 0,
      .wait 3, .move 0, .move 0, .wait 10]
    crowd.Punctual later ∧ (crowd.run later).now = 23 ∧
      ((crowd.run later).visit? 0).any (·.call.phase.result?.isNone) = true ∧
      (∀ v, (crowd.run later).visit? 0 = some v → v.call.phase.result? = none →
        (crowd.run later).now ≤ 23) ∧
      (((crowd.run later).apply (.move 0)).visit? 0).any (·.call.phase.result?.isSome) = true := by
  intro config crowd later
  have hpunctual : crowd.Punctual later := by decide +kernel
  refine ⟨hpunctual, by decide +kernel, by decide +kernel, ?_, by decide +kernel⟩
  have hbound := stay_bounded "endless" { maxWait := 0 } { timeout := 0 } ⟨2, .fixed 3⟩ none
    { timeout := 10 } () 0 [] later {} endless (fun _ ↦ true) hpunctual
  intro v hv hat
  have hnow := hbound v hv hat
  refine hnow.trans ?_
  decide +kernel

end Crowd

end GuardedDispatch
