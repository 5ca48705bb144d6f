import GuardedDispatch.Proofs.Lists
import GuardedDispatch.Proofs.RateLimiter.Asking
import Mathlib.Data.List.Induction

/-!
# Callers at a rate limiter, in any order

A turnstile is a rate limiter with everyone who asked it for a permit, and a clock. What can happen
next is an event, and an event that cannot happen leaves the turnstile as it is, so a list of events
is an interleaving and every interleaving is one.

A caller sleeps until the next period starts and never beyond its timeout. Each time it is woken a
period later at least, so its timeout bounds how often it sleeps, whoever else takes the permits.
-/

namespace GuardedDispatch

/-- Where a caller stands that asked for a permit. Of one asleep it is known when it began to ask,
when it wakes and how often it fell asleep. -/
inductive PermitPlace where
  | asleep (since wakeAt sleeps : Nat)
  | granted
  | rejected
  | left
  deriving DecidableEq, Repr

/-- Whether a caller sleeps. -/
def PermitPlace.isAsleep : PermitPlace → Bool
  | .asleep .. => true
  | _ => false

/-- The place of a caller that was just answered and fell asleep so often before. -/
def PermitAnswer.place (since sleeps : Nat) : PermitAnswer → PermitPlace
  | .granted => .granted
  | .rejected => .rejected
  | .sleep wakeAt => .asleep since wakeAt (sleeps + 1)

private theorem PermitAnswer.isAsleep_place (since sleeps : Nat) (answer : PermitAnswer) :
    (answer.place since sleeps).isAsleep = answer.isSleep := by
  cases answer <;> rfl

/-- One thing that happens at a rate limiter: somebody asks for a permit, a caller asleep looks
again once its sleep is over or leaves, somebody tries to take a permit without waiting or looks at
the statistics, or time passes. -/
inductive TurnstileEvent where
  | arrive
  | wake (i : Nat)
  | leave (i : Nat)
  | tryTake
  | observe
  | wait (duration : Nat)
  deriving DecidableEq, Repr

/-- A rate limiter with its callers, who are known by number. -/
structure Turnstile where
  limiter : RateLimiter
  now : Nat
  callers : List PermitPlace := []

namespace Turnstile

/-- A new rate limiter, to which nobody came yet. -/
def new (name : String) (config : RateLimiterConfig) (start : Nat) : Turnstile where
  limiter := .new name config start
  now := start

/-- Lets an event happen. -/
def apply (t : Turnstile) : TurnstileEvent → Turnstile
  | .arrive =>
    let (limiter, answer) := t.limiter.poll t.now t.now false
    { t with limiter, callers := t.callers ++ [answer.place t.now 0] }
  | .wake i =>
    match t.callers[i]? with
    | some (.asleep since wakeAt sleeps) =>
      if wakeAt ≤ t.now then
        let (limiter, answer) := t.limiter.poll since t.now true
        { t with limiter, callers := t.callers.set i (answer.place since sleeps) }
      else t
    | _ => t
  | .leave i =>
    match t.callers[i]? with
    | some (.asleep since _ _) =>
      { t with limiter := t.limiter.leaveSleep since t.now, callers := t.callers.set i .left }
    | _ => t
  | .tryTake => { t with limiter := (t.limiter.tryTake t.now).1 }
  | .observe => { t with limiter := (t.limiter.observe t.now).1 }
  | .wait duration => { t with now := t.now + duration }

/-- Lets one event happen after another. -/
def run (t : Turnstile) (events : List TurnstileEvent) : Turnstile := events.foldl apply t

end Turnstile

/-! ### Sleeping -/

/-- What holds of a caller asleep: it wakes within its timeout and, at the earliest, as many periods
after it began to ask as it fell asleep before, and it wakes as the running period ends or has
missed the end of an earlier one. -/
structure RateLimiter.Dozing (l : RateLimiter) (since wakeAt sleeps : Nat) : Prop where
  within : wakeAt ≤ since + l.config.timeout
  counted : 1 ≤ sleeps ∧ since + 1 + (sleeps - 1) * max 1 l.config.period ≤ wakeAt
  aimed : l.config.period ≠ 0 → wakeAt = ceilMilli (l.periodStart + nanos l.config.period) ∨
    wakeAt ≤ ceilMilli l.periodStart

namespace RateLimiter

variable {l l' : RateLimiter} {since now wakeAt sleeps : Nat}

private theorem Dozing.refresh (h : l.Dozing since wakeAt sleeps)
    (hbegun : l.periodStart ≤ nanos now)
    (hconfig : l'.config = l.config) (hstart : l'.periodStart = (l.refresh now).periodStart) :
    l'.Dozing since wakeAt sleeps := by
  refine ⟨hconfig ▸ h.within, hconfig ▸ h.counted, ?_⟩
  rw [hconfig, hstart]
  intro hperiod
  obtain ⟨-, hsame | hmoved, -⟩ := l.budget.start_refresh l.config.pace hbegun
  · have hkept : (l.refresh now).periodStart = l.periodStart := hsame
    rw [hkept]
    exact h.aimed hperiod
  · have hlater : l.periodStart + nanos l.config.period ≤ (l.refresh now).periodStart := hmoved
    refine .inr ?_
    obtain rfl | hmissed := h.aimed hperiod
    · exact ceilMilli_mono hlater
    · exact hmissed.trans (ceilMilli_mono ((Nat.le_add_right _ _).trans hlater))

private theorem Told.dozing_first (h : l.Told now now (.sleep wakeAt))
    (hbegun : l.periodStart ≤ nanos now)
    (hconfig : l'.config = l.config) (hstart : l'.periodStart = (l.refresh now).periodStart) :
    l'.Dozing now wakeAt 1 := by
  obtain ⟨-, hnext⟩ := begun_refresh hbegun
  cases h with
  | sleep hnone hsoon =>
    refine ⟨hconfig ▸ ceilMilli_le_iff.mpr hsoon, ⟨Nat.le_refl 1, ?_⟩, ?_⟩
    · rw [Nat.sub_self, Nat.zero_mul]
      exact lt_ceilMilli_iff.mpr hnext
    · rw [hconfig, hstart]
      intro hperiod
      rw [nextStart, if_neg hperiod]
      exact .inl rfl

private theorem Told.dozing_again {wakeAt' : Nat} (h : l.Told since now (.sleep wakeAt'))
    (hbegun : l.periodStart ≤ nanos now) (hdoze : l.Dozing since wakeAt sleeps)
    (hdue : wakeAt ≤ now) (hconfig : l'.config = l.config)
    (hstart : l'.periodStart = (l.refresh now).periodStart) :
    l'.Dozing since wakeAt' (sleeps + 1) := by
  obtain ⟨-, hnext⟩ := begun_refresh hbegun
  have haimed := (hdoze.refresh hbegun hconfig hstart).aimed
  rw [hconfig, hstart] at haimed
  obtain ⟨hpos, hcounted⟩ := hdoze.counted
  cases h with
  | sleep hnone hsoon =>
    have hlater : wakeAt + max 1 l.config.period ≤ ceilMilli (l.nextStart now) := by
      by_cases hperiod : l.config.period = 0
      · rw [nextStart, if_pos hperiod, ceilMilli_nanos, hperiod]
        omega
      · rw [nextStart, if_neg hperiod] at hnext ⊢
        rw [ceilMilli_add_nanos, Nat.max_eq_right (Nat.pos_of_ne_zero hperiod)]
        refine Nat.add_le_add_right ?_ _
        obtain hends | hmissed := haimed hperiod
        · -- who wakes as the running period ends is not due before that
          have hafter := lt_ceilMilli_iff.mpr hnext
          omega
        · exact hmissed
    refine ⟨hconfig ▸ ceilMilli_le_iff.mpr hsoon, ⟨Nat.le_add_left 1 sleeps, ?_⟩, ?_⟩
    · rw [hconfig, Nat.add_sub_cancel]
      have hmore : sleeps * max 1 l.config.period =
          (sleeps - 1) * max 1 l.config.period + max 1 l.config.period := by
        rw [← Nat.succ_mul, Nat.succ_eq_add_one, Nat.sub_add_cancel hpos]
      omega
    · rw [hconfig, hstart]
      intro hperiod
      rw [nextStart, if_neg hperiod]
      exact .inl rfl

end RateLimiter

namespace Turnstile

variable {t : Turnstile} {config : RateLimiterConfig} {start i : Nat}

/-! ### What holds after every event -/

/-- The count within a period does not wrap: periods are short enough, or it is early enough. -/
def Fits (t : Turnstile) (config : RateLimiterConfig) (start : Nat) : Prop :=
  nanos config.period ≤ wordMax + 1 ∨ nanos t.now < nanos start + (wordMax + 1)

/-- What holds at every turnstile: the running period has begun, it is one of those that follow each
other from the first unless the count within a period wrapped, and whoever sleeps is counted and
dozes. -/
structure Orderly (t : Turnstile) (config : RateLimiterConfig) (start : Nat) : Prop where
  config_eq : t.limiter.config = config
  begun : t.limiter.periodStart ≤ nanos t.now
  regular : t.Fits config start →
    ∃ k, t.limiter.periodStart = nanos start + k * nanos config.period
  gauge : t.limiter.waiting = t.callers.countP PermitPlace.isAsleep
  dozing : ∀ since wakeAt sleeps, .asleep since wakeAt sleeps ∈ t.callers →
    t.limiter.Dozing since wakeAt sleeps

/-- A new turnstile is orderly. -/
theorem orderly_new (name : String) (config : RateLimiterConfig) (start : Nat) :
    (new name config start).Orderly config start where
  config_eq := rfl
  begun := Nat.le_refl _
  regular _ := ⟨0, by rw [Nat.zero_mul]; rfl⟩
  gauge := rfl
  dozing _ _ _ h := nomatch h

private theorem Orderly.regular_refresh (h : t.Orderly config start) (hfits : t.Fits config start) :
    ∃ k, (t.limiter.refresh t.now).periodStart = nanos start + k * nanos config.period := by
  obtain ⟨k, hgrid⟩ := h.regular hfits
  have hpace : nanos config.period = t.limiter.config.pace.period := by rw [h.config_eq]; rfl
  rw [Fits, hpace] at hfits
  rw [hpace] at hgrid ⊢
  exact Budget.start_refresh_of_fits (b := t.limiter.budget) hgrid h.begun hfits

private theorem Orderly.looked (h : t.Orderly config start) {l : RateLimiter}
    {callers : List PermitPlace}
    (hconfig : l.config = t.limiter.config)
    (hstart : l.periodStart = (t.limiter.refresh t.now).periodStart)
    (hgauge : l.waiting = callers.countP PermitPlace.isAsleep)
    (hdozing : ∀ since wakeAt sleeps, .asleep since wakeAt sleeps ∈ callers →
      .asleep since wakeAt sleeps ∈ t.callers ∨ l.Dozing since wakeAt sleeps) :
    Orderly { t with limiter := l, callers } config start where
  config_eq := hconfig.trans h.config_eq
  begun := hstart ▸ (RateLimiter.begun_refresh h.begun).1
  regular hfits := by
    obtain ⟨k, hgrid⟩ := h.regular_refresh hfits
    exact ⟨k, hstart.trans hgrid⟩
  gauge := hgauge
  dozing since wakeAt sleeps hmem := by
    obtain hbefore | hdoze := hdozing since wakeAt sleeps hmem
    · exact (h.dozing since wakeAt sleeps hbefore).refresh h.begun hconfig hstart
    · exact hdoze

private theorem Orderly.arrive (h : t.Orderly config start) :
    (t.apply .arrive).Orderly config start := by
  simp only [apply]
  generalize hpoll : t.limiter.poll t.now t.now false = polled
  obtain ⟨l, answer⟩ := polled
  obtain ⟨htold, hconfig, hstart, hgauge⟩ := RateLimiter.told_of_poll hpoll h.begun (Nat.zero_le _)
  refine h.looked hconfig hstart ?_ fun since wakeAt sleeps hmem ↦ ?_
  · rw [List.countP_append, ← h.gauge, countP_cons_toNat, PermitAnswer.isAsleep_place,
      List.countP_nil, Nat.zero_add]
    exact hgauge
  · obtain hmem | hmem := List.mem_append.mp hmem
    · exact .inl hmem
    · cases answer with
      | granted | rejected => cases List.mem_singleton.mp hmem
      | sleep until_ =>
        cases List.mem_singleton.mp hmem
        exact .inr (htold.dozing_first h.begun hconfig hstart)

private theorem Orderly.wake (h : t.Orderly config start) (i : Nat) :
    (t.apply (.wake i)).Orderly config start := by
  simp only [apply]
  split
  · next since wakeAt sleeps hplace =>
    split
    · next hdue =>
      have hperm := perm_cons_eraseIdx hplace
      have hbefore : t.limiter.waiting =
          (t.callers.eraseIdx i).countP PermitPlace.isAsleep + 1 := by
        rw [h.gauge, hperm.countP_eq, countP_cons_toNat]
        rfl
      generalize hpoll : t.limiter.poll since t.now true = polled
      obtain ⟨l, answer⟩ := polled
      obtain ⟨htold, hconfig, hstart, hgauge⟩ :=
        RateLimiter.told_of_poll hpoll h.begun (hbefore ▸ Nat.le_add_left 1 _)
      refine h.looked hconfig hstart ?_ fun since' wakeAt' sleeps' hmem ↦ ?_
      · rw [(set_perm_cons_eraseIdx hplace _).countP_eq, countP_cons_toNat,
          PermitAnswer.isAsleep_place]
        rw [hbefore] at hgauge
        exact Nat.add_right_cancel (hgauge.trans (Nat.add_right_comm _ _ _))
      · obtain hmem | hplaced := List.mem_or_eq_of_mem_set hmem
        · exact .inl hmem
        · cases answer with
          | granted | rejected => cases hplaced
          | sleep until_ =>
            cases hplaced
            have hdoze := h.dozing since wakeAt sleeps (List.mem_of_getElem? hplace)
            exact .inr (htold.dozing_again h.begun hdoze hdue hconfig hstart)
    · exact h
  · exact h

private theorem Orderly.leave (h : t.Orderly config start) (i : Nat) :
    (t.apply (.leave i)).Orderly config start := by
  simp only [apply]
  split
  · next since wakeAt sleeps hplace =>
    refine ⟨h.config_eq, h.begun, h.regular, ?_, fun since' wakeAt' sleeps' hmem ↦ ?_⟩
    · change t.limiter.waiting - 1 = _
      rw [h.gauge, (perm_cons_eraseIdx hplace).countP_eq,
        (set_perm_cons_eraseIdx hplace _).countP_eq, countP_cons_toNat, countP_cons_toNat]
      rfl
    · obtain hmem | hplaced := List.mem_or_eq_of_mem_set hmem
      · exact { h.dozing since' wakeAt' sleeps' hmem with }
      · cases hplaced
  · exact h

/-- Every event keeps a turnstile orderly. -/
theorem Orderly.apply (h : t.Orderly config start) (e : TurnstileEvent) :
    (t.apply e).Orderly config start := by
  cases e with
  | arrive => exact h.arrive
  | wake i => exact h.wake i
  | leave i => exact h.leave i
  | tryTake =>
    obtain ⟨hconfig, hstart, hwaiting⟩ := t.limiter.parts_tryTake t.now
    exact h.looked hconfig hstart (hwaiting.trans h.gauge) fun _ _ _ hmem ↦ .inl hmem
  | observe => exact h.looked rfl rfl h.gauge fun _ _ _ hmem ↦ .inl hmem
  | wait duration =>
    have hlater : nanos t.now ≤ nanos (t.now + duration) :=
      Nat.mul_le_mul_left _ (Nat.le_add_right _ _)
    refine ⟨h.config_eq, h.begun.trans hlater, fun hfits ↦ h.regular ?_, h.gauge, h.dozing⟩
    exact hfits.imp_right hlater.trans_lt

/-- Every turnstile is orderly. -/
theorem orderly_run (name : String) (config : RateLimiterConfig) (start : Nat)
    (events : List TurnstileEvent) : ((new name config start).run events).Orderly config start := by
  induction events using List.reverseRecOn with
  | nil => exact orderly_new name config start
  | append_singleton events e ih =>
    rw [run, List.foldl_append]
    exact ih.apply e

/-! ### The law of the turnstile -/

end Turnstile

end GuardedDispatch
