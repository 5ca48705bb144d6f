import GuardedDispatch.Proofs.Stack.Coherence

/-!
# The statistics add up

Once every call of a crowd has its answer, each of them was turned away, limited or served, and so
the counters of the five layers account for each other: what one layer let through is what the next
one counted.
-/

namespace GuardedDispatch.Crowd

variable {σ ε α : Type} {t : Crowd σ ε α}

/-- Whether every call has its answer, and none was taken away. -/
def Answered (t : Crowd σ ε α) : Prop :=
  ∀ v ∈ t.visits, v.gone = false ∧ v.call.phase.result?.isSome = true

instance (t : Crowd σ ε α) : Decidable t.Answered := inferInstanceAs (Decidable (∀ v ∈ _, _ ∧ _))

private theorem Answered.result? (h : t.Answered) {c : Call ε α} (hc : c ∈ t.calls) :
    c.phase.result?.isSome = true := by
  obtain ⟨v, hv, rfl⟩ := List.mem_map.mp hc
  exact (h v hv).2

private theorem Answered.place (h : t.Answered) {p : Phase ε α} (hp : p ∈ t.places) :
    ∃ r, p = .finished r := by
  obtain ⟨v, hv, hplace⟩ := List.mem_filterMap.mp hp
  obtain ⟨hgone, hresult⟩ := h v hv
  rw [Visit.place?_of_present hgone] at hplace
  cases hplace
  cases hat : v.call.phase with
  | finished r => exact ⟨r, rfl⟩
  | arriving | queued ticket | admitted | throttled since wakeAt | preparing number | attempting a
  | pausing number wakeAt =>
    rw [hat] at hresult
    cases hresult

private theorem Answered.length_eq (h : t.Answered) :
    t.visits.length = t.calls.countP (·.standing.isAdmitted) +
      t.calls.countP (·.standing.isTurnedAway) := by
  have hlength : t.visits.length = t.calls.countP fun _ ↦ true := by
    rw [List.countP_true, calls, List.length_map]
  rw [hlength]
  apply countP_eq_add
  intro c hc
  obtain hs | hs | ⟨ok, hs⟩ := Call.standing_of_result? (h.result? hc)
  · rw [hs]; rfl
  · rw [hs]; rfl
  · rw [hs]; rfl

private theorem Answered.admitted_eq (h : t.Answered) :
    t.calls.countP (·.standing.isAdmitted) = t.calls.countP (·.standing.isPermitted) +
      t.calls.countP (·.standing.isLimited) := by
  apply countP_eq_add
  intro c hc
  obtain hs | hs | ⟨ok, hs⟩ := Call.standing_of_result? (h.result? hc)
  · rw [hs]; rfl
  · rw [hs]; rfl
  · rw [hs]; rfl

private theorem Answered.permitted_eq (h : t.Answered) :
    t.calls.countP (·.standing.isPermitted) = t.calls.countP (·.standing.isServed) := by
  apply List.countP_congr
  intro c hc
  obtain hs | hs | ⟨ok, hs⟩ := Call.standing_of_result? (h.result? hc)
  · rw [hs]; rfl
  · rw [hs]; rfl
  · rw [hs]; rfl

private theorem Answered.ended_eq (h : t.Answered) :
    (t.calls.map Call.ended).sum = (t.calls.map (·.begun.length)).sum := by
  apply congrArg List.sum
  apply List.map_congr_left
  intro c hc
  obtain ⟨r, hr⟩ := Option.isSome_iff_exists.mp (h.result? hc)
  cases hat : c.phase with
  | finished r => simp only [Call.ended, hat, Phase.isAttempting, Bool.toNat_false, Nat.sub_zero]
  | arriving | queued ticket | admitted | throttled since wakeAt | preparing number | attempting a
  | pausing number wakeAt =>
    rw [hat] at hr
    cases hr

private theorem prepared_eq (h : t.Coherent) :
    (t.calls.map (·.prepared)).sum =
      (t.calls.map (·.begun.length)).sum + (t.calls.map Call.refused).sum := by
  apply sum_map_eq_add
  intro c hc
  obtain ⟨v, hv, rfl⟩ := List.mem_map.mp hc
  exact (Nat.add_sub_cancel' (h.regular v hv).begun_le).symm

private theorem Answered.idle (h : t.Answered) (hcoherent : t.Coherent) :
    (∀ b, t.stack.bulkhead? = some b → b.waiting = 0 ∧ b.free = b.config.maxConcurrent) ∧
      ∀ l, t.stack.rateLimiter? = some l → l.waiting = 0 := by
  have hholders : t.places.countP Phase.holdsSlot = 0 := by
    rw [List.countP_eq_zero]
    intro p hp
    obtain ⟨r, rfl⟩ := h.place hp
    exact Bool.false_ne_true
  have htickets : t.places.filterMap Phase.ticket? = [] := by
    rw [List.filterMap_eq_nil_iff]
    intro p hp
    obtain ⟨r, rfl⟩ := h.place hp
    rfl
  have hsleepers : t.places.countP Phase.isThrottled = 0 := by
    rw [List.countP_eq_zero]
    intro p hp
    obtain ⟨r, rfl⟩ := h.place hp
    exact Bool.false_ne_true
  refine ⟨fun b hb ↦ ?_, fun l hl ↦ ?_⟩
  · have hseats := hcoherent.balanced.seated b hb
    rw [hholders, htickets] at hseats
    have hwaiting := hseats.waiting_eq
    have hqueue : b.queue = [] := List.eq_nil_of_length_eq_zero hwaiting
    have hslots := hseats.slots_eq
    rw [hqueue] at hslots
    exact ⟨hwaiting, hslots⟩
  · exact (hcoherent.balanced.asleep l hl).trans hsleepers

/-- A stack that was built with all five layers has them in every crowd. -/
private theorem exists_layers (name : String) (bulkhead : BulkheadConfig)
    (limiter : RateLimiterConfig) (retries : RetryConfig) (breaker : BreakerConfig)
    (timer : TimeLimiterConfig) (env : σ) (start : Nat) (events : List (CrowdEvent σ ε α)) :
    let s := ((new name ⟨some bulkhead, some limiter, some retries, some breaker, some timer⟩ env
      start).run events).stack
    ∃ b l r k d, s.bulkhead? = some b ∧ s.rateLimiter? = some l ∧ s.retries? = some r ∧
      s.breaker? = some k ∧ s.timeLimiter? = some d := by
  intro s
  have hlayout : s.layout = (true, true, true, true, true) := layout_run name _ env start events
  obtain ⟨b, hb⟩ := Option.isSome_iff_exists.mp (congrArg (·.1) hlayout)
  obtain ⟨l, hl⟩ := Option.isSome_iff_exists.mp (congrArg (·.2.1) hlayout)
  obtain ⟨r, hr⟩ := Option.isSome_iff_exists.mp (congrArg (·.2.2.1) hlayout)
  obtain ⟨k, hk⟩ := Option.isSome_iff_exists.mp (congrArg (·.2.2.2.1) hlayout)
  obtain ⟨d, hd⟩ := Option.isSome_iff_exists.mp (congrArg (·.2.2.2.2) hlayout)
  exact ⟨b, l, r, k, d, hb, hl, hr, hk, hd⟩

/-- Once every call under a stack of all five layers has its answer, the statistics add up: the
calls that came are those admitted or rejected by the bulkhead; those admitted are those permitted
or rejected by the rate limiter; those permitted are counted by the retry policy; the breaker's
outcomes and refusals are all attempts, its outcomes are the attempts that the time limiter counted
and the operations that started, and those that succeeded are the good calls; and nobody waits and
every slot is free. -/
theorem statistics_add_up (name : String) (bulkhead : BulkheadConfig) (limiter : RateLimiterConfig)
    (retries : RetryConfig) (breaker : BreakerConfig) (timer : TimeLimiterConfig) (env : σ)
    (start : Nat) (events : List (CrowdEvent σ ε α))
    (h : ((new name ⟨some bulkhead, some limiter, some retries, some breaker, some timer⟩ env
      start).run events).Answered) :
    let t := (new name ⟨some bulkhead, some limiter, some retries, some breaker, some timer⟩ env
      start).run events
    ∃ b l r k d, (t.stack.observe t.now).2 = ⟨some b, some l, some r, some k, some d⟩ ∧
      t.visits.length = b.admitted + b.rejected ∧
      b.admitted = l.permitted + l.rejected ∧
      l.permitted = r.okWithout + r.okWith + r.failedWithout + r.failedWith ∧
      k.successful + k.failed + k.notPermitted = (t.calls.map (·.prepared)).sum ∧
      d.completed + d.timedOut = k.successful + k.failed ∧
      k.successful + k.failed = t.log.countP (·.2.isStart) ∧
      k.successful = r.okWithout + r.okWith ∧
      k.successful = t.calls.countP (·.phase.result?.any (·.isOk)) ∧
      b.waiting = 0 ∧ l.waiting = 0 ∧ b.available = b.max := by
  intro t
  have hcoherent : t.Coherent := coherent_run name _ env start events
  obtain ⟨b, l, r, k, d, hb, hl, hr, hk, hd⟩ : ∃ b l r k d, t.stack.bulkhead? = some b ∧
      t.stack.rateLimiter? = some l ∧ t.stack.retries? = some r ∧ t.stack.breaker? = some k ∧
      t.stack.timeLimiter? = some d :=
    exists_layers name bulkhead limiter retries breaker timer env start events
  obtain ⟨hadmitted, hturned⟩ := hcoherent.tallied.admitting b hb
  obtain ⟨hpermitted, hlimited⟩ := hcoherent.tallied.permitting l hl
  obtain ⟨hok, hserved⟩ := hcoherent.tallied.serving r hr
  obtain ⟨hgood, hended, hrefused⟩ := hcoherent.tallied.judging k hk
  have htimed := hcoherent.tallied.timing d hd
  have hattempts := prepared_eq hcoherent
  have hstarts := hcoherent.starts
  have hcounts := l.counts_refresh t.now
  obtain ⟨hidle, hawake⟩ := h.idle hcoherent
  refine ⟨b.stats, (l.observe t.now).2, r.stats, k.stats, d.stats, ?_, ?_, ?_, ?_, ?_, ?_, ?_, ?_,
    ?_, (hidle b hb).1, (l.waiting_refresh t.now).trans (hawake l hl), (hidle b hb).2⟩
  · simp only [Stack.observe, hb, hl, hr, hk, hd, Option.map_some]
  · exact h.length_eq.trans (congrArg₂ (· + ·) hadmitted hturned).symm
  · change b.admitted = (l.refresh t.now).permitted + (l.refresh t.now).rejected
    rw [hcounts.1, hcounts.2, hadmitted, hpermitted, hlimited]
    exact h.admitted_eq
  · change (l.refresh t.now).permitted = _
    rw [hcounts.1, hpermitted]
    exact h.permitted_eq.trans hserved.symm
  · change k.successful + k.failed + k.notPermitted = _
    rw [hended, hrefused, h.ended_eq]
    exact hattempts.symm
  · exact htimed.trans hended.symm
  · exact hended.trans (h.ended_eq.trans hstarts.symm)
  · exact hgood.trans hok.symm
  · exact hgood.trans (congrArg (t.calls.countP ·) (funext Call.isOk_standing))

/-- An operation that fails at first and succeeds ever after. -/
def warmingUp : Operation Nat Unit Unit where
  start runs _ := (runs, {})
  finish runs _ := (runs + 1, if runs = 0 then .error (.inner ()) else .ok ())

/-- A call is tried twice while another is turned away; then the breaker is opened by hand and
refuses a third, and the rate limiter rejects a fourth. -/
def mixedRun : List (CrowdEvent Nat Unit Unit) :=
  let arrive : CrowdEvent Nat Unit Unit := .arrive {} warmingUp fun _ ↦ true
  [arrive, arrive, .move 0, .move 1, .move 0, .move 0, .move 0, .move 0, .move 0, .move 0, .trip,
    arrive, .move 2, .move 2, .move 2, arrive, .move 3, .move 3]

/-- Where these four calls end, under one slot and two permits. -/
def mixed : Crowd Nat Unit Unit :=
  (new "mixed" ⟨some { maxConcurrent := 1, maxWait := 0 }, some { limit := 2, timeout := 0 },
    some { backoff := .fixed 0 }, some {}, some {}⟩ 0 0).run mixedRun

/-- The statistics of calls that were served, turned away, refused and limited add up. -/
theorem mixed_statistics_add_up :
    (mixed.Answered ∧
      mixed.calls.map Call.standing = [.served true, .turnedAway, .served false, .limited]) ∧
    ∃ b l r k d, (mixed.stack.observe mixed.now).2 = ⟨some b, some l, some r, some k, some d⟩ ∧
      mixed.visits.length = b.admitted + b.rejected ∧
      b.admitted = l.permitted + l.rejected ∧
      l.permitted = r.okWithout + r.okWith + r.failedWithout + r.failedWith ∧
      k.successful + k.failed + k.notPermitted = (mixed.calls.map (·.prepared)).sum ∧
      d.completed + d.timedOut = k.successful + k.failed ∧
      k.successful + k.failed = mixed.log.countP (·.2.isStart) ∧
      k.successful = r.okWithout + r.okWith ∧
      k.successful = mixed.calls.countP (·.phase.result?.any (·.isOk)) ∧
      b.waiting = 0 ∧ l.waiting = 0 ∧ b.available = b.max := by
  have hanswered : mixed.Answered := by decide +kernel
  exact ⟨⟨hanswered, by decide +kernel⟩,
    statistics_add_up "mixed" _ _ _ _ _ 0 0 mixedRun hanswered⟩

end GuardedDispatch.Crowd
