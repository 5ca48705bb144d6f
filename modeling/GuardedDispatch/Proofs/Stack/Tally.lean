import GuardedDispatch.Proofs.Stack.Counters
import GuardedDispatch.Proofs.Stack.Standing

/-!
# What the layers have counted

How much one call has been counted follows from how far it has come and from its attempts. A stack
is tallied with some calls if every counter is the sum of what these calls account for, and every
step of a call keeps it so. Calls that were taken away account for what they had come to.
-/

namespace GuardedDispatch.Stack

variable {σ ε α : Type} {op : Operation σ ε α} {now m n k : Nat} {s s' : Stack} {env env' : σ}
  {c c' : Call ε α}

/-! ### The tally of each layer -/

/-- The bulkhead, if there is one, has counted so many calls admitted and turned away. -/
def Admitting (s : Stack) (admitted turnedAway : Nat) : Prop :=
  ∀ b, s.bulkhead? = some b → b.admitted = admitted ∧ b.rejected = turnedAway

/-- The rate limiter, if there is one, has counted so many permits and rejections. -/
def Permitting (s : Stack) (permitted limited : Nat) : Prop :=
  ∀ l, s.rateLimiter? = some l → l.permitted = permitted ∧ l.rejected = limited

/-- The retry policy, if there is one, has counted so many calls, of which so many ended well. -/
def Serving (s : Stack) (ok served : Nat) : Prop :=
  ∀ r, s.retries? = some r →
    r.okWithout + r.okWith = ok ∧ r.okWithout + r.okWith + r.failedWithout + r.failedWith = served

/-- The breaker, if there is one, has counted so many attempts, of which so many succeeded, and so
many refusals. -/
def Judging (s : Stack) (ok ended refused : Nat) : Prop :=
  ∀ b, s.breaker? = some b →
    b.successful = ok ∧ b.successful + b.failed = ended ∧ b.notPermitted = refused

/-- The time limiter, if there is one, has counted so many attempts. -/
def Timing (s : Stack) (ended : Nat) : Prop :=
  ∀ l, s.timeLimiter? = some l → l.completed + l.timedOut = ended

private theorem Admitting.freeSlot {admitted turnedAway : Nat}
    (h : s.Admitting admitted turnedAway) :
    s.freeSlot.Admitting admitted turnedAway := by
  intro b' hb'
  obtain ⟨b, hb, rfl⟩ := Option.map_eq_some_iff.mp hb'
  rw [b.counts_freeSlot.1, b.counts_freeSlot.2]
  exact h b hb

/-- The bulkhead counts a step as the call comes further. -/
theorem Admitting.moved
    (hs : s.Admitting (n + c.standing.isAdmitted.toNat) (m + c.standing.isTurnedAway.toNat))
    (hc : c.Regular s.breaker?.isSome) (h : Moved op now s env c s' env' c') :
    s'.Admitting (n + c'.standing.isAdmitted.toNat) (m + c'.standing.isTurnedAway.toNat) := by
  cases h with
  | unguarded hat hb =>
    intro b hb'
    rw [hb] at hb'
    cases hb'
  | seated hat hb hr | queued hat hb hr =>
    rintro _ ⟨⟩
    have hcounts := Bulkhead.counts_of_request hr
    rw [Call.standing_of_before (.inl hat)] at hs
    rw [(hs _ hb).1, (hs _ hb).2] at hcounts
    exact hcounts
  | turnedAway hat hb hr =>
    rintro _ ⟨⟩
    have hcounts := Bulkhead.counts_of_request hr
    rw [Call.standing_of_before (.inl hat)] at hs
    rw [(hs _ hb).1, (hs _ hb).2] at hcounts
    rw [Call.standing_turnedAway (hc.unprepared (hat ▸ rfl))]
    exact hcounts
  | claimed hat hb hr =>
    rintro _ ⟨⟩
    have hcounts := Bulkhead.counts_of_claim? hr
    rw [Call.standing_of_before (.inr ⟨_, hat⟩)] at hs
    rw [(hs _ hb).1, (hs _ hb).2] at hcounts
    exact hcounts
  | gaveUp hat hb hr =>
    rintro _ ⟨⟩
    have hcounts := Bulkhead.counts_of_claim? hr
    rw [Call.standing_of_before (.inr ⟨_, hat⟩)] at hs
    rw [(hs _ hb).1, (hs _ hb).2] at hcounts
    rw [Call.standing_turnedAway (hc.unprepared (hat ▸ rfl))]
    exact hcounts
  | unlimited hat hl | granted hat hl hr | slept hat hl hr =>
    rw [hat.standing] at hs
    exact hs
  | limited hat hl hr =>
    rw [hat.standing] at hs
    rw [Call.standing_limited (hc.unprepared hat.isOutside)]
    exact Admitting.freeSlot hs
  | started hat hp =>
    rw [Call.standing_of_isInside (hat ▸ rfl)] at hs
    cases hp with
    | unguarded hb => exact hs
    | granted hb hr => exact hs
  | refused hat hb hr =>
    rw [Call.standing_of_isInside (hat ▸ rfl)] at hs
    exact Admitting.freeSlot hs
  | ended hat hends hd =>
    rw [Call.standing_of_isInside (hat ▸ rfl)] at hs
    cases hd with
    | done hok hrejected =>
      rw [Call.standing_served (hc.prepared_pos hat)]
      exact Admitting.freeSlot hs
    | again hr hrejected => exact hs
  | resumed hat hdue =>
    rw [Call.standing_of_isInside (hat ▸ rfl)] at hs
    exact hs

/-- The rate limiter counts a step as the call comes further. -/
theorem Permitting.moved
    (hs : s.Permitting (n + c.standing.isPermitted.toNat) (m + c.standing.isLimited.toNat))
    (hc : c.Regular s.breaker?.isSome) (h : Moved op now s env c s' env' c') :
    s'.Permitting (n + c'.standing.isPermitted.toNat) (m + c'.standing.isLimited.toNat) := by
  cases h with
  | unguarded hat hb | seated hat hb hr | queued hat hb hr =>
    rw [Call.standing_of_before (.inl hat)] at hs
    exact hs
  | turnedAway hat hb hr =>
    rw [Call.standing_of_before (.inl hat)] at hs
    rw [Call.standing_turnedAway (hc.unprepared (hat ▸ rfl))]
    exact hs
  | claimed hat hb hr =>
    rw [Call.standing_of_before (.inr ⟨_, hat⟩)] at hs
    exact hs
  | gaveUp hat hb hr =>
    rw [Call.standing_of_before (.inr ⟨_, hat⟩)] at hs
    rw [Call.standing_turnedAway (hc.unprepared (hat ▸ rfl))]
    exact hs
  | unlimited hat hl =>
    intro l hl'
    rw [hl] at hl'
    cases hl'
  | @granted since asleep l l' hat hl hr | @slept since wakeAt asleep l l' hat hl hr =>
    rintro _ ⟨⟩
    have hcounts := RateLimiter.counts_of_ask hr
    rw [hat.standing] at hs
    rw [(hs _ hl).1, (hs _ hl).2] at hcounts
    cases asleep with
    | false => exact hcounts
    | true => exact hcounts
  | @limited since asleep l l' hat hl hr =>
    rintro _ ⟨⟩
    have hcounts := RateLimiter.counts_of_ask hr
    rw [hat.standing] at hs
    rw [(hs _ hl).1, (hs _ hl).2] at hcounts
    rw [Call.standing_limited (hc.unprepared hat.isOutside)]
    cases asleep with
    | false => exact hcounts
    | true => exact hcounts
  | started hat hp =>
    rw [Call.standing_of_isInside (hat ▸ rfl)] at hs
    cases hp with
    | unguarded hb => exact hs
    | granted hb hr => exact hs
  | refused hat hb hr | resumed hat hdue =>
    rw [Call.standing_of_isInside (hat ▸ rfl)] at hs
    exact hs
  | ended hat hends hd =>
    rw [Call.standing_of_isInside (hat ▸ rfl)] at hs
    cases hd with
    | done hok hrejected =>
      rw [Call.standing_served (hc.prepared_pos hat)]
      exact hs
    | again hr hrejected => exact hs

private theorem Serving.noted {ok served : Nat} (hs : s.Serving ok served) (number : Nat)
    (good : Bool) :
    (s.noted number good).Serving (ok + good.toNat) (served + 1) := by
  intro r' hr'
  obtain ⟨r, hr, rfl⟩ := Option.map_eq_some_iff.mp hr'
  have hok := r.ok_count number good
  have hall := r.count_sum number good
  rw [(hs r hr).1] at hok
  rw [(hs r hr).2] at hall
  exact ⟨hok, hall⟩

/-- The retry policy counts a step as the call comes further. -/
theorem Serving.moved
    (hs : s.Serving (n + c.standing.isOk.toNat) (m + c.standing.isServed.toNat))
    (hc : c.Regular s.breaker?.isSome) (h : Moved op now s env c s' env' c') :
    s'.Serving (n + c'.standing.isOk.toNat) (m + c'.standing.isServed.toNat) := by
  cases h with
  | unguarded hat hb | seated hat hb hr | queued hat hb hr =>
    rw [Call.standing_of_before (.inl hat)] at hs
    exact hs
  | turnedAway hat hb hr =>
    rw [Call.standing_of_before (.inl hat)] at hs
    rw [Call.standing_turnedAway (hc.unprepared (hat ▸ rfl))]
    exact hs
  | claimed hat hb hr =>
    rw [Call.standing_of_before (.inr ⟨_, hat⟩)] at hs
    exact hs
  | gaveUp hat hb hr =>
    rw [Call.standing_of_before (.inr ⟨_, hat⟩)] at hs
    rw [Call.standing_turnedAway (hc.unprepared (hat ▸ rfl))]
    exact hs
  | unlimited hat hl | granted hat hl hr | slept hat hl hr =>
    rw [hat.standing] at hs
    exact hs
  | limited hat hl hr =>
    rw [hat.standing] at hs
    rw [Call.standing_limited (hc.unprepared hat.isOutside)]
    exact hs
  | started hat hp =>
    rw [Call.standing_of_isInside (hat ▸ rfl)] at hs
    cases hp with
    | unguarded hb => exact hs
    | granted hb hr => exact hs
  | @refused number b b' hat hb hr =>
    rw [Call.standing_of_isInside (hat ▸ rfl)] at hs
    exact Serving.noted (s := { s with breaker? := some b' }) hs number false
  | @ended a r s' env' c' hat hends hd =>
    rw [Call.standing_of_isInside (hat ▸ rfl)] at hs
    cases hd with
    | done hok hrejected =>
      rw [Call.standing_served (hc.prepared_pos hat), hok]
      exact Serving.noted (s := s.counted a r.isOk now r) hs a.number r.isOk
    | again hr hrejected => exact hs
  | resumed hat hdue =>
    rw [Call.standing_of_isInside (hat ▸ rfl)] at hs
    exact hs

private theorem Judging.counted {a : Attempt} {good past : Nat} (hs : s.Judging good past k)
    (hp : s.breaker?.isSome = true → a.permit?.isSome = true) (now : Nat)
    (r : Except (PolicyFailure ε) α) :
    (s.counted a r.isOk now r).Judging (good + r.isOk.toNat) (past + 1) k := by
  intro b' hb'
  obtain ⟨b, hb, rfl⟩ := Option.map_eq_some_iff.mp hb'
  obtain ⟨p, hpermit⟩ := Option.isSome_iff_exists.mp (hp (hb ▸ rfl))
  obtain ⟨hgood, hover, hrefused⟩ := hs b hb
  obtain ⟨hok, hfailed, hnot⟩ := b.counts_complete p (now - a.began) (!r.isOk) now
  rw [Bool.not_not] at hok
  rw [hpermit, Option.elim_some, hok, hfailed, hnot, hgood, ← hover, ← hgood]
  refine ⟨rfl, ?_, hrefused⟩
  cases r.isOk with
  | true => exact Nat.add_right_comm _ _ _
  | false => rfl

private theorem Judging.entitled {good past : Nat} {permit? : Option CallPermit}
    (hs : s.Judging good past k) (hp : Entitled now s s' permit?) : s'.Judging good past k := by
  cases hp with
  | unguarded hb => exact hs
  | granted hb hr =>
    rintro _ ⟨⟩
    obtain ⟨hok, hfailed, hnot⟩ := Breaker.counts_of_request hr
    rw [hok, hfailed, hnot]
    exact hs _ hb

/-- The breaker counts a step as the attempts of the call end. -/
theorem Judging.moved
    (hs : s.Judging (n + c.standing.isOk.toNat) (m + c.ended) (k + c.refused))
    (hc : c.Regular s.breaker?.isSome) (h : Moved op now s env c s' env' c') :
    s'.Judging (n + c'.standing.isOk.toNat) (m + c'.ended) (k + c'.refused) := by
  cases h with
  | unguarded hat hb | seated hat hb hr | queued hat hb hr =>
    rw [Call.standing_of_before (.inl hat), Call.ended, hat] at hs
    exact hs
  | turnedAway hat hb hr =>
    rw [Call.standing_of_before (.inl hat), Call.ended, hat] at hs
    rw [Call.standing_turnedAway (hc.unprepared (hat ▸ rfl))]
    exact hs
  | claimed hat hb hr =>
    rw [Call.standing_of_before (.inr ⟨_, hat⟩), Call.ended, hat] at hs
    exact hs
  | gaveUp hat hb hr =>
    rw [Call.standing_of_before (.inr ⟨_, hat⟩), Call.ended, hat] at hs
    rw [Call.standing_turnedAway (hc.unprepared (hat ▸ rfl))]
    exact hs
  | unlimited hat hl | granted hat hl hr | slept hat hl hr =>
    rw [hat.standing, Call.ended, hat.isAttempting] at hs
    exact hs
  | limited hat hl hr =>
    rw [hat.standing, Call.ended, hat.isAttempting] at hs
    rw [Call.standing_limited (hc.unprepared hat.isOutside)]
    exact hs
  | started hat hp =>
    rw [Call.standing_of_isInside (hat ▸ rfl), Call.ended, hat] at hs
    have hstarted := Judging.entitled hs hp
    simp only [Call.ended, Call.refused, Phase.isAttempting, List.length_append,
      List.length_singleton, Bool.toNat_true, Nat.add_sub_add_right, Nat.add_sub_cancel]
    exact hstarted
  | @refused number b b' hat hb hr =>
    rw [Call.standing_of_isInside (hat ▸ rfl), Call.ended, hat] at hs
    rintro _ ⟨⟩
    obtain ⟨hok, hfailed, hnot⟩ := Breaker.counts_of_request hr
    obtain ⟨hgood, hover, hrefused⟩ := hs b hb
    have hmore : c.prepared + 1 - c.begun.length = c.refused + 1 := by
      have hle := hc.begun_le
      rw [Call.refused]
      omega
    rw [hok, hfailed, hnot, hover, hgood, hrefused]
    exact ⟨rfl, rfl, congrArg (k + ·) hmore.symm⟩
  | @ended a r s' env' c' hat hends hd =>
    have hlicensed : s.breaker?.isSome = true → a.permit?.isSome = true := hc.licensed a hat
    have hmore := hc.length_begun hat
    rw [Call.standing_of_isInside (hat ▸ rfl)] at hs
    have hcounted := Judging.counted hs hlicensed now r
    rw [Nat.add_assoc m, ← hmore] at hcounted
    cases hd with
    | done hok hrejected =>
      rw [Call.standing_served (hc.prepared_pos hat), hok]
      exact hcounted
    | @again wakeAt e hr hrejected =>
      cases hr
      exact hcounted
  | resumed hat hdue =>
    rw [Call.standing_of_isInside (hat ▸ rfl), Call.ended, hat] at hs
    exact hs

/-- The time limiter counts a step as the attempts of the call end. -/
theorem Timing.moved (hs : s.Timing (m + c.ended)) (hc : c.Regular s.breaker?.isSome)
    (h : Moved op now s env c s' env' c') : s'.Timing (m + c'.ended) := by
  cases h with
  | unguarded hat hb | seated hat hb hr | queued hat hb hr | turnedAway hat hb hr
  | claimed hat hb hr | gaveUp hat hb hr | refused hat hb hr | resumed hat hdue =>
    rw [Call.ended, hat] at hs
    exact hs
  | unlimited hat hl | granted hat hl hr | slept hat hl hr | limited hat hl hr =>
    rw [Call.ended, hat.isAttempting] at hs
    exact hs
  | started hat hp =>
    rw [Call.ended, hat] at hs
    simp only [Call.ended, Phase.isAttempting, List.length_append, List.length_singleton,
      Bool.toNat_true, Nat.add_sub_cancel]
    cases hp with
    | unguarded hb => exact hs
    | granted hb hr => exact hs
  | @ended a r s' env' c' hat hends hd =>
    have hmore := hc.length_begun hat
    have hcounted : (s.counted a r.isOk now r).Timing (m + c.begun.length) := by
      intro l' hl'
      obtain ⟨l, hl, rfl⟩ := Option.map_eq_some_iff.mp hl'
      rw [l.counts_count, hs l hl, hmore]
      rfl
    cases hd with
    | done hok hrejected => exact hcounted
    | again hr hrejected => exact hcounted

/-! ### The tally of a stack -/

/-- Every counter of every layer is the sum of what these calls account for. -/
structure Tallied (s : Stack) (calls : List (Call ε α)) : Prop where
  admitting : s.Admitting (calls.countP (·.standing.isAdmitted))
    (calls.countP (·.standing.isTurnedAway))
  permitting : s.Permitting (calls.countP (·.standing.isPermitted))
    (calls.countP (·.standing.isLimited))
  serving : s.Serving (calls.countP (·.standing.isOk)) (calls.countP (·.standing.isServed))
  judging : s.Judging (calls.countP (·.standing.isOk)) (calls.map Call.ended).sum
    (calls.map Call.refused).sum
  timing : s.Timing (calls.map Call.ended).sum

variable {calls rest : List (Call ε α)}

/-- The tally with one more call. -/
theorem tallied_cons_iff : s.Tallied (c :: rest) ↔
    s.Admitting (rest.countP (·.standing.isAdmitted) + c.standing.isAdmitted.toNat)
      (rest.countP (·.standing.isTurnedAway) + c.standing.isTurnedAway.toNat) ∧
    s.Permitting (rest.countP (·.standing.isPermitted) + c.standing.isPermitted.toNat)
      (rest.countP (·.standing.isLimited) + c.standing.isLimited.toNat) ∧
    s.Serving (rest.countP (·.standing.isOk) + c.standing.isOk.toNat)
      (rest.countP (·.standing.isServed) + c.standing.isServed.toNat) ∧
    s.Judging (rest.countP (·.standing.isOk) + c.standing.isOk.toNat)
      ((rest.map Call.ended).sum + c.ended) ((rest.map Call.refused).sum + c.refused) ∧
    s.Timing ((rest.map Call.ended).sum + c.ended) := by
  simp only [← sum_map_cons, ← countP_cons_toNat (fun c : Call ε α ↦ _)]
  exact ⟨fun h ↦ ⟨h.admitting, h.permitting, h.serving, h.judging, h.timing⟩,
    fun h ↦ ⟨h.1, h.2.1, h.2.2.1, h.2.2.2.1, h.2.2.2.2⟩⟩

/-- In which order the calls are listed does not matter. -/
theorem Tallied.perm (h : s.Tallied calls) {calls' : List (Call ε α)} (hp : calls.Perm calls') :
    s.Tallied calls' := by
  have hended := (hp.map Call.ended).sum_eq
  have hrefused := (hp.map Call.refused).sum_eq
  exact ⟨hp.countP_eq _ ▸ hp.countP_eq _ ▸ h.admitting,
    hp.countP_eq _ ▸ hp.countP_eq _ ▸ h.permitting,
    hp.countP_eq _ ▸ hp.countP_eq _ ▸ h.serving,
    hp.countP_eq _ ▸ hended ▸ hrefused ▸ h.judging, hended ▸ h.timing⟩

/-- The calls that the bulkhead has admitted. -/
def admissions (s : Stack) : Nat := s.bulkhead?.elim 0 (·.admitted)

/-- The permits that the rate limiter has granted. -/
def grants (s : Stack) : Nat := s.rateLimiter?.elim 0 (·.permitted)

/-- The calls that the bulkhead and the rate limiter have rejected. -/
def rejections (s : Stack) : Nat :=
  s.bulkhead?.elim 0 (·.rejected) + s.rateLimiter?.elim 0 (·.rejected)

/-- The bulkhead has admitted the calls that passed it. -/
theorem Tallied.admissions_eq (h : s.Tallied calls) (hb : s.bulkhead?.isSome = true) :
    s.admissions = calls.countP (·.standing.isAdmitted) := by
  obtain ⟨b, hb⟩ := Option.isSome_iff_exists.mp hb
  rw [admissions, hb]
  exact (h.admitting b hb).1

/-- The rate limiter has granted permits to the calls that passed it. -/
theorem Tallied.grants_eq (h : s.Tallied calls) (hl : s.rateLimiter?.isSome = true) :
    s.grants = calls.countP (·.standing.isPermitted) := by
  obtain ⟨l, hl⟩ := Option.isSome_iff_exists.mp hl
  rw [grants, hl]
  exact (h.permitting l hl).1

/-- The two outer layers have rejected the calls that they ended. -/
theorem Tallied.rejections_eq (h : s.Tallied calls) :
    s.rejections =
      (if s.bulkhead?.isSome then calls.countP (·.standing.isTurnedAway) else 0) +
        if s.rateLimiter?.isSome then calls.countP (·.standing.isLimited) else 0 := by
  have hbulkhead : s.bulkhead?.elim 0 (·.rejected) =
      if s.bulkhead?.isSome then calls.countP (·.standing.isTurnedAway) else 0 := by
    cases hb : s.bulkhead? with
    | none => rfl
    | some b => exact (h.admitting b hb).2
  have hlimiter : s.rateLimiter?.elim 0 (·.rejected) =
      if s.rateLimiter?.isSome then calls.countP (·.standing.isLimited) else 0 := by
    cases hl : s.rateLimiter? with
    | none => rfl
    | some l => exact (h.permitting l hl).2
  rw [rejections, hbulkhead, hlimiter]

/-- A new stack has counted nothing. -/
theorem tallied_new (name : String) (config : StackConfig) (start : Nat) :
    (new name config start).Tallied ([] : List (Call ε α)) where
  admitting b hb := by
    obtain ⟨_, _, rfl⟩ := Option.map_eq_some_iff.mp hb
    exact ⟨rfl, rfl⟩
  permitting l hl := by
    obtain ⟨_, _, rfl⟩ := Option.map_eq_some_iff.mp hl
    exact ⟨rfl, rfl⟩
  serving r hr := by
    obtain ⟨_, _, rfl⟩ := Option.map_eq_some_iff.mp hr
    exact ⟨rfl, rfl⟩
  judging b hb := by
    obtain ⟨_, _, rfl⟩ := Option.map_eq_some_iff.mp hb
    exact ⟨rfl, rfl, rfl⟩
  timing l hl := by
    obtain ⟨_, _, rfl⟩ := Option.map_eq_some_iff.mp hl
    rfl

/-- A call that has only arrived accounts for nothing. -/
theorem tallied_cons_arriving (options : CallOptions) :
    s.Tallied ({ options } :: rest : List (Call ε α)) ↔ s.Tallied rest := by
  rw [tallied_cons_iff]
  exact ⟨fun h ↦ ⟨h.1, h.2.1, h.2.2.1, h.2.2.2.1, h.2.2.2.2⟩,
    fun h ↦ ⟨h.admitting, h.permitting, h.serving, h.judging, h.timing⟩⟩

/-- A step of a call keeps the tally. -/
theorem Tallied.moved (h : s.Tallied (c :: rest)) (hc : c.Regular s.breaker?.isSome)
    (hm : Moved op now s env c s' env' c') : s'.Tallied (c' :: rest) := by
  rw [tallied_cons_iff] at h ⊢
  obtain ⟨hadmitting, hpermitting, hserving, hjudging, htiming⟩ := h
  exact ⟨hadmitting.moved hc hm, hpermitting.moved hc hm, hserving.moved hc hm,
    hjudging.moved hc hm, htiming.moved hc hm⟩

/-- What is not counted by the breaker keeps the tally. -/
theorem Tallied.mapBreaker (h : s.Tallied calls) {f : Breaker → Breaker}
    (hf : ∀ b, (f b).successful = b.successful ∧ (f b).failed = b.failed ∧
      (f b).notPermitted = b.notPermitted) : (s.mapBreaker f).Tallied calls :=
  { h with
    judging := by
      intro b' hb'
      obtain ⟨b, hb, rfl⟩ := Option.map_eq_some_iff.mp hb'
      obtain ⟨hok, hfailed, hnot⟩ := hf b
      rw [hok, hfailed, hnot]
      exact h.judging b hb }

private theorem Tallied.mapLimiter (h : s.Tallied calls) {f : RateLimiter → RateLimiter}
    (hf : ∀ l, (f l).permitted = l.permitted ∧ (f l).rejected = l.rejected) :
    (s.mapLimiter f).Tallied calls :=
  { h with
    permitting := by
      intro l' hl'
      obtain ⟨l, hl, rfl⟩ := Option.map_eq_some_iff.mp hl'
      rw [(hf l).1, (hf l).2]
      exact h.permitting l hl }

/-- What is not counted by the bulkhead keeps the tally. -/
theorem Tallied.mapBulkhead (h : s.Tallied calls) {f : Bulkhead → Bulkhead}
    (hf : ∀ b, (f b).admitted = b.admitted ∧ (f b).rejected = b.rejected) :
    Tallied { s with bulkhead? := s.bulkhead?.map f } calls :=
  { h with
    admitting := by
      intro b' hb'
      obtain ⟨b, hb, rfl⟩ := Option.map_eq_some_iff.mp hb'
      rw [(hf b).1, (hf b).2]
      exact h.admitting b hb }

/-- Taking a call away is not counted. -/
theorem Tallied.drop (h : s.Tallied calls) (c : Call ε α) (now : Nat) :
    (s.drop c now).Tallied calls := by
  unfold Stack.drop
  split
  · exact h
  · exact h
  · exact h.mapBulkhead fun b ↦ b.counts_abandon _
  · next since wakeAt _ =>
    have hawake := h.mapLimiter (f := (·.leaveSleep since now)) fun l ↦ ⟨rfl, rfl⟩
    exact hawake.mapBulkhead Bulkhead.counts_freeSlot
  · split
    · exact (h.mapBreaker fun b ↦ b.counts_release _).mapBulkhead Bulkhead.counts_freeSlot
    · exact h.mapBulkhead Bulkhead.counts_freeSlot
  · exact h.mapBulkhead Bulkhead.counts_freeSlot
  · exact h.mapBulkhead Bulkhead.counts_freeSlot
  · exact h.mapBulkhead Bulkhead.counts_freeSlot

/-- Looking at the statistics is not counted. -/
theorem Tallied.observe (h : s.Tallied calls) (now : Nat) : (s.observe now).1.Tallied calls := by
  have hlook := h.mapLimiter (f := fun l ↦ (l.observe now).1) fun l ↦ l.counts_refresh now
  rw [Stack.mapLimiter] at hlook
  rw [Stack.observe, Option.map_map]
  exact hlook

end GuardedDispatch.Stack
