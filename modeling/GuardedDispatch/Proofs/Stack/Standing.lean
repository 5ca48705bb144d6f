import GuardedDispatch.Proofs.Stack.Steps

/-!
# How far a call has come

A call passes the bulkhead, then the rate limiter, and then ends inside its retry policy, or it is
sent away at one of the first two. How far it has come follows from where it stands and how often
its operation was prepared, and no step takes it back.
-/

namespace GuardedDispatch

/-- How far a call has come: it has yet to pass the bulkhead or was turned away there, has yet to
pass the rate limiter or was rejected there, is inside its retry policy or ended there. -/
inductive Standing where
  | before
  | turnedAway
  | admitted
  | limited
  | inside
  | served (ok : Bool)
  deriving DecidableEq, Repr

namespace Standing

/-- Whether the bulkhead turned the call away. -/
def isTurnedAway : Standing → Bool
  | .turnedAway => true
  | _ => false

/-- Whether the call has passed the bulkhead. -/
def isAdmitted : Standing → Bool
  | .before | .turnedAway => false
  | _ => true

/-- Whether the rate limiter rejected the call. -/
def isLimited : Standing → Bool
  | .limited => true
  | _ => false

/-- Whether one of the two outer layers sent the call away. -/
def isRejected (a : Standing) : Bool := a.isTurnedAway || a.isLimited

/-- Whether the call has passed the rate limiter. -/
def isPermitted : Standing → Bool
  | .inside | .served _ => true
  | _ => false

/-- Whether the call has ended inside its retry policy. -/
def isServed : Standing → Bool
  | .served _ => true
  | _ => false

/-- Whether the call has ended well. -/
def isOk : Standing → Bool
  | .served ok => ok
  | _ => false

/-- How a call comes further, or stays as far as it was. -/
inductive Passes : Standing → Standing → Prop
  | stays (a : Standing) : Passes a a
  | admitted : Passes .before .admitted
  | turnedAway : Passes .before .turnedAway
  | permitted : Passes .admitted .inside
  | limited : Passes .admitted .limited
  | served (ok : Bool) : Passes .inside (.served ok)

/-- What a call has passed it has passed for good. -/
theorem Passes.mono {a b : Standing} (h : Passes a b) :
    (a.isAdmitted = true → b.isAdmitted = true) ∧
      (a.isPermitted = true → b.isPermitted = true) := by
  cases h with
  | stays => exact ⟨id, id⟩
  | admitted | turnedAway | permitted | limited | served ok => decide +revert

/-- Who was sent away stays away. -/
theorem Passes.of_isRejected {a b : Standing} (h : Passes a b) (ha : a.isRejected = true) :
    b = a := by
  cases h with
  | stays => rfl
  | admitted | turnedAway | permitted | limited | served ok => cases ha

end Standing

namespace Phase

variable {ε α : Type}

/-- Whether a call standing here has yet to pass the bulkhead or the rate limiter. -/
def isOutside : Phase ε α → Bool
  | .arriving | .queued _ | .admitted | .throttled .. => true
  | _ => false

/-- Whether a call standing here is inside its retry policy. -/
def isInside : Phase ε α → Bool
  | .preparing _ | .attempting _ | .pausing .. => true
  | _ => false

/-- Whether a call standing here has an attempt under way. -/
def isAttempting : Phase ε α → Bool
  | .attempting _ => true
  | _ => false

end Phase

namespace Call

variable {ε α : Type}

/-- How far a call has come. Turned away and limited are those that ended with such a rejection
before any attempt was prepared. -/
def standing (c : Call ε α) : Standing :=
  match c.phase with
  | .arriving | .queued _ => .before
  | .admitted | .throttled .. => .admitted
  | .preparing _ | .attempting _ | .pausing .. => .inside
  | .finished r =>
    match c.prepared, r with
    | 0, .error (.bulkheadFull ..) => .turnedAway
    | 0, .error (.rateLimited ..) => .limited
    | _, r => .served r.isOk

/-- The attempts of a call that have ended: all that began, but for the one under way. -/
def ended (c : Call ε α) : Nat := c.begun.length - c.phase.isAttempting.toNat

/-- The attempts of a call that were refused. -/
def refused (c : Call ε α) : Nat := c.prepared - c.begun.length

/-- What holds of every call, where `guarded` says whether there is a breaker: no attempt begins
unprepared, none is prepared before the outer layers are passed, and the attempt under way has
begun, under a permit if one is needed. -/
structure Regular (c : Call ε α) (guarded : Bool) : Prop where
  begun_le : c.begun.length ≤ c.prepared
  unprepared : c.phase.isOutside = true → c.prepared = 0
  running : ∀ a, c.phase = .attempting a → 0 < c.begun.length
  licensed : ∀ a, c.phase = .attempting a → guarded = true → a.permit?.isSome = true

variable {c : Call ε α} {guarded : Bool}

private theorem regular_of_idle (hle : c.begun.length ≤ c.prepared)
    (hout : c.phase.isOutside = true → c.prepared = 0) (hidle : c.phase.isAttempting = false) :
    c.Regular guarded := by
  have hnone {a : Attempt} (hat : c.phase = .attempting a) : False := by
    rw [hat] at hidle
    cases hidle
  exact ⟨hle, hout, fun _ hat ↦ (hnone hat).elim, fun _ hat ↦ (hnone hat).elim⟩

/-- A call that has only arrived is regular. -/
theorem regular_arriving (options : CallOptions) (guarded : Bool) :
    ({ options } : Call ε α).Regular guarded :=
  regular_of_idle (Nat.le_refl 0) (fun _ ↦ rfl) rfl

/-- An attempt under way was prepared. -/
theorem Regular.prepared_pos (h : c.Regular guarded) {a : Attempt} (hat : c.phase = .attempting a) :
    0 < c.prepared :=
  Nat.lt_of_lt_of_le (h.running a hat) h.begun_le

/-- All attempts that began have ended but for the one under way. -/
theorem Regular.length_begun (h : c.Regular guarded) {a : Attempt}
    (hat : c.phase = .attempting a) : c.begun.length = c.ended + 1 := by
  have hpos := h.running a hat
  simp only [ended, hat, Phase.isAttempting, Bool.toNat_true]
  omega

/-- Of a call that was sent away no attempt was prepared. -/
theorem prepared_of_isRejected (h : c.standing.isRejected = true) : c.prepared = 0 := by
  unfold standing at h
  split at h
  · cases h
  · cases h
  · cases h
  · cases h
  · cases h
  · cases h
  · cases h
  · split at h
    · assumption
    · assumption
    · cases h

/-- Inside its retry policy a call stands inside. -/
theorem standing_of_isInside (h : c.phase.isInside = true) : c.standing = .inside := by
  cases hat : c.phase with
  | preparing number | attempting a | pausing number wakeAt => simp [standing, hat]
  | arriving | queued ticket | admitted | throttled since wakeAt | finished r =>
    rw [hat] at h
    cases h

/-- A call that has yet to pass the bulkhead stands before it. -/
theorem standing_of_before (h : c.phase = .arriving ∨ ∃ ticket, c.phase = .queued ticket) :
    c.standing = .before := by
  obtain hat | ⟨ticket, hat⟩ := h
  · simp only [standing, hat]
  · simp only [standing, hat]

/-- A call that the bulkhead ends before any attempt was prepared is turned away. -/
theorem standing_turnedAway (hp : c.prepared = 0) (b : Bulkhead) :
    ({ c with phase := .finished (.error b.rejection) } : Call ε α).standing = .turnedAway := by
  simp only [standing, hp, Bulkhead.rejection]

/-- A call that the rate limiter ends before any attempt was prepared is limited. -/
theorem standing_limited (hp : c.prepared = 0) (l : RateLimiter) :
    ({ c with phase := .finished (.error l.rejection) } : Call ε α).standing = .limited := by
  simp only [standing, hp, RateLimiter.rejection]

/-- A call that ends after an attempt was prepared is served. -/
theorem standing_served (hp : 0 < c.prepared) (r : Except (PolicyFailure ε) α) :
    ({ c with phase := .finished r } : Call ε α).standing = .served r.isOk := by
  obtain ⟨k, hk⟩ := Nat.exists_eq_succ_of_ne_zero (Nat.pos_iff_ne_zero.mp hp)
  simp only [standing, hk]

/-- A call stands as ended well exactly if its result is good. -/
theorem isOk_standing (c : Call ε α) : c.standing.isOk = c.phase.result?.any (·.isOk) := by
  cases hat : c.phase with
  | arriving | queued ticket | admitted | throttled since wakeAt | preparing number | attempting a
  | pausing number wakeAt => simp only [standing, hat, Standing.isOk, Phase.result?, Option.any_none]
  | finished r =>
    simp only [standing, hat, Phase.result?, Option.any_some]
    split
    · rfl
    · rfl
    · rfl

/-- A call that has ended was turned away, limited or served. -/
theorem standing_of_result? (h : c.phase.result?.isSome = true) :
    c.standing = .turnedAway ∨ c.standing = .limited ∨ ∃ ok, c.standing = .served ok := by
  cases hat : c.phase with
  | arriving | queued ticket | admitted | throttled since wakeAt | preparing number | attempting a
  | pausing number wakeAt =>
    rw [hat] at h
    cases h
  | finished r =>
    simp only [standing, hat]
    split
    · exact .inl rfl
    · exact .inr (.inl rfl)
    · exact .inr (.inr ⟨_, rfl⟩)

/-- A call of which an attempt was prepared has passed the outer layers. -/
theorem Regular.passed_of_prepared (h : c.Regular guarded) (hp : 0 < c.prepared) :
    c.standing.isAdmitted = true ∧ c.standing.isPermitted = true := by
  cases hat : c.phase with
  | arriving | queued ticket | admitted | throttled since wakeAt =>
    have hzero := h.unprepared (hat ▸ rfl)
    omega
  | preparing number | attempting a | pausing number wakeAt =>
    rw [standing_of_isInside (hat ▸ rfl)]
    exact ⟨rfl, rfl⟩
  | finished r =>
    have hserved := standing_served hp r
    rw [← hat] at hserved
    rw [hserved]
    exact ⟨rfl, rfl⟩

end Call

namespace Stack

variable {σ ε α : Type} {op : Operation σ ε α} {now since : Nat} {s s' : Stack} {env env' : σ}
  {c c' : Call ε α}

/-- A call that asks the rate limiter is outside, and has passed the bulkhead. -/
theorem Asking.isOutside {place : Phase ε α} {asleep : Bool}
    (h : Asking now place since asleep) : place.isOutside = true := by
  cases h with
  | fresh => rfl
  | again hdue => rfl

/-- A call that asks the rate limiter has passed the bulkhead. -/
theorem Asking.standing {asleep : Bool} (h : Asking now c.phase since asleep) :
    c.standing = .admitted := by
  cases hat : c.phase with
  | admitted | throttled since wakeAt => simp [Call.standing, hat]
  | arriving | queued ticket | preparing number | attempting a | pausing number wakeAt
  | finished r =>
    rw [hat] at h
    cases h

/-- A call that asks the rate limiter has no attempt under way. -/
theorem Asking.isAttempting {place : Phase ε α} {asleep : Bool}
    (h : Asking now place since asleep) : place.isAttempting = false := by
  cases h with
  | fresh => rfl
  | again hdue => rfl

/-- A call that asks the rate limiter is not inside its retry policy. -/
theorem Asking.isInside {place : Phase ε α} {asleep : Bool}
    (h : Asking now place since asleep) : place.isInside = false := by
  cases h with
  | fresh => rfl
  | again hdue => rfl

/-- A call that asks the rate limiter is not over. -/
theorem Asking.result? {place : Phase ε α} {asleep : Bool}
    (h : Asking now place since asleep) : place.result? = none := by
  cases h with
  | fresh => rfl
  | again hdue => rfl

/-- A step of a call keeps it regular. -/
theorem Moved.regular (h : Moved op now s env c s' env' c') (hc : c.Regular s.breaker?.isSome) :
    c'.Regular s.breaker?.isSome := by
  have hle := hc.begun_le
  have hout := hc.unprepared
  cases h with
  | unguarded hat hb | seated hat hb hr | queued hat hb hr | claimed hat hb hr =>
    rw [hat] at hout
    exact Call.regular_of_idle hle (fun _ ↦ hout rfl) rfl
  | slept hat hl hr => exact Call.regular_of_idle hle (fun _ ↦ hout hat.isOutside) rfl
  | turnedAway hat hb hr | gaveUp hat hb hr | unlimited hat hl | granted hat hl hr
  | limited hat hl hr | resumed hat hdue =>
    exact Call.regular_of_idle hle (fun ho ↦ nomatch ho) rfl
  | started hat hp =>
    refine ⟨?_, (fun ho ↦ nomatch ho), fun _ _ ↦ ?_, ?_⟩
    · rw [List.length_append, List.length_singleton]
      exact Nat.succ_le_succ hle
    · rw [List.length_append, List.length_singleton]
      exact Nat.succ_pos _
    · rintro _ ⟨⟩ hguarded
      cases hp with
      | unguarded hb =>
        rw [hb] at hguarded
        cases hguarded
      | granted hb hr => rfl
  | refused hat hb hr =>
    exact Call.regular_of_idle (Nat.le_succ_of_le hle) (fun ho ↦ nomatch ho) rfl
  | ended hat hends hd =>
    cases hd with
    | done hok hrejected => exact Call.regular_of_idle hle (fun ho ↦ nomatch ho) rfl
    | again hr hrejected => exact Call.regular_of_idle hle (fun ho ↦ nomatch ho) rfl

/-- A step brings a call further or leaves it as far as it was. -/
theorem Moved.passes (h : Moved op now s env c s' env' c') (hc : c.Regular s.breaker?.isSome) :
    c.standing.Passes c'.standing := by
  cases h with
  | unguarded hat hb | seated hat hb hr =>
    rw [Call.standing_of_before (.inl hat)]
    exact .admitted
  | queued hat hb hr =>
    rw [Call.standing_of_before (.inl hat)]
    exact .stays _
  | turnedAway hat hb hr =>
    rw [Call.standing_of_before (.inl hat), Call.standing_turnedAway (hc.unprepared (hat ▸ rfl))]
    exact .turnedAway
  | claimed hat hb hr =>
    rw [Call.standing_of_before (.inr ⟨_, hat⟩)]
    exact .admitted
  | gaveUp hat hb hr =>
    rw [Call.standing_of_before (.inr ⟨_, hat⟩),
      Call.standing_turnedAway (hc.unprepared (hat ▸ rfl))]
    exact .turnedAway
  | unlimited hat hl | granted hat hl hr =>
    rw [hat.standing]
    exact .permitted
  | limited hat hl hr =>
    rw [hat.standing, Call.standing_limited (hc.unprepared hat.isOutside)]
    exact .limited
  | slept hat hl hr =>
    rw [hat.standing]
    exact .stays _
  | started hat hp | resumed hat hdue =>
    rw [Call.standing_of_isInside (hat ▸ rfl)]
    exact .stays _
  | refused hat hb hr =>
    rw [Call.standing_of_isInside (hat ▸ rfl)]
    exact .served false
  | ended hat hends hd =>
    rw [Call.standing_of_isInside (hat ▸ rfl)]
    cases hd with
    | done hok hrejected =>
      rw [Call.standing_served (hc.prepared_pos hat)]
      exact .served _
    | again hr hrejected => exact .stays _

/-- A step of a call that is not inside its retry policy neither reads nor changes that policy and
the breaker. -/
theorem step?_outside {eligible : PolicyFailure ε → Bool} (h : c.phase.isInside = false)
    (retries? : Option Retry) (breaker? : Option Breaker) :
    step? op eligible now { s with retries?, breaker? } env c =
      (s.step? op eligible now env c).map fun r ↦ ({ r.1 with retries?, breaker? }, r.2) := by
  cases hat : c.phase with
  | arriving =>
    simp only [step?, hat]
    split
    · rfl
    · split <;> rfl
  | queued ticket =>
    simp only [step?, hat]
    cases hb : s.bulkhead? with
    | none => rfl
    | some b =>
      simp only [Option.bind_eq_bind, Option.bind_some]
      cases hr : b.claim? ticket now with
      | none => rfl
      | some answer =>
        obtain ⟨b', seated⟩ := answer
        cases seated with
        | true => rfl
        | false => rfl
  | admitted =>
    simp only [step?, hat, throttle]
    split
    · rfl
    · split <;> rfl
  | throttled since wakeAt =>
    simp only [step?, hat, throttle]
    split
    · rfl
    · split
      · rfl
      · split <;> rfl
  | preparing number | attempting a | pausing number wakeAt =>
    rw [hat] at h
    cases h
  | finished r =>
    simp only [step?, hat, Option.map_none]

end Stack

end GuardedDispatch
