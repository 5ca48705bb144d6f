import GuardedDispatch.Proofs.Breaker.Owed
import GuardedDispatch.Proofs.Stack.Seats
import GuardedDispatch.Proofs.Stack.Steps

/-!
# What the calls under a stack hold

A call holds a slot, a place in the queue, a place among the sleepers or a permission of the
breaker, depending on where it stands. A stack is balanced with the places of some calls if each
layer has lent exactly what calls in those places hold. Every step of a call keeps the balance, and
a call that is taken away leaves the stack balanced with the others: what it held is given back.
-/

namespace GuardedDispatch

/-! ### What a place holds -/

namespace Phase

variable {ε α : Type}

/-- The ticket of a call in the queue. -/
def ticket? : Phase ε α → Option Nat
  | .queued ticket => some ticket
  | _ => none

/-- Whether a call sleeps until the rate limiter has permits again. -/
def isThrottled : Phase ε α → Bool
  | .throttled .. => true
  | _ => false

/-- The permission that a call's running attempt has. -/
def permit? : Phase ε α → Option CallPermit
  | .attempting a => a.permit?
  | _ => none

/-- Whether a call standing here has nothing of any layer. -/
def isIdle : Phase ε α → Bool
  | .arriving | .finished _ => true
  | _ => false

end Phase

namespace RateLimiter

/-- A refill leaves the sleepers alone. -/
@[simp] theorem waiting_refresh (l : RateLimiter) (now : Nat) :
    (l.refresh now).waiting = l.waiting := rfl

/-- Asking for a permit leaves the sleepers alone. -/
@[simp] theorem waiting_ask (l : RateLimiter) (since now : Nat) :
    (l.ask since now).1.waiting = l.waiting := by
  simp only [ask]
  split <;> rfl

end RateLimiter

namespace Stack

variable {σ ε α : Type} {op : Operation σ ε α} {now since holders sleepers : Nat}
  {tickets : List Nat} {permits : List CallPermit} {s s' : Stack} {env env' : σ}
  {c c' : Call ε α} {place : Phase ε α} {places rest : List (Phase ε α)}

/-! ### The balance of each layer -/

/-- The bulkhead, if there is one, has lent so many slots, and has these tickets in its queue. -/
def Seated (s : Stack) (holders : Nat) (tickets : List Nat) : Prop :=
  ∀ b, s.bulkhead? = some b → b.Seats holders tickets

/-- The rate limiter, if there is one, counts so many sleepers. -/
def Asleep (s : Stack) (sleepers : Nat) : Prop :=
  ∀ l, s.rateLimiter? = some l → l.waiting = sleepers

/-- The breaker, if there is one, has these permits out. -/
def Lent (s : Stack) (permits : List CallPermit) : Prop := ∀ b, s.breaker? = some b → b.Owed permits

private theorem Seated.freeSlot (h : s.Seated (holders + 1) tickets) :
    s.freeSlot.Seated holders tickets := by
  intro b' hb'
  obtain ⟨b, hb, rfl⟩ := Option.map_eq_some_iff.mp hb'
  exact (h b hb).freeSlot

private theorem Asking.holds {asleep : Bool} (h : Asking now place since asleep) :
    place.holdsSlot = true ∧ place.ticket? = none ∧ place.isThrottled = asleep ∧
      place.permit? = none := by
  cases h with
  | fresh => exact ⟨rfl, rfl, rfl, rfl⟩
  | again hdue => exact ⟨rfl, rfl, rfl, rfl⟩

/-- A step of a call moves slots and places in the queue as the call itself moves. -/
theorem Seated.moved
    (hs : s.Seated (holders + c.phase.holdsSlot.toNat) (c.phase.ticket?.toList ++ tickets))
    (h : Moved op now s env c s' env' c') :
    s'.Seated (holders + c'.phase.holdsSlot.toNat) (c'.phase.ticket?.toList ++ tickets) := by
  cases h with
  | unguarded hat hb =>
    intro b hb'
    rw [hb] at hb'
    cases hb'
  | seated hat hb hr | turnedAway hat hb hr | queued hat hb hr =>
    rintro _ ⟨⟩
    rw [hat] at hs
    exact (hs _ hb).request hr
  | claimed hat hb hr | gaveUp hat hb hr =>
    rintro _ ⟨⟩
    rw [hat] at hs
    exact (hs _ hb).claim? hr
  | unlimited hat hl | granted hat hl hr | slept hat hl hr =>
    rw [hat.holds.1, hat.holds.2.1] at hs
    exact hs
  | limited hat hl hr =>
    rw [hat.holds.1, hat.holds.2.1] at hs
    exact Seated.freeSlot hs
  | started hat hp =>
    rw [hat] at hs
    cases hp with
    | unguarded hb => exact hs
    | granted hb hr => exact hs
  | refused hat hb hr =>
    rw [hat] at hs
    exact Seated.freeSlot hs
  | ended hat hends hd =>
    rw [hat] at hs
    cases hd with
    | done hok hrejected => exact Seated.freeSlot hs
    | again hr hrejected => exact hs
  | resumed hat hdue =>
    rw [hat] at hs
    exact hs

/-- A step of a call moves sleepers as the call itself moves. -/
theorem Asleep.moved (hs : s.Asleep (sleepers + c.phase.isThrottled.toNat))
    (h : Moved op now s env c s' env' c') :
    s'.Asleep (sleepers + c'.phase.isThrottled.toNat) := by
  cases h with
  | unguarded hat hb | seated hat hb hr | turnedAway hat hb hr | queued hat hb hr
  | claimed hat hb hr | gaveUp hat hb hr | refused hat hb hr | resumed hat hdue =>
    rw [hat] at hs
    exact hs
  | unlimited hat hl =>
    intro l hl'
    rw [hl] at hl'
    cases hl'
  | @granted since asleep l l' hat hl hr | @limited since asleep l l' hat hl hr =>
    rintro _ ⟨⟩
    have hw := hs l hl
    rw [← l.waiting_ask since now, hr, hat.holds.2.2.1] at hw
    cases asleep with
    | false => exact hw
    | true => exact Nat.sub_eq_of_eq_add hw
  | @slept since wakeAt asleep l l' hat hl hr =>
    rintro _ ⟨⟩
    have hw := hs l hl
    rw [← l.waiting_ask since now, hr, hat.holds.2.2.1] at hw
    cases asleep with
    | false => exact congrArg (· + 1) hw
    | true => exact hw
  | started hat hp =>
    rw [hat] at hs
    cases hp with
    | unguarded hb => exact hs
    | granted hb hr => exact hs
  | ended hat hends hd =>
    rw [hat] at hs
    cases hd with
    | done hok hrejected => exact hs
    | again hr hrejected => exact hs

private theorem Lent.counted {a : Attempt} (h : s.Lent (a.permit?.toList ++ permits)) (ok : Bool)
    (now : Nat) (r : Except (PolicyFailure ε) α) : (s.counted a ok now r).Lent permits := by
  intro b' hb'
  obtain ⟨b, hb, rfl⟩ := Option.map_eq_some_iff.mp hb'
  have howed := h b hb
  cases hp : a.permit? with
  | none =>
    rw [hp] at howed
    exact howed
  | some p =>
    rw [hp] at howed
    exact Breaker.Owed.complete howed _ _ _

/-- A step of a call moves permits as the call itself moves. -/
theorem Lent.moved (hs : s.Lent (c.phase.permit?.toList ++ permits))
    (h : Moved op now s env c s' env' c') :
    s'.Lent (c'.phase.permit?.toList ++ permits) := by
  cases h with
  | unguarded hat hb | seated hat hb hr | turnedAway hat hb hr | queued hat hb hr
  | claimed hat hb hr | gaveUp hat hb hr | resumed hat hdue =>
    rw [hat] at hs
    exact hs
  | unlimited hat hl | granted hat hl hr | limited hat hl hr | slept hat hl hr =>
    rw [hat.holds.2.2.2] at hs
    exact hs
  | started hat hp =>
    rw [hat] at hs
    cases hp with
    | unguarded hb => exact hs
    | granted hb hr =>
      rintro _ ⟨⟩
      exact (hs _ hb).granted hr
  | refused hat hb hr =>
    rw [hat] at hs
    rintro _ ⟨⟩
    exact (hs _ hb).refused hr
  | @ended a r s' env' c' hat hends hd =>
    rw [hat] at hs
    have hcounted := Lent.counted hs r.isOk now r
    cases hd with
    | done hok hrejected => exact hcounted
    | again hr hrejected => exact hcounted

/-! ### The balance of a stack -/

/-- The layers have lent exactly what calls in these places hold. -/
structure Balanced (s : Stack) (places : List (Phase ε α)) : Prop where
  seated : s.Seated (places.countP Phase.holdsSlot) (places.filterMap Phase.ticket?)
  asleep : s.Asleep (places.countP Phase.isThrottled)
  lent : s.Lent (places.filterMap Phase.permit?)

/-- The balance with one more call. -/
theorem balanced_cons_iff : s.Balanced (place :: rest) ↔
    s.Seated (rest.countP Phase.holdsSlot + place.holdsSlot.toNat)
      (place.ticket?.toList ++ rest.filterMap Phase.ticket?) ∧
    s.Asleep (rest.countP Phase.isThrottled + place.isThrottled.toNat) ∧
    s.Lent (place.permit?.toList ++ rest.filterMap Phase.permit?) := by
  rw [← countP_cons_toNat, ← filterMap_cons_toList, ← countP_cons_toNat, ← filterMap_cons_toList]
  exact ⟨fun h ↦ ⟨h.seated, h.asleep, h.lent⟩, fun h ↦ ⟨h.1, h.2.1, h.2.2⟩⟩

/-- In which order the calls are listed does not matter. -/
theorem Balanced.perm (h : s.Balanced places) {places' : List (Phase ε α)}
    (hp : places.Perm places') : s.Balanced places' where
  seated b hb := hp.countP_eq Phase.holdsSlot ▸ (h.seated b hb).perm (hp.filterMap _)
  asleep l hl := hp.countP_eq Phase.isThrottled ▸ h.asleep l hl
  lent b hb := (h.lent b hb).perm (hp.filterMap _)

/-- Nobody holds anything of a new stack. -/
theorem balanced_new (name : String) (config : StackConfig) (start : Nat) :
    (new name config start).Balanced ([] : List (Phase ε α)) where
  seated b hb := by
    obtain ⟨k, _, rfl⟩ := Option.map_eq_some_iff.mp hb
    exact Bulkhead.seats_new _ _
  asleep l hl := by
    obtain ⟨k, _, rfl⟩ := Option.map_eq_some_iff.mp hl
    rfl
  lent b hb := by
    obtain ⟨k, _, rfl⟩ := Option.map_eq_some_iff.mp hb
    exact Breaker.owed_new _ _ _

/-- A call that has nothing does not matter. -/
theorem balanced_cons_idle (hidle : place.isIdle = true) :
    s.Balanced (place :: rest) ↔ s.Balanced rest := by
  rw [balanced_cons_iff]
  cases place with
  | arriving | finished r =>
    exact ⟨fun h ↦ ⟨h.1, h.2.1, h.2.2⟩, fun h ↦ ⟨h.seated, h.asleep, h.lent⟩⟩
  | queued ticket | admitted | throttled since wakeAt | preparing number | attempting a
  | pausing number wakeAt => cases hidle

/-- A step of a call keeps the balance. -/
theorem Balanced.moved (h : s.Balanced (c.phase :: rest))
    (hm : Moved op now s env c s' env' c') : s'.Balanced (c'.phase :: rest) := by
  rw [balanced_cons_iff] at h ⊢
  obtain ⟨hseated, hasleep, hlent⟩ := h
  exact ⟨hseated.moved hm, hasleep.moved hm, hlent.moved hm⟩

/-- A call that is taken away leaves the others balanced. -/
theorem Balanced.drop (h : s.Balanced (c.phase :: rest)) (now : Nat) :
    (s.drop c now).Balanced rest := by
  cases hat : c.phase with
  | arriving | finished r =>
    rw [hat, balanced_cons_idle rfl] at h
    simp only [Stack.drop, hat]
    exact h
  | queued ticket =>
    rw [hat, balanced_cons_iff] at h
    simp only [Stack.drop, hat]
    refine ⟨fun b' hb' ↦ ?_, h.2.1, h.2.2⟩
    obtain ⟨b, hb, rfl⟩ := Option.map_eq_some_iff.mp hb'
    exact (h.1 b hb).abandon
  | throttled since wakeAt =>
    rw [hat, balanced_cons_iff] at h
    simp only [Stack.drop, hat]
    refine ⟨Seated.freeSlot h.1, fun l' hl' ↦ ?_, h.2.2⟩
    obtain ⟨l, hl, rfl⟩ := Option.map_eq_some_iff.mp hl'
    exact Nat.sub_eq_of_eq_add (h.2.1 l hl)
  | attempting a =>
    rw [hat, balanced_cons_iff] at h
    cases hp : a.permit? with
    | none =>
      simp only [Stack.drop, hat, hp]
      refine ⟨Seated.freeSlot h.1, h.2.1, ?_⟩
      have hlent := h.2.2
      rw [Phase.permit?, hp] at hlent
      exact hlent
    | some p =>
      simp only [Stack.drop, hat, hp]
      refine ⟨Seated.freeSlot h.1, h.2.1, fun b' hb' ↦ ?_⟩
      obtain ⟨b, hb, rfl⟩ := Option.map_eq_some_iff.mp hb'
      have howed := h.2.2 b hb
      rw [Phase.permit?, hp] at howed
      exact Breaker.Owed.release howed
  | admitted | preparing number | pausing number wakeAt =>
    rw [hat, balanced_cons_iff] at h
    simp only [Stack.drop, hat]
    exact ⟨Seated.freeSlot h.1, h.2.1, h.2.2⟩

/-- Closing admission keeps the balance. -/
theorem Balanced.close (h : s.Balanced places) : s.close.Balanced places where
  seated b' hb' := by
    obtain ⟨b, hb, rfl⟩ := Option.map_eq_some_iff.mp hb'
    exact (h.seated b hb).close
  asleep := h.asleep
  lent := h.lent

/-- Looking at the statistics keeps the balance. -/
theorem Balanced.observe (h : s.Balanced places) (now : Nat) :
    (s.observe now).1.Balanced places where
  seated := h.seated
  asleep l' hl' := by
    obtain ⟨_, hseen, rfl⟩ := Option.map_eq_some_iff.mp hl'
    obtain ⟨l, hl, rfl⟩ := Option.map_eq_some_iff.mp hseen
    exact (l.waiting_refresh now).trans (h.asleep l hl)
  lent := h.lent

/-- What leaves the permits of a breaker out keeps the balance. -/
theorem Balanced.mapBreaker (h : s.Balanced places) {f : Breaker → Breaker}
    (hf : ∀ b permits, b.Owed permits → (f b).Owed permits) : (s.mapBreaker f).Balanced places where
  seated := h.seated
  asleep := h.asleep
  lent b' hb' := by
    obtain ⟨b, hb, rfl⟩ := Option.map_eq_some_iff.mp hb'
    exact hf b _ (h.lent b hb)

end Stack

end GuardedDispatch
