import GuardedDispatch.Policy.Stack

/-!
# What a step inside the policies does

A step of a call under a policy stack is one of fourteen: at the bulkhead it passes, is seated, is
turned away, joins the queue, gets the slot it waited for or gives up; at the rate limiter it
passes, is granted a permit, is limited or goes to sleep; an attempt starts, is refused or ends; a
pause is over. One relation names them with everything each can rely on and everything it changes.
-/

namespace GuardedDispatch.Stack

variable {σ ε α : Type}

/-! ### After an attempt -/

/-- Counts a call in the retry policy, if there is one. -/
def noted (s : Stack) (number : Nat) (ok : Bool) : Stack :=
  { s with retries? := s.retries?.map (·.count number ok) }

/-- What can follow the result of an attempt: the call is over with a result that is as good, and
with that very result if it is a rejection, or it pauses after a failure that is none. -/
inductive Decided (s : Stack) (c : Call ε α) (number now : Nat) (r : Except (PolicyFailure ε) α) :
    Stack → Call ε α → Prop
  | done {r' : Except (PolicyFailure ε) α} (hok : r'.isOk = r.isOk)
      (hrejected : ∀ e, r = .error e → e.isRejection = true → r' = r) :
      Decided s c number now r (s.noted number r.isOk).freeSlot { c with phase := .finished r' }
  | again {wakeAt : Nat} {e : PolicyFailure ε} (hr : r = .error e)
      (hrejected : e.isRejection = false) :
      Decided s c number now r s { c with phase := .pausing number wakeAt }

/-- Deciding what follows an attempt does one of the two. -/
theorem decided_afterAttempt (eligible : PolicyFailure ε → Bool) (s : Stack) (c : Call ε α)
    (number now : Nat) (r : Except (PolicyFailure ε) α) :
    Decided s c number now r (s.afterAttempt eligible c number now r).1
      (s.afterAttempt eligible c number now r).2 := by
  unfold afterAttempt
  split
  · next hnone =>
    -- without retry settings there is no retry policy that could count
    have hr : s.retries? = none := by
      cases hretries : s.retries? with
      | none => rfl
      | some p => simp [retryConfig?, hretries] at hnone
    have hs : s.noted number r.isOk = s := by
      rw [noted, hr, Option.map_none, ← hr]
    have hdone : Decided s c number now r (s.noted number r.isOk).freeSlot
        { c with phase := .finished r } := .done rfl fun _ _ _ ↦ rfl
    rw [hs] at hdone
    exact hdone
  · next config hsome =>
    cases r with
    | ok value => exact .done rfl fun _ he ↦ nomatch he
    | error e =>
      simp only [Retry.judge]
      by_cases hend : (e.isRejection || !eligible e) = true
      · simp only [hend, if_true]
        exact .done rfl fun _ _ _ ↦ rfl
      · simp only [hend]
        have hrejected : e.isRejection = false := by
          cases he : e.isRejection with
          | false => rfl
          | true => simp [he] at hend
        by_cases hlast : config.attempts ≤ number
        · simp only [hlast, if_true]
          refine .done rfl fun e' he' hrej ↦ ?_
          cases he'
          rw [hrejected] at hrej
          cases hrej
        · simp only [hlast, if_false]
          exact .again rfl hrejected

/-! ### The steps of a call -/

/-- Where a call asks the rate limiter: it has just been admitted, or its sleep is over. -/
inductive Asking (now : Nat) : Phase ε α → Nat → Bool → Prop
  | fresh : Asking now .admitted now false
  | again {since wakeAt : Nat} (hdue : wakeAt ≤ now) :
      Asking now (.throttled since wakeAt) since true

/-- Under which permission an attempt can start: none is needed without a breaker, and else the
breaker grants one. -/
inductive Entitled (now : Nat) (s : Stack) : Stack → Option CallPermit → Prop
  | unguarded (hb : s.breaker? = none) : Entitled now s s none
  | granted {b b' : Breaker} {p : CallPermit} (hb : s.breaker? = some b)
      (hr : b.request now = (b', some p)) : Entitled now s { s with breaker? := some b' } (some p)

/-- How a running attempt can end: its operation finishes, or its deadline expires. -/
inductive Ends (op : Operation σ ε α) (now : Nat) (s : Stack) (env : σ) (o : CallOptions)
    (a : Attempt) : σ → Except (PolicyFailure ε) α → Prop
  | finished (hdue : reached now a.ends? = true) :
      Ends op now s env o a (op.finish env a.ticket).1 (op.finish env a.ticket).2
  | expired (hearly : reached now a.ends? = false) (hdue : reached now a.deadline? = true) :
      Ends op now s env o a env (.error (.timedOut s.timeLimiterName ((s.timeout? o).getD 0)))

/-- A stack that has taken in the result of an attempt. -/
def counted (s : Stack) (a : Attempt) (ok : Bool) (now : Nat) (r : Except (PolicyFailure ε) α) :
    Stack :=
  { s with
    timeLimiter? := s.timeLimiter?.map (·.count r)
    breaker? := s.breaker?.map fun b ↦
      a.permit?.elim b fun p ↦ b.complete p (now - a.began) (!ok) now }

/-- What a step of a call does to the stack, to the surroundings of its operation and to the call
itself. -/
inductive Moved (op : Operation σ ε α) (now : Nat) (s : Stack) (env : σ) (c : Call ε α) :
    Stack → σ → Call ε α → Prop
  | unguarded (hat : c.phase = .arriving) (hb : s.bulkhead? = none) :
      Moved op now s env c s env { c with phase := .admitted }
  | seated {b b' : Bulkhead} (hat : c.phase = .arriving) (hb : s.bulkhead? = some b)
      (hr : b.request now = (b', .admitted)) :
      Moved op now s env c { s with bulkhead? := some b' } env { c with phase := .admitted }
  | turnedAway {b b' : Bulkhead} (hat : c.phase = .arriving) (hb : s.bulkhead? = some b)
      (hr : b.request now = (b', .rejected)) :
      Moved op now s env c { s with bulkhead? := some b' } env
        { c with phase := .finished (.error b'.rejection) }
  | queued {ticket : Nat} {b b' : Bulkhead} (hat : c.phase = .arriving) (hb : s.bulkhead? = some b)
      (hr : b.request now = (b', .wait ticket)) :
      Moved op now s env c { s with bulkhead? := some b' } env { c with phase := .queued ticket }
  | claimed {ticket : Nat} {b b' : Bulkhead} (hat : c.phase = .queued ticket)
      (hb : s.bulkhead? = some b) (hr : b.claim? ticket now = some (b', true)) :
      Moved op now s env c { s with bulkhead? := some b' } env { c with phase := .admitted }
  | gaveUp {ticket : Nat} {b b' : Bulkhead} (hat : c.phase = .queued ticket)
      (hb : s.bulkhead? = some b) (hr : b.claim? ticket now = some (b', false)) :
      Moved op now s env c { s with bulkhead? := some b' } env
        { c with phase := .finished (.error b'.rejection) }
  | unlimited {since : Nat} {asleep : Bool} (hat : Asking now c.phase since asleep)
      (hl : s.rateLimiter? = none) : Moved op now s env c s env { c with phase := .preparing 1 }
  | granted {since : Nat} {asleep : Bool} {l l' : RateLimiter}
      (hat : Asking now c.phase since asleep)
      (hl : s.rateLimiter? = some l) (hr : l.ask since now = (l', .granted)) :
      Moved op now s env c
        { s with rateLimiter? := some (if asleep then l'.leaveSleep since now else l') } env
        { c with phase := .preparing 1 }
  | limited {since : Nat} {asleep : Bool} {l l' : RateLimiter}
      (hat : Asking now c.phase since asleep)
      (hl : s.rateLimiter? = some l) (hr : l.ask since now = (l', .rejected)) :
      Moved op now s env c
        (freeSlot { s with rateLimiter? := some (if asleep then l'.leaveSleep since now else l') })
        env { c with phase := .finished (.error l'.rejection) }
  | slept {since wakeAt : Nat} {asleep : Bool} {l l' : RateLimiter}
      (hat : Asking now c.phase since asleep)
      (hl : s.rateLimiter? = some l) (hr : l.ask since now = (l', .sleep wakeAt)) :
      Moved op now s env c
        { s with rateLimiter? := some (if asleep then l' else l'.enterSleep) } env
        { c with phase := .throttled since wakeAt }
  | started {number : Nat} {s' : Stack} {permit? : Option CallPermit} {ends? deadline? : Option Nat}
      (hat : c.phase = .preparing number) (hp : Entitled now s s' permit?) :
      Moved op now s env c s' (op.start env number).1
        { c with
          prepared := c.prepared + 1
          begun := c.begun ++ [now]
          phase := .attempting
            { number, ticket := (op.start env number).2.ticket, permit?, began := now, ends?,
              deadline? } }
  | refused {number : Nat} {b b' : Breaker} (hat : c.phase = .preparing number)
      (hb : s.breaker? = some b) (hr : b.request now = (b', none)) :
      Moved op now s env c (noted { s with breaker? := some b' } number false).freeSlot env
        { c with prepared := c.prepared + 1, phase := .finished (.error b'.refusal) }
  | ended {a : Attempt} {r : Except (PolicyFailure ε) α} {s' : Stack} {env' : σ} {c' : Call ε α}
      (hat : c.phase = .attempting a) (hends : Ends op now s env c.options a env' r)
      (hd : Decided (s.counted a r.isOk now r) c a.number now r s' c') :
      Moved op now s env c s' env' c'
  | resumed {number wakeAt : Nat} (hat : c.phase = .pausing number wakeAt) (hdue : wakeAt ≤ now) :
      Moved op now s env c s env { c with phase := .preparing (number + 1) }

variable {op : Operation σ ε α} {eligible : PolicyFailure ε → Bool} {now since number : Nat}
  {s s' : Stack} {env env' : σ} {c c' : Call ε α}

/-- Throttling a call where it asks does one of the four. -/
private theorem moved_throttle {asleep : Bool} (op : Operation σ ε α) (s : Stack) (env : σ)
    (hat : Asking now c.phase since asleep) :
    Moved op now s env c (s.throttle c since now asleep).1 env
      (s.throttle c since now asleep).2 := by
  unfold throttle
  split
  · next hl => exact .unlimited hat hl
  · next l hl =>
    cases hr : l.ask since now with
    | mk l' answer =>
      cases answer with
      | granted => exact .granted hat hl hr
      | rejected => exact .limited hat hl hr
      | sleep wakeAt => exact .slept hat hl hr

/-- The end of an attempt is counted before what follows is decided. -/
theorem endAttempt_eq (eligible : PolicyFailure ε → Bool) (s : Stack) (c : Call ε α) (a : Attempt)
    (now : Nat) (r : Except (PolicyFailure ε) α) :
    s.endAttempt eligible c a now r =
      (s.counted a r.isOk now r).afterAttempt eligible c a.number now r := by
  cases hp : a.permit? with
  | none => cases hb : s.breaker? <;> simp [endAttempt, counted, hp, hb]
  | some p => simp [endAttempt, counted, mapBreaker, hp]

/-- The end of an attempt is counted, and then decided upon. -/
private theorem decided_endAttempt (eligible : PolicyFailure ε → Bool) (s : Stack) (c : Call ε α)
    (a : Attempt) (now : Nat) (r : Except (PolicyFailure ε) α) :
    Decided (s.counted a r.isOk now r) c a.number now r (s.endAttempt eligible c a now r).1
      (s.endAttempt eligible c a now r).2 := by
  rw [endAttempt_eq]
  exact decided_afterAttempt eligible (s.counted a r.isOk now r) c a.number now r

/-- The beginning of an attempt starts it or has it refused. -/
private theorem moved_beginAttempt (now : Nat) (op : Operation σ ε α)
    (eligible : PolicyFailure ε → Bool) (s : Stack) (env : σ) (hat : c.phase = .preparing number) :
    Moved op now s env c (s.beginAttempt op eligible env c number now).1
      (s.beginAttempt op eligible env c number now).2.1
      (s.beginAttempt op eligible env c number now).2.2 := by
  cases hb : s.breaker? with
  | none =>
    simp only [beginAttempt, hb]
    exact .started hat (.unguarded hb)
  | some b =>
    cases hr : b.request now with
    | mk b' permit? =>
      cases permit? with
      | some p =>
        simp only [beginAttempt, hb, hr]
        exact .started hat (.granted hb hr)
      | none =>
        have hd := decided_afterAttempt eligible { s with breaker? := some b' }
          { c with prepared := c.prepared + 1 } number now (.error b'.refusal)
        simp only [beginAttempt, hb, hr]
        generalize afterAttempt eligible { s with breaker? := some b' }
          { c with prepared := c.prepared + 1 } number now (.error b'.refusal) = next at hd ⊢
        obtain ⟨s', c'⟩ := next
        cases hd with
        | done hok hrejected =>
          cases hrejected _ rfl rfl
          exact .refused hat hb hr
        | again he hrejected =>
          cases he
          cases hrejected

/-- Every step of a call is one of the fourteen. -/
theorem moved_of_step? (h : s.step? op eligible now env c = some (s', env', c')) :
    Moved op now s env c s' env' c' := by
  cases hat : c.phase with
  | arriving =>
    simp only [step?, hat] at h
    split at h
    · next hb =>
      cases h
      exact .unguarded hat hb
    · next b hb =>
      split at h
      · next b' hr =>
        cases h
        exact .seated hat hb hr
      · next b' hr =>
        cases h
        exact .turnedAway hat hb hr
      · next b' ticket hr =>
        cases h
        exact .queued hat hb hr
  | queued ticket =>
    simp only [step?, hat, Option.bind_eq_bind, Option.bind_eq_some_iff] at h
    obtain ⟨b, hb, ⟨b', seated⟩, hr, h⟩ := h
    cases seated with
    | true =>
      cases h
      exact .claimed hat hb hr
    | false =>
      cases h
      exact .gaveUp hat hb hr
  | admitted =>
    simp only [step?, hat] at h
    cases h
    exact moved_throttle op s env (hat ▸ .fresh)
  | throttled since wakeAt =>
    simp only [step?, hat] at h
    split at h
    · cases h
    · next hdue =>
      cases h
      exact moved_throttle op s env (hat ▸ .again (Nat.le_of_not_lt hdue))
  | preparing number =>
    have hm := moved_beginAttempt now op eligible s env hat
    simp only [step?, hat, Option.some.injEq] at h
    rw [h] at hm
    exact hm
  | attempting a =>
    simp only [step?, hat] at h
    split at h
    · next hdue =>
      cases h
      exact .ended hat (.finished hdue) (decided_endAttempt eligible s c a now _)
    · next hearly =>
      split at h
      · next hdue =>
        cases h
        exact .ended hat (.expired (Bool.eq_false_iff.mpr hearly) hdue)
          (decided_endAttempt eligible s c a now _)
      · cases h
  | pausing number wakeAt =>
    simp only [step?, hat] at h
    split at h
    · cases h
    · next hdue =>
      cases h
      exact .resumed hat (Nat.le_of_not_lt hdue)
  | finished r =>
    simp only [step?, hat] at h
    cases h

/-- A step of a call changes the surroundings only by starting or by finishing its operation. -/
theorem Moved.env_eq (h : Moved op now s env c s' env' c') :
    env' = env ∨ (∃ number, env' = (op.start env number).1) ∨
      ∃ ticket, env' = (op.finish env ticket).1 := by
  cases h with
  | unguarded hat hb | seated hat hb hr | turnedAway hat hb hr | queued hat hb hr
  | claimed hat hb hr | gaveUp hat hb hr | unlimited hat hl | granted hat hl hr | limited hat hl hr
  | slept hat hl hr | refused hat hb hr | resumed hat hdue => exact .inl rfl
  | started hat hp => exact .inr (.inl ⟨_, rfl⟩)
  | ended hat hends hd =>
    cases hends with
    | finished hdue => exact .inr (.inr ⟨_, rfl⟩)
    | expired hearly hdue => exact .inl rfl

/-! ### Surroundings that can be seen as others -/

/-- A step of a call is the same in surroundings that can be seen as others, in which the operation
does the same. -/
theorem step?_map {τ : Type} {op : Operation σ ε α} {seen : Operation τ ε α} (f : σ → τ)
    (hstart : ∀ env number, seen.start (f env) number = (op.start env number).map f id)
    (hfinish : ∀ env ticket, seen.finish (f env) ticket = (op.finish env ticket).map f id)
    (eligible : PolicyFailure ε → Bool) (now : Nat) (s : Stack) (env : σ) (c : Call ε α) :
    s.step? seen eligible now (f env) c =
      (s.step? op eligible now env c).map fun r ↦ (r.1, f r.2.1, r.2.2) := by
  cases hat : c.phase with
  | arriving =>
    simp only [step?, hat]
    split
    · rfl
    · split <;> rfl
  | queued ticket =>
    simp only [step?, hat]
    cases hb : s.bulkhead? with
    | none => rfl
    | some b =>
      simp only [Option.bind_eq_bind, Option.bind_some]
      cases hr : b.claim? ticket now with
      | none => rfl
      | some answer =>
        obtain ⟨b', seated⟩ := answer
        cases seated with
        | true => rfl
        | false => rfl
  | admitted =>
    simp only [step?, hat, Option.map_some]
  | throttled since wakeAt =>
    simp only [step?, hat]
    split <;> rfl
  | preparing number =>
    simp only [step?, hat, Option.map_some, beginAttempt, hstart, Prod.map_fst, Prod.map_snd, id]
    split
    · rfl
    · split <;> rfl
  | attempting a =>
    simp only [step?, hat, hfinish, Prod.map_fst, Prod.map_snd, id]
    split
    · rfl
    · split <;> rfl
  | pausing number wakeAt =>
    simp only [step?, hat]
    split <;> rfl
  | finished r =>
    simp only [step?, hat, Option.map_none]

/-! ### The layers there are -/

/-- Which layers a stack has. -/
def layout (s : Stack) : Bool × Bool × Bool × Bool × Bool :=
  (s.bulkhead?.isSome, s.rateLimiter?.isSome, s.retries?.isSome, s.breaker?.isSome,
    s.timeLimiter?.isSome)

/-- Handing a slot back keeps the layers. -/
@[simp] theorem layout_freeSlot (s : Stack) : s.freeSlot.layout = s.layout := by
  simp only [layout, freeSlot, Option.isSome_map]

/-- Counting a call keeps the layers. -/
@[simp] theorem layout_noted (s : Stack) (number : Nat) (ok : Bool) :
    (s.noted number ok).layout = s.layout := by
  simp only [layout, noted, Option.isSome_map]

/-- Taking in a result keeps the layers. -/
@[simp] theorem layout_counted (s : Stack) (a : Attempt) (ok : Bool) (now : Nat)
    (r : Except (PolicyFailure ε) α) : (s.counted a ok now r).layout = s.layout := by
  simp only [layout, counted, Option.isSome_map]

/-- A step of a call keeps the layers. -/
theorem Moved.layout_eq (h : Moved op now s env c s' env' c') : s'.layout = s.layout := by
  cases h with
  | unguarded hat hb | unlimited hat hl | resumed hat hdue => rfl
  | seated hat hb hr | turnedAway hat hb hr | queued hat hb hr | claimed hat hb hr
  | gaveUp hat hb hr => simp only [layout, hb, Option.isSome_some]
  | granted hat hl hr | slept hat hl hr => simp only [layout, hl, Option.isSome_some]
  | limited hat hl hr =>
    rw [layout_freeSlot]
    simp only [layout, hl, Option.isSome_some]
  | started hat hp =>
    cases hp with
    | unguarded hb => rfl
    | granted hb hr => simp only [layout, hb, Option.isSome_some]
  | refused hat hb hr =>
    rw [layout_freeSlot, layout_noted]
    simp only [layout, hb, Option.isSome_some]
  | ended hat hends hd =>
    cases hd with
    | done hok hrejected => rw [layout_freeSlot, layout_noted, layout_counted]
    | again hr hrejected => rw [layout_counted]

/-- Taking a call away keeps the layers. -/
theorem layout_drop (s : Stack) (c : Call ε α) (now : Nat) : (s.drop c now).layout = s.layout := by
  unfold drop
  split
  · rfl
  · rfl
  · simp only [layout, Option.isSome_map]
  · simp only [layout, freeSlot, mapLimiter, Option.isSome_map]
  · split
    · simp only [layout, freeSlot, mapBreaker, Option.isSome_map]
    · exact s.layout_freeSlot
  · exact s.layout_freeSlot
  · exact s.layout_freeSlot
  · exact s.layout_freeSlot

/-- Taking a call away leaves the name, the retry policy and the time limiter alone. -/
theorem inner_drop (s : Stack) (c : Call ε α) (now : Nat) :
    (s.drop c now).name = s.name ∧ (s.drop c now).retries? = s.retries? ∧
      (s.drop c now).timeLimiter? = s.timeLimiter? := by
  unfold drop
  split
  · exact ⟨rfl, rfl, rfl⟩
  · exact ⟨rfl, rfl, rfl⟩
  · exact ⟨rfl, rfl, rfl⟩
  · exact ⟨rfl, rfl, rfl⟩
  · split <;> exact ⟨rfl, rfl, rfl⟩
  · exact ⟨rfl, rfl, rfl⟩
  · exact ⟨rfl, rfl, rfl⟩
  · exact ⟨rfl, rfl, rfl⟩

end GuardedDispatch.Stack
