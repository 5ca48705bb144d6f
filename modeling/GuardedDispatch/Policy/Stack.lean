import GuardedDispatch.Policy.Breaker
import GuardedDispatch.Policy.Bulkhead
import GuardedDispatch.Policy.RateLimiter
import GuardedDispatch.Policy.Retry
import GuardedDispatch.Policy.TimeLimiter

/-!
# The policy stack

Five layers around one operation, outermost first: bulkhead, rate limiter, retry, circuit breaker,
time limiter. A call is admitted once by the two outer layers and keeps its slot to the end; the
breaker and the deadline apply to each attempt. Every layer can be left out.

A call in progress is a value that says where it stands. `Stack.step?` moves one call from one
place to the next and touches the stack's shared state, and is `none` exactly while the call has to
wait, so any order in which calls take steps is a list of applications of it. `Stack.drop` takes a
call away wherever it stands.
-/

namespace GuardedDispatch

/-- The configuration of the five layers; a missing one is left out. -/
structure StackConfig where
  bulkhead? : Option BulkheadConfig := some {}
  rateLimiter? : Option RateLimiterConfig := some {}
  retries? : Option RetryConfig := some {}
  breaker? : Option BreakerConfig := some {}
  timeLimiter? : Option TimeLimiterConfig := some {}
  deriving DecidableEq, Repr, Inhabited

/-- The configuration without any layer. -/
def StackConfig.passthrough : StackConfig := ⟨none, none, none, none, none⟩

/-- What one call asks for instead of the stack's own settings. -/
structure CallOptions where
  retries? : Option RetryConfig := none
  timeout? : Option Nat := none
  deriving DecidableEq, Repr, Inhabited

/-- The layers with their state. -/
structure Stack where
  name : String
  bulkhead? : Option Bulkhead := none
  rateLimiter? : Option RateLimiter := none
  retries? : Option Retry := none
  breaker? : Option Breaker := none
  timeLimiter? : Option TimeLimiter := none
  deriving DecidableEq, Repr

/-- A started operation: how long it takes, if it ends at all, and the number it is known by. -/
structure Started where
  latency? : Option Nat := some 0
  ticket : Nat := 0
  deriving DecidableEq, Repr, Inhabited

/-- An operation over a shared state `σ`: starting it for an attempt changes the state and tells
how long it takes; finishing it, given its number, changes the state and gives the result. -/
structure Operation (σ ε α : Type) where
  start : σ → Nat → σ × Started
  finish : σ → Nat → σ × Except (PolicyFailure ε) α

/-- An attempt under way: its number, the number of its operation, the permission it runs under,
when it began, when its operation ends and when its deadline expires. -/
structure Attempt where
  number : Nat
  ticket : Nat
  permit? : Option CallPermit
  began : Nat
  ends? : Option Nat
  deadline? : Option Nat
  deriving DecidableEq, Repr

/-- Where a call stands. -/
inductive Phase (ε α : Type) where
  | arriving
  | queued (ticket : Nat)
  | admitted
  | throttled (since wakeAt : Nat)
  | preparing (attempt : Nat)
  | attempting (attempt : Attempt)
  | pausing (attempt wakeAt : Nat)
  | finished (result : Except (PolicyFailure ε) α)

/-- A call: where it stands, how often its operation was prepared, and when it began to run. -/
structure Call (ε α : Type) where
  options : CallOptions := {}
  phase : Phase ε α := .arriving
  prepared : Nat := 0
  begun : List Nat := []

namespace Phase

variable {ε α : Type}

/-- Whether a call standing here holds a slot, if there is a bulkhead. -/
def holdsSlot : Phase ε α → Bool
  | .arriving | .queued _ | .finished _ => false
  | _ => true

/-- The result of a finished call. -/
def result? : Phase ε α → Option (Except (PolicyFailure ε) α)
  | .finished r => some r
  | _ => none

end Phase

namespace Stack

variable {σ ε α : Type}

/-- A fresh stack; each layer is named after the stack. -/
def new (name : String) (config : StackConfig) (now : Nat) : Stack where
  name
  bulkhead? := config.bulkhead?.map (Bulkhead.new (name ++ "-bulkhead"))
  rateLimiter? := config.rateLimiter?.map (RateLimiter.new (name ++ "-rate-limiter") · now)
  retries? := config.retries?.map fun c => { name := name ++ "-retry", config := c }
  breaker? := config.breaker?.map (Breaker.new (name ++ "-circuit-breaker") · now)
  timeLimiter? := config.timeLimiter?.map fun c => { name := name ++ "-time-limiter", config := c }

/-- The deadline of each attempt: the call's own, else the limiter's. -/
def timeout? (s : Stack) (o : CallOptions) : Option Nat :=
  o.timeout? <|> s.timeLimiter?.map (·.config.timeout)

/-- The retry settings in effect: the call's own, else the stack's. -/
def retryConfig? (s : Stack) (o : CallOptions) : Option RetryConfig :=
  o.retries? <|> s.retries?.map (·.config)

/-- The name under which exhausted attempts are reported. -/
def retryName (s : Stack) : String := (s.retries?.map (·.name)).getD (s.name ++ "-retry")

/-- The name under which an expired deadline is reported. -/
def timeLimiterName (s : Stack) : String :=
  (s.timeLimiter?.map (·.name)).getD (s.name ++ "-time-limiter")

/-- Hands a call's slot back. -/
def freeSlot (s : Stack) : Stack := { s with bulkhead? := s.bulkhead?.map Bulkhead.freeSlot }

/-- Changes the limiter if there is one. -/
def mapLimiter (s : Stack) (f : RateLimiter → RateLimiter) : Stack :=
  { s with rateLimiter? := s.rateLimiter?.map f }

/-- Changes the breaker if there is one. -/
def mapBreaker (s : Stack) (f : Breaker → Breaker) : Stack :=
  { s with breaker? := s.breaker?.map f }

/-- Closes admission. -/
def close (s : Stack) : Stack := { s with bulkhead? := s.bulkhead?.map Bulkhead.close }

/-- Ends a call with a result and hands its slot back. -/
def finish (s : Stack) (c : Call ε α) (r : Except (PolicyFailure ε) α) : Stack × Call ε α :=
  (s.freeSlot, { c with phase := .finished r })

/-- Asks the limiter for a permit on behalf of a call that began to ask at `since`; `asleep` says
whether it already sleeps. -/
def throttle (s : Stack) (c : Call ε α) (since now : Nat) (asleep : Bool) : Stack × Call ε α :=
  match s.rateLimiter? with
  | none => (s, { c with phase := .preparing 1 })
  | some l =>
    let (l, answer) := l.ask since now
    let awake := if asleep then l.leaveSleep since now else l
    match answer with
    | .granted => ({ s with rateLimiter? := some awake }, { c with phase := .preparing 1 })
    | .rejected => finish { s with rateLimiter? := some awake } c (.error l.rejection)
    | .sleep wakeAt =>
      ({ s with rateLimiter? := some (if asleep then l else l.enterSleep) },
        { c with phase := .throttled since wakeAt })

/-- Decides what follows the result of an attempt. -/
def afterAttempt (eligible : PolicyFailure ε → Bool) (s : Stack) (c : Call ε α) (number now : Nat)
    (r : Except (PolicyFailure ε) α) : Stack × Call ε α :=
  match s.retryConfig? c.options with
  | none => finish s c r
  | some config =>
    match Retry.judge s.retryName config eligible number r with
    | .done r =>
      finish { s with retries? := s.retries?.map (·.count number r.isOk) } c r
    | .again wait => (s, { c with phase := .pausing number (now + wait) })

/-- Takes in the result of a running attempt: the limiter counts it, the breaker records it. -/
def endAttempt (eligible : PolicyFailure ε → Bool) (s : Stack) (c : Call ε α) (a : Attempt)
    (now : Nat) (r : Except (PolicyFailure ε) α) : Stack × Call ε α :=
  let s := { s with timeLimiter? := s.timeLimiter?.map (·.count r) }
  let s := match a.permit? with
    | some p => s.mapBreaker (·.complete p (now - a.began) (!r.isOk) now)
    | none => s
  afterAttempt eligible s c a.number now r

/-- Begins an attempt: its operation is prepared, then the breaker is asked, and only a permitted
attempt starts the operation. -/
def beginAttempt (op : Operation σ ε α) (eligible : PolicyFailure ε → Bool) (s : Stack) (env : σ)
    (c : Call ε α) (number now : Nat) : Stack × σ × Call ε α :=
  let c := { c with prepared := c.prepared + 1 }
  let run (s : Stack) (permit? : Option CallPermit) : Stack × σ × Call ε α :=
    let (env, started) := op.start env number
    (s, env, { c with
      begun := c.begun ++ [now]
      phase := .attempting
        { number, ticket := started.ticket, permit?, began := now
          ends? := started.latency?.map (now + ·)
          deadline? := (s.timeout? c.options).map (now + ·) } })
  match s.breaker? with
  | none => run s none
  | some b =>
    match b.request now with
    | (b, some p) => run { s with breaker? := some b } (some p)
    | (b, none) =>
      let (s, c) := afterAttempt eligible { s with breaker? := some b } c number now (.error b.refusal)
      (s, env, c)

/-- Whether a moment has come; one that never comes has not. -/
def reached (now : Nat) (moment? : Option Nat) : Bool := moment?.any (· ≤ now)

/-- The earlier of two moments, of which either may never come. -/
def earlier? : Option Nat → Option Nat → Option Nat
  | some a, some b => some (min a b)
  | a, b => a <|> b

/-- Moves a call on by one step at time `now`; `none` while it has to wait and once it is
finished. -/
def step? (op : Operation σ ε α) (eligible : PolicyFailure ε → Bool) (now : Nat)
    (s : Stack) (env : σ) (c : Call ε α) : Option (Stack × σ × Call ε α) :=
  match c.phase with
  | .finished _ => none
  | .arriving =>
    match s.bulkhead? with
    | none => some (s, env, { c with phase := .admitted })
    | some b =>
      match b.request now with
      | (b, .admitted) => some ({ s with bulkhead? := some b }, env, { c with phase := .admitted })
      | (b, .rejected) =>
        some ({ s with bulkhead? := some b }, env, { c with phase := .finished (.error b.rejection) })
      | (b, .wait ticket) =>
        some ({ s with bulkhead? := some b }, env, { c with phase := .queued ticket })
  | .queued ticket => do
    let b ← s.bulkhead?
    match ← b.claim? ticket now with
    | (b, true) => some ({ s with bulkhead? := some b }, env, { c with phase := .admitted })
    | (b, false) =>
      some ({ s with bulkhead? := some b }, env, { c with phase := .finished (.error b.rejection) })
  | .admitted =>
    let (s, c) := throttle s c now now false
    some (s, env, c)
  | .throttled since wakeAt =>
    if now < wakeAt then none
    else
      let (s, c) := throttle s c since now true
      some (s, env, c)
  | .preparing number => some (beginAttempt op eligible s env c number now)
  | .attempting a =>
    if reached now a.ends? then
      let (env, r) := op.finish env a.ticket
      let (s, c) := endAttempt eligible s c a now r
      some (s, env, c)
    else if reached now a.deadline? then
      let after := (s.timeout? c.options).getD 0
      let (s, c) := endAttempt eligible s c a now (.error (.timedOut s.timeLimiterName after))
      some (s, env, c)
    else none
  | .pausing number wakeAt =>
    if now < wakeAt then none else some (s, env, { c with phase := .preparing (number + 1) })

/-- The next moment at which a waiting call moves by itself. -/
def wakeAt? (s : Stack) (c : Call ε α) : Option Nat :=
  match c.phase with
  | .queued ticket => do
    let w ← (← s.bulkhead?).waiter? ticket
    some w.deadline
  | .throttled _ wakeAt | .pausing _ wakeAt => some wakeAt
  | .attempting a => earlier? a.ends? a.deadline?
  | _ => none

/-- Takes a call away where it stands: it leaves the queue or the sleepers, its unused permission
is given back and its slot is freed. -/
def drop (s : Stack) (c : Call ε α) (now : Nat) : Stack :=
  match c.phase with
  | .arriving | .finished _ => s
  | .queued ticket => { s with bulkhead? := s.bulkhead?.map (·.abandon ticket) }
  | .throttled since _ => (s.mapLimiter (·.leaveSleep since now)).freeSlot
  | .attempting a =>
    match a.permit? with
    | some p => (s.mapBreaker (·.release p)).freeSlot
    | none => s.freeSlot
  | .admitted | .preparing _ | .pausing .. => s.freeSlot

end Stack

/-- The statistics of the layers that are present. -/
structure StackStats where
  bulkhead? : Option BulkheadStats := none
  rateLimiter? : Option RateLimiterStats := none
  retries? : Option RetryStats := none
  breaker? : Option BreakerStats := none
  timeLimiter? : Option TimeLimiterStats := none
  deriving DecidableEq, Repr, Inhabited

/-- Looks at the statistics, which moves the limiter to its running period. -/
def Stack.observe (s : Stack) (now : Nat) : Stack × StackStats :=
  let seen := s.rateLimiter?.map (·.observe now)
  ({ s with rateLimiter? := seen.map (·.1) },
    { bulkhead? := s.bulkhead?.map (·.stats)
      rateLimiter? := seen.map (·.2)
      retries? := s.retries?.map (·.stats)
      breaker? := s.breaker?.map (·.stats)
      timeLimiter? := s.timeLimiter?.map (·.stats) })

end GuardedDispatch
