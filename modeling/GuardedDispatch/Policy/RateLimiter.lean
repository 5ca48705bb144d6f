import GuardedDispatch.Policy.Backoff
import GuardedDispatch.Policy.Failure

/-!
# The rate limiter

Each period has a budget of permits, refilled at the first look in a later period. A caller that
finds none left sleeps until the next period, unless that lies beyond its timeout.

The budget counts nanoseconds, and its count within a period wraps at sixty-four bits. The limiter
around it adds its counters; it is configured in milliseconds, and so is the clock of its callers.
-/

namespace GuardedDispatch

/-- A budget of permits a period and how long a caller may wait for one. The durations are
milliseconds of sixty-four bits, so that the clock can tell every moment that they are added to. -/
structure RateLimiterConfig where
  limit : Nat := 100
  period : Nat := 1000
  timeout : Nat := 2000
  deriving DecidableEq, Repr, Inhabited

/-- Nanoseconds in a millisecond. -/
def nanosPerMilli : Nat := 1000000

/-- The nanoseconds in some milliseconds. -/
def nanos (millis : Nat) : Nat := nanosPerMilli * millis

/-- The first whole millisecond at or after a count of nanoseconds. -/
def ceilMilli (count : Nat) : Nat := (nanosPerMilli - 1 + count) / nanosPerMilli

/-- What a caller that asks for a permit is told. -/
inductive PermitAnswer where
  | granted
  | rejected
  | sleep (until_ : Nat)
  deriving DecidableEq, Repr

/-! ### The budget of a period, in nanoseconds -/

/-- What a budget goes by: the permits of a period, its length, and how long a caller may wait. -/
structure Pace where
  limit : Nat
  period : Nat
  timeout : Nat
  deriving DecidableEq, Repr, Inhabited

/-- The budget of the running period: when the period started, and the permits left in it. -/
structure Budget where
  start : Nat
  permits : Nat
  deriving DecidableEq, Repr, Inhabited

namespace Budget

/-- The full budget of a first period that starts now. -/
def full (pace : Pace) (now : Nat) : Budget := ⟨now, pace.limit⟩

/-- Moves to the period that `now` lies in and refills the budget if that is a later one. Without a
period the budget is refilled at every look. -/
def refresh (b : Budget) (pace : Pace) (now : Nat) : Budget :=
  let elapsed := now - b.start
  if pace.period = 0 then { b with permits := pace.limit }
  else if pace.period ≤ elapsed then
    { start := now - elapsed % pace.period % (wordMax + 1), permits := pace.limit }
  else b

/-- Takes a permit if one is left in the running period. -/
def take (b : Budget) (pace : Pace) (now : Nat) : Budget × Bool :=
  let b := b.refresh pace now
  if 0 < b.permits then ({ b with permits := b.permits - 1 }, true) else (b, false)

/-- The time until the next period, at least one millisecond. -/
def untilNext (b : Budget) (pace : Pace) (now : Nat) : Nat :=
  max (b.start + pace.period - now) nanosPerMilli

/-- Asks for a permit on behalf of a caller that began at `since`: granted, rejected because the
next period starts after the caller's timeout, or to sleep until then. -/
def ask (b : Budget) (pace : Pace) (since now : Nat) : Budget × PermitAnswer :=
  match b.take pace now with
  | (b, true) => (b, .granted)
  | (b, false) =>
    let wakeAt := now + b.untilNext pace now
    if since + pace.timeout < wakeAt then (b, .rejected) else (b, .sleep wakeAt)

end Budget

/-! ### The limiter -/

/-- The pace that a configuration stands for. -/
def RateLimiterConfig.pace (c : RateLimiterConfig) : Pace :=
  ⟨c.limit, nanos c.period, nanos c.timeout⟩

/-- A rate limiter: the start of the running period in nanoseconds, the permits left in it, the
callers asleep, and lifetime counters. -/
structure RateLimiter where
  name : String
  config : RateLimiterConfig
  periodStart : Nat
  permits : Nat
  waiting : Nat := 0
  permitted : Nat := 0
  rejected : Nat := 0
  totalWait : Nat := 0
  deriving DecidableEq, Repr

namespace RateLimiter

/-- A limiter whose first period starts now with a full budget. -/
def new (name : String) (config : RateLimiterConfig) (now : Nat) : RateLimiter :=
  { name, config, periodStart := nanos now, permits := config.limit }

/-- The budget of the running period. -/
def budget (l : RateLimiter) : Budget := ⟨l.periodStart, l.permits⟩

/-- Puts a budget in the place of the running one. -/
def withBudget (l : RateLimiter) (b : Budget) : RateLimiter :=
  { l with periodStart := b.start, permits := b.permits }

/-- Moves to the period that `now` lies in. -/
def refresh (l : RateLimiter) (now : Nat) : RateLimiter :=
  l.withBudget (l.budget.refresh l.config.pace (nanos now))

/-- Takes a permit if one is left in the running period. -/
def tryTake (l : RateLimiter) (now : Nat) : RateLimiter × Bool :=
  let (b, taken) := l.budget.take l.config.pace (nanos now)
  ({ l.withBudget b with permitted := l.permitted + taken.toNat }, taken)

/-- Asks for a permit on behalf of a caller that began at `since`: granted, rejected, or to sleep
until a whole millisecond. -/
def ask (l : RateLimiter) (since now : Nat) : RateLimiter × PermitAnswer :=
  let (b, answer) := l.budget.ask l.config.pace (nanos since) (nanos now)
  let l := l.withBudget b
  match answer with
  | .granted => ({ l with permitted := l.permitted + 1 }, .granted)
  | .rejected => ({ l with rejected := l.rejected + 1 }, .rejected)
  | .sleep wakeAt => (l, .sleep (ceilMilli wakeAt))

/-- Counts a caller among the sleepers. -/
def enterSleep (l : RateLimiter) : RateLimiter := { l with waiting := l.waiting + 1 }

/-- Takes a caller that began at `since` off the sleepers and adds up its wait. -/
def leaveSleep (l : RateLimiter) (since now : Nat) : RateLimiter :=
  { l with
    waiting := l.waiting - 1
    totalWait := (l.totalWait + nanos (now - since)) % (wordMax + 1) }

/-- The failure of a rejected caller. -/
def rejection {ε : Type} (l : RateLimiter) : PolicyFailure ε := .rateLimited l.name l.config.timeout

/-- The milliseconds that callers have slept in all. -/
def totalWaitMillis (l : RateLimiter) : Nat := l.totalWait / nanosPerMilli

end RateLimiter

/-- What a limiter reports about itself. -/
structure RateLimiterStats where
  available : Nat
  waiting : Nat
  permitted : Nat
  rejected : Nat
  totalWaitMillis : Nat
  deriving DecidableEq, Repr, Inhabited

namespace RateLimiterStats

/-- The statistics in one line. -/
def summary (s : RateLimiterStats) : String :=
  s!"RateLimiter({s.available} available, {s.waiting} waiting, {s.permitted} permitted, " ++
    s!"{s.rejected} rejected, {s.totalWaitMillis}ms waited)"

end RateLimiterStats

namespace RateLimiter

/-- Looks at the limiter, which moves it to the running period. -/
def observe (l : RateLimiter) (now : Nat) : RateLimiter × RateLimiterStats :=
  let l := l.refresh now
  (l, ⟨l.permits, l.waiting, l.permitted, l.rejected, l.totalWaitMillis⟩)

end RateLimiter

end GuardedDispatch
