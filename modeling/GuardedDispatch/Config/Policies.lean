import GuardedDispatch.Config.Setting
import GuardedDispatch.Policy.Stack

/-!
# Policy sections of a configuration

Each layer of a policy stack has a section that can be switched off. A connector can replace whole
sections of the defaults; a section it does not mention stays as it is there.
-/

namespace GuardedDispatch

open Number

/-- The circuit breaker section. -/
structure BreakerSection where
  enabled : Bool := true
  config : BreakerConfig := {}
  deriving DecidableEq, Repr, Inhabited

/-- The retry section. -/
structure RetrySection where
  enabled : Bool := true
  config : RetryConfig := {}
  deriving DecidableEq, Repr, Inhabited

/-- The bulkhead section. -/
structure BulkheadSection where
  enabled : Bool := true
  config : BulkheadConfig := {}
  deriving DecidableEq, Repr, Inhabited

/-- The rate limiter section. -/
structure RateLimiterSection where
  enabled : Bool := true
  config : RateLimiterConfig := {}
  deriving DecidableEq, Repr, Inhabited

/-- The time limiter section. -/
structure TimeLimiterSection where
  enabled : Bool := true
  config : TimeLimiterConfig := {}
  deriving DecidableEq, Repr, Inhabited

/-- The greatest number of attempts. -/
def maxAttemptsAllowed : Nat := 100

instance : Section BreakerSection where
  fresh := {}
  members := [
    .flag "enabled" (·.enabled) ({ · with enabled := · }),
    (Member.percentage "failure_rate_threshold" (·.config.failureRateThreshold)
      fun s x => { s with config.failureRateThreshold := x }).described
      "Failure percentage that opens the circuit",
    (Member.percentage "slow_call_rate_threshold" (·.config.slowCallRateThreshold)
      fun s x => { s with config.slowCallRateThreshold := x }).described
      "Slow-call percentage that opens the circuit",
    .count "slow_call_duration_threshold_ms" .word64 (·.config.slowCallDuration)
      fun s n => { s with config.slowCallDuration := n },
    .count "sliding_window_size" .size (·.config.slidingWindowSize)
      (fun s n => { s with config.slidingWindowSize := n }) 1,
    .count "minimum_number_of_calls" .size (·.config.minimumNumberOfCalls)
      (fun s n => { s with config.minimumNumberOfCalls := n }) 1,
    .count "wait_duration_in_open_state_ms" .word64 (·.config.waitInOpenState)
      fun s n => { s with config.waitInOpenState := n },
    .count "permitted_number_of_calls_in_half_open_state" .size (·.config.callsInHalfOpenState)
      (fun s n => { s with config.callsInHalfOpenState := n }) 1]

instance : Section RetrySection where
  fresh := {}
  members := [
    .flag "enabled" (·.enabled) ({ · with enabled := · }),
    (Member.count "max_attempts" .word32 (·.config.maxAttempts)
      (fun s n => { s with config.maxAttempts := n }) 1 (some maxAttemptsAllowed)).described
      "Total attempts including the first",
    (Member.count "wait_duration_ms" .word64 (·.config.backoff.initial)
      fun s n => { s with config.backoff.initial := n }).described "Wait before the second attempt",
    .factor "backoff_multiplier" (·.config.backoff.multiplier)
      fun s x => { s with config.backoff.multiplier := x },
    (Member.optionalCount "max_wait_duration_ms" (·.config.backoff.max?)
      fun s n => { s with config.backoff.max? := n }).described "Upper bound on any single wait"]

instance : Section BulkheadSection where
  fresh := {}
  members := [
    .flag "enabled" (·.enabled) ({ · with enabled := · }),
    .count "max_concurrent_calls" .size (·.config.maxConcurrent)
      (fun s n => { s with config.maxConcurrent := n }) 1,
    (Member.count "max_wait_duration_ms" .word64 (·.config.maxWait)
      fun s n => { s with config.maxWait := n }).described "Longest wait for a slot",
    (Member.count "max_waiting_calls" .size (·.config.maxWaiting)
      fun s n => { s with config.maxWaiting := n }).described "Callers allowed to queue for a slot"]

instance : Section RateLimiterSection where
  fresh := {}
  members := [
    .flag "enabled" (·.enabled) ({ · with enabled := · }),
    (Member.count "limit_for_period" .word32 (·.config.limit)
      (fun s n => { s with config.limit := n }) 1).described "Permits granted per refresh period",
    .count "limit_refresh_period_ms" .word64 (·.config.period)
      (fun s n => { s with config.period := n }) 1,
    (Member.count "timeout_duration_ms" .word64 (·.config.timeout)
      fun s n => { s with config.timeout := n }).described "Longest wait for a permit"]

instance : Section TimeLimiterSection where
  fresh := {}
  members := [
    .flag "enabled" (·.enabled) ({ · with enabled := · }),
    .count "timeout_duration_ms" .word64 (·.config.timeout)
      (fun s n => { s with config.timeout := n }) 1]

/-- The sections of all layers. -/
structure PolicySettings where
  breaker : BreakerSection := {}
  retry : RetrySection := {}
  bulkhead : BulkheadSection := {}
  rateLimiter : RateLimiterSection := {}
  timeLimiter : TimeLimiterSection := {}
  deriving DecidableEq, Repr, Inhabited

instance : Section PolicySettings where
  fresh := {}
  members := [
    .nested "circuit_breaker" "CircuitBreakerSettings" (·.breaker) ({ · with breaker := · }),
    .nested "retry" "RetrySettings" (·.retry) ({ · with retry := · }),
    .nested "bulkhead" "BulkheadSettings" (·.bulkhead) ({ · with bulkhead := · }),
    .nested "rate_limiter" "RateLimiterSettings" (·.rateLimiter) ({ · with rateLimiter := · }),
    .nested "time_limiter" "TimeLimiterSettings" (·.timeLimiter) ({ · with timeLimiter := · })]

/-- The sections that a connector replaces. -/
structure PolicyOverrides where
  breaker? : Option BreakerSection := none
  retries? : Option RetrySection := none
  bulkhead? : Option BulkheadSection := none
  rateLimiter? : Option RateLimiterSection := none
  timeLimiter? : Option TimeLimiterSection := none
  deriving DecidableEq, Repr, Inhabited

instance : Section PolicyOverrides where
  fresh := {}
  members := [
    .optionalNested "circuit_breaker" "CircuitBreakerSettings" (·.breaker?)
      ({ · with breaker? := · }),
    .optionalNested "retry" "RetrySettings" (·.retries?) ({ · with retries? := · }),
    .optionalNested "bulkhead" "BulkheadSettings" (·.bulkhead?) ({ · with bulkhead? := · }),
    .optionalNested "rate_limiter" "RateLimiterSettings" (·.rateLimiter?)
      ({ · with rateLimiter? := · }),
    .optionalNested "time_limiter" "TimeLimiterSettings" (·.timeLimiter?)
      ({ · with timeLimiter? := · })]

/-- The configuration of a section that is switched on. -/
def whenEnabled {α : Type} (enabled : Bool) (config : α) : Option α :=
  if enabled then some config else none

/-- Why policy sections are not acceptable. -/
inductive PolicyFault where
  | outOfRange (paths : List String)
  | windowTooShort (minimum window : Nat)
  deriving DecidableEq, Repr

namespace PolicySettings

/-- The stack of the sections that are switched on. -/
def stackConfig (p : PolicySettings) : StackConfig where
  bulkhead? := whenEnabled p.bulkhead.enabled p.bulkhead.config
  rateLimiter? := whenEnabled p.rateLimiter.enabled p.rateLimiter.config
  retries? := whenEnabled p.retry.enabled p.retry.config
  breaker? := whenEnabled p.breaker.enabled p.breaker.config
  timeLimiter? := whenEnabled p.timeLimiter.enabled p.timeLimiter.config

/-- The sections with those that are replaced. -/
def overlay (p : PolicySettings) (o : PolicyOverrides) : PolicySettings where
  breaker := o.breaker?.getD p.breaker
  retry := o.retries?.getD p.retry
  bulkhead := o.bulkhead?.getD p.bulkhead
  rateLimiter := o.rateLimiter?.getD p.rateLimiter
  timeLimiter := o.timeLimiter?.getD p.timeLimiter

/-- Accepts sections whose values are in range and whose breaker can see enough calls; a section
that is switched off is checked like any other. -/
def check (p : PolicySettings) : Except PolicyFault Unit :=
  let config := p.breaker.config
  match Section.faults p with
  | [] =>
    if config.slidingWindowSize < config.minimumNumberOfCalls then
      .error (.windowTooShort config.minimumNumberOfCalls config.slidingWindowSize)
    else .ok ()
  | paths => .error (.outOfRange paths)

/-- Numerical equality. -/
def agrees (a b : PolicySettings) : Bool :=
  a.breaker.enabled == b.breaker.enabled && a.breaker.config.agrees b.breaker.config &&
  a.retry.enabled == b.retry.enabled && a.retry.config.agrees b.retry.config &&
  a.bulkhead == b.bulkhead && a.rateLimiter == b.rateLimiter && a.timeLimiter == b.timeLimiter

end PolicySettings

/-- Whether two optional values are both missing or agree. -/
def bothAgree {α : Type} (agrees : α → α → Bool) : Option α → Option α → Bool
  | some a, some b => agrees a b
  | none, none => true
  | _, _ => false

/-- Numerical equality of overrides. -/
def PolicyOverrides.agrees (a b : PolicyOverrides) : Bool :=
  bothAgree (fun x y => x.enabled == y.enabled && x.config.agrees y.config) a.breaker? b.breaker? &&
  bothAgree (fun x y => x.enabled == y.enabled && x.config.agrees y.config) a.retries? b.retries? &&
  a.bulkhead? == b.bulkhead? && a.rateLimiter? == b.rateLimiter? && a.timeLimiter? == b.timeLimiter?

end GuardedDispatch
