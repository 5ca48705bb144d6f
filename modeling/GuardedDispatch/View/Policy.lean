import GuardedDispatch.Json.Value
import GuardedDispatch.Number.Decimal
import GuardedDispatch.Policy.Stack

/-!
# JSON views of policies

How policy failures, configurations and statistics are shown to tools: one object a value, with
null for what is left out and six decimal places for rates and factors.
-/

namespace GuardedDispatch.View

open Number

/-- A binary number with six decimal places. -/
def real {f : Format} (x : Binary f) : Json := .text (x.fixedText 6)

/-- The view of an optional value, null where there is none. -/
def optional {α : Type} (view : α → Json) (x : Option α) : Json := x.elim .null view

/-- A policy failure: its kind and message, and the last attempt's failure of an exhausted one. -/
def policyFailure {ε : Type} (text : ε → String) (e : PolicyFailure ε) : Json :=
  let message := Json.text (e.message text)
  match e with
  | .bulkheadFull .. => .record [("type", .text "bulkhead_full"), ("message", message)]
  | .rateLimited .. => .record [("type", .text "rate_limited"), ("message", message)]
  | .circuitOpen .. => .record [("type", .text "circuit_open"), ("message", message)]
  | .timedOut .. => .record [("type", .text "timed_out"), ("message", message)]
  | .exhausted _ k last =>
    .record [("type", .text "retry_exhausted"), ("message", message), ("attempts", .nat k),
      ("last", policyFailure text last)]
  | .inner _ => .record [("type", .text "inner"), ("message", message)]

/-- A backoff with its first five waits. -/
def backoff (b : Backoff) : Json :=
  .record [("initial_ms", .nat b.initial), ("multiplier", real b.multiplier),
    ("max_ms", .nat? b.max?),
    ("delays", .list ([1, 2, 3, 4, 5].map fun n => .nat (b.delayAfter n)))]

/-- Retry settings. -/
def retryConfig (c : RetryConfig) : Json :=
  .record [("max_attempts", .nat c.maxAttempts), ("backoff", backoff c.backoff)]

/-- Bulkhead settings. -/
def bulkheadConfig (c : BulkheadConfig) : Json :=
  .record [("max_concurrent_calls", .nat c.maxConcurrent), ("max_wait_ms", .nat c.maxWait),
    ("max_waiting_calls", .nat c.maxWaiting)]

/-- Rate limiter settings. -/
def rateLimiterConfig (c : RateLimiterConfig) : Json :=
  .record [("limit", .nat c.limit), ("period_ms", .nat c.period), ("timeout_ms", .nat c.timeout)]

/-- Circuit breaker settings. -/
def breakerConfig (c : BreakerConfig) : Json :=
  .record [("failure_rate_threshold", real c.failureRateThreshold),
    ("slow_call_rate_threshold", real c.slowCallRateThreshold),
    ("slow_call_duration_ms", .nat c.slowCallDuration),
    ("sliding_window_size", .nat c.slidingWindowSize),
    ("minimum_number_of_calls", .nat c.minimumNumberOfCalls),
    ("wait_open_ms", .nat c.waitInOpenState),
    ("half_open_calls", .nat c.callsInHalfOpenState)]

/-- Time limiter settings. -/
def timeLimiterConfig (c : TimeLimiterConfig) : Json := .record [("timeout_ms", .nat c.timeout)]

/-- The settings of a stack. -/
def stackConfig (c : StackConfig) : Json :=
  .record [("bulkhead", optional bulkheadConfig c.bulkhead?),
    ("rate_limiter", optional rateLimiterConfig c.rateLimiter?),
    ("retry", optional retryConfig c.retries?),
    ("circuit_breaker", optional breakerConfig c.breaker?),
    ("time_limiter", optional timeLimiterConfig c.timeLimiter?)]

/-- Bulkhead statistics. -/
def bulkheadStats (s : BulkheadStats) : Json :=
  .record [("available", .nat s.available), ("max", .nat s.max), ("waiting", .nat s.waiting),
    ("admitted", .nat s.admitted), ("rejected", .nat s.rejected)]

/-- Rate limiter statistics. -/
def rateLimiterStats (s : RateLimiterStats) : Json :=
  .record [("available", .nat s.available), ("waiting", .nat s.waiting),
    ("permitted", .nat s.permitted), ("rejected", .nat s.rejected),
    ("total_wait_ms", .nat s.totalWaitMillis), ("display", .text s.summary)]

/-- Retry statistics. -/
def retryStats (s : RetryStats) : Json :=
  .record [("ok_without", .nat s.okWithout), ("ok_with", .nat s.okWith),
    ("failed_without", .nat s.failedWithout), ("failed_with", .nat s.failedWith)]

/-- Circuit breaker statistics. -/
def breakerStats (s : BreakerStats) : Json :=
  .record [("state", .text s.state.name), ("failure_rate", real s.failureRate),
    ("slow_call_rate", real s.slowRate), ("buffered", .nat s.buffered),
    ("failed_buffered", .nat s.failedBuffered), ("slow_buffered", .nat s.slowBuffered),
    ("successful", .nat s.successful), ("failed", .nat s.failed), ("slow", .nat s.slow),
    ("not_permitted", .nat s.notPermitted)]

/-- Time limiter statistics. -/
def timeLimiterStats (s : TimeLimiterStats) : Json :=
  .record [("completed", .nat s.completed), ("timed_out", .nat s.timedOut)]

/-- The statistics of a stack. -/
def stackStats (s : StackStats) : Json :=
  .record [("bulkhead", optional bulkheadStats s.bulkhead?),
    ("rate_limiter", optional rateLimiterStats s.rateLimiter?),
    ("retry", optional retryStats s.retries?),
    ("circuit_breaker", optional breakerStats s.breaker?),
    ("time_limiter", optional timeLimiterStats s.timeLimiter?)]

end GuardedDispatch.View
