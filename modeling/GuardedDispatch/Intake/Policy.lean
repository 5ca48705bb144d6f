import GuardedDispatch.Json.Access
import GuardedDispatch.Policy.Rehearsal

/-!
# Policies from JSON

Configurations, failures, statistics and scripts as tools write them down. A member that is missing,
null or of another sort counts as not set, and the default stands in its place.
-/

namespace GuardedDispatch.Intake

open Number

/-- A double precision number: a JSON number, or the name of an infinity or of not a number. -/
def double? (v : Json) (name : String) : Option Double :=
  (v.field? name).map fun
    | .real x => x
    | .whole n => .ofRatio (decide (n < 0)) n.natAbs 1
    | .text "inf" => .infinite false
    | .text "-inf" => .infinite true
    | _ => .nan

/-- A single precision number, or one in its place. -/
def singleOr (v : Json) (name : String) (otherwise : Single) : Single :=
  (double? v name).elim otherwise (·.convert)

/-- A state of a breaker. -/
def circuitState? (v : Json) (name : String) : Option CircuitState :=
  (v.textField? name).map fun s =>
    if s == "open" then .opened else if s == "half_open" then .halfOpen else .closed

/-- A backoff. -/
def backoff (v : Json) : Backoff :=
  let b : Backoff := match v.natField? "initial_ms", double? v "multiplier" with
    | none, none => {}
    | some i, none => .fixed i
    | i?, some m => .exponential (i?.getD 1000) m
  { b with max? := v.natField? "max_ms" }

/-- A backoff of a member, or the default one. -/
def backoffOf (v : Json) (name : String) : Backoff := (v.field? name).elim {} backoff

/-- Retry settings. -/
def retryConfig : Json → RetryConfig
  | .text _ => .noRetry
  | v => { maxAttempts := v.natOr "max_attempts" 3, backoff := backoffOf v "backoff" }

/-- Bulkhead settings. -/
def bulkheadConfig (v : Json) : BulkheadConfig :=
  let d : BulkheadConfig := {}
  { maxConcurrent := v.natOr "max_concurrent_calls" d.maxConcurrent
    maxWait := v.natOr "max_wait_ms" d.maxWait
    maxWaiting := v.natOr "max_waiting_calls" d.maxWaiting }

/-- Rate limiter settings. -/
def limiterConfig (v : Json) : RateLimiterConfig :=
  let d : RateLimiterConfig := {}
  { limit := v.natOr "limit" d.limit, period := v.natOr "period_ms" d.period
    timeout := v.natOr "timeout_ms" d.timeout }

/-- Circuit breaker settings. -/
def breakerConfig (v : Json) : BreakerConfig :=
  let d : BreakerConfig := {}
  { failureRateThreshold := singleOr v "failure_rate_threshold" d.failureRateThreshold
    slowCallRateThreshold := singleOr v "slow_call_rate_threshold" d.slowCallRateThreshold
    slowCallDuration := v.natOr "slow_call_duration_ms" d.slowCallDuration
    slidingWindowSize := v.natOr "sliding_window_size" d.slidingWindowSize
    minimumNumberOfCalls := v.natOr "minimum_number_of_calls" d.minimumNumberOfCalls
    waitInOpenState := v.natOr "wait_open_ms" d.waitInOpenState
    callsInHalfOpenState := v.natOr "half_open_calls" d.callsInHalfOpenState }

/-- Time limiter settings. -/
def timeLimiterConfig (v : Json) : TimeLimiterConfig :=
  let d : TimeLimiterConfig := {}
  { timeout := v.natOr "timeout_ms" d.timeout }

/-- One layer of a stack: as in the base, left out, or with settings. -/
def layer {α : Type} (base : Option α) (v : Json) (name : String) (read : Json → α) : Option α :=
  match v.member? name with
  | none => base
  | some .null => none
  | some c => some (read c)

/-- The settings of a stack over a base. -/
def stackOver (d : StackConfig) (v : Json) : StackConfig where
  bulkhead? := layer d.bulkhead? v "bulkhead" bulkheadConfig
  rateLimiter? := layer d.rateLimiter? v "rate_limiter" limiterConfig
  retries? := layer d.retries? v "retry" retryConfig
  breaker? := layer d.breaker? v "circuit_breaker" breakerConfig
  timeLimiter? := layer d.timeLimiter? v "time_limiter" timeLimiterConfig

/-- The settings of a stack in a member, or others if it is missing. -/
def stackConfig (v : Json) (name : String) (otherwise : StackConfig) : StackConfig :=
  match v.field? name with
  | none => otherwise
  | some c => stackOver (if c.textOr "base" "" == "default" then {} else .passthrough) c

/-- A policy failure nested at most so deep, given how its innermost failure is read. -/
def policyFailureWithin {ε : Type} (inner : Json → ε) : Nat → Json → PolicyFailure ε
  | 0, v => .inner (inner v)
  | depth + 1, v =>
    let name := v.textOr "name" ""
    match v.textOr "type" "" with
    | "bulkhead_full" => .bulkheadFull name (v.natOr "max_wait_ms" 0)
    | "rate_limited" => .rateLimited name (v.natOr "timeout_ms" 0)
    | "circuit_open" => .circuitOpen name ((circuitState? v "state").getD .closed)
    | "timed_out" => .timedOut name (v.natOr "after_ms" 0)
    | "retry_exhausted" =>
      .exhausted name (v.natOr "attempts" 0) (policyFailureWithin inner depth (v.part "last"))
    | _ => .inner (inner v)

/-- A policy failure, given how its innermost failure is read. -/
def policyFailure {ε : Type} (inner : Json → ε) (v : Json) : PolicyFailure ε :=
  policyFailureWithin inner v.depth v

/-- A policy failure around a message. -/
def textFailure (v : Json) : PolicyFailure String := policyFailure (·.textOr "message" "") v

/-- A scripted outcome: a latency, and then a policy failure, a failure in words, or a text. -/
def scriptEntry (v : Json) : ScriptEntry where
  latency := v.natOr "latency" 0
  outcome := match v.field? "policy", v.textField? "err" with
    | some p, _ => .error (textFailure p)
    | none, some e => .error (.inner e)
    | none, none => .ok (v.textOr "ok" "ok")

/-- The rule of what may be tried again, by name. -/
def retryRule (v : Json) (name : String) : RetryRule :=
  match v.textOr name "" with
  | "always" => .always
  | "never" => .never
  | "timeouts" => .timeouts
  | _ => .default

/-- A scripted call. One under a time limit of its own brings a stack with nothing but that. -/
def scriptedCall (v : Json) : RehearsedCall :=
  let timeout? := v.natField? "timeout_ms"
  let own? : Option Stack := (v.textField? "time_limit").map fun name =>
    { name, timeLimiter? := some { name, config := ⟨timeout?.getD 0⟩ } }
  { work := .follow ((v.items "script").map scriptEntry)
    rule := retryRule v "predicate"
    ownStack? := own?
    call := { options :=
      { retries? := (v.field? "retry").map retryConfig
        timeout? := if own?.isSome then none else timeout? } } }

/-- Statistics of the policies. -/
def stackStats (v : Json) : StackStats where
  bulkhead? := (v.field? "bulkhead").map fun s =>
    { available := s.natOr "available" 0, max := s.natOr "max" 0, waiting := s.natOr "waiting" 0
      admitted := s.natOr "admitted" 0, rejected := s.natOr "rejected" 0 }
  rateLimiter? := (v.field? "rate_limiter").map fun s =>
    { available := s.natOr "available" 0, waiting := s.natOr "waiting" 0
      permitted := s.natOr "permitted" 0, rejected := s.natOr "rejected" 0
      totalWaitMillis := s.natOr "total_wait_ms" 0 }
  retries? := (v.field? "retry").map fun s =>
    { okWithout := s.natOr "ok_without" 0, okWith := s.natOr "ok_with" 0
      failedWithout := s.natOr "failed_without" 0, failedWith := s.natOr "failed_with" 0 }
  breaker? := (v.field? "circuit_breaker").map fun s =>
    { state := (circuitState? s "state").getD .closed
      failureRate := singleOr s "failure_rate" 0, slowRate := singleOr s "slow_call_rate" 0
      buffered := s.natOr "buffered" 0, failedBuffered := s.natOr "failed_buffered" 0
      slowBuffered := s.natOr "slow_buffered" 0, successful := s.natOr "successful" 0
      failed := s.natOr "failed" 0, slow := s.natOr "slow" 0
      notPermitted := s.natOr "not_permitted" 0 }
  timeLimiter? := (v.field? "time_limiter").map fun s =>
    { completed := s.natOr "completed" 0, timedOut := s.natOr "timed_out" 0 }

end GuardedDispatch.Intake
