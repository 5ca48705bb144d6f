import GuardedDispatch.Policy.Failure

/-!
# The time limiter

A deadline for one attempt. The operation is looked at before the clock, so work that needs
exactly the deadline still completes.
-/

namespace GuardedDispatch

/-- The deadline of every attempt, in milliseconds. -/
structure TimeLimiterConfig where
  timeout : Nat := 30000
  deriving DecidableEq, Repr, Inhabited

/-- A time limiter and its counters. -/
structure TimeLimiter where
  name : String
  config : TimeLimiterConfig
  completed : Nat := 0
  timedOut : Nat := 0
  deriving DecidableEq, Repr

namespace TimeLimiter

variable {ε α : Type}

/-- Counts the result of a limited operation by what it is: an expired deadline or anything
else. -/
def count (l : TimeLimiter) (result : Except (PolicyFailure ε) α) : TimeLimiter :=
  match result with
  | .error e =>
    if e.isTimeout then { l with timedOut := l.timedOut + 1 }
    else { l with completed := l.completed + 1 }
  | .ok _ => { l with completed := l.completed + 1 }

end TimeLimiter

/-- What a time limiter reports about itself. -/
structure TimeLimiterStats where
  completed : Nat
  timedOut : Nat
  deriving DecidableEq, Repr, Inhabited

/-- The time limiter's statistics. -/
def TimeLimiter.stats (l : TimeLimiter) : TimeLimiterStats := ⟨l.completed, l.timedOut⟩

end GuardedDispatch
