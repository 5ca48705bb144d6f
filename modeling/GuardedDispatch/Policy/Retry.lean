import GuardedDispatch.Policy.Backoff
import GuardedDispatch.Policy.Failure

/-!
# Retry

A failed attempt is tried again after a wait until the attempts are used up. Rejections end the
call as they are, and so does every failure that is not eligible; the failure of the last attempt
is wrapped as exhaustion. `Retry.judge` is that decision for one attempt.
-/

namespace GuardedDispatch

/-- How often to try and how long to wait in between. -/
structure RetryConfig where
  maxAttempts : Nat := 3
  backoff : Backoff := {}
  deriving DecidableEq, Repr, Inhabited

namespace RetryConfig

/-- One attempt and no wait. -/
def noRetry : RetryConfig := ⟨1, .fixed 0⟩

/-- The number of attempts in effect: at least one. -/
def attempts (c : RetryConfig) : Nat := max 1 c.maxAttempts

/-- Numerical equality. -/
def agrees (a b : RetryConfig) : Bool :=
  a.maxAttempts == b.maxAttempts && a.backoff.agrees b.backoff

end RetryConfig

/-- What happens after an attempt. -/
inductive AfterAttempt (ε α : Type) where
  | done (result : Except (PolicyFailure ε) α)
  | again (wait : Nat)

/-- A retry policy and its counters: calls that ended well or badly, at the first attempt or
later. -/
structure Retry where
  name : String
  config : RetryConfig
  okWithout : Nat := 0
  okWith : Nat := 0
  failedWithout : Nat := 0
  failedWith : Nat := 0
  deriving DecidableEq, Repr

namespace Retry

variable {ε α : Type}

/-- Decides what follows attempt number `attempt`, given its result and whether its failure may be
tried again. -/
def judge (name : String) (config : RetryConfig) (eligible : PolicyFailure ε → Bool) (attempt : Nat)
    (result : Except (PolicyFailure ε) α) : AfterAttempt ε α :=
  match result with
  | .ok value => .done (.ok value)
  | .error e =>
    if e.isRejection || !eligible e then .done (.error e)
    else if config.attempts ≤ attempt then .done (.error (.exhausted name attempt e))
    else .again (config.backoff.delayAfter attempt)

/-- Counts a call that ended at the given attempt. -/
def count (r : Retry) (attempt : Nat) (ok : Bool) : Retry :=
  match ok, decide (1 < attempt) with
  | true, false => { r with okWithout := r.okWithout + 1 }
  | true, true => { r with okWith := r.okWith + 1 }
  | false, false => { r with failedWithout := r.failedWithout + 1 }
  | false, true => { r with failedWith := r.failedWith + 1 }

/-- Every call is counted once. -/
theorem count_sum (r : Retry) (attempt : Nat) (ok : Bool) :
    let c := r.count attempt ok
    c.okWithout + c.okWith + c.failedWithout + c.failedWith =
      r.okWithout + r.okWith + r.failedWithout + r.failedWith + 1 := by
  cases ok <;> by_cases h : 1 < attempt <;> simp [count, h] <;> omega

end Retry

/-- What a retry policy reports about itself. -/
structure RetryStats where
  okWithout : Nat
  okWith : Nat
  failedWithout : Nat
  failedWith : Nat
  deriving DecidableEq, Repr, Inhabited

/-- The retry policy's statistics. -/
def Retry.stats (r : Retry) : RetryStats := ⟨r.okWithout, r.okWith, r.failedWithout, r.failedWith⟩

end GuardedDispatch
