import GuardedDispatch.Policy.Backoff
import GuardedDispatch.Text.Elapsed
import GuardedDispatch.Text.Quoted

/-!
# What an attempt knows about the attempts before it

A snapshot carries the number of the attempt, where and why the one before failed and how long to
wait. The first attempt of a message keeps its time for good; times are milliseconds since the
epoch.
-/

namespace GuardedDispatch

open Text

/-- An attempt at processing a message, seen from the attempts before it. -/
structure RetrySnapshot where
  attempt : Nat
  maxAttempts : Nat
  correlationId : String
  firstAttemptAt : Int
  currentAttemptAt : Int
  elapsed : Nat := 0
  lastFailure? : Option String := none
  failedStage? : Option String := none
  nextBackoff : Nat := 0
  deriving DecidableEq, Repr

namespace RetrySnapshot

/-- The first attempt. -/
def initial (correlationId : String) (maxAttempts : Nat) (firstAttemptAt : Int) : RetrySnapshot where
  attempt := 1
  maxAttempts := max 1 maxAttempts
  correlationId
  firstAttemptAt
  currentAttemptAt := firstAttemptAt

/-- The attempt after this one, which failed at `stage` for `cause`. -/
def next (s : RetrySnapshot) (stage cause : String) (backoff : Backoff) (now : Int) :
    RetrySnapshot :=
  { s with
    attempt := s.attempt + 1
    currentAttemptAt := now
    elapsed := (now - s.firstAttemptAt).toNat
    lastFailure? := some cause
    failedStage? := some stage
    nextBackoff := backoff.delayAfter s.attempt }

/-- How many attempts are left after this one. -/
def remaining (s : RetrySnapshot) : Nat := s.maxAttempts - s.attempt

/-- Whether no attempt follows. -/
def isLast (s : RetrySnapshot) : Bool := s.maxAttempts ≤ s.attempt

/-- An optional text in diagnostics. -/
def optionText (s : Option String) : String :=
  match s with
  | some t => "Some(" ++ quoted t ++ ")"
  | none => "None"

/-- The snapshot in diagnostics. -/
def diagnostic (s : RetrySnapshot) : String :=
  s!"RetryContext \x7b attempt: {s.attempt}, max_attempts: {s.maxAttempts}, correlation_id: " ++
  quoted s.correlationId ++ ", failed_stage: " ++ optionText s.failedStage? ++
  ", last_failure: " ++ optionText s.lastFailure? ++
  s!", elapsed: {elapsedText s.elapsed}, next_backoff: {elapsedText s.nextBackoff} \x7d"

end RetrySnapshot

end GuardedDispatch
