import GuardedDispatch.Number.Binary

/-!
# Waits between attempts

The wait after attempt `n` is `initial * multiplier ^ (n - 1)` milliseconds, computed in double
precision, and never longer than the optional maximum.
-/

namespace GuardedDispatch

open Number

/-- The greatest duration and the greatest counter: the top of sixty-four bits. -/
def wordMax : Nat := Nat.pow 2 64 - 1

/-- The last moment that a clock can tell, in milliseconds: it has sixty-three bits of seconds. -/
def lastMoment : Nat := 1000 * Nat.pow 2 63 - 1

/-- How long to wait between attempts, in milliseconds. -/
structure Backoff where
  initial : Nat := 1000
  multiplier : Double := 2
  max? : Option Nat := none
  deriving DecidableEq, Repr, Inhabited

namespace Backoff

/-- The same wait after every attempt. -/
def fixed (wait : Nat) : Backoff := ⟨wait, 1, none⟩

/-- A wait that grows by a factor after every attempt. -/
def exponential (initial : Nat) (multiplier : Double) : Backoff := ⟨initial, multiplier, none⟩

/-- The wait before the maximum applies. The multiplier counts as at least one and the exponent
stops growing at twenty-nine; what is not a number, or too great, is the greatest duration. -/
def uncapped (b : Backoff) (attempt : Nat) : Nat :=
  let factor := (b.multiplier.maxNumber 1).power (min attempt 30 - 1)
  (((Binary.ofNat b.initial : Double) * factor).minNumber (.ofNat wordMax)).truncateTo wordMax

/-- The wait after the given attempt; there is none before the first. -/
def delayAfter (b : Backoff) (attempt : Nat) : Nat :=
  if attempt = 0 then 0
  else match b.max? with
    | some cap => min (b.uncapped attempt) cap
    | none => b.uncapped attempt

/-- Numerical equality; a multiplier that is not a number equals nothing. -/
def agrees (a b : Backoff) : Bool :=
  a.initial == b.initial && a.multiplier.sameNumber b.multiplier && a.max? == b.max?

/-- Nothing is waited for before the first attempt. -/
@[simp] theorem delayAfter_zero (b : Backoff) : b.delayAfter 0 = 0 := rfl

/-- No wait exceeds the maximum. -/
theorem delayAfter_le_max (b : Backoff) (attempt cap : Nat) (h : b.max? = some cap) :
    b.delayAfter attempt ≤ cap := by
  unfold delayAfter
  split
  · exact Nat.zero_le _
  · simp only [h]
    exact Nat.min_le_right _ _

end Backoff

end GuardedDispatch
