import GuardedDispatch.Number.Binary

/-!
# The sliding window of outcomes

A window keeps the last `capacity` outcomes, oldest first, and running counts of the failed and of
the slow ones. Its view is `outcomes`; the counts are kept in step with it.
-/

namespace GuardedDispatch

open Number

/-- How one guarded call ended. -/
structure Outcome where
  failed : Bool
  slow : Bool
  deriving DecidableEq, Repr

/-- The last outcomes, oldest first, with running counts. -/
structure Window where
  capacity : Nat
  outcomes : List Outcome := []
  failed : Nat := 0
  slow : Nat := 0
  deriving DecidableEq, Repr

/-- The percentage that `count` is of `total`, in single precision; nothing of nothing is zero. -/
def ratePercent (count total : Nat) : Single :=
  if total = 0 then 0 else Binary.ofNat count * 100 / Binary.ofNat total

namespace Window

/-- The number of outcomes held. -/
def size (w : Window) : Nat := w.outcomes.length

/-- Drops the oldest outcome and its share of the counts. -/
def evict (w : Window) : Window :=
  match w.outcomes with
  | [] => w
  | o :: rest =>
    { w with outcomes := rest, failed := w.failed - o.failed.toNat, slow := w.slow - o.slow.toNat }

/-- Adds an outcome; a full window drops its oldest one first. -/
def record (w : Window) (o : Outcome) : Window :=
  let w := if w.size = w.capacity then w.evict else w
  { w with
    outcomes := w.outcomes ++ [o]
    failed := w.failed + o.failed.toNat
    slow := w.slow + o.slow.toNat }

/-- The percentage of failed outcomes. -/
def failureRate (w : Window) : Single := ratePercent w.failed w.size

/-- The percentage of slow outcomes. -/
def slowRate (w : Window) : Single := ratePercent w.slow w.size

/-- A window of another capacity with as many of the latest outcomes as it takes. -/
def resized (w : Window) (capacity : Nat) : Window :=
  (w.outcomes.drop (w.size - capacity)).foldl record { capacity }

end Window

end GuardedDispatch
