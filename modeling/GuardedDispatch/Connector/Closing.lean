import GuardedDispatch.Connector.Basic

/-!
# Closing a connector

The first close of a running connector stops admission, waits until no call is inside or the drain
timeout is over, and closes the backend; whether the backend closes well makes no difference. Every
other close returns at once.

The moment at which the drain timeout is over is worked out as the drain begins. If it is later than
the clock can tell, the close fails right there: it never returns, and the backend stays open.
-/

namespace GuardedDispatch

/-- Where a close stands. One that began and will never return, because it failed or was taken away,
broke off; one that was taken away before it began was withdrawn. -/
inductive Closing where
  | arriving
  | draining (deadline : Nat)
  | releasing (ends? : Option Nat)
  | brokenOff
  | withdrawn
  | done
  deriving DecidableEq, Repr, Inhabited

namespace Connector

variable {β : Type} [Backend β]

/-- Stops admission; what is inside may end. -/
def beginClosing (c : Connector β) : Connector β :=
  { c with status := .closing, stack := c.stack.close }

/-- Moves a close on by one step; `none` while it has to wait and once it goes no further. -/
def stepClosing? (now : Nat) (c : Connector β) (closing : Closing) :
    Option (Connector β × Closing) :=
  match closing with
  | .brokenOff | .withdrawn | .done => none
  | .arriving =>
    if c.status = .running then
      let deadline := now + c.drainTimeout
      some (c.beginClosing, if deadline ≤ lastMoment then .draining deadline else .brokenOff)
    else some (c, .done)
  | .draining deadline =>
    if c.inFlight = 0 ∨ deadline ≤ now then
      let (backend, started) := Backend.startClose c.backend
      some ({ c with backend }, .releasing (started.latency?.map (now + ·)))
    else none
  | .releasing ends? =>
    if Stack.reached now ends? then
      let (backend, _) := Backend.finishClose c.backend
      some ({ c with backend, status := .closed }, .done)
    else none

end Connector

namespace Closing

/-- The next moment at which a close moves by itself. -/
def wakeAt? : Closing → Option Nat
  | .draining deadline => some deadline
  | .releasing ends? => ends?
  | _ => none

/-- What is left of a close that is taken away where it stands. -/
def takenAway : Closing → Closing
  | .arriving => .withdrawn
  | .draining _ | .releasing _ => .brokenOff
  | closing => closing

end Closing

end GuardedDispatch
