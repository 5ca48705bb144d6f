import GuardedDispatch.Proofs.Connector.Steps

/-!
# Traffic on a connector

Calls, closes and probes on one connector, and every order in which they can take their steps.
Traffic is a value, what can happen next is an event, and an event that cannot happen leaves the
traffic as it is, so a list of events is an interleaving and every interleaving is one.

Beside the connector, traffic keeps the contexts of the calls that entered.
-/

namespace GuardedDispatch

/-- One thing that happens to a connector: somebody calls, closes, probes or observes it, a call or a
close that is under way takes a step or is dropped, a probe takes a step, the breaker is set by
hand, the backend comes into another state by itself, or time passes. -/
inductive TrafficEvent (β : Type) where
  | arrive (mode : SendMode) (request : Request) (context : CallContext)
  | move (i : Nat)
  | drop (i : Nat)
  | close
  | moveClosing (i : Nat)
  | dropClosing (i : Nat)
  | probe (context : CallContext)
  | moveProbe (i : Nat)
  | observe
  | trip
  | reset
  | shift (backend : β)
  | wait (duration : Nat)

/-- A connector with all that goes on in it. Calls, closes and probes are known by number, and a
call that was dropped leaves its number behind. -/
structure Traffic (β : Type) where
  connector : Connector β
  now : Nat
  calls : List (Option ConnectorCall) := []
  closings : List Closing := []
  probes : List Probe := []
  /-- The contexts of the calls that entered, the latest first. -/
  entered : List CallContext := []

namespace Traffic

variable {β : Type} [Backend β]

/-- A new connector, to which nobody came yet. -/
def new (backend : β) (config : StackConfig) (drainTimeout : Nat)
    (healthContext? : Option CallContext) (start : Nat) : Traffic β where
  connector := { Connector.new backend config start with drainTimeout, healthContext? }
  now := start

/-- The connector's breaker, if it has one. -/
def breaker? (t : Traffic β) : Option Breaker := t.connector.stack.breaker?

/-- The call with a number, unless it was dropped. -/
def call? (t : Traffic β) (i : Nat) : Option ConnectorCall := t.calls[i]?.join

/-- Changes the policies by hand. -/
def mapBreaker (t : Traffic β) (f : Breaker → Breaker) : Traffic β :=
  { t with connector := { t.connector with stack := t.connector.stack.mapBreaker f } }

/-- Notes the step of a call; a call that is inside now and was not before has entered. -/
def note (t : Traffic β) (i : Nat) (call : ConnectorCall) (c : Connector β)
    (call' : ConnectorCall) : Traffic β :=
  { t with
    connector := c
    calls := t.calls.set i (some call')
    entered := if !call.isInside && call'.isInside then call.context :: t.entered else t.entered }

/-- Lets an event happen. -/
def apply (t : Traffic β) : TrafficEvent β → Traffic β
  | .arrive mode request context => { t with calls := t.calls ++ [some { mode, request, context }] }
  | .move i =>
    match t.call? i with
    | some call =>
      match t.connector.stepCall? t.now call with
      | some (c, call') => t.note i call c call'
      | none => t
    | none => t
  | .drop i =>
    match t.call? i with
    | some call =>
      { t with connector := t.connector.dropCall call t.now, calls := t.calls.set i none }
    | none => t
  | .close => { t with closings := t.closings ++ [.arriving] }
  | .moveClosing i =>
    match t.closings[i]?.bind (t.connector.stepClosing? t.now) with
    | some (c, closing) => { t with connector := c, closings := t.closings.set i closing }
    | none => t
  | .dropClosing i => { t with closings := t.closings.modify i Closing.takenAway }
  | .probe context => { t with probes := t.probes ++ [{ context }] }
  | .moveProbe i =>
    match t.probes[i]?.bind (t.connector.stepProbe? t.now) with
    | some (c, probe) => { t with connector := c, probes := t.probes.set i probe }
    | none => t
  | .observe => { t with connector := (t.connector.observe t.now).1 }
  | .trip => t.mapBreaker (·.trip t.now)
  | .reset => t.mapBreaker (·.reset t.now)
  | .shift backend => { t with connector := { t.connector with backend } }
  | .wait duration => { t with now := t.now + duration }

/-- Lets one event happen after another. -/
def run (t : Traffic β) (events : List (TrafficEvent β)) : Traffic β := events.foldl apply t

/-- What every event keeps holds at the end of every run. -/
theorem run_keeps {I : Traffic β → Prop} (hstep : ∀ t e, I t → I (t.apply e)) {t : Traffic β}
    (h : I t) (events : List (TrafficEvent β)) : I (t.run events) := by
  induction events generalizing t with
  | nil => exact h
  | cons e rest ih => exact ih (hstep t e h)

end Traffic

end GuardedDispatch
