import GuardedDispatch.Connector.Backend
import GuardedDispatch.Connector.Metrics

/-!
# Connectors

A connector guards one backend with a policy stack named after the backend's kind. It counts the
calls that entered it, and those still inside, and it lives from running over closing to closed.
-/

namespace GuardedDispatch

/-- The time that closing waits for calls to end, in milliseconds, unless told otherwise. -/
def defaultDrainTimeout : Nat := 30000

/-- A guarded backend: its policies, the breaker settings it was built with, its life, the calls
inside it and those that ever were. -/
structure Connector (β : Type) where
  backend : β
  kind : ConnectorType
  stack : Stack
  builtBreaker? : Option BreakerConfig
  status : ConnectorStatus := .running
  inFlight : Nat := 0
  drainTimeout : Nat := defaultDrainTimeout
  healthContext? : Option CallContext := none
  callsTotal : Nat := 0
  callsSucceeded : Nat := 0
  callsFailed : Nat := 0

namespace Connector

variable {β : Type}

/-- A running connector around a backend. -/
def new [Backend β] (backend : β) (config : StackConfig) (now : Nat) : Connector β where
  backend
  kind := Backend.kind backend
  stack := Stack.new (Backend.kind backend).name config now
  builtBreaker? := config.breaker?

/-- Lets a call in: it is inside from now on and counts as a call. -/
def enter (c : Connector β) : Connector β :=
  { c with inFlight := c.inFlight + 1, callsTotal := c.callsTotal + 1 }

/-- Takes a call out that ends without an answer. -/
def leave (c : Connector β) : Connector β := { c with inFlight := c.inFlight - 1 }

/-- Takes a call out with its answer, which counts as a success or a failure. -/
def answer (c : Connector β) (ok : Bool) : Connector β :=
  { c.leave with
    callsSucceeded := c.callsSucceeded + ok.toNat
    callsFailed := c.callsFailed + (!ok).toNat }

/-- Puts the breaker settings of a call into effect: its own, or those the connector was built
with. -/
def tuned (c : Connector β) (context : CallContext) : Connector β :=
  match c.builtBreaker? with
  | some built =>
    { c with stack := c.stack.mapBreaker (·.reconfigure (context.breaker?.getD built)) }
  | none => c

/-- The failure of a call that finds the connector not running. -/
def refusal (c : Connector β) : ConnectorFailure :=
  .of .unavailable s!"{c.kind.name} connector is {c.status.name}"

/-- Fills in where a failure of a call happened. -/
def placed (c : Connector β) (context : CallContext) (mode : SendMode) (e : ConnectorFailure) :
    ConnectorFailure :=
  e.orContext c.kind context.endpoint context.datacenter? mode.operation

/-- Looks at the connector's counters, which moves its rate limiter to the running period. -/
def observe (c : Connector β) (now : Nat) : Connector β × ConnectorMetrics :=
  let (stack, policies) := c.stack.observe now
  ({ c with stack },
    { kind := c.kind, status := c.status, circuitState? := c.stack.breaker?.map (·.shown)
      callsTotal := c.callsTotal, callsSucceeded := c.callsSucceeded
      callsFailed := c.callsFailed, inFlight := c.inFlight, policies })

/-- The connector in diagnostics. -/
def diagnostic (c : Connector β) : String :=
  s!"ResilientConnector \x7b connector_type: {c.kind.label}, status: {c.status.label}, " ++
  s!"in_flight: {c.inFlight}, .. \x7d"

/-- An answered call adds up: it is counted once and is no longer inside. -/
theorem answer_counts (c : Connector β) (ok : Bool) :
    (c.answer ok).callsSucceeded + (c.answer ok).callsFailed =
      c.callsSucceeded + c.callsFailed + 1 := by
  cases ok <;> simp [answer] <;> omega

end Connector

end GuardedDispatch
