import GuardedDispatch.Connector.Basic

/-!
# Health probes

A connector is healthy if it runs, its breaker is closed, and the backend's own probe says so in
time. A probe passes by the policies: it takes no slot and counts nowhere.
-/

namespace GuardedDispatch

/-- Where a probe stands. -/
inductive ProbeStage where
  | arriving
  | asking (ticket : Nat) (ends? deadline? : Option Nat)
  | done (healthy : Bool)
  deriving DecidableEq, Repr

/-- A probe of a connector in a context. -/
structure Probe where
  context : CallContext
  stage : ProbeStage := .arriving

/-- The verdict of a finished probe. -/
def Probe.verdict? (p : Probe) : Option Bool :=
  match p.stage with
  | .done healthy => some healthy
  | _ => none

namespace Connector

variable {β : Type} [Backend β]

/-- Whether the connector runs and its breaker, if it has one, is closed. -/
def isOpenToTraffic (c : Connector β) : Bool :=
  c.status == .running && c.stack.breaker?.all (·.shown == .closed)

/-- Moves a probe on by one step; `none` while it has to wait and once it is done. -/
def stepProbe? (now : Nat) (c : Connector β) (p : Probe) : Option (Connector β × Probe) :=
  match p.stage with
  | .done _ => none
  | .arriving =>
    if c.isOpenToTraffic then
      let (backend, started) := Backend.startProbe c.backend p.context
      some ({ c with backend },
        { p with
          stage := .asking started.ticket (started.latency?.map (now + ·))
            ((c.stack.timeout? p.context.callOptions).map (now + ·)) })
    else some (c, { p with stage := .done false })
  | .asking ticket ends? deadline? =>
    if Stack.reached now ends? then
      let (backend, r) := Backend.finishProbe c.backend p.context ticket
      some ({ c with backend }, { p with stage := .done (r.toOption.getD false) })
    else if Stack.reached now deadline? then some (c, { p with stage := .done false })
    else none

end Connector

/-- The next moment at which a probe moves by itself. -/
def Probe.wakeAt? (p : Probe) : Option Nat :=
  match p.stage with
  | .asking _ ends? deadline? => Stack.earlier? ends? deadline?
  | _ => none

end GuardedDispatch
