import GuardedDispatch.Connector.Basic
import GuardedDispatch.Connector.Health
import GuardedDispatch.Connector.Mock
import GuardedDispatch.Intake.Message

/-!
# Connectors and their metrics from JSON
-/

namespace GuardedDispatch.Intake

/-- A scripted answer of a mock. -/
def mockStep (k : ConnectorType) (v : Json) : MockStep :=
  match v.field? "fail" with
  | some f => .fail (failureKind f "kind") (f.textOr "message" "")
  | none => .respond (response k (v.part "respond"))

/-- A stand-in backend. -/
def standIn (v : Json) : StandIn :=
  if v.textOr "kind" "" == "minimal" then
    let health := v.part "health"
    .minimal
      { script := (v.items "script").map fun s =>
          { latency := s.natOr "latency" 0
            answer := match s.field? "fail" with
              | some f => .error (failure f)
              | none => .ok (response .http (s.part "respond")) }
        probeLatency := health.natOr "latency" 0
        probeAnswer := match health.field? "fail" with
          | some f => .error (failure f)
          | none => .ok (health.boolOr "healthy" true) }
  else
    let k := kind v "kind"
    .mock
      { kind := k, script := (v.items "script").map (mockStep k)
        failure? := (v.field? "fail_all").map fun f => (failureKind f "kind", f.textOr "message" "")
        latency? := v.natField? "latency", healthy := v.boolOr "healthy" true
        healthFails := v.boolOr "fail_health" false, closeFails := v.boolOr "fail_close" false }

/-- A connector around a stand-in. -/
def connector (v : Json) (policies : String) (otherwise : StackConfig) (now : Nat) :
    Connector StandIn :=
  let c := Connector.new (standIn (v.part "backend")) (stackConfig v policies otherwise) now
  { c with
    drainTimeout := v.natOr "drain_timeout_ms" c.drainTimeout
    healthContext? := (v.field? "health_context").bind fun x => (context x).toOption }

/-- The mode of a call, or one in its place. -/
def sendMode (v : Json) (name : String) (otherwise : SendMode) : SendMode :=
  match v.textOr name "" with
  | "sync" => .sync
  | "async" => .async
  | "no_response" => .noResponse
  | _ => otherwise

/-- Snapshots by kind. A snapshot may say that it is of another kind than it is filed under. -/
def metrics (v : Json) : MetricsByKind := fun t =>
  (v.field? t.name).map fun m =>
    { kind := (kind? m "type").getD t
      status := ((m.textField? "status").bind ConnectorStatus.ofName?).getD .running
      circuitState? := circuitState? m "circuit_state", callsTotal := m.natOr "calls_total" 0
      callsSucceeded := m.natOr "calls_succeeded" 0, callsFailed := m.natOr "calls_failed" 0
      inFlight := m.natOr "in_flight" 0, policies := stackStats (m.part "policies") }

end GuardedDispatch.Intake
