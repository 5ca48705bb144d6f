import GuardedDispatch.Connector.Metrics

/-!
# The health of all connectors

A report lists each connector with its probe's outcome. The whole is healthy if every connector is,
unhealthy if none is, and degraded in between.
-/

namespace GuardedDispatch

/-- The health of the whole. -/
inductive HealthStatus where
  | healthy
  | degraded
  | unhealthy
  deriving DecidableEq, Repr, Inhabited

/-- The status in reports. -/
def HealthStatus.name : HealthStatus → String
  | .healthy => "healthy"
  | .degraded => "degraded"
  | .unhealthy => "unhealthy"

/-- One connector's part of a report. -/
structure ConnectorHealth where
  kind : ConnectorType
  healthy : Bool
  status : ConnectorStatus
  circuitState? : Option CircuitState
  callsFailed : Nat
  inFlight : Nat
  deriving DecidableEq, Repr

/-- A report on all connectors. -/
structure HealthReport where
  status : HealthStatus
  connectors : List ConnectorHealth
  deriving DecidableEq, Repr

namespace HealthReport

/-- The health of a group, from how many of them are healthy. -/
def judge (healthy total : Nat) : HealthStatus :=
  if healthy = 0 then .unhealthy else if healthy = total then .healthy else .degraded

/-- The report of the given probes and snapshots; a connector without a probe counts as
unhealthy. -/
def of (probes : ConnectorType → Option Bool) (metrics : MetricsByKind) : HealthReport :=
  let connectors := metrics.inOrder.map fun m : ConnectorMetrics =>
    { kind := m.kind, healthy := (probes m.kind).getD false, status := m.status
      circuitState? := m.circuitState?, callsFailed := m.callsFailed, inFlight := m.inFlight }
  ⟨judge (connectors.countP (·.healthy)) connectors.length, connectors⟩

/-- Whether every connector is healthy, of at least one. -/
def isHealthy (r : HealthReport) : Bool := r.status == .healthy

/-- Whether some connector is healthy. -/
def isReady (r : HealthReport) : Bool := r.status != .unhealthy

/-- The status code of a health endpoint. -/
def httpStatus (r : HealthReport) : Nat := if r.isHealthy then 200 else 503

/-- The part of the connector of a kind. -/
def connector? (r : HealthReport) (t : ConnectorType) : Option ConnectorHealth :=
  r.connectors.find? (·.kind == t)

end HealthReport

end GuardedDispatch
