import GuardedDispatch.Connector.Health
import GuardedDispatch.View.Policy

/-!
# JSON views of connectors' metrics and health
-/

namespace GuardedDispatch.View

/-- A snapshot of a connector. -/
def metrics (m : ConnectorMetrics) : Json :=
  .record [("connector_type", .text m.kind.name), ("status", .text m.status.name),
    ("circuit_state", .text? (m.circuitState?.map (·.name))), ("calls_total", .nat m.callsTotal),
    ("calls_succeeded", .nat m.callsSucceeded), ("calls_failed", .nat m.callsFailed),
    ("in_flight", .nat m.inFlight), ("policies", stackStats m.policies)]

/-- The members of an object that are there. -/
def present (members : List (String × Option Json)) : Json :=
  .record (members.filterMap fun (n, v) => v.map (n, ·))

/-- A snapshot in short; what does not apply is left out. -/
def metricsSummary (m : ConnectorMetrics) : Json :=
  let p := m.policies
  present [("connector_type", some (.text m.kind.name)), ("status", some (.text m.status.name)),
    ("circuit_state", m.circuitState?.map fun s => .text s.name),
    ("calls_total", some (.nat m.callsTotal)), ("calls_succeeded", some (.nat m.callsSucceeded)),
    ("calls_failed", some (.nat m.callsFailed)), ("in_flight", some (.nat m.inFlight)),
    ("failure_rate", p.breaker?.map fun b => real b.failureRate),
    ("bulkhead_rejected", p.bulkhead?.map fun b => .nat b.rejected),
    ("rate_limited", p.rateLimiter?.map fun l => .nat l.rejected),
    ("not_permitted", p.breaker?.map fun b => .nat b.notPermitted),
    ("timed_out", p.timeLimiter?.map fun l => .nat l.timedOut)]

/-- One connector's part of a health report. -/
def connectorHealth (c : ConnectorHealth) : Json :=
  present [("connector_type", some (.text c.kind.name)), ("healthy", some (.bool c.healthy)),
    ("status", some (.text c.status.name)),
    ("circuit_state", c.circuitState?.map fun s => .text s.name),
    ("calls_failed", some (.nat c.callsFailed)), ("in_flight", some (.nat c.inFlight))]

/-- A health report as it is sent to a health endpoint. -/
def healthReport (r : HealthReport) : Json :=
  .record [("status", .text r.status.name), ("connectors", .list (r.connectors.map connectorHealth))]

/-- A health report with what is read off it. -/
def healthVerdict (r : HealthReport) : Json :=
  .record [("report", healthReport r), ("status", .text r.status.name),
    ("healthy", .bool r.isHealthy), ("ready", .bool r.isReady), ("http_status", .nat r.httpStatus),
    ("per_type", .list (ConnectorType.all.map fun t =>
      optional (fun c => .bool c.healthy) (r.connector? t)))]

end GuardedDispatch.View
