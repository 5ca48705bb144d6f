import GuardedDispatch.Connector.Status
import GuardedDispatch.Message.ConnectorType
import GuardedDispatch.Number.Decimal
import GuardedDispatch.Policy.Stack

/-!
# Connector metrics and their text exposition

A snapshot of one connector's counters, and the line-based text in which monitoring systems scrape
the snapshots of all connectors: one family of samples a metric, introduced by its help and type,
with one sample for each connector that has the value, and ended by an empty line.
-/

namespace GuardedDispatch

open Number

/-- A snapshot of a connector's state and counters. -/
structure ConnectorMetrics where
  kind : ConnectorType
  status : ConnectorStatus := .running
  circuitState? : Option CircuitState := none
  callsTotal : Nat := 0
  callsSucceeded : Nat := 0
  callsFailed : Nat := 0
  inFlight : Nat := 0
  policies : StackStats := {}
  deriving DecidableEq, Repr

/-- Snapshots filed by kind of backend. -/
abbrev MetricsByKind := ConnectorType → Option ConnectorMetrics

/-- The value of one sample: a count, or a percentage with two decimal places. -/
inductive Reading where
  | count (n : Nat)
  | percent (x : Single)
  deriving DecidableEq, Repr

/-- A reading in text. -/
def Reading.text : Reading → String
  | .count n => toString n
  | .percent x => x.fixedText 2

/-- A family of samples: its name, type and help, and the value that a snapshot has in it. -/
structure MetricFamily where
  name : String
  sort : String
  help : String
  reading? : ConnectorMetrics → Option Reading

namespace MetricFamily

/-- A family of counts. -/
def counts (name sort help : String) (value? : ConnectorMetrics → Option Nat) : MetricFamily :=
  ⟨name, sort, help, fun m => (value? m).map .count⟩

/-- The families in the order in which they are written. -/
def all : List MetricFamily := [
  counts "switchboard_connector_calls_total" "counter" "Logical calls started"
    fun m => some m.callsTotal,
  counts "switchboard_connector_calls_failed_total" "counter"
    "Logical calls that surfaced an error" fun m => some m.callsFailed,
  counts "switchboard_connector_in_flight" "gauge" "Calls currently inside the connector"
    fun m => some m.inFlight,
  counts "switchboard_connector_running" "gauge"
    "Whether the connector accepts calls (1=yes, 0=no)"
    fun m => some (if m.status = .running then 1 else 0),
  counts "switchboard_circuit_breaker_state" "gauge"
    "Circuit state (0=closed, 1=open, 2=half_open)" fun m => m.circuitState?.map (·.number),
  { name := "switchboard_circuit_breaker_failure_rate"
    sort := "gauge"
    help := "Failure rate over the sliding window in percent"
    reading? := fun m => m.policies.breaker?.map fun b => .percent b.failureRate },
  counts "switchboard_circuit_breaker_not_permitted_total" "counter"
    "Calls rejected by the circuit breaker" fun m => m.policies.breaker?.map (·.notPermitted),
  counts "switchboard_bulkhead_available" "gauge" "Free bulkhead slots"
    fun m => m.policies.bulkhead?.map (·.available),
  counts "switchboard_bulkhead_rejected_total" "counter" "Calls rejected by the bulkhead"
    fun m => m.policies.bulkhead?.map (·.rejected),
  counts "switchboard_rate_limiter_rejected_total" "counter" "Calls rejected by the rate limiter"
    fun m => m.policies.rateLimiter?.map (·.rejected),
  counts "switchboard_rate_limiter_wait_ms_total" "counter"
    "Time spent waiting for rate limiter permits"
    fun m => m.policies.rateLimiter?.map (·.totalWaitMillis),
  counts "switchboard_retry_failed_with_retry_total" "counter" "Calls that failed after retrying"
    fun m => m.policies.retries?.map (·.failedWith),
  counts "switchboard_retry_succeeded_with_retry_total" "counter"
    "Calls that succeeded after retrying" fun m => m.policies.retries?.map (·.okWith),
  counts "switchboard_time_limiter_timed_out_total" "counter"
    "Attempts that exceeded their deadline" fun m => m.policies.timeLimiter?.map (·.timedOut)]

/-- The sample of one snapshot, if it has a value in the family. -/
def sampleLine? (f : MetricFamily) (m : ConnectorMetrics) : Option String :=
  (f.reading? m).map fun v => f.name ++ "\x7bconnector=\"" ++ m.kind.name ++ "\"\x7d " ++ v.text

/-- The lines of a family: help, type, the samples, and an empty line. -/
def lines (f : MetricFamily) (ms : List ConnectorMetrics) : List String :=
  [s!"# HELP {f.name} {f.help}", s!"# TYPE {f.name} {f.sort}"] ++ ms.filterMap f.sampleLine? ++ [""]

end MetricFamily

/-- The snapshots that are there, in declaration order of their kinds. -/
def MetricsByKind.inOrder (metrics : MetricsByKind) : List ConnectorMetrics :=
  ConnectorType.all.filterMap metrics

/-- The lines of the exposition. -/
def expositionLines (metrics : MetricsByKind) : List String :=
  MetricFamily.all.flatMap fun f => f.lines metrics.inOrder

/-- The exposition: every line ends with a line feed. -/
def expositionText (metrics : MetricsByKind) : String :=
  String.join ((expositionLines metrics).map (· ++ "\n"))

end GuardedDispatch
