import GuardedDispatch.Config.Configuration
import GuardedDispatch.View.Message

/-!
# JSON views of configurations
-/

namespace GuardedDispatch.View

mutual

/-- A value of a section; numbers with a fraction have six decimal places. -/
def setting : Setting → Json
  | .absent => .null
  | .flag on => .bool on
  | .count n => .nat n
  | .single x => real x
  | .double x => real x
  | .text s => .text s
  | .list items => .list (settingItems items)
  | .group members => .record (settingMembers members)

/-- The items of a value. -/
def settingItems : List Setting → List Json
  | [] => []
  | x :: rest => setting x :: settingItems rest

/-- The members of a value. -/
def settingMembers : List (String × Setting) → List (String × Json)
  | [] => []
  | (name, x) :: rest => (name, setting x) :: settingMembers rest

end

/-- A section. -/
def settings {σ : Type} [Section σ] (x : σ) : Json := setting (Section.settings x)

/-- The names of the sections that a connector replaces. -/
def replaced (o : PolicyOverrides) : Json :=
  texts ((Section.members (σ := PolicyOverrides)).filterMap fun m =>
    if (m.get o).isPresent then some m.name else none)

/-- The retry policy of a pipeline. -/
def pipelinePolicy (p : PipelinePolicy) : Json :=
  .record [("max_attempts", .nat p.maxAttempts), ("retry_entry", .text p.retryEntry.name),
    ("non_retryable_stages", texts (p.nonRetryable.map (·.name))), ("backoff", backoff p.backoff)]

/-- What a configuration says about a connector, and what comes of it. -/
def connectorSettings (c : Configuration) (t : ConnectorType) (s : ConnectorSettings) : Json :=
  .record [("enabled", .bool s.enabled), ("endpoint", .text? s.endpoint?),
    ("datacenter", .text? s.datacenter?), ("overrides", optional replaced s.policies?),
    ("context", result (optional context) s.context), ("resolved", settings (c.resolved t)),
    ("stack", stackConfig (c.policyFor t))]

/-- A configuration, and whether its text is read back in an environment. -/
def configuration (env : Environment) (c : Configuration) : Json :=
  .record [("version", .text c.version), ("defaults", settings c.defaults),
    ("connectors", .record (c.mentioned.map fun (t, s) => (t.name, connectorSettings c t s))),
    ("enabled", texts (c.enabled.map (·.name))), ("pipeline", settings c.pipeline),
    ("pipeline_policy", pipelinePolicy c.pipeline.policy), ("is_default", .bool (c.agrees {})),
    ("round_trip", .bool (c.readsBack env))]

/-- Why a text is no acceptable configuration, with the paths of values out of range in order. -/
def configFailure (e : ConfigFailure) : Json :=
  if e = .unreadable then .record [("error", .text "ConfigParse"), ("message", .text e.message)]
  else
    .record [("error", .text "ConfigInvalid"), ("message", .text e.message),
      ("fields", .list ((e.paths.mergeSort).map fun p => texts [p, "range"]))]

end GuardedDispatch.View
