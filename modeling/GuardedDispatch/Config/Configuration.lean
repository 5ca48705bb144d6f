import GuardedDispatch.Config.Placeholder
import GuardedDispatch.Config.Policies
import GuardedDispatch.Message.Context
import GuardedDispatch.Processing.Pipeline
import GuardedDispatch.Yaml.Document

/-!
# Configurations

A configuration file names the policies that every connector starts from, the connectors with what
they replace of them, and the retry policy of the pipeline. Its text is read in three steps, each
of which can fail in its own way: placeholders are expanded, the document is read into sections,
and the sections are checked.
-/

namespace GuardedDispatch

open Number Yaml

/-- What a configuration says about the connector of one kind. -/
structure ConnectorSettings where
  enabled : Bool := true
  endpoint? : Option String := none
  datacenter? : Option String := none
  policies? : Option PolicyOverrides := none
  deriving DecidableEq, Repr, Inhabited

instance : Section ConnectorSettings where
  fresh := {}
  members := [
    (Member.flag "enabled" (·.enabled) ({ · with enabled := · })).described
      "Whether the connector should be registered",
    (Member.optionalText "endpoint" (·.endpoint?) ({ · with endpoint? := · })).described
      "Target endpoint used for health probes",
    (Member.optionalText "datacenter" (·.datacenter?) ({ · with datacenter? := · })).described
      "Datacenter / region tag",
    (Member.optionalNested "policies" "PolicyOverrides" (·.policies?)
      ({ · with policies? := · })).described "Policy sections replacing the defaults"]

namespace ConnectorSettings

/-- The context in which the connector's health is probed, if it has an endpoint. -/
def context (s : ConnectorSettings) : Except ConnectorFailure (Option CallContext) :=
  match s.endpoint? with
  | none => .ok none
  | some endpoint => (CallContext.build { endpoint, datacenter? := s.datacenter? }).map some

/-- Numerical equality. -/
def agrees (a b : ConnectorSettings) : Bool :=
  a.enabled == b.enabled && a.endpoint? == b.endpoint? && a.datacenter? == b.datacenter? &&
  bothAgree PolicyOverrides.agrees a.policies? b.policies?

end ConnectorSettings

/-- The retry policy of the pipeline as it is written; stages may be repeated. -/
structure PipelineSettings where
  maxAttempts : Nat := 3
  retryEntry : RetryEntry := .failingStage
  nonRetryable : List Stage := [.validate]
  backoff : Backoff := ⟨1000, 2, some 30000⟩
  deriving DecidableEq, Repr, Inhabited

/-- The entry with a name. -/
def RetryEntry.ofName? (s : String) : Option RetryEntry :=
  [failingStage, start].find? (·.name == s)

instance : Section PipelineSettings where
  fresh := {}
  members := [
    (Member.count "max_attempts" .word32 (·.maxAttempts) (fun s n => { s with maxAttempts := n }) 1
      (some maxAttemptsAllowed)).described "Attempts per message, including the first",
    { name := "retry_entry"
      description? := some "Re-entry point on retry"
      shape := .entry
      get := fun s => .text s.retryEntry.name
      read? := fun node s =>
        (node.choice?.bind RetryEntry.ofName?).map fun e => { s with retryEntry := e } },
    { name := "non_retryable_stages"
      description? := some "Stages whose failures dead-letter immediately"
      shape := .words
      get := fun s => .list (s.nonRetryable.map fun t => .text t.name)
      read? := fun node s => do
        let stages ← (← node.items?).mapM fun item => item.choice?.bind Stage.ofName?
        some { s with nonRetryable := stages } },
    .count "backoff_initial_ms" .word64 (·.backoff.initial)
      fun s n => { s with backoff.initial := n },
    .factor "backoff_multiplier" (·.backoff.multiplier)
      fun s x => { s with backoff.multiplier := x },
    .optionalCount "backoff_max_ms" (·.backoff.max?) fun s n => { s with backoff.max? := n }]

namespace PipelineSettings

/-- The policy in effect. -/
def policy (s : PipelineSettings) : PipelinePolicy :=
  { maxAttempts := max 1 s.maxAttempts, retryEntry := s.retryEntry
    nonRetryable := Stage.all.filter s.nonRetryable.contains, backoff := s.backoff }

/-- Numerical equality. -/
def agrees (a b : PipelineSettings) : Bool :=
  a.maxAttempts == b.maxAttempts && a.retryEntry == b.retryEntry &&
  a.nonRetryable == b.nonRetryable && a.backoff.agrees b.backoff

end PipelineSettings

/-- A configuration. -/
structure Configuration where
  version : String := "1.0"
  defaults : PolicySettings := {}
  connectors : ConnectorType → Option ConnectorSettings := fun _ => none
  pipeline : PipelineSettings := {}

namespace Configuration

instance : Inhabited Configuration := ⟨{}⟩

/-- Says something about the connector of a kind, instead of what was said before. -/
def putConnector (c : Configuration) (t : ConnectorType) (s : ConnectorSettings) : Configuration :=
  { c with connectors := fun u => if u = t then some s else c.connectors u }

/-- The connectors that are mentioned, in declaration order. -/
def mentioned (c : Configuration) : List (ConnectorType × ConnectorSettings) :=
  ConnectorType.all.filterMap fun t => (c.connectors t).map (t, ·)

/-- Reads the connectors; of two entries of one kind the later one counts. -/
def readConnectors? (c : Configuration) : List (Node × Node) → Option Configuration
  | [] => some c
  | (key, value) :: rest => do
    let t ← ConnectorType.ofName? (← key.choice?)
    readConnectors? (c.putConnector t (← Section.read? value)) rest

instance : Section Configuration where
  fresh := {}
  members := [
    (Member.text "version" (·.version) ({ · with version := · })).described "Configuration version",
    (Member.nested "defaults" "PolicyConfig" (·.defaults) ({ · with defaults := · })).described
      "Policy settings every connector starts from",
    { name := "connectors"
      description? := some "Per-type connector settings"
      shape := .records "ConnectorSettings"
      get := fun c => .group (c.mentioned.map fun (t, s) => (t.name, Section.settings s))
      read? := fun node c => do
        readConnectors? { c with connectors := fun _ => none } (← node.entries?) },
    (Member.nested "pipeline" "PipelineConfig" (·.pipeline) ({ · with pipeline := · })).described
      "Message pipeline retry policy"]

/-- The kinds whose connectors are to be registered, in declaration order. -/
def enabled (c : Configuration) : List ConnectorType :=
  ConnectorType.all.filter fun t => (c.connectors t).any (·.enabled)

/-- The policy sections of a kind: the defaults with what its connector replaces. -/
def resolved (c : Configuration) (t : ConnectorType) : PolicySettings :=
  match (c.connectors t).bind (·.policies?) with
  | some o => c.defaults.overlay o
  | none => c.defaults

/-- The policy stack of a kind. -/
def policyFor (c : Configuration) (t : ConnectorType) : StackConfig := (c.resolved t).stackConfig

/-- Numerical equality. -/
def agrees (a b : Configuration) : Bool :=
  a.version == b.version && a.defaults.agrees b.defaults && a.pipeline.agrees b.pipeline &&
  ConnectorType.all.all fun t => bothAgree ConnectorSettings.agrees (a.connectors t) (b.connectors t)

/-- The document of a configuration. -/
def node (c : Configuration) : Node := (Section.settings c).node

/-- The text of a configuration. -/
def text (c : Configuration) : String := write c.node

end Configuration

/-- Why a text is no acceptable configuration. -/
inductive ConfigFailure where
  | unreadable
  | defaults (fault : PolicyFault)
  | emptyEndpoint (kind : ConnectorType)
  | connector (kind : ConnectorType) (fault : PolicyFault)
  | pipeline (paths : List String)
  deriving DecidableEq, Repr

namespace PolicyFault

/-- The paths of the values that are out of range. -/
def paths : PolicyFault → List String
  | .outOfRange paths => paths
  | .windowTooShort .. => []

/-- The fault in words, without the values that are out of range. -/
def message : PolicyFault → String
  | .outOfRange _ => "config validation failed"
  | .windowTooShort minimum window =>
    s!"circuit_breaker.minimum_number_of_calls ({minimum}) exceeds sliding_window_size ({window})"

end PolicyFault

namespace ConfigFailure

/-- The failure in words, without the values that are out of range. -/
def message : ConfigFailure → String
  | .unreadable => "Failed to parse config"
  | .defaults fault => s!"invalid default policies: {fault.message}"
  | .emptyEndpoint t => s!"Connector '{t.name}': endpoint must not be empty"
  | .connector t fault => s!"Connector '{t.name}': invalid policies: {fault.message}"
  | .pipeline _ => "Pipeline: config validation failed"

/-- The paths of the values that are out of range. -/
def paths : ConfigFailure → List String
  | .defaults fault | .connector _ fault => fault.paths
  | .pipeline paths => paths
  | _ => []

end ConfigFailure

namespace Configuration

/-- Checks what is said about the connector of a kind. -/
def checkConnector (c : Configuration) (t : ConnectorType) : Except ConfigFailure Unit :=
  match c.connectors t with
  | none => .ok ()
  | some s =>
    if s.endpoint? = some "" then .error (.emptyEndpoint t)
    else (c.resolved t).check.mapError (.connector t)

/-- Checks the defaults, then the connectors in declaration order, then the pipeline. -/
def check (c : Configuration) : Except ConfigFailure Unit := do
  c.defaults.check.mapError .defaults
  ConnectorType.all.forM c.checkConnector
  match Section.faults c.pipeline with
  | [] => .ok ()
  | paths => .error (.pipeline paths)

/-- Reads a text without placeholders into sections. -/
def parse? (s : String) : Option Configuration := Node.read? s >>= Section.read?

/-- Reads a configuration: placeholders are expanded, the document is read, the sections are
checked. -/
def ofText (env : Environment) (s : String) : Except ConfigFailure Configuration :=
  match parse? (expand env s) with
  | none => .error .unreadable
  | some c => c.check.map fun _ => c

/-- Whether the text of a configuration is read back as that configuration. -/
def readsBack (env : Environment) (c : Configuration) : Bool :=
  (ofText env c.text).toOption.any (·.agrees c)

end Configuration

end GuardedDispatch
