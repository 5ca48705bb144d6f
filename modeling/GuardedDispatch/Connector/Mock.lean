import GuardedDispatch.Connector.Backend

/-!
# Stand-in backends

A mock backend answers from a script, then with a persistent failure if one is set, then as a
healthy backend of its kind would. It counts its calls and keeps the requests that reached it. A
minimal backend has only the hooks that every backend must have: all sends are alike, and closing
takes no time and succeeds.
-/

namespace GuardedDispatch

/-- One scripted answer. -/
inductive MockStep where
  | respond (response : Response)
  | fail (kind : FailureKind) (message : String)

/-- A mock backend. -/
structure MockBackend where
  kind : ConnectorType
  script : List MockStep := []
  failure? : Option (FailureKind × String) := none
  latency? : Option Nat := none
  healthy : Bool := true
  healthFails : Bool := false
  closeFails : Bool := false
  requests : List Request := []
  syncCalls : Nat := 0
  asyncCalls : Nat := 0
  noResponseCalls : Nat := 0
  healthChecks : Nat := 0
  closeCalls : Nat := 0
  served : Nat := 0

namespace MockBackend

/-- The answer of a healthy backend; queue messages and log records are numbered. -/
def answer (b : MockBackend) (r : Request) : Response :=
  match r with
  | .http _ => .http {}
  | .queue r =>
    .queue { messageId := s!"ID:mock-{b.served + 1}", correlationId? := r.correlationId? }
  | .log r => .log { position? := some ⟨r.topic, r.partition?.getD 0, b.served⟩ }
  | .graphQuery _ => .graphQuery { data? := some (.record [("value", .list [])]) }

/-- Counts a call by its mode. -/
def count (b : MockBackend) : SendMode → MockBackend
  | .sync => { b with syncCalls := b.syncCalls + 1 }
  | .async => { b with asyncCalls := b.asyncCalls + 1 }
  | .noResponse => { b with noResponseCalls := b.noResponseCalls + 1 }

/-- Receives a request and answers it. -/
def receive (b : MockBackend) (r : Request) : MockBackend × Except ConnectorFailure Response :=
  let b := { b with requests := b.requests ++ [r] }
  match b.script, b.failure? with
  | .respond response :: rest, _ => ({ b with script := rest }, .ok response)
  | .fail kind message :: rest, _ => ({ b with script := rest }, .error (.of kind message))
  | [], some (kind, message) => (b, .error (.of kind message))
  | [], none => ({ b with served := b.served + 1 }, .ok (b.answer r))

/-- The number of calls in all modes. -/
def totalCalls (b : MockBackend) : Nat := b.syncCalls + b.asyncCalls + b.noResponseCalls

/-- The backend in diagnostics. -/
def diagnostic (b : MockBackend) : String :=
  s!"MockBackend \x7b connector_type: {b.kind.label}, sync_calls: {b.syncCalls}, " ++
  s!"async_calls: {b.asyncCalls}, no_response_calls: {b.noResponseCalls}, .. \x7d"

instance : Backend MockBackend where
  kind := MockBackend.kind
  startSend b mode _ _ := (b.count mode, { latency? := some (b.latency?.getD 0) })
  finishSend b _ r _ _ := b.receive r
  startProbe b _ := ({ b with healthChecks := b.healthChecks + 1 }, {})
  finishProbe b _ _ :=
    (b, if b.healthFails then .error (.of .backendCommunication "health probe failed")
        else .ok b.healthy)
  startClose b := ({ b with closeCalls := b.closeCalls + 1 }, {})
  finishClose b :=
    (b, if b.closeFails then .error (.of .backendCommunication "close failed") else .ok ())

end MockBackend

/-- A scripted answer with the time it takes. -/
structure MinimalStep where
  latency : Nat := 0
  answer : Except ConnectorFailure Response := .ok (.http {})

/-- A backend with the mandatory hooks only. -/
structure MinimalBackend where
  script : List MinimalStep := []
  calls : Nat := 0
  probeLatency : Nat := 0
  probeAnswer : Except ConnectorFailure Bool := .ok true

instance : Backend MinimalBackend where
  kind _ := .http
  startSend b _ _ _ :=
    ({ b with calls := b.calls + 1 },
      { latency? := some ((b.script[b.calls]?.getD {}).latency), ticket := b.calls })
  finishSend b _ _ _ n := (b, (b.script[n]?.getD {}).answer)
  startProbe b _ := (b, { latency? := some b.probeLatency })
  finishProbe b _ _ := (b, b.probeAnswer)
  startClose b := (b, {})
  finishClose b := (b, .ok ())

/-- A stand-in of either sort. -/
inductive StandIn where
  | mock (b : MockBackend)
  | minimal (b : MinimalBackend)

namespace StandIn

/-- The mock, if it is one. -/
def mock? : StandIn → Option MockBackend
  | .mock b => some b
  | .minimal _ => none

/-- Changes a mock and leaves a minimal backend alone. -/
def mapMock (s : StandIn) (f : MockBackend → MockBackend) : StandIn :=
  match s with
  | .mock b => .mock (f b)
  | .minimal b => .minimal b

instance : Backend StandIn where
  kind
    | .mock b => Backend.kind b
    | .minimal b => Backend.kind b
  startSend s mode r c :=
    match s with
    | .mock b => (Backend.startSend b mode r c).map .mock id
    | .minimal b => (Backend.startSend b mode r c).map .minimal id
  finishSend s mode r c n :=
    match s with
    | .mock b => (Backend.finishSend b mode r c n).map .mock id
    | .minimal b => (Backend.finishSend b mode r c n).map .minimal id
  startProbe s c :=
    match s with
    | .mock b => (Backend.startProbe b c).map .mock id
    | .minimal b => (Backend.startProbe b c).map .minimal id
  finishProbe s c n :=
    match s with
    | .mock b => (Backend.finishProbe b c n).map .mock id
    | .minimal b => (Backend.finishProbe b c n).map .minimal id
  startClose s :=
    match s with
    | .mock b => (Backend.startClose b).map .mock id
    | .minimal b => (Backend.startClose b).map .minimal id
  finishClose s :=
    match s with
    | .mock b => (Backend.finishClose b).map .mock id
    | .minimal b => (Backend.finishClose b).map .minimal id

end StandIn

end GuardedDispatch
