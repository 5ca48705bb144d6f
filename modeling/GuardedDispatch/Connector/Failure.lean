import GuardedDispatch.Message.ConnectorType
import GuardedDispatch.Policy.Failure

/-!
# Failures of a dispatched call

Every refusal of a policy and every failure of a backend reaches the caller as one kind of value:
what kind of failure, in which words, where it happened, and what was behind it.
-/

namespace GuardedDispatch

/-- What kind of failure a call met. -/
inductive FailureKind where
  | validation
  | authentication
  | bulkheadRejected
  | rateLimited
  | circuitOpen
  | timedOut
  | backendCommunication
  | sessionCommit
  | sessionRollback
  | retryExhausted
  | unavailable
  deriving DecidableEq, Repr, Inhabited

namespace FailureKind

/-- The kinds in declaration order. -/
def all : List FailureKind :=
  [.validation, .authentication, .bulkheadRejected, .rateLimited, .circuitOpen, .timedOut,
    .backendCommunication, .sessionCommit, .sessionRollback, .retryExhausted, .unavailable]

/-- The key of a kind in structured output. -/
def key : FailureKind → String
  | .validation => "validation"
  | .authentication => "authentication"
  | .bulkheadRejected => "bulkhead_rejected"
  | .rateLimited => "rate_limited"
  | .circuitOpen => "circuit_open"
  | .timedOut => "timed_out"
  | .backendCommunication => "backend_communication"
  | .sessionCommit => "session_commit"
  | .sessionRollback => "session_rollback"
  | .retryExhausted => "retry_exhausted"
  | .unavailable => "unavailable"

/-- The words for a kind in messages. -/
def text : FailureKind → String
  | .validation => "validation error"
  | .authentication => "authentication error"
  | .bulkheadRejected => "bulkhead rejected"
  | .rateLimited => "rate limited"
  | .circuitOpen => "circuit open"
  | .timedOut => "timed out"
  | .backendCommunication => "backend communication error"
  | .sessionCommit => "session commit error"
  | .sessionRollback => "session rollback error"
  | .retryExhausted => "retry exhausted"
  | .unavailable => "connector unavailable"

/-- The kind with a key. -/
def ofKey? (s : String) : Option FailureKind := all.find? (·.key == s)

/-- Whether another attempt could help: not against bad input, bad credentials, session failures or
a connector that is gone. -/
def isRetryable : FailureKind → Bool
  | .validation | .authentication | .sessionCommit | .sessionRollback | .unavailable => false
  | _ => true

end FailureKind

/-- The kind and words of a failure and where it happened. -/
structure FailureReport where
  kind : FailureKind
  message : String
  connector? : Option ConnectorType := none
  endpoint? : Option String := none
  datacenter? : Option String := none
  operation? : Option String := none
  code? : Option Int := none
  deriving DecidableEq, Repr, Inhabited

/-- A failure: a report alone, or with what was behind it, in words or as another failure. -/
inductive ConnectorFailure where
  | plain (report : FailureReport)
  | because (report : FailureReport) (cause : String)
  | after (report : FailureReport) (cause : ConnectorFailure)
  deriving DecidableEq, Repr

namespace FailureReport

/-- The place of a failure in words, in the order connector, operation, endpoint, code. -/
def places (r : FailureReport) : List String :=
  (r.connector?.map (s!"connector={·.name}")).toList ++
  (r.operation?.map (s!"operation={·}")).toList ++
  (r.endpoint?.map (s!"endpoint={·}")).toList ++
  (r.code?.map (s!"code={·}")).toList

/-- The report in one line. -/
def display (r : FailureReport) : String :=
  let head := s!"{r.kind.text}: {r.message}"
  if r.places.isEmpty then head else head ++ " (" ++ String.intercalate ", " r.places ++ ")"

/-- Fills in where a failure happened; what the failure says about itself stays. -/
def orContext (r : FailureReport) (connector : ConnectorType) (endpoint : String)
    (datacenter? : Option String) (operation : String) : FailureReport :=
  { r with
    connector? := r.connector? <|> some connector
    endpoint? := r.endpoint? <|> some endpoint
    datacenter? := r.datacenter? <|> datacenter?
    operation? := r.operation? <|> some operation }

end FailureReport

namespace ConnectorFailure

instance : Inhabited ConnectorFailure := ⟨.plain default⟩

/-- A failure of a kind, without place or cause. -/
def of (kind : FailureKind) (message : String) : ConnectorFailure := .plain { kind, message }

/-- A request that is not acceptable. -/
def validation (message : String) : ConnectorFailure := of .validation message

/-- The failure's own report. -/
def report : ConnectorFailure → FailureReport
  | .plain r | .because r _ | .after r _ => r

/-- Changes the report and keeps what was behind the failure. -/
def mapReport (f : FailureReport → FailureReport) : ConnectorFailure → ConnectorFailure
  | .plain r => .plain (f r)
  | .because r c => .because (f r) c
  | .after r c => .after (f r) c

/-- The kind of a failure. -/
def kind (e : ConnectorFailure) : FailureKind := e.report.kind

/-- The failure in one line. -/
def display (e : ConnectorFailure) : String := e.report.display

/-- Whether another attempt could help. -/
def isRetryable (e : ConnectorFailure) : Bool := e.kind.isRetryable

/-- Names the connector. -/
def withConnector (e : ConnectorFailure) (t : ConnectorType) : ConnectorFailure :=
  e.mapReport ({ · with connector? := some t })

/-- Names the endpoint. -/
def withEndpoint (e : ConnectorFailure) (s : String) : ConnectorFailure :=
  e.mapReport ({ · with endpoint? := some s })

/-- Names the datacenter. -/
def withDatacenter (e : ConnectorFailure) (s : String) : ConnectorFailure :=
  e.mapReport ({ · with datacenter? := some s })

/-- Names the operation. -/
def withOperation (e : ConnectorFailure) (s : String) : ConnectorFailure :=
  e.mapReport ({ · with operation? := some s })

/-- Gives the backend's code. -/
def withCode (e : ConnectorFailure) (n : Int) : ConnectorFailure :=
  e.mapReport ({ · with code? := some n })

/-- Says in words what was behind the failure. -/
def becauseOf (e : ConnectorFailure) (cause : String) : ConnectorFailure := .because e.report cause

/-- Names the failure that was behind this one. -/
def causedBy (e cause : ConnectorFailure) : ConnectorFailure := .after e.report cause

/-- Fills in where the failure happened; what it says about itself stays. -/
def orContext (e : ConnectorFailure) (connector : ConnectorType) (endpoint : String)
    (datacenter? : Option String) (operation : String) : ConnectorFailure :=
  e.mapReport (·.orContext connector endpoint datacenter? operation)

/-- The texts of what was behind the failure, nearest first. -/
def sources : ConnectorFailure → List String
  | .plain _ => []
  | .because _ c => [c]
  | .after _ c => c.display :: c.sources

/-- The failure of the last attempt, if this one reports that the attempts are used up. -/
def lastFailure? : ConnectorFailure → Option ConnectorFailure
  | .after r c => if r.kind = .retryExhausted then some c else none
  | _ => none

/-- The kind at the end of the chain of last failures. -/
def rootKind : ConnectorFailure → FailureKind
  | .after r c => if r.kind = .retryExhausted then c.rootKind else r.kind
  | .plain r | .because r _ => r.kind

/-- The failure that a caller sees for a policy failure: the backend's own one unchanged, a refusal
in its own words, and exhaustion with the failure of the last attempt behind it. -/
def ofPolicy : PolicyFailure ConnectorFailure → ConnectorFailure
  | .inner e => e
  | .bulkheadFull n w =>
    of .bulkheadRejected (PolicyFailure.message display (.bulkheadFull n w))
  | .rateLimited n t => of .rateLimited (PolicyFailure.message display (.rateLimited n t))
  | .circuitOpen n s => of .circuitOpen (PolicyFailure.message display (.circuitOpen n s))
  | .timedOut n a => of .timedOut (PolicyFailure.message display (.timedOut n a))
  | .exhausted _ k last =>
    .after { kind := .retryExhausted, message := s!"giving up after {k} attempt(s)" }
      (ofPolicy last)

/-- The root kind is the root kind of the last failure where there is one. -/
theorem rootKind_eq (e : ConnectorFailure) :
    e.rootKind = (e.lastFailure?.map rootKind).getD e.kind := by
  cases e with
  | plain r => rfl
  | because r c => rfl
  | after r c =>
    simp only [rootKind, lastFailure?]
    split <;> rfl

/-- Filling in the context twice adds nothing. -/
theorem orContext_orContext (e : ConnectorFailure) (t t' : ConnectorType) (p p' : String)
    (d : Option String) (o o' : String) :
    (e.orContext t p d o).orContext t' p' d o' = e.orContext t p d o := by
  have hr : ∀ r : FailureReport,
      (r.orContext t p d o).orContext t' p' d o' = r.orContext t p d o := by
    rintro ⟨k, m, c, en, dc, op, co⟩
    cases c <;> cases en <;> cases dc <;> cases op <;> cases d <;> rfl
  cases e <;> simp [orContext, mapReport, hr]

end ConnectorFailure

end GuardedDispatch
