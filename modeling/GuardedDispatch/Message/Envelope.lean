import GuardedDispatch.Message.GraphQuery
import GuardedDispatch.Message.Log
import GuardedDispatch.Message.Queue

/-!
# Requests and responses of any kind

An envelope holds a request or a response of one of the four kinds, so that it can be routed by
kind before anyone looks inside.
-/

namespace GuardedDispatch

/-- A request of some kind. -/
inductive Request where
  | http (r : HttpRequest)
  | queue (r : QueueRequest)
  | log (r : LogRequest)
  | graphQuery (r : GraphQueryRequest)
  deriving DecidableEq

/-- A response of some kind. -/
inductive Response where
  | http (r : HttpResponse)
  | queue (r : QueueResponse)
  | log (r : LogResponse)
  | graphQuery (r : GraphQueryResponse)
  deriving DecidableEq

/-- The bytes of a text. -/
def textBytes (s : String) : Bytes := s.toUTF8.toList

/-- The refusal of a message by a connector of another kind. -/
def kindMismatch (expected actual : ConnectorType) : ConnectorFailure :=
  (ConnectorFailure.validation
    s!"{expected.name} connector cannot handle a {actual.name} message").withConnector expected

namespace Request

/-- The kind of backend a request is for. -/
def kind : Request → ConnectorType
  | .http _ => .http
  | .queue _ => .queue
  | .log _ => .log
  | .graphQuery _ => .graphQuery

/-- The correlation id. -/
def correlationId? : Request → Option String
  | .http r => r.correlationId?
  | .queue r => r.correlationId?
  | .log r => r.correlationId?
  | .graphQuery r => r.correlationId?

/-- The request under another correlation id. -/
def withCorrelationId (r : Request) (id : String) : Request :=
  match r with
  | .http r => .http (r.withCorrelationId id)
  | .queue r => .queue (r.withCorrelationId id)
  | .log r => .log (r.withCorrelationId id)
  | .graphQuery r => .graphQuery (r.withCorrelationId id)

/-- Accepts a request of the expected kind only. -/
def expect (t : ConnectorType) (r : Request) : Except ConnectorFailure Request :=
  if r.kind = t then .ok r else .error (kindMismatch t r.kind)

/-- Stamping a request keeps its kind. -/
@[simp] theorem kind_withCorrelationId (r : Request) (id : String) :
    (r.withCorrelationId id).kind = r.kind := by
  cases r <;> rfl

/-- A request's correlation id is the one it was stamped with. -/
@[simp] theorem correlationId?_withCorrelationId (r : Request) (id : String) :
    (r.withCorrelationId id).correlationId? = some id := by
  cases r with
  | log r => exact r.correlationId?_withCorrelationId id
  | http r => rfl
  | queue r => rfl
  | graphQuery r => rfl

end Request

namespace Response

/-- The kind of backend a response is from. -/
def kind : Response → ConnectorType
  | .http _ => .http
  | .queue _ => .queue
  | .log _ => .log
  | .graphQuery _ => .graphQuery

/-- Whether the backend reports success. -/
def isSuccess : Response → Bool
  | .http r => isSuccessStatus r.status
  | .queue r => r.success
  | .log r => r.success
  | .graphQuery r => r.isSuccess

/-- What identifies the response: a status, a message id, a position or a request id. -/
def identifier? : Response → Option String
  | .http r => some (toString r.status)
  | .queue r => some r.messageId
  | .log r => r.position?.map (·.display)
  | .graphQuery r => r.requestId? <|> some (toString r.status)

/-- The bytes the response carries; the data of a graph query as compact JSON. -/
def payload? : Response → Option Bytes
  | .http r => r.body?
  | .queue r => r.payload?
  | .log _ => none
  | .graphQuery r => r.data?.map fun d => textBytes d.compact

/-- Accepts a response of the expected kind only. -/
def expect (t : ConnectorType) (r : Response) : Except ConnectorFailure Response :=
  if r.kind = t then .ok r else .error (kindMismatch t r.kind)

end Response

end GuardedDispatch
