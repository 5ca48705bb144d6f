import GuardedDispatch.Intake.Policy
import GuardedDispatch.Json.Reader
import GuardedDispatch.Message.Context
import GuardedDispatch.Message.Envelope

/-!
# Messages and failures from JSON

Requests are read into drafts and contexts are built, so that what comes in is checked as it would
be from anywhere else. Bytes are a text or hexadecimal digits.
-/

namespace GuardedDispatch.Intake

/-- Applies a setting if it is given. -/
def given {α β : Type} (x? : Option α) (set : β → α → β) (b : β) : β := x?.elim b (set b)

/-- Bytes from pairs of hexadecimal digits. -/
def hexBytes : List Char → Bytes
  | a :: b :: rest =>
    UInt8.ofNat ((Json.hexValue? a).getD 0 * 16 + (Json.hexValue? b).getD 0) :: hexBytes rest
  | _ => []

/-- Bytes, as a text or as hexadecimal digits. -/
def bytes? (v : Json) (name : String) : Option Bytes :=
  (v.field? name).map fun
    | .text s => textBytes s
    | b => hexBytes (b.textOr "hex" "").toList

/-- A kind of backend, by name. -/
def kind? (v : Json) (name : String) : Option ConnectorType :=
  (v.textField? name).bind ConnectorType.ofName?

/-- A kind of backend. -/
def kind (v : Json) (name : String) : ConnectorType := (kind? v name).getD .http

/-- Headers. -/
def headers (v : Json) : Headers := .ofList (v.textMembers "headers")

/-- A kind of failure. -/
def failureKind (v : Json) (name : String) : FailureKind :=
  ((v.textField? name).bind FailureKind.ofKey?).getD .validation

/-- Adds one detail to a failure, given how causes are read. -/
def withDetail (read : Json → ConnectorFailure) (e : ConnectorFailure) (v : Json) :
    ConnectorFailure :=
  let e := given (kind? v "connector") ConnectorFailure.withConnector e
  let e := given (v.textField? "endpoint") ConnectorFailure.withEndpoint e
  let e := given (v.textField? "datacenter") ConnectorFailure.withDatacenter e
  let e := given (v.textField? "operation") ConnectorFailure.withOperation e
  let e := given (v.intField? "code") ConnectorFailure.withCode e
  let e := match v.field? "cause" with
    | none => e
    | some (.text s) => e.becauseOf s
    | some c => e.causedBy (read c)
  given (v.field? "or_context")
    (fun e o => e.orContext (kind o "connector") (o.textOr "endpoint" "")
      (o.textField? "datacenter") (o.textOr "operation" "")) e

/-- A failure before its details, by how it came about: a kind, an occasion, or a policy. -/
def bareFailure (read : Json → ConnectorFailure) (v : Json) : ConnectorFailure :=
  let message := v.textOr "message" ""
  match v.textField? "ctor", v.field? "policy" with
  | some "backend", _ => .of .backendCommunication message
  | some c, _ => .of ((FailureKind.ofKey? c).getD .validation) message
  | none, some p => .ofPolicy (policyFailure (fun i => read (i.part "error")) p)
  | none, none => .of (failureKind v "kind") message

/-- A failure nested at most so deep, with its details in order. -/
def failureWithin : Nat → Json → ConnectorFailure
  | 0, v => .of (failureKind v "kind") (v.textOr "message" "")
  | depth + 1, v =>
    (v.items "steps").foldl (withDetail (failureWithin depth)) (bareFailure (failureWithin depth) v)

/-- A failure. -/
def failure (v : Json) : ConnectorFailure := failureWithin v.depth v

/-- A cause in words. -/
def cause (v : Json) : String :=
  match v.field? "cause" with
  | none => "cause"
  | some (.text s) => s
  | some c => (failure c).display

/-- A call context. -/
def context (v : Json) : Except ConnectorFailure CallContext :=
  match v.field? "local" with
  | some _ => .ok (.local_ (kind v "local"))
  | none => CallContext.build
    { endpoint := v.textOr "endpoint" "", datacenter? := v.textField? "datacenter"
      headers := headers v, properties := .ofList (v.members "properties")
      timeout? := v.natField? "timeout_ms", correlationId? := v.textField? "correlation_id"
      async := v.boolOr "async" false, retries? := (v.field? "retry").map retryConfig
      breaker? := (v.field? "circuit_breaker").map breakerConfig }

/-- A request of a kind. -/
def request (k : ConnectorType) (v : Json) : Except ConnectorFailure Request :=
  let id? := v.textField? "correlation_id"
  match k with
  | .http =>
    (HttpDraft.build
      { method := ((v.textField? "method").bind HttpMethod.ofName?).getD .get
        path? := v.textField? "path"
        query := (v.items "query").filterMap fun
          | .list [.text n, .text x] => some (n, x)
          | _ => none
        headers := headers v, body? := bytes? v "body", correlationId? := id? }).map .http
  | .queue =>
    (QueueDraft.build
      { destination? := v.textField? "destination", payload? := bytes? v "payload"
        headers := headers v, correlationId? := id?, messageGroup? := v.textField? "message_group"
        deliveryMode :=
          if v.textOr "delivery_mode" "" == "non_persistent" then .nonPersistent else .persistent
        priority? := v.natField? "priority", timeToLive? := v.natField? "ttl_ms"
        exchangePattern :=
          if v.textOr "exchange_pattern" "" == "request_response" then .requestResponse
          else .fireAndForget
        replyTo? := v.textField? "reply_to" }).map .queue
  | .log =>
    let draft : LogDraft :=
      { topic? := v.textField? "topic", key? := bytes? v "key", payload? := bytes? v "payload"
        partition? := v.natField? "partition", headers := headers v
        timestamp? := v.intField? "timestamp_ms", idempotent := v.boolOr "idempotent" false
        acks := match v.textOr "acks" "" with
          | "none" => .none
          | "leader" => .leader
          | _ => .all }
    ((given id? LogDraft.correlationId draft).build).map .log
  | .graphQuery =>
    (GraphQueryDraft.build
      { resource? := v.textField? "resource", query? := v.textField? "query"
        variableValues := .ofList (v.members "variables"), apiVersion? := v.textField? "api_version"
        pageSize? := v.natField? "page_size", headers := headers v, correlationId? := id? }).map
      .graphQuery

/-- A response of a kind. -/
def response (k : ConnectorType) (v : Json) : Response :=
  match k with
  | .http => .http { status := v.natOr "status" 200, headers := headers v, body? := bytes? v "body" }
  | .queue =>
    .queue { messageId := v.textOr "message_id" "", success := !v.boolOr "rejected" false
             correlationId? := v.textField? "correlation_id", payload? := bytes? v "payload" }
  | .log =>
    .log { position? := (v.textField? "topic").map fun t =>
             ⟨t, v.natOr "partition" 0, v.natOr "offset" 0⟩ }
  | .graphQuery =>
    .graphQuery { status := v.natOr "status" 200, requestId? := v.textField? "request_id"
                  data? := v.member? "data", nextLink? := v.textField? "next_link"
                  errors := v.textItems "errors" }

end GuardedDispatch.Intake
