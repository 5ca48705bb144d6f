import GuardedDispatch.Message.Context
import GuardedDispatch.Message.Envelope
import GuardedDispatch.Text.Quoted
import GuardedDispatch.View.Policy

/-!
# JSON views of messages and failures

Requests, responses, contexts and failures as objects with null for what is not set; bytes are
shown as hexadecimal text and durations as milliseconds.
-/

namespace GuardedDispatch.View

/-- Bytes as hexadecimal text. -/
def bytes (b : Bytes) : Json := .text (Text.hexText b)

/-- Optional bytes as hexadecimal text. -/
def bytes? (b : Option Bytes) : Json := optional bytes b

/-- A dictionary as an object. -/
def dictionary {α : Type} (view : α → Json) (d : Text.Dictionary α) : Json :=
  .object (d.entries.map fun (n, v) => (n, view v))

/-- Headers as an object. -/
def headers (h : Headers) : Json := dictionary .text h

/-- Texts as a list. -/
def texts (l : List String) : Json := .list (l.map .text)

/-- A failure with its report, the last attempt's failure, and what was behind it. -/
def failure (e : ConnectorFailure) : Json :=
  let r := e.report
  let last := match e with
    | .after r c => if r.kind = .retryExhausted then failure c else .null
    | _ => .null
  .record [("kind", .text r.kind.key), ("message", .text r.message), ("display", .text r.display),
    ("connector", .text? (r.connector?.map (·.name))), ("endpoint", .text? r.endpoint?),
    ("datacenter", .text? r.datacenter?), ("operation", .text? r.operation?),
    ("code", optional .whole r.code?), ("retryable", .bool e.isRetryable),
    ("root_kind", .text e.rootKind.key), ("last_failure", last), ("sources", texts e.sources)]

/-- A result, or the failure instead of it. -/
def result {α : Type} (view : α → Json) : Except ConnectorFailure α → Json
  | .ok a => .record [("ok", view a)]
  | .error e => .record [("err", failure e)]

/-- The parts of a request, by kind. -/
def request : Request → Json
  | .http r =>
    .record [("method", .text r.method.name), ("path", .text r.path),
      ("query", .list (r.query.map fun (n, v) => texts [n, v])), ("headers", headers r.headers),
      ("body", bytes? r.body?), ("correlation_id", .text? r.correlationId?)]
  | .queue r =>
    .record [("destination", .text r.destination), ("payload", bytes r.payload),
      ("headers", headers r.headers), ("correlation_id", .text? r.correlationId?),
      ("message_group", .text? r.messageGroup?), ("delivery_mode", .text r.deliveryMode.name),
      ("priority", .nat? r.priority?), ("ttl_ms", .nat? r.timeToLive?),
      ("exchange_pattern", .text r.exchangePattern.name), ("reply_to", .text? r.replyTo?)]
  | .log r =>
    .record [("topic", .text r.topic), ("key", bytes? r.key?), ("payload", bytes r.payload),
      ("partition", .nat? r.partition?), ("headers", headers r.headers),
      ("correlation_id", .text? r.correlationId?),
      ("timestamp_ms", optional .whole r.timestamp?), ("acks", .text r.acks.name),
      ("idempotent", .bool r.idempotent)]
  | .graphQuery r =>
    .record [("resource", .text r.resource), ("query", .text r.query),
      ("variables", dictionary id r.variableValues), ("api_version", .text? r.apiVersion?),
      ("page_size", .nat? r.pageSize?), ("headers", headers r.headers),
      ("correlation_id", .text? r.correlationId?)]

/-- The parts of a response, by kind. -/
def responseParts (r : Response) : Json :=
  let success := ("success", Json.bool r.isSuccess)
  match r with
  | .http r =>
    .record [("status", .nat r.status), ("headers", headers r.headers), ("body", bytes? r.body?),
      success]
  | .queue r =>
    .record [("message_id", .text r.messageId), ("correlation_id", .text? r.correlationId?),
      ("payload", bytes? r.payload?), success]
  | .log r =>
    .record [("position", optional (fun p =>
      .list [.text p.topic, .nat p.partition, .nat p.offset]) r.position?), success]
  | .graphQuery r =>
    .record [("status", .nat r.status), ("request_id", .text? r.requestId?),
      ("data", r.data?.getD .null), ("next_link", .text? r.nextLink?), ("errors", texts r.errors),
      success]

/-- A response: what every kind has, and its parts. -/
def response (r : Response) : Json :=
  .record [("type", .text r.kind.name), ("success", .bool r.isSuccess),
    ("identifier", .text? r.identifier?), ("payload", bytes? r.payload?),
    ("response", responseParts r)]

/-- A context with the settings that it hands to the policy stack. -/
def context (c : CallContext) : Json :=
  .record [("endpoint", .text c.endpoint), ("datacenter", .text? c.datacenter?),
    ("headers", headers c.headers), ("properties", dictionary id c.properties),
    ("timeout_ms", .nat? c.timeout?), ("correlation_id", .text? c.correlationId?),
    ("async", .bool c.async), ("retry", optional retryConfig c.retries?),
    ("circuit_breaker", optional breakerConfig c.breaker?),
    ("options", .record [("retry", optional retryConfig c.callOptions.retries?),
      ("timeout_ms", .nat? c.callOptions.timeout?)])]

end GuardedDispatch.View
