import GuardedDispatch.Message.Http

/-!
# Message queue requests and responses

A request names a destination and carries a payload. Only a request-response exchange names where
the reply should go, and it has to.
-/

namespace GuardedDispatch

open Text

/-- Whether the broker keeps a message across restarts. -/
inductive DeliveryMode where
  | persistent
  | nonPersistent
  deriving DecidableEq, Repr, Inhabited

/-- The name of a delivery mode. -/
def DeliveryMode.name : DeliveryMode → String
  | .persistent => "persistent"
  | .nonPersistent => "non_persistent"

/-- Whether a reply is expected. -/
inductive ExchangePattern where
  | fireAndForget
  | requestResponse
  deriving DecidableEq, Repr, Inhabited

/-- The name of an exchange pattern. -/
def ExchangePattern.name : ExchangePattern → String
  | .fireAndForget => "fire_and_forget"
  | .requestResponse => "request_response"

/-- The highest message priority. -/
def maxPriority : Nat := 9

/-- A valid queue request. -/
structure QueueRequest where
  destination : String
  payload : Bytes
  headers : Headers
  correlationId? : Option String
  messageGroup? : Option String
  deliveryMode : DeliveryMode
  priority? : Option Nat
  timeToLive? : Option Nat
  exchangePattern : ExchangePattern
  replyTo? : Option String
  deriving DecidableEq, Repr

/-- What is known of a queue request before it is checked. -/
structure QueueDraft where
  destination? : Option String := none
  payload? : Option Bytes := none
  headers : Headers := ∅
  correlationId? : Option String := none
  messageGroup? : Option String := none
  deliveryMode : DeliveryMode := .persistent
  priority? : Option Nat := none
  timeToLive? : Option Nat := none
  exchangePattern : ExchangePattern := .fireAndForget
  replyTo? : Option String := none

namespace QueueDraft

/-- Sets the destination. -/
def destination (d : QueueDraft) (s : String) : QueueDraft := { d with destination? := some s }

/-- Sets the payload. -/
def payload (d : QueueDraft) (b : Bytes) : QueueDraft := { d with payload? := some b }

/-- Sets a header. -/
def header (d : QueueDraft) (name value : String) : QueueDraft :=
  { d with headers := d.headers.put name value }

/-- Sets the correlation id. -/
def correlationId (d : QueueDraft) (id : String) : QueueDraft :=
  { d with correlationId? := some id }

/-- Sets the message group. -/
def messageGroup (d : QueueDraft) (s : String) : QueueDraft := { d with messageGroup? := some s }

/-- Sets the delivery mode. -/
def withDeliveryMode (d : QueueDraft) (m : DeliveryMode) : QueueDraft :=
  { d with deliveryMode := m }

/-- Sets the priority. -/
def priority (d : QueueDraft) (n : Nat) : QueueDraft := { d with priority? := some n }

/-- Sets the time to live, in milliseconds. -/
def timeToLive (d : QueueDraft) (ms : Nat) : QueueDraft := { d with timeToLive? := some ms }

/-- Sets the exchange pattern. -/
def withExchangePattern (d : QueueDraft) (p : ExchangePattern) : QueueDraft :=
  { d with exchangePattern := p }

/-- Sets the reply destination. -/
def replyTo (d : QueueDraft) (s : String) : QueueDraft := { d with replyTo? := some s }

/-- Checks a draft. Blank destinations count as not given. -/
def build (d : QueueDraft) : Except ConnectorFailure QueueRequest :=
  match given? d.destination?, d.payload?.filter (!·.isEmpty) with
  | none, _ => .error (.validation "queue request requires a destination")
  | some _, none => .error (.validation "queue request requires a payload")
  | some destination, some payload =>
    if d.priority?.any (maxPriority < ·) then
      .error (.validation s!"priority {d.priority?.getD 0} out of range 0..={maxPriority}")
    else if d.timeToLive? = some 0 then
      .error (.validation "time to live must be greater than zero")
    else
      match d.exchangePattern, given? d.replyTo? with
      | .requestResponse, none =>
        .error (.validation "request-response exchange requires a reply destination")
      | .fireAndForget, some _ =>
        .error (.validation "reply destination is only valid for request-response exchanges")
      | _, replyTo? =>
        .ok { destination, payload, headers := d.headers, correlationId? := d.correlationId?
              messageGroup? := d.messageGroup?, deliveryMode := d.deliveryMode
              priority? := d.priority?, timeToLive? := d.timeToLive?
              exchangePattern := d.exchangePattern, replyTo? }

end QueueDraft

/-- The request under another correlation id. -/
def QueueRequest.withCorrelationId (r : QueueRequest) (id : String) : QueueRequest :=
  { r with correlationId? := some id }

/-- The broker's answer. -/
structure QueueResponse where
  messageId : String
  success : Bool := true
  correlationId? : Option String := none
  payload? : Option Bytes := none
  deriving DecidableEq, Repr, Inhabited

end GuardedDispatch
