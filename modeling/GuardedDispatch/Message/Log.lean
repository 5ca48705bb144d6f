import GuardedDispatch.Message.Http

/-!
# Log records and their positions

A record goes to a topic; its correlation id is one of its headers.
-/

namespace GuardedDispatch

open Text

/-- Which replicas have to confirm a record. -/
inductive Acks where
  | none
  | leader
  | all
  deriving DecidableEq, Repr, Inhabited

/-- The name of an acknowledgement level. -/
def Acks.name : Acks → String
  | .none => "none"
  | .leader => "leader"
  | .all => "all"

/-- The header that carries a record's correlation id. -/
def correlationHeader : String := "correlation-id"

/-- A valid log record. -/
structure LogRequest where
  topic : String
  key? : Option Bytes
  payload : Bytes
  partition? : Option Nat
  headers : Headers
  timestamp? : Option Int
  acks : Acks
  idempotent : Bool
  deriving DecidableEq, Repr

/-- What is known of a log record before it is checked. -/
structure LogDraft where
  topic? : Option String := none
  key? : Option Bytes := none
  payload? : Option Bytes := none
  partition? : Option Nat := none
  headers : Headers := ∅
  timestamp? : Option Int := none
  acks : Acks := .all
  idempotent : Bool := false

namespace LogDraft

/-- Sets the topic. -/
def topic (d : LogDraft) (s : String) : LogDraft := { d with topic? := some s }

/-- Sets the key. -/
def key (d : LogDraft) (b : Bytes) : LogDraft := { d with key? := some b }

/-- Sets the payload. -/
def payload (d : LogDraft) (b : Bytes) : LogDraft := { d with payload? := some b }

/-- Sets the partition. -/
def partition (d : LogDraft) (n : Nat) : LogDraft := { d with partition? := some n }

/-- Sets a header. -/
def header (d : LogDraft) (name value : String) : LogDraft :=
  { d with headers := d.headers.put name value }

/-- Sets the correlation id, which is a header. -/
def correlationId (d : LogDraft) (id : String) : LogDraft := d.header correlationHeader id

/-- Sets the producer's timestamp. -/
def timestamp (d : LogDraft) (ms : Int) : LogDraft := { d with timestamp? := some ms }

/-- Sets the acknowledgement level. -/
def withAcks (d : LogDraft) (a : Acks) : LogDraft := { d with acks := a }

/-- Sets whether repeated sends are to be recognised. -/
def withIdempotence (d : LogDraft) (on : Bool) : LogDraft := { d with idempotent := on }

/-- Checks a draft: a topic without white space, a payload, and full acknowledgement for an
idempotent record. -/
def build (d : LogDraft) : Except ConnectorFailure LogRequest :=
  match given? d.topic? with
  | none => .error (.validation "log record requires a topic")
  | some topic =>
    if topic.toList.any isSpace then
      .error (.validation s!"topic '{topic}' must not contain whitespace")
    else
      match d.payload? with
      | none => .error (.validation "log record requires a payload")
      | some payload =>
        if d.idempotent && d.acks != .all then
          .error (.validation "idempotent delivery requires acks=all")
        else
          .ok { topic, key? := d.key?, payload, partition? := d.partition?, headers := d.headers
                timestamp? := d.timestamp?, acks := d.acks, idempotent := d.idempotent }

end LogDraft

namespace LogRequest

/-- The correlation id, read from its header. -/
def correlationId? (r : LogRequest) : Option String := r.headers.get? correlationHeader

/-- The record under another correlation id. -/
def withCorrelationId (r : LogRequest) (id : String) : LogRequest :=
  { r with headers := r.headers.put correlationHeader id }

/-- A record's correlation id is the one it was stamped with. -/
@[simp] theorem correlationId?_withCorrelationId (r : LogRequest) (id : String) :
    (r.withCorrelationId id).correlationId? = some id := by
  simp [correlationId?, withCorrelationId]

end LogRequest

/-- Where a record was stored. -/
structure RecordPosition where
  topic : String
  partition : Nat
  offset : Nat
  deriving DecidableEq, Repr, Inhabited

/-- A position in one word. -/
def RecordPosition.display (p : RecordPosition) : String := s!"{p.topic}-{p.partition}@{p.offset}"

/-- The log's answer: where the record was stored, if that was asked for. -/
structure LogResponse where
  position? : Option RecordPosition := none
  success : Bool := true
  deriving DecidableEq, Repr, Inhabited

end GuardedDispatch
