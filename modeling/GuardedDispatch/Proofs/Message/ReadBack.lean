import GuardedDispatch.Proofs.Message.Acceptance

/-!
# What a request says

A request that was built has the values that were supplied last. A blank reply destination is an
exception: it counts as not supplied. A request under another correlation id differs from the one
that was built in its correlation id, which for a log record is one of the headers, and in nothing
else.
-/

namespace GuardedDispatch

open Text

/-- A field got a value, and every other field has the value that it had. -/
structure Replaced {F : Type} {V : F → Type} (f : F) (v : V f)
    (before after : (f : F) → Option (V f)) : Prop where
  changed : after f = some v
  kept : ∀ g, g ≠ f → after g = before g

/-- The correlation id in effect. -/
def RequestRemarks.correlationId? : RequestRemarks → Option String
  | .http _ remarks => HttpRemark.inEffect remarks .correlationId
  | .queue remarks => QueueField.inEffect remarks .correlationId
  | .log remarks => LogRemark.inEffect remarks (.header correlationHeader)
  | .graphQuery remarks => latest? GraphQueryField.correlationId remarks

/-- The second request differs from the first in the correlation id that it got. -/
def Request.Stamped (id : String) : Request → Request → Prop
  | .http r, .http r' =>
    r'.method = r.method ∧ r'.query = r.query ∧ Replaced .correlationId id r.get? r'.get?
  | .queue r, .queue r' => Replaced .correlationId id r.get? r'.get?
  | .log r, .log r' => Replaced (.header correlationHeader) id r.get? r'.get?
  | .graphQuery r, .graphQuery r' => Replaced .correlationId id r.get? r'.get?
  | _, _ => False

private theorem RequestRemarks.Supplies.correlationId? {d : RequestRemarks} {r : Request}
    (h : d.Supplies r) : r.correlationId? = d.correlationId? := by
  cases d with
  | http method remarks =>
    cases r with
    | http r => exact h.2.2 .correlationId
    | _ => exact h.elim
  | queue remarks =>
    cases r with
    | queue r => exact h.1 .correlationId nofun
    | _ => exact h.elim
  | log remarks =>
    cases r with
    | log r => exact h (.header correlationHeader)
    | _ => exact h.elim
  | graphQuery remarks =>
    cases r with
    | graphQuery r => exact h .correlationId
    | _ => exact h.elim

private theorem Request.stamped_withCorrelationId (r : Request) (id : String) :
    r.Stamped id (r.withCorrelationId id) := by
  cases r with
  | http r =>
    refine ⟨rfl, rfl, rfl, fun g hg ↦ ?_⟩
    cases g with
    | correlationId => exact absurd rfl hg
    | _ => rfl
  | queue r =>
    refine ⟨rfl, fun g hg ↦ ?_⟩
    cases g with
    | correlationId => exact absurd rfl hg
    | _ => rfl
  | log r =>
    refine ⟨r.headers.get?_put_self _ id, fun g hg ↦ ?_⟩
    cases g with
    | header name =>
      exact r.headers.get?_put_of_ne (fun hname ↦ hg (congrArg LogField.header hname.symm)) id
    | _ => rfl
  | graphQuery r =>
    refine ⟨rfl, fun g hg ↦ ?_⟩
    cases g with
    | correlationId => exact absurd rfl hg
    | _ => rfl

/-- A request that was built reads back as it was supplied, a blank reply destination aside, and
stamping it with another correlation id changes that and nothing else. -/
theorem RequestRemarks.built_request_reads_back (d : RequestRemarks) {r : Request}
    (h : d.build = .ok r) :
    d.Supplies r ∧ r.correlationId? = d.correlationId? ∧
      ∀ id, r.Stamped id (r.withCorrelationId id) := by
  have hsupplies : d.Supplies r := (h ▸ d.checked_build).holds_of_ok
  exact ⟨hsupplies, hsupplies.correlationId?, r.stamped_withCorrelationId⟩

/-- What is said about a record that is given its correlation id in both ways. -/
def twiceCorrelated : RequestRemarks :=
  .log [.detail ⟨.topic, "t"⟩, .correlationId "a", .detail ⟨.payload, []⟩,
    .detail ⟨.header correlationHeader, "b"⟩]

/-- The record. -/
def twiceCorrelatedRecord : LogRequest where
  topic := "t"
  key? := none
  payload := []
  partition? := none
  headers := Dictionary.put ∅ correlationHeader "b"
  timestamp? := none
  acks := .all
  idempotent := false

/-- The correlation id that was given last is that of the record. -/
theorem record_reads_back_last_correlation :
    twiceCorrelated.Supplies (.log twiceCorrelatedRecord) ∧
      twiceCorrelatedRecord.correlationId? = some "b" ∧
      Replaced (.header correlationHeader) "c" twiceCorrelatedRecord.get?
        (twiceCorrelatedRecord.withCorrelationId "c").get? := by
  obtain ⟨hsupplies, hid, hstamped⟩ :=
    twiceCorrelated.built_request_reads_back (r := .log twiceCorrelatedRecord) rfl
  exact ⟨hsupplies, hid, hstamped "c"⟩

/-- What is said about a message that is sent without a reply and with a blank reply destination. -/
def blankReply : List (Detail QueueField.Value) :=
  [⟨.destination, "q"⟩, ⟨.payload, [0x78]⟩, ⟨.replyTo, " "⟩]

/-- A blank reply destination is supplied, the message is accepted, and it has none. -/
theorem blank_reply_destination_reads_unset :
    QueueField.inEffect blankReply .replyTo = some " " ∧
      ∃ r, (RequestRemarks.queue blankReply).build = .ok (.queue r) ∧ r.get? .replyTo = none :=
  ⟨rfl, _, rfl, rfl⟩

end GuardedDispatch
