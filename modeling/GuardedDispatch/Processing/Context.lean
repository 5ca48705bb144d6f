import GuardedDispatch.Connector.Failure
import GuardedDispatch.Json.Value
import GuardedDispatch.Processing.RetrySnapshot
import GuardedDispatch.Text.Dictionary

/-!
# The context of a message in processing

A context carries a message through its attempts: its identity, the attributes that stages put on
it, the session it was delivered in, and what is known of earlier attempts. A retry is derived from
a context, which is handed back unchanged once no attempt is left.
-/

namespace GuardedDispatch

open Text

/-- The session a message was delivered in, by number; only a transactional one is settled. -/
structure DeliverySession where
  id : Nat
  transactional : Bool
  deriving DecidableEq, Repr, Inhabited

/-- A message in processing. -/
structure ProcessingContext (μ : Type) where
  message : μ
  session? : Option DeliverySession := none
  correlationId : String
  attributes : Dictionary Json := ∅
  snapshot? : Option RetrySnapshot := none
  maxAttempts : Nat
  firstAttemptAt : Int
  startedAt : Int

namespace ProcessingContext

variable {μ σ : Type}

/-- A message at its first attempt. -/
def new (message : μ) (correlationId : String) (maxAttempts : Nat) (now : Int) :
    ProcessingContext μ where
  message
  correlationId
  maxAttempts := max 1 maxAttempts
  firstAttemptAt := now
  startedAt := now

/-- Gives the message another identity. -/
def withCorrelationId (c : ProcessingContext μ) (id : String) : ProcessingContext μ :=
  { c with correlationId := id }

/-- Puts the message into a delivery session. -/
def withSession (c : ProcessingContext μ) (s : DeliverySession) : ProcessingContext μ :=
  { c with session? := some s }

/-- Sets an attribute. -/
def setAttribute (c : ProcessingContext μ) (name : String) (value : Json) : ProcessingContext μ :=
  { c with attributes := c.attributes.put name value }

/-- The value of an attribute. -/
def attribute? (c : ProcessingContext μ) (name : String) : Option Json := c.attributes.get? name

/-- The number of the attempt; the first one has no snapshot. -/
def attempt (c : ProcessingContext μ) : Nat := c.snapshot?.elim 1 (·.attempt)

/-- Whether no attempt follows. -/
def isLastAttempt (c : ProcessingContext μ) : Bool := c.maxAttempts ≤ c.attempt

/-- Whether the message is settled with its session. -/
def isTransactional (c : ProcessingContext μ) : Bool := c.session?.any (·.transactional)

/-- The session to settle, if it is transactional. -/
def transactionalSession? (c : ProcessingContext μ) : Option DeliverySession :=
  c.session?.filter (·.transactional)

/-- The snapshot of the running attempt. -/
def snapshot (c : ProcessingContext μ) : RetrySnapshot :=
  c.snapshot?.getD (.initial c.correlationId c.maxAttempts c.firstAttemptAt)

/-- The context of the next attempt, if one is left. -/
def nextAttempt? (c : ProcessingContext μ) (stage cause : String) (backoff : Backoff) (now : Int) :
    Option (ProcessingContext μ) :=
  if c.isLastAttempt then none
  else some { c with snapshot? := some (c.snapshot.next stage cause backoff now), startedAt := now }

/-- Retires a context in favour of its next attempt; the last one is handed back as it is. -/
def retire (c : ProcessingContext μ) (stage cause : String) (backoff : Backoff) (now : Int) :
    Except (ProcessingContext μ) (ProcessingContext μ) :=
  match c.nextAttempt? stage cause backoff now with
  | some next => .ok next
  | none => .error c

/-- A retry can be derived exactly while an attempt is left. -/
theorem nextAttempt?_eq_none_iff (c : ProcessingContext μ) (stage cause : String)
    (backoff : Backoff) (now : Int) :
    c.nextAttempt? stage cause backoff now = none ↔ c.isLastAttempt = true := by
  simp only [nextAttempt?]
  split <;> simp_all

/-- The failure of settling the session, in the words of the action. -/
def sessionFailure (c : ProcessingContext μ) (kind : FailureKind) (action cause : String) :
    ConnectorFailure :=
  ((ConnectorFailure.of kind s!"{action} failed for message {c.correlationId}").withOperation
    action).becauseOf cause

/-- What the caller learns from the session's answer to a commit. -/
def afterCommit (c : ProcessingContext μ) (answer : Except String Unit) :
    Except ConnectorFailure Unit :=
  answer.mapError (c.sessionFailure .sessionCommit "commit")

/-- What the caller learns from the session's answer to a rollback. -/
def afterRollback (c : ProcessingContext μ) (answer : Except String Unit) :
    Except ConnectorFailure Unit :=
  answer.mapError (c.sessionFailure .sessionRollback "rollback")

/-- The context in diagnostics. -/
def diagnostic (c : ProcessingContext μ) : String :=
  "ProcessingContext \x7b correlation_id: " ++ quoted c.correlationId ++
  s!", attempt: {c.attempt}, max_attempts: {c.maxAttempts}, " ++
  s!"transactional: {c.isTransactional}, attributes: {c.attributes.size} \x7d"

end ProcessingContext

end GuardedDispatch
