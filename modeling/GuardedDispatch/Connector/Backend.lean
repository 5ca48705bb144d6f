import GuardedDispatch.Message.Context
import GuardedDispatch.Message.Envelope

/-!
# Backends

A backend is a state with hooks: sending in one of three modes, probing its health, and closing. A
hook starts, takes its time, and finishes; what it does to the state it does at these two moments.
-/

namespace GuardedDispatch

/-- How a call is made: the caller waits, the call runs on a task of its own, or nobody looks at
the response. -/
inductive SendMode where
  | sync
  | async
  | noResponse
  deriving DecidableEq, Repr, Inhabited

/-- The operation's name in failures. -/
def SendMode.operation : SendMode → String
  | .sync => "send_sync"
  | .async => "send_async"
  | .noResponse => "send_async_no_response"

/-- The hooks of a backend with state `β`. -/
class Backend (β : Type) where
  /-- The kind of backend. -/
  kind : β → ConnectorType
  /-- Begins to send. -/
  startSend : β → SendMode → Request → CallContext → β × Started
  /-- Ends a send, given its number. -/
  finishSend : β → SendMode → Request → CallContext → Nat → β × Except ConnectorFailure Response
  /-- Begins a health probe. -/
  startProbe : β → CallContext → β × Started
  /-- Ends a health probe, given its number. -/
  finishProbe : β → CallContext → Nat → β × Except ConnectorFailure Bool
  /-- Begins to close. -/
  startClose : β → β × Started
  /-- Ends closing. -/
  finishClose : β → β × Except ConnectorFailure Unit

end GuardedDispatch
