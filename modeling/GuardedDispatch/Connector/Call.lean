import GuardedDispatch.Connector.Basic

/-!
# Calls through a connector

A call that comes to a connector is turned away if its request is for another kind of backend,
which leaves the connector as it was. Otherwise it enters, and then either finds the connector not
running or passes through the policy stack. However it ends, its failure says where it happened.
-/

namespace GuardedDispatch

/-- Where a call through a connector stands. -/
inductive CallStage where
  | arriving
  | guarded (call : Call ConnectorFailure Response)
  | answered (result : Except ConnectorFailure Response)

/-- A call through a connector: what is sent, how, where, and how far it is. Backends answer, so the
backend failure that a caller gets when the task of its call breaks down is left out. -/
structure ConnectorCall where
  mode : SendMode
  request : Request
  context : CallContext
  stage : CallStage := .arriving

namespace ConnectorCall

/-- The answer of a call that has one. -/
def answer? (c : ConnectorCall) : Option (Except ConnectorFailure Response) :=
  match c.stage with
  | .answered r => some r
  | _ => none

/-- Whether the call is inside its connector. -/
def isInside (c : ConnectorCall) : Bool :=
  match c.stage with
  | .guarded _ => true
  | _ => false

/-- The operation that the policies guard: one send of the backend. -/
def operation {β : Type} [Backend β] (c : ConnectorCall) :
    Operation β ConnectorFailure Response where
  start b _ := Backend.startSend b c.mode c.request c.context
  finish b ticket :=
    (Backend.finishSend b c.mode c.request c.context ticket).map id (·.mapError .inner)

end ConnectorCall

/-- Which failures may be tried again: of the backend's own, those that another attempt could help;
of the policies', those that the default rule allows. -/
def mayRetry : PolicyFailure ConnectorFailure → Bool
  | .inner e => e.isRetryable
  | e => e.retryByDefault ConnectorFailure.display

namespace Connector

variable {β : Type} [Backend β]

/-- Ends a call inside the connector with the result of its policies. -/
def conclude (c : Connector β) (call : ConnectorCall)
    (r : Except (PolicyFailure ConnectorFailure) Response) : Connector β × ConnectorCall :=
  let placed := r.mapError fun e => c.placed call.context call.mode (.ofPolicy e)
  (c.answer r.isOk, { call with stage := .answered placed })

/-- Moves a call on by one step; `none` while it has to wait and once it is answered. -/
def stepCall? (now : Nat) (c : Connector β) (call : ConnectorCall) :
    Option (Connector β × ConnectorCall) :=
  match call.stage with
  | .answered _ => none
  | .arriving =>
    match call.request.expect c.kind with
    | .error e =>
      some (c, { call with stage := .answered (.error (c.placed call.context call.mode e)) })
    | .ok _ =>
      let c := c.enter
      if c.status = .running then
        some (c.tuned call.context,
          { call with stage := .guarded { options := call.context.callOptions } })
      else
        some (c.answer false,
          { call with
            stage := .answered (.error (c.placed call.context call.mode c.refusal)) })
  | .guarded inner => do
    let (stack, backend, inner) ← c.stack.step? call.operation mayRetry now c.backend inner
    let c := { c with stack, backend }
    match inner.phase.result? with
    | some r => some (c.conclude call r)
    | none => some (c, { call with stage := .guarded inner })

/-- The next moment at which a waiting call moves by itself. -/
def callWakeAt? (c : Connector β) (call : ConnectorCall) : Option Nat :=
  match call.stage with
  | .guarded inner => c.stack.wakeAt? inner
  | _ => none

/-- Takes a call away where it stands. -/
def dropCall (c : Connector β) (call : ConnectorCall) (now : Nat) : Connector β :=
  match call.stage with
  | .guarded inner => { c with stack := c.stack.drop inner now }.leave
  | _ => c

end Connector

end GuardedDispatch
