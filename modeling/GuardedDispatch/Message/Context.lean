import GuardedDispatch.Json.Value
import GuardedDispatch.Message.Http
import GuardedDispatch.Policy.Stack

/-!
# The context of a call

A context says where a call goes and under which settings of its own it runs.
-/

namespace GuardedDispatch

open Text

/-- Where a call goes and the settings it brings along. -/
structure CallContext where
  endpoint : String
  datacenter? : Option String := none
  headers : Headers := ∅
  properties : Dictionary Json := ∅
  timeout? : Option Nat := none
  correlationId? : Option String := none
  async : Bool := false
  retries? : Option RetryConfig := none
  breaker? : Option BreakerConfig := none
  deriving DecidableEq

namespace CallContext

/-- Accepts a context whose endpoint is not blank and whose timeout is not zero. -/
def build (c : CallContext) : Except ConnectorFailure CallContext :=
  if isBlank c.endpoint then
    .error (.validation "connector context requires a non-empty endpoint")
  else if c.timeout? = some 0 then .error (.validation "timeout must be greater than zero")
  else .ok c

/-- The context for calls within the process, named after a kind of backend. -/
def local_ (t : ConnectorType) : CallContext := { endpoint := t.name }

/-- The settings for the policy stack. -/
def callOptions (c : CallContext) : CallOptions := ⟨c.retries?, c.timeout?⟩

/-- The context under another correlation id. -/
def withCorrelationId (c : CallContext) (id : String) : CallContext :=
  { c with correlationId? := some id }

/-- Numerical equality: settings with a number that is none equal nothing. -/
def agrees (a b : CallContext) : Bool :=
  { a with retries? := none, breaker? := none } == { b with retries? := none, breaker? := none } &&
  (match a.retries?, b.retries? with
    | some x, some y => x.agrees y
    | none, none => true
    | _, _ => false) &&
  (match a.breaker?, b.breaker? with
    | some x, some y => x.agrees y
    | none, none => true
    | _, _ => false)

end CallContext

end GuardedDispatch
