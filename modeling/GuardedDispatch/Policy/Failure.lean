import GuardedDispatch.Policy.CircuitState
import GuardedDispatch.Text.Elapsed

/-!
# Failures of a guarded call

A guarded call fails because a policy refused or ended it, or because the operation itself failed.
The type is the same at every layer, so a failure passes through layers unchanged; only running
out of attempts wraps the failure of the last one.
-/

namespace GuardedDispatch

/-- Why a guarded call failed, over the operation's own failures `ε`. -/
inductive PolicyFailure (ε : Type) where
  | bulkheadFull (name : String) (maxWait : Nat)
  | rateLimited (name : String) (timeout : Nat)
  | circuitOpen (name : String) (state : CircuitState)
  | timedOut (name : String) (after : Nat)
  | exhausted (name : String) (attempts : Nat) (last : PolicyFailure ε)
  | inner (failure : ε)
  deriving DecidableEq, Repr

namespace PolicyFailure

variable {ε δ : Type}

/-- Whether admission was refused: by the bulkhead, the rate limiter or the breaker. -/
def isRejection : PolicyFailure ε → Bool
  | .bulkheadFull .. | .rateLimited .. | .circuitOpen .. => true
  | _ => false

/-- Whether a deadline expired. -/
def isTimeout : PolicyFailure ε → Bool
  | .timedOut .. => true
  | _ => false

/-- Whether every allowed attempt failed. -/
def isExhausted : PolicyFailure ε → Bool
  | .exhausted .. => true
  | _ => false

/-- The operation's failure, looking through exhaustion. -/
def inner? : PolicyFailure ε → Option ε
  | .inner e => some e
  | .exhausted _ _ last => last.inner?
  | _ => none

/-- The operation's failure, taken out of the layers around it, which are given up. -/
def takeInner? : PolicyFailure ε → Option ε
  | .inner e => some e
  | .exhausted _ _ last => last.takeInner?
  | .bulkheadFull .. | .rateLimited .. | .circuitOpen .. | .timedOut .. => none

/-- Changes the operation's failure and keeps the layers around it. -/
def map (f : ε → δ) : PolicyFailure ε → PolicyFailure δ
  | .bulkheadFull n w => .bulkheadFull n w
  | .rateLimited n t => .rateLimited n t
  | .circuitOpen n s => .circuitOpen n s
  | .timedOut n a => .timedOut n a
  | .exhausted n k last => .exhausted n k (last.map f)
  | .inner e => .inner (f e)

/-- The message, given the text of the operation's failures. -/
def message (text : ε → String) : PolicyFailure ε → String
  | .bulkheadFull n w => s!"bulkhead '{n}' is full (waited {Text.elapsedText w})"
  | .rateLimited n t => s!"rate limiter '{n}' has no permits available (waited {Text.elapsedText t})"
  | .circuitOpen n s => s!"circuit breaker '{n}' is {s.name} and does not permit further calls"
  | .timedOut n a => s!"time limiter '{n}' expired after {Text.elapsedText a}"
  | .exhausted n k last => s!"retry '{n}' exhausted after {k} attempt(s): " ++ last.message text
  | .inner e => text e

/-- The texts of the failures behind this one, nearest first: exhaustion stands for the last
attempt's failure, and the operation's failure for its own causes. -/
def sources (text : ε → String) (causes : ε → List String) : PolicyFailure ε → List String
  | .exhausted _ _ last => last.message text :: last.sources text causes
  | .inner e => text e :: causes e
  | _ => []

end PolicyFailure

/-- Whether `needle` occurs in `hay`. -/
def occursIn (needle : List Char) : List Char → Bool
  | [] => needle.isEmpty
  | c :: rest => needle.isPrefixOf (c :: rest) || occursIn needle rest

/-- Whether a text, in lower case, contains a word of ASCII letters. -/
def mentions (word s : String) : Bool := occursIn word.toList (s.toList.map Char.toLower)

/-- The default rule of what to try again: no rejection, and nothing whose message speaks of
validation or authentication. -/
def PolicyFailure.retryByDefault {ε : Type} (text : ε → String) (e : PolicyFailure ε) : Bool :=
  !e.isRejection &&
    !(mentions "validation" (e.message text) || mentions "authentication" (e.message text))

end GuardedDispatch
