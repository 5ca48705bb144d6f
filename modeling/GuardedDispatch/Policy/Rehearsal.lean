import GuardedDispatch.Policy.Stack
import GuardedDispatch.Schedule

/-!
# Rehearsals: scripted calls against one stack

A rehearsal runs calls whose operations follow a script against one policy stack, under a virtual
clock. A task is one such call; a call without script runs without end once it is admitted, which
is how a slot is held. A call may bring a stack of its own, which leaves the shared one alone.
-/

namespace GuardedDispatch

/-- What the operation does in one attempt: how long it takes and how it ends. -/
structure ScriptEntry where
  latency : Nat := 0
  outcome : Except (PolicyFailure String) String := .ok "ok"

/-- Which failures a rehearsed call may try again. -/
inductive RetryRule where
  | default
  | always
  | never
  | timeouts
  deriving DecidableEq, Repr

/-- Whether a failure may be tried again. -/
def RetryRule.allows (r : RetryRule) (e : PolicyFailure String) : Bool :=
  match r with
  | .default => e.retryByDefault id
  | .always => true
  | .never => false
  | .timeouts => e.isTimeout

/-- The entry for attempt `n`; the last entry repeats, and an empty script succeeds at once. -/
def scriptEntry (script : List ScriptEntry) (n : Nat) : ScriptEntry :=
  (script[n - 1]? <|> script.getLast?).getD {}

/-- What a call does once it is admitted: follow a script, or hold its slot under a label until it
is let go. -/
inductive Work where
  | follow (script : List ScriptEntry)
  | hold (label : String)

/-- The operation of a call's work; holding never ends by itself. -/
def Work.operation : Work → Operation Unit String String
  | .follow script => {
      start := fun _ n => ((), ⟨some (scriptEntry script n).latency, n⟩)
      finish := fun _ n => ((), (scriptEntry script n).outcome) }
  | .hold _ => { start := fun _ _ => ((), ⟨none, 0⟩), finish := fun _ _ => ((), .ok "slot") }

/-- A rehearsed call, when it was answered, and whether it was taken away. -/
structure RehearsedCall where
  call : Call String String := {}
  work : Work
  rule : RetryRule := .default
  ownStack? : Option Stack := none
  answeredAt? : Option Nat := none
  gone : Bool := false

namespace RehearsedCall

/-- Whether the call holds its slot. -/
def holding (c : RehearsedCall) : Bool :=
  match c.work, c.call.phase with
  | .hold _, .attempting _ => !c.gone
  | _, _ => false

/-- The answer of a call: the slot it holds or the result it finished with. -/
def answer (c : RehearsedCall) : Except (PolicyFailure String) String :=
  c.call.phase.result?.getD (.ok "slot")

end RehearsedCall

/-- One stack, the calls made so far in the order in which they began to wait, and the clock. -/
structure Rehearsal where
  now : Nat := 0
  stack : Stack
  calls : List (TaskId × RehearsedCall) := []
  nextId : TaskId := 0

namespace Rehearsal

/-- The call with a number. -/
def call? (w : Rehearsal) (t : TaskId) : Option RehearsedCall := w.calls.lookup t

/-- Replaces a call. -/
def putCall (w : Rehearsal) (t : TaskId) (c : RehearsedCall) : Rehearsal :=
  { w with calls := w.calls.map fun (u, d) => if u = t then (u, c) else (u, d) }

/-- Takes a call away where it stands. -/
def dismiss (w : Rehearsal) (t : TaskId) : Rehearsal :=
  match w.call? t with
  | none => w
  | some c =>
    let w := w.putCall t { c with gone := true }
    if c.ownStack?.isSome then w else { w with stack := w.stack.drop c.call w.now }

/-- The call that holds a slot under a label. -/
def holder? (w : Rehearsal) (label : String) : Option TaskId :=
  (w.calls.find? fun (_, c) =>
    c.holding && match c.work with
      | .hold l => l == label
      | .follow _ => false).map (·.1)

/-- One step of a call. A slot that comes to be held under a label replaces the one held before. -/
def stepCall? (w : Rehearsal) (t : TaskId) : Option Rehearsal := do
  let c ← w.call? t
  if c.gone then none
  let (stack, _, call) ←
    (c.ownStack?.getD w.stack).step? c.work.operation c.rule.allows w.now () c.call
  let w := if c.ownStack?.isSome then w else { w with stack }
  let next := { c with call, ownStack? := c.ownStack?.map fun _ => stack }
  let answered := next.holding || next.call.phase.result?.isSome
  let next := { next with answeredAt? := if answered then some w.now else none }
  let w := match next.holding, c.work with
    | true, .hold label => (w.holder? label).elim w w.dismiss
    | _, _ => w
  some (w.putCall t next)

instance : World Rehearsal where
  now := Rehearsal.now
  setNow w time := { w with now := time }
  tasks w := w.calls.map (·.1)
  requeue w t :=
    { w with calls := w.calls.filter (·.1 != t) ++ w.calls.filter (·.1 == t) }
  step? := stepCall?
  wakeAt? w t := do
    let c ← w.call? t
    if c.gone then none else (c.ownStack?.getD w.stack).wakeAt? c.call

/-- Adds a call that has not yet begun. -/
def start (w : Rehearsal) (c : RehearsedCall) : Rehearsal × TaskId :=
  ({ w with calls := w.calls ++ [(w.nextId, c)], nextId := w.nextId + 1 }, w.nextId)

/-- Whether a call was answered or taken away. -/
def isOver (w : Rehearsal) (t : TaskId) : Bool :=
  (w.call? t).all fun c => c.gone || c.answeredAt?.isSome

/-- Drops a call that has no answer yet. -/
def cancel (w : Rehearsal) (t : TaskId) : Rehearsal := if w.isOver t then w else w.dismiss t

end Rehearsal

end GuardedDispatch
