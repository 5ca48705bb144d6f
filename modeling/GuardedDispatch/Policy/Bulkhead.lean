import GuardedDispatch.Policy.Failure

/-!
# The bulkhead

A bulkhead has a number of slots. A caller that finds none free joins a bounded queue, holding a
ticket, and gives up when its wait is over. A freed slot goes to the caller that has waited
longest; it is set aside for that ticket until the caller comes for it. A closed bulkhead turns
every waiting and every later caller away.
-/

namespace GuardedDispatch

/-- Slots, the longest wait for one in milliseconds, and the length of the queue. -/
structure BulkheadConfig where
  maxConcurrent : Nat := 25
  maxWait : Nat := 5000
  maxWaiting : Nat := 100
  deriving DecidableEq, Repr, Inhabited

/-- A caller in the queue: its ticket, when it gives up, and whether a slot is set aside for it. -/
structure Waiter where
  ticket : Nat
  deadline : Nat
  assigned : Bool := false
  deriving DecidableEq, Repr

/-- A bulkhead: free slots, the queue in order of arrival, and lifetime counters. -/
structure Bulkhead where
  name : String
  config : BulkheadConfig
  free : Nat
  closed : Bool := false
  queue : List Waiter := []
  nextTicket : Nat := 0
  admitted : Nat := 0
  rejected : Nat := 0
  deriving DecidableEq, Repr

/-- What a caller that asks for a slot is told. -/
inductive SlotAnswer where
  | admitted
  | rejected
  | wait (ticket : Nat)
  deriving DecidableEq, Repr

namespace Bulkhead

/-- A bulkhead with every slot free. -/
def new (name : String) (config : BulkheadConfig) : Bulkhead :=
  { name, config, free := config.maxConcurrent }

/-- The number of callers in the queue. -/
def waiting (b : Bulkhead) : Nat := b.queue.length

/-- Sets a slot aside for the first waiter that has none yet; none if there is no such waiter. -/
def assignFirst? : List Waiter → Option (List Waiter)
  | [] => none
  | w :: rest =>
    if w.assigned then (assignFirst? rest).map (w :: ·) else some ({ w with assigned := true } :: rest)

/-- Hands a slot back: to the longest waiting caller, else to the free ones. -/
def freeSlot (b : Bulkhead) : Bulkhead :=
  match if b.closed then none else assignFirst? b.queue with
  | some queue => { b with queue }
  | none => { b with free := b.free + 1 }

/-- Asks for a slot at time `now`. -/
def request (b : Bulkhead) (now : Nat) : Bulkhead × SlotAnswer :=
  let turnedAway := ({ b with rejected := b.rejected + 1 }, SlotAnswer.rejected)
  if b.closed then turnedAway
  else if 0 < b.free then
    ({ b with free := b.free - 1, admitted := b.admitted + 1 }, .admitted)
  else if b.config.maxWait = 0 ∨ b.config.maxWaiting ≤ b.waiting then turnedAway
  else
    ({ b with
        queue := b.queue ++ [{ ticket := b.nextTicket, deadline := now + b.config.maxWait }]
        nextTicket := b.nextTicket + 1 }, .wait b.nextTicket)

/-- The waiter with a ticket. -/
def waiter? (b : Bulkhead) (ticket : Nat) : Option Waiter := b.queue.find? (·.ticket == ticket)

/-- Takes a ticket off the queue. -/
def withdraw (b : Bulkhead) (ticket : Nat) : Bulkhead :=
  { b with queue := b.queue.filter (·.ticket != ticket) }

/-- Comes for the slot of a ticket: none while the caller has to keep waiting, else whether it was
admitted. A slot set aside counts before the deadline does, but not against closing. -/
def claim? (b : Bulkhead) (ticket : Nat) (now : Nat) : Option (Bulkhead × Bool) := do
  let w ← b.waiter? ticket
  let left := b.withdraw ticket
  if b.closed then
    some ({ (if w.assigned then left.freeSlot else left) with rejected := b.rejected + 1 }, false)
  else if w.assigned then some ({ left with admitted := b.admitted + 1 }, true)
  else if w.deadline ≤ now then some ({ left with rejected := b.rejected + 1 }, false)
  else none

/-- Leaves the queue without an answer; a slot set aside goes to the next caller. -/
def abandon (b : Bulkhead) (ticket : Nat) : Bulkhead :=
  match b.waiter? ticket with
  | some w => if w.assigned then (b.withdraw ticket).freeSlot else b.withdraw ticket
  | none => b

/-- Turns away everyone who waits or comes later. -/
def close (b : Bulkhead) : Bulkhead := { b with closed := true }

/-- The failure of a caller turned away. -/
def rejection {ε : Type} (b : Bulkhead) : PolicyFailure ε := .bulkheadFull b.name b.config.maxWait

end Bulkhead

/-- What a bulkhead reports about itself. -/
structure BulkheadStats where
  available : Nat
  max : Nat
  waiting : Nat
  admitted : Nat
  rejected : Nat
  deriving DecidableEq, Repr, Inhabited

/-- The bulkhead's statistics. -/
def Bulkhead.stats (b : Bulkhead) : BulkheadStats :=
  ⟨b.free, b.config.maxConcurrent, b.waiting, b.admitted, b.rejected⟩

end GuardedDispatch
