import GuardedDispatch.Proofs.Stack.Balance
import GuardedDispatch.Proofs.Stack.Tally

/-!
# Calls under one stack, in any order

A crowd is a stack with all the calls that came to it, the surroundings of their operations and a
clock. What can happen next is an event, and an event that cannot happen leaves the crowd as it is,
so a list of events is an interleaving and every interleaving is one.

Nothing in a stack tells what its calls' operations do, or which call consumed what. A crowd does:
every operation notes its steps, and each call is charged with what its own steps added to the
counters of the bulkhead and the rate limiter.
-/

namespace GuardedDispatch

/-- A step that an operation takes: it starts for an attempt, or it finishes. -/
inductive OperationStep where
  | start (attempt : Nat)
  | finish (ticket : Nat)
  deriving DecidableEq, Repr

/-- Whether the step is the start of an operation. -/
def OperationStep.isStart : OperationStep → Bool
  | .start _ => true
  | .finish _ => false

/-- Steps of operations with the numbers of their calls, the latest last. -/
abbrev OperationLog := List (Nat × OperationStep)

/-- An operation that notes its steps under the number of its call. -/
def Operation.noted {σ ε α : Type} (op : Operation σ ε α) (i : Nat) :
    Operation (σ × OperationLog) ε α where
  start env attempt :=
    let (env', started) := op.start env.1 attempt
    ((env', env.2 ++ [(i, .start attempt)]), started)
  finish env ticket :=
    let (env', r) := op.finish env.1 ticket
    ((env', env.2 ++ [(i, .finish ticket)]), r)

/-- A call in a crowd: its operation, which failures it may try again, how far it is, whether it was
taken away, and the slots, the permits and the rejections it was charged with. -/
structure Visit (σ ε α : Type) where
  op : Operation σ ε α
  eligible : PolicyFailure ε → Bool
  call : Call ε α
  gone : Bool := false
  slots : Nat := 0
  permits : Nat := 0
  rejections : Nat := 0

/-- One thing that happens to a stack: somebody calls, a call takes a step or is taken away,
admission closes, the breaker is set by hand or given other settings, somebody looks at the
statistics, the surroundings change by themselves, or time passes. -/
inductive CrowdEvent (σ ε α : Type) where
  | arrive (options : CallOptions) (op : Operation σ ε α) (eligible : PolicyFailure ε → Bool)
  | move (i : Nat)
  | drop (i : Nat)
  | close
  | trip
  | reset
  | reconfigure (config : BreakerConfig)
  | observe
  | shift (env : σ)
  | wait (duration : Nat)

/-- A stack with the calls that came to it, which are known by number. -/
structure Crowd (σ ε α : Type) where
  stack : Stack
  env : σ
  now : Nat
  visits : List (Visit σ ε α) := []
  log : OperationLog := []

namespace Visit

variable {σ ε α : Type}

/-- The place of a call that is under way. -/
def place? (v : Visit σ ε α) : Option (Phase ε α) := if v.gone then none else some v.call.phase

/-- A call that was not taken away is under way. -/
theorem place?_of_present {v : Visit σ ε α} (h : v.gone = false) :
    v.place? = some v.call.phase := by
  simp only [place?, h, Bool.false_eq_true, if_false]

/-- Charges a call with what a step of it made of the stack. -/
def moved (v : Visit σ ε α) (s s' : Stack) (call : Call ε α) : Visit σ ε α :=
  { v with
    call
    slots := v.slots + (s'.admissions - s.admissions)
    permits := v.permits + (s'.grants - s.grants)
    rejections := v.rejections + (s'.rejections - s.rejections) }

end Visit

namespace Crowd

variable {σ ε α : Type}

/-- A new stack, to which nobody came yet. -/
def new (name : String) (config : StackConfig) (env : σ) (start : Nat) : Crowd σ ε α where
  stack := .new name config start
  env
  now := start

/-- The calls that came. -/
def calls (t : Crowd σ ε α) : List (Call ε α) := t.visits.map Visit.call

/-- The places of the calls that are under way. -/
def places (t : Crowd σ ε α) : List (Phase ε α) := t.visits.filterMap Visit.place?

/-- The call with a number, unless it was taken away. -/
def visit? (t : Crowd σ ε α) (i : Nat) : Option (Visit σ ε α) := t.visits[i]?.filter (!·.gone)

/-- Lets an event happen. -/
def apply (t : Crowd σ ε α) : CrowdEvent σ ε α → Crowd σ ε α
  | .arrive options op eligible =>
    { t with visits := t.visits ++ [{ op, eligible, call := { options } }] }
  | .move i =>
    match t.visit? i with
    | some v =>
      match t.stack.step? (v.op.noted i) v.eligible t.now (t.env, t.log) v.call with
      | some (stack, (env, log), call) =>
        { t with stack, env, log, visits := t.visits.set i (v.moved t.stack stack call) }
      | none => t
    | none => t
  | .drop i =>
    match t.visit? i with
    | some v =>
      { t with stack := t.stack.drop v.call t.now, visits := t.visits.set i { v with gone := true } }
    | none => t
  | .close => { t with stack := t.stack.close }
  | .trip => { t with stack := t.stack.mapBreaker (·.trip t.now) }
  | .reset => { t with stack := t.stack.mapBreaker (·.reset t.now) }
  | .reconfigure config => { t with stack := t.stack.mapBreaker (·.reconfigure config) }
  | .observe => { t with stack := (t.stack.observe t.now).1 }
  | .shift env => { t with env }
  | .wait duration => { t with now := t.now + duration }

/-- Lets one event happen after another. -/
def run (t : Crowd σ ε α) (events : List (CrowdEvent σ ε α)) : Crowd σ ε α := events.foldl apply t

/-- What every event keeps holds at the end of every run. -/
theorem run_keeps {I : Crowd σ ε α → Prop} (hstep : ∀ t e, I t → I (t.apply e))
    {t : Crowd σ ε α} (h : I t) (events : List (CrowdEvent σ ε α)) : I (t.run events) := by
  induction events generalizing t with
  | nil => exact h
  | cons e rest ih => exact ih (hstep t e h)

/-- A run of two parts is the one after the other. -/
theorem run_append (t : Crowd σ ε α) (earlier later : List (CrowdEvent σ ε α)) :
    t.run (earlier ++ later) = (t.run earlier).run later :=
  List.foldl_append

end Crowd

/-! ### Noting steps -/

namespace Stack

variable {σ ε α : Type} {op : Operation σ ε α} {i now : Nat} {s s' : Stack} {env env' : σ}
  {log log' : OperationLog} {c c' : Call ε α}

/-- Noting the steps of an operation changes nothing else. -/
theorem step?_noted (op : Operation σ ε α) (i : Nat) (eligible : PolicyFailure ε → Bool) (now : Nat)
    (s : Stack) (env : σ) (log : OperationLog) (c : Call ε α) :
    (s.step? (op.noted i) eligible now (env, log) c).map (fun r ↦ (r.1, r.2.1.1, r.2.2)) =
      s.step? op eligible now env c :=
  (step?_map Prod.fst (fun _ _ ↦ rfl) (fun _ _ ↦ rfl) eligible now s (env, log) c).symm

/-- What a step of a call notes: nothing, or that its operation started for the attempt that now
begins, or that the operation of its running attempt finished. -/
theorem Moved.noted (h : Moved (op.noted i) now s (env, log) c s' (env', log') c') :
    (log' = log ∧ c'.begun = c.begun) ∨
    (∃ a, c.phase = .preparing a.number ∧ c'.phase = .attempting a ∧
      Entitled now s s' a.permit? ∧ log' = log ++ [(i, .start a.number)] ∧
      c'.begun = c.begun ++ [now]) ∨
    (∃ a, c.phase = .attempting a ∧ log' = log ++ [(i, .finish a.ticket)] ∧
      c'.begun = c.begun) := by
  generalize henv : (env, log) = noted at h
  generalize henv' : (env', log') = noted' at h
  cases h with
  | unguarded hat hb | seated hat hb hr | turnedAway hat hb hr | queued hat hb hr
  | claimed hat hb hr | gaveUp hat hb hr | unlimited hat hl | granted hat hl hr | limited hat hl hr
  | slept hat hl hr | refused hat hb hr | resumed hat hdue =>
    rw [← henv] at henv'
    cases henv'
    exact .inl ⟨rfl, rfl⟩
  | started hat hp =>
    cases henv
    cases henv'
    exact .inr (.inl ⟨_, hat, rfl, hp, rfl, rfl⟩)
  | @ended a r s' env' c' hat hends hd =>
    have hbegun : c'.begun = c.begun := by
      cases hd with
      | done hok hrejected => rfl
      | again hr hrejected => rfl
    cases hends with
    | finished hdue =>
      cases henv
      cases henv'
      exact .inr (.inr ⟨a, hat, rfl, hbegun⟩)
    | expired hearly hdue =>
      rw [← henv] at henv'
      cases henv'
      exact .inl ⟨rfl, hbegun⟩

/-- As many starts are noted as attempts begin. -/
theorem Moved.starts (h : Moved (op.noted i) now s (env, log) c s' (env', log') c') :
    log'.countP (·.2.isStart) + c.begun.length = log.countP (·.2.isStart) + c'.begun.length := by
  obtain ⟨rfl, hbegun⟩ | ⟨a, -, -, -, rfl, hbegun⟩ | ⟨a, -, rfl, hbegun⟩ := h.noted
  · rw [hbegun]
  · rw [hbegun, List.countP_append, List.length_append, List.countP_singleton]
    simp only [OperationStep.isStart, if_true, List.length_singleton]
    omega
  · rw [hbegun, List.countP_append, List.countP_singleton]
    simp only [OperationStep.isStart, Bool.false_eq_true, if_false, Nat.add_zero]

/-- Only a call of which an attempt began notes anything. -/
theorem Moved.begun_of_noted (h : Moved (op.noted i) now s (env, log) c s' (env', log') c')
    (hc : c.Regular s.breaker?.isSome) {x : Nat × OperationStep} (hx : x ∈ log') :
    x ∈ log ∨ x.1 = i ∧ c'.begun ≠ [] := by
  obtain ⟨rfl, -⟩ | ⟨a, -, -, -, rfl, hbegun⟩ | ⟨a, hat, rfl, hbegun⟩ := h.noted
  · exact .inl hx
  · obtain hx | hx := List.mem_append.mp hx
    · exact .inl hx
    · rw [List.mem_singleton.mp hx, hbegun]
      exact .inr ⟨rfl, List.append_ne_nil_of_right_ne_nil _ (List.cons_ne_nil _ _)⟩
  · obtain hx | hx := List.mem_append.mp hx
    · exact .inl hx
    · rw [List.mem_singleton.mp hx, hbegun]
      exact .inr ⟨rfl, List.ne_nil_of_length_pos (hc.running a hat)⟩

/-- Attempts that began stay begun. -/
theorem Moved.begun_ne_nil (h : Moved (op.noted i) now s (env, log) c s' (env', log') c')
    (hc : c.begun ≠ []) : c'.begun ≠ [] := by
  obtain ⟨-, hbegun⟩ | ⟨a, -, -, -, -, hbegun⟩ | ⟨a, -, -, hbegun⟩ := h.noted
  · rw [hbegun]
    exact hc
  · rw [hbegun]
    exact List.append_ne_nil_of_left_ne_nil hc _
  · rw [hbegun]
    exact hc

end Stack

end GuardedDispatch
