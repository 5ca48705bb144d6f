import GuardedDispatch.Connector.Call
import GuardedDispatch.Connector.Closing
import GuardedDispatch.Connector.Probe
import GuardedDispatch.Proofs.Breaker.Settings

/-!
# What a step does

A step of a call through a connector is one of five: the call is misdirected, enters, is refused,
moves on inside, or ends with the result of its policies. Inside the policies a step touches the
breaker only where the call asks it for permission or reports the outcome of its attempt. Closes and
probes never touch it.
-/

namespace GuardedDispatch

/-! ### The breaker of a stack -/

/-- The attempt that a call standing here has under way. -/
def Phase.attempt? {ε α : Type} : Phase ε α → Option Attempt
  | .attempting a => some a
  | _ => none

namespace Stack

variable {σ ε α : Type} {s s' : Stack} {b : Breaker} {call call' : Call ε α} {now : Nat}

/-- Throttling a call leaves the breaker alone. -/
@[simp] theorem breaker?_throttle (s : Stack) (call : Call ε α) (since now : Nat)
    (asleep : Bool) : (s.throttle call since now asleep).1.breaker? = s.breaker? := by
  unfold throttle
  split
  · rfl
  · dsimp only
    split <;> rfl

/-- Deciding on another attempt leaves the breaker alone. -/
@[simp] theorem breaker?_afterAttempt (eligible : PolicyFailure ε → Bool) (s : Stack)
    (call : Call ε α) (number now : Nat) (r : Except (PolicyFailure ε) α) :
    (s.afterAttempt eligible call number now r).1.breaker? = s.breaker? := by
  unfold afterAttempt
  split
  · rfl
  · split <;> rfl

private theorem breaker?_endAttempt (eligible : PolicyFailure ε → Bool) (hb : s.breaker? = some b)
    (call : Call ε α) (a : Attempt) (r : Except (PolicyFailure ε) α) :
    (s.endAttempt eligible call a now r).1.breaker? =
      some (a.permit?.elim b fun p ↦ b.complete p (now - a.began) (!r.isOk) now) := by
  rw [endAttempt, breaker?_afterAttempt]
  cases a.permit? with
  | none => exact hb
  | some p =>
    change s.breaker?.map _ = _
    rw [hb]
    rfl

private theorem breaker?_beginAttempt (op : Operation σ ε α) (eligible : PolicyFailure ε → Bool)
    (hb : s.breaker? = some b) (env : σ) (call : Call ε α) (number : Nat) :
    (s.beginAttempt op eligible env call number now).1.breaker? = some (b.request now).1 := by
  simp only [beginAttempt, hb]
  split
  · next hr => rw [hr]
  · next hr => rw [hr, breaker?_afterAttempt]

/-- What a step of a call does to the breaker, by where the call stands before. -/
inductive Touch (now : Nat) (b : Breaker) : Phase ε α → Breaker → Prop
  | untouched (phase) : Touch now b phase b
  | asked (number) : Touch now b (.preparing number) (b.request now).1
  | reported {a : Attempt} {p : CallPermit} (hp : a.permit? = some p) (failed : Bool) :
      Touch now b (.attempting a) (b.complete p (now - a.began) failed now)

private theorem touch_endAttempt (eligible : PolicyFailure ε → Bool) (hb : s.breaker? = some b)
    (call : Call ε α) (a : Attempt) (r : Except (PolicyFailure ε) α) :
    ∃ b', (s.endAttempt eligible call a now r).1.breaker? = some b' ∧
      Touch now b (.attempting a : Phase ε α) b' := by
  refine ⟨_, breaker?_endAttempt eligible hb call a r, ?_⟩
  cases hp : a.permit? with
  | none => exact .untouched _
  | some p => exact .reported hp _

/-- A step of a call touches the breaker only where it asks or reports. -/
theorem touch_of_step? {op : Operation σ ε α} {eligible : PolicyFailure ε → Bool} {env env' : σ}
    (hb : s.breaker? = some b) (h : s.step? op eligible now env call = some (s', env', call')) :
    ∃ b', s'.breaker? = some b' ∧ Touch now b call.phase b' := by
  cases hphase : call.phase with
  | arriving =>
    simp only [step?, hphase] at h
    split at h
    · cases h
      exact ⟨b, hb, .untouched _⟩
    · split at h
      all_goals
        cases h
        exact ⟨b, hb, .untouched _⟩
  | queued ticket =>
    simp only [step?, hphase, Option.bind_eq_bind, Option.bind_eq_some_iff] at h
    obtain ⟨k, _, answer, _, h⟩ := h
    split at h
    all_goals
      cases h
      exact ⟨b, hb, .untouched _⟩
  | admitted =>
    simp only [step?, hphase] at h
    cases h
    exact ⟨b, (breaker?_throttle s call now now false).trans hb, .untouched _⟩
  | throttled since wakeAt =>
    simp only [step?, hphase] at h
    split at h
    · cases h
    · cases h
      exact ⟨b, (breaker?_throttle s call since now true).trans hb, .untouched _⟩
  | preparing number =>
    simp only [step?, hphase, Option.some.injEq] at h
    have hs : s' = (s.beginAttempt op eligible env call number now).1 := by rw [h]
    rw [hs, breaker?_beginAttempt op eligible hb]
    exact ⟨_, rfl, .asked number⟩
  | attempting a =>
    simp only [step?, hphase] at h
    split at h
    · cases h
      exact touch_endAttempt eligible hb call a _
    · split at h
      · cases h
        exact touch_endAttempt eligible hb call a _
      · cases h
  | pausing attempt wakeAt =>
    simp only [step?, hphase] at h
    split at h
    · cases h
    · cases h
      exact ⟨b, hb, .untouched _⟩
  | finished result =>
    simp only [step?, hphase] at h
    cases h

private theorem quiet_drop (hb : s.breaker? = some b) (call : Call ε α) (now : Nat) :
    ∃ b', (s.drop call now).breaker? = some b' ∧ b.Quiet b' := by
  cases hphase : call.phase with
  | attempting a =>
    simp only [drop, hphase]
    cases a.permit? with
    | none => exact ⟨b, hb, .refl b⟩
    | some p =>
      refine ⟨b.release p, ?_, b.quiet_release p⟩
      change s.breaker?.map _ = _
      rw [hb]
      rfl
  | arriving | queued _ | admitted | throttled _ _ | preparing _ | pausing _ _ | finished _ =>
    refine ⟨b, ?_, .refl b⟩
    simp only [drop, hphase]
    exact hb

end Stack

/-! ### The steps of a call -/

/-- The attempt that a call has under way. -/
def ConnectorCall.attempt? (call : ConnectorCall) : Option Attempt :=
  match call.stage with
  | .guarded inner => inner.phase.attempt?
  | _ => none

namespace Connector

variable {β : Type} [Backend β] {c c' : Connector β} {call call' : ConnectorCall} {now : Nat}

/-- What a step of a call does to the connector and to the call. -/
inductive CallStep (now : Nat) (c : Connector β) (call : ConnectorCall) :
    Connector β → ConnectorCall → Prop
  | misdirected (hat : call.stage = .arriving) (hkind : call.request.kind ≠ c.kind) :
      CallStep now c call c
        { call with
          stage := .answered (.error
            (c.placed call.context call.mode (kindMismatch c.kind call.request.kind))) }
  | entered (hat : call.stage = .arriving) (hkind : call.request.kind = c.kind)
      (hrun : c.status = .running) :
      CallStep now c call (c.enter.tuned call.context)
        { call with stage := .guarded { options := call.context.callOptions } }
  | refused (hat : call.stage = .arriving) (hkind : call.request.kind = c.kind)
      (hrun : c.status ≠ .running) :
      CallStep now c call (c.enter.answer false)
        { call with
          stage := .answered (.error
            (c.enter.placed call.context call.mode c.enter.refusal)) }
  | moved {inner inner' : Call ConnectorFailure Response} {stack : Stack} {backend : β}
      (hat : call.stage = .guarded inner)
      (hstep : c.stack.step? call.operation mayRetry now c.backend inner =
        some (stack, backend, inner'))
      (hopen : inner'.phase.result? = none) :
      CallStep now c call { c with stack, backend } { call with stage := .guarded inner' }
  | concluded {inner inner' : Call ConnectorFailure Response} {stack : Stack} {backend : β}
      (hat : call.stage = .guarded inner)
      (hstep : c.stack.step? call.operation mayRetry now c.backend inner =
        some (stack, backend, inner'))
      {r : Except (PolicyFailure ConnectorFailure) Response}
      (hdone : inner'.phase.result? = some r) :
      CallStep now c call (conclude { c with stack, backend } call r).1
        (conclude { c with stack, backend } call r).2

/-- Every step of a call is one of the five. -/
theorem callStep_of_stepCall? (h : c.stepCall? now call = some (c', call')) :
    c.CallStep now call c' call' := by
  cases hat : call.stage with
  | arriving =>
    by_cases hkind : call.request.kind = c.kind
    · simp only [stepCall?, hat, Request.expect, hkind, if_true] at h
      split at h
      · next hrun =>
        cases h
        exact .entered hat hkind hrun
      · next hrun =>
        cases h
        exact .refused hat hkind hrun
    · simp only [stepCall?, hat, Request.expect, hkind, if_false] at h
      cases h
      exact .misdirected hat hkind
  | guarded inner =>
    simp only [stepCall?, hat, Option.bind_eq_bind, Option.bind_eq_some_iff] at h
    obtain ⟨⟨stack, backend, inner'⟩, hstep, h⟩ := h
    split at h
    · next r hdone =>
      cases h
      exact .concluded hat hstep hdone
    · next hopen =>
      cases h
      exact .moved hat hstep hopen
  | answered r =>
    simp only [stepCall?, hat] at h
    cases h

/-- A step of a call leaves alone what the connector was built with. -/
theorem CallStep.builtBreaker?_eq (h : c.CallStep now call c' call') :
    c'.builtBreaker? = c.builtBreaker? := by
  cases h with
  | entered hat hkind hrun =>
    change (c.enter.tuned call.context).builtBreaker? = c.enter.builtBreaker?
    unfold tuned
    split <;> rfl
  | misdirected hat hkind => rfl
  | refused hat hkind hrun => rfl
  | moved hat hstep hopen => rfl
  | concluded hat hstep hdone => rfl

/-! ### Closes, probes and calls taken away -/

/-- A step of a close leaves the breaker alone and what the connector was built with. -/
theorem breaker?_stepClosing? {closing closing' : Closing}
    (h : c.stepClosing? now closing = some (c', closing')) :
    c'.stack.breaker? = c.stack.breaker? ∧ c'.builtBreaker? = c.builtBreaker? := by
  cases closing with
  | arriving =>
    simp only [stepClosing?] at h
    split at h
    all_goals
      cases h
      exact ⟨rfl, rfl⟩
  | draining deadline =>
    simp only [stepClosing?] at h
    split at h
    · cases h
      exact ⟨rfl, rfl⟩
    · cases h
  | releasing ends? =>
    simp only [stepClosing?] at h
    split at h
    · cases h
      exact ⟨rfl, rfl⟩
    · cases h
  | brokenOff | withdrawn | done => cases h

/-- A step of a probe leaves the breaker alone and what the connector was built with. -/
theorem breaker?_stepProbe? {p p' : Probe} (h : c.stepProbe? now p = some (c', p')) :
    c'.stack.breaker? = c.stack.breaker? ∧ c'.builtBreaker? = c.builtBreaker? := by
  cases hat : p.stage with
  | arriving =>
    simp only [stepProbe?, hat] at h
    split at h
    all_goals
      cases h
      exact ⟨rfl, rfl⟩
  | asking ticket ends? deadline? =>
    simp only [stepProbe?, hat] at h
    split at h
    · cases h
      exact ⟨rfl, rfl⟩
    · split at h
      · cases h
        exact ⟨rfl, rfl⟩
      · cases h
  | done healthy =>
    simp only [stepProbe?, hat] at h
    cases h

omit [Backend β] in
/-- Taking a call away leaves alone what the connector was built with. -/
theorem builtBreaker?_dropCall (c : Connector β) (call : ConnectorCall) (now : Nat) :
    (c.dropCall call now).builtBreaker? = c.builtBreaker? := by
  unfold dropCall
  split <;> rfl

omit [Backend β] in
/-- Taking a call away is quiet. -/
theorem quiet_dropCall {b : Breaker} (hb : c.stack.breaker? = some b) (call : ConnectorCall)
    (now : Nat) : ∃ b', (c.dropCall call now).stack.breaker? = some b' ∧ b.Quiet b' := by
  unfold dropCall
  split
  · next inner hat => exact Stack.quiet_drop hb inner now
  · exact ⟨b, hb, .refl b⟩

end Connector

end GuardedDispatch
