import GuardedDispatch.Proofs.Connector.Life
import GuardedDispatch.Proofs.Stack.Steps

/-!
# Backends that note what their hooks do

A connector acts on its backend only through the hooks. A backend that notes their steps answers
like the one it stands for, so traffic on it is the traffic on that one, with everything noted that
was asked of it.
-/

namespace GuardedDispatch

/-- A hook of a backend begins or ends. -/
inductive HookStep where
  | sendStarted
  | sendFinished
  | probeStarted
  | probeFinished
  | closeStarted
  | closeFinished
  deriving DecidableEq, Repr

/-- A backend with the steps of its hooks, the latest last. -/
structure Noted (β : Type) where
  backend : β
  hooks : List HookStep := []

/-- Notes a step of a hook that leaves another backend. -/
def Noted.note {β ρ : Type} (b : Noted β) (step : HookStep) (r : β × ρ) : Noted β × ρ :=
  ({ backend := r.1, hooks := b.hooks ++ [step] }, r.2)

variable {β : Type}

instance [Backend β] : Backend (Noted β) where
  kind b := Backend.kind b.backend
  startSend b mode request context :=
    b.note .sendStarted (Backend.startSend b.backend mode request context)
  finishSend b mode request context ticket :=
    b.note .sendFinished (Backend.finishSend b.backend mode request context ticket)
  startProbe b context := b.note .probeStarted (Backend.startProbe b.backend context)
  finishProbe b context ticket :=
    b.note .probeFinished (Backend.finishProbe b.backend context ticket)
  startClose b := b.note .closeStarted (Backend.startClose b.backend)
  finishClose b := b.note .closeFinished (Backend.finishClose b.backend)

/-! ### Connectors -/

namespace Connector

variable {c : Connector (Noted β)} {now : Nat}

/-- The connector of the backend that a noting one stands for. -/
def bare (c : Connector (Noted β)) : Connector β := { c with backend := c.backend.backend }

@[simp] theorem kind_bare (c : Connector (Noted β)) : c.bare.kind = c.kind := rfl
@[simp] theorem status_bare (c : Connector (Noted β)) : c.bare.status = c.status := rfl
@[simp] theorem stack_bare (c : Connector (Noted β)) : c.bare.stack = c.stack := rfl
@[simp] theorem inFlight_bare (c : Connector (Noted β)) : c.bare.inFlight = c.inFlight := rfl

@[simp] theorem placed_bare (c : Connector (Noted β)) : c.bare.placed = c.placed := rfl

@[simp] theorem refusal_bare (c : Connector (Noted β)) : c.bare.refusal = c.refusal := rfl

@[simp] theorem enter_bare (c : Connector (Noted β)) : c.bare.enter = c.enter.bare := rfl

@[simp] theorem answer_bare (c : Connector (Noted β)) (ok : Bool) :
    c.bare.answer ok = (c.answer ok).bare := rfl

@[simp] theorem isOpenToTraffic_bare (c : Connector (Noted β)) :
    c.bare.isOpenToTraffic = c.isOpenToTraffic := rfl

/-- Breaker settings are put into effect alike. -/
@[simp] theorem tuned_bare (c : Connector (Noted β)) (context : CallContext) :
    c.bare.tuned context = (c.tuned context).bare := by
  have hbuilt : c.bare.builtBreaker? = c.builtBreaker? := rfl
  cases hb : c.builtBreaker? with
  | none => simp only [tuned, hbuilt, hb]
  | some built =>
    simp only [tuned, hbuilt, hb]
    rfl

/-- Calls are taken away alike. -/
@[simp] theorem dropCall_bare (c : Connector (Noted β)) (call : ConnectorCall) (now : Nat) :
    c.bare.dropCall call now = (c.dropCall call now).bare := by
  unfold dropCall
  split <;> rfl

variable [Backend β]

private theorem step?_bare (now : Nat) (c : Connector (Noted β)) (call : ConnectorCall)
    (inner : Call ConnectorFailure Response) :
    c.stack.step? call.operation mayRetry now c.bare.backend inner =
      (c.stack.step? call.operation mayRetry now c.backend inner).map fun r ↦
        (r.1, r.2.1.backend, r.2.2) :=
  Stack.step?_map Noted.backend (fun _ _ ↦ rfl) (fun _ _ ↦ rfl) mayRetry now c.stack c.backend inner

/-- A call takes the same step. -/
theorem stepCall?_bare (now : Nat) (c : Connector (Noted β)) (call : ConnectorCall) :
    c.bare.stepCall? now call = (c.stepCall? now call).map fun r ↦ (r.1.bare, r.2) := by
  cases hat : call.stage with
  | arriving =>
    simp only [stepCall?, hat, kind_bare, placed_bare, enter_bare, status_bare, tuned_bare,
      answer_bare, refusal_bare]
    split
    · rfl
    · split <;> rfl
  | guarded inner =>
    simp only [stepCall?, hat, stack_bare, step?_bare, Option.bind_eq_bind]
    cases c.stack.step? call.operation mayRetry now c.backend inner with
    | none => rfl
    | some r =>
      obtain ⟨stack, backend, inner'⟩ := r
      simp only [Option.map_some, Option.bind_some]
      cases inner'.phase.result? <;> rfl
  | answered r => simp only [stepCall?, hat, Option.map_none]

/-- A close takes the same step. -/
theorem stepClosing?_bare (now : Nat) (c : Connector (Noted β)) (closing : Closing) :
    c.bare.stepClosing? now closing = (c.stepClosing? now closing).map fun r ↦ (r.1.bare, r.2) := by
  cases closing with
  | arriving =>
    simp only [stepClosing?, status_bare, apply_ite (Option.map _)]
    rfl
  | draining deadline =>
    simp only [stepClosing?, inFlight_bare, apply_ite (Option.map _)]
    rfl
  | releasing ends? =>
    simp only [stepClosing?, apply_ite (Option.map _)]
    rfl
  | brokenOff | withdrawn | done => rfl

/-- A probe takes the same step. -/
theorem stepProbe?_bare (now : Nat) (c : Connector (Noted β)) (p : Probe) :
    c.bare.stepProbe? now p = (c.stepProbe? now p).map fun r ↦ (r.1.bare, r.2) := by
  cases hat : p.stage with
  | arriving =>
    simp only [stepProbe?, hat, isOpenToTraffic_bare, apply_ite (Option.map _)]
    rfl
  | asking ticket ends? deadline? =>
    simp only [stepProbe?, hat, apply_ite (Option.map _)]
    rfl
  | done healthy => simp only [stepProbe?, hat, Option.map_none]

end Connector

/-! ### Traffic -/

/-- The event on a backend that noted some steps: a backend that comes into another state by itself
keeps what it noted. -/
def TrafficEvent.noted (hooks : List HookStep) : TrafficEvent β → TrafficEvent (Noted β)
  | .arrive mode request context => .arrive mode request context
  | .move i => .move i
  | .drop i => .drop i
  | .close => .close
  | .moveClosing i => .moveClosing i
  | .dropClosing i => .dropClosing i
  | .probe context => .probe context
  | .moveProbe i => .moveProbe i
  | .observe => .observe
  | .trip => .trip
  | .reset => .reset
  | .shift backend => .shift ⟨backend, hooks⟩
  | .wait duration => .wait duration

namespace Traffic

variable {t : Traffic (Noted β)} {i : Nat}

/-- The traffic on the backend that a noting one stands for. -/
def bare (t : Traffic (Noted β)) : Traffic β := { t with connector := t.connector.bare }

/-- The steps that the hooks took. -/
def hooks (t : Traffic (Noted β)) : List HookStep := t.connector.backend.hooks

variable [Backend β]

/-- Lets an event happen that is noted. -/
def applyNoted (t : Traffic (Noted β)) (e : TrafficEvent β) : Traffic (Noted β) :=
  t.apply (e.noted t.hooks)

/-- Lets one event happen after another, all of them noted. -/
def runNoted (t : Traffic (Noted β)) (events : List (TrafficEvent β)) : Traffic (Noted β) :=
  events.foldl applyNoted t

/-- What every event keeps holds at the end of every run. -/
theorem runNoted_keeps {I : Traffic (Noted β) → Prop} (hstep : ∀ t e, I t → I (t.applyNoted e))
    (h : I t) (events : List (TrafficEvent β)) : I (t.runNoted events) := by
  induction events generalizing t with
  | nil => exact h
  | cons e rest ih => exact ih (hstep t e h)

/-- Noted traffic, too, lives on but for the steps of closes. -/
theorem livesOn_applyNoted (t : Traffic (Noted β)) {e : TrafficEvent β}
    (he : ∀ j, e ≠ .moveClosing j) : t.LivesOn e.takes? (t.applyNoted e) := by
  have htakes : (e.noted t.hooks).takes? = e.takes? := by cases e <;> rfl
  rw [← htakes]
  refine t.livesOn_apply fun j hj ↦ ?_
  cases e with
  | moveClosing k => exact he k rfl
  | arrive _ _ _ | move _ | drop _ | close | dropClosing _ | probe _ | moveProbe _ | observe | trip
  | reset | shift _ | wait _ => cases hj

/-- In noted traffic, too, a close takes its step or has to wait. -/
theorem applyNoted_moveClosing (t : Traffic (Noted β)) (j : Nat) :
    t.applyNoted (.moveClosing j) = t ∨
      ∃ closing c closing', t.closings[j]? = some closing ∧
        t.connector.CloseStep t.now closing c closing' ∧
        t.applyNoted (.moveClosing j) =
          { t with connector := c, closings := t.closings.set j closing' } :=
  t.apply_moveClosing j

/-- Noted events take as much time. -/
theorem now_applyNoted (t : Traffic (Noted β)) (e : TrafficEvent β) :
    (t.applyNoted e).now = t.now + e.duration := by
  rw [applyNoted, now_apply]
  cases e <;> rfl

private theorem bare_applyNoted (t : Traffic (Noted β)) (e : TrafficEvent β) :
    (t.applyNoted e).bare = t.bare.apply e := by
  cases e with
  | arrive mode request context | close | dropClosing i | probe context | observe | trip | reset
  | shift backend | wait duration => rfl
  | move i =>
    have hcall : t.bare.call? i = t.call? i := rfl
    simp only [applyNoted, TrafficEvent.noted, apply, hcall]
    split
    · next call _ =>
      have hstep := Connector.stepCall?_bare t.now t.connector call
      simp only [bare] at hstep ⊢
      rw [hstep]
      cases t.connector.stepCall? t.now call <;> rfl
    · rfl
  | drop i =>
    have hcall : t.bare.call? i = t.call? i := rfl
    simp only [applyNoted, TrafficEvent.noted, apply, hcall]
    split
    · simp only [bare, Connector.dropCall_bare]
    · rfl
  | moveClosing i =>
    simp only [applyNoted, TrafficEvent.noted, apply, bare]
    cases t.closings[i]? with
    | none => rfl
    | some closing =>
      simp only [Option.bind_some, Connector.stepClosing?_bare]
      cases t.connector.stepClosing? t.now closing <;> rfl
  | moveProbe i =>
    simp only [applyNoted, TrafficEvent.noted, apply, bare]
    cases t.probes[i]? with
    | none => rfl
    | some probe =>
      simp only [Option.bind_some, Connector.stepProbe?_bare]
      cases t.connector.stepProbe? t.now probe <;> rfl

/-- Noted traffic is the traffic. -/
theorem bare_runNoted (t : Traffic (Noted β)) (events : List (TrafficEvent β)) :
    (t.runNoted events).bare = t.bare.run events := by
  induction events generalizing t with
  | nil => rfl
  | cons e rest ih =>
    rw [runNoted, List.foldl_cons, ← runNoted, ih, bare_applyNoted]
    rfl

/-! ### What is asked of a backend -/

/-- What an event can ask of the backend: a call inside sends, a probe probes, and a close closes it
once it need not wait. -/
inductive Asks (t : Traffic (Noted β)) : TrafficEvent β → List HookStep → Prop
  | nothing (e : TrafficEvent β) : Asks t e []
  | sent {j : Nat} {call : ConnectorCall} {inner : Call ConnectorFailure Response} {step : HookStep}
      (hcall : t.call? j = some call) (hat : call.stage = .guarded inner)
      (hstep : step = .sendStarted ∨ step = .sendFinished) : Asks t (.move j) [step]
  | probed {j : Nat} {step : HookStep} (hstep : step = .probeStarted ∨ step = .probeFinished) :
      Asks t (.moveProbe j) [step]
  | released {j deadline : Nat} (hclosing : t.closings[j]? = some (.draining deadline))
      (hwhen : t.connector.inFlight = 0 ∨ deadline ≤ t.now) :
      Asks t (.moveClosing j) [.closeStarted]
  | closed {j : Nat} {ends? : Option Nat} (hclosing : t.closings[j]? = some (.releasing ends?)) :
      Asks t (.moveClosing j) [.closeFinished]

/-- A step of a call asks the backend to send, if the call is inside. -/
theorem asks_of_callStep {call call' : ConnectorCall} {c : Connector (Noted β)}
    (hcall : t.call? i = some call) (h : t.connector.CallStep t.now call c call') :
    ∃ steps, Asks t (.move i) steps ∧ c.backend.hooks = t.hooks ++ steps := by
  have hinside {inner inner' : Call ConnectorFailure Response} {stack : Stack} {backend : Noted β}
      (hat : call.stage = .guarded inner)
      (hstep : t.connector.stack.step? call.operation mayRetry t.now t.connector.backend inner =
        some (stack, backend, inner')) :
      ∃ steps, Asks t (.move i) steps ∧ backend.hooks = t.hooks ++ steps := by
    obtain rfl | ⟨_, rfl⟩ | ⟨_, rfl⟩ := (Stack.moved_of_step? hstep).env_eq
    · exact ⟨[], .nothing _, (List.append_nil _).symm⟩
    · exact ⟨_, .sent hcall hat (.inl rfl), rfl⟩
    · exact ⟨_, .sent hcall hat (.inr rfl), rfl⟩
  cases h with
  | misdirected hat hkind | refused hat hkind hrun =>
    exact ⟨[], .nothing _, (List.append_nil _).symm⟩
  | entered hat hkind hrun =>
    refine ⟨[], .nothing _, ?_⟩
    rw [List.append_nil]
    unfold Connector.tuned
    split <;> rfl
  | moved hat hstep hopen => exact hinside hat hstep
  | concluded hat hstep hdone => exact hinside hat hstep

private theorem asks_of_stepProbe? {p p' : Probe} {c : Connector (Noted β)}
    (h : t.connector.stepProbe? t.now p = some (c, p')) :
    ∃ steps, Asks t (.moveProbe i) steps ∧ c.backend.hooks = t.hooks ++ steps := by
  cases hat : p.stage with
  | arriving =>
    simp only [Connector.stepProbe?, hat] at h
    split at h <;> cases h
    · exact ⟨_, .probed (.inl rfl), rfl⟩
    · exact ⟨[], .nothing _, (List.append_nil _).symm⟩
  | asking ticket ends? deadline? =>
    simp only [Connector.stepProbe?, hat] at h
    split at h
    · cases h
      exact ⟨_, .probed (.inr rfl), rfl⟩
    · split at h <;> cases h
      exact ⟨[], .nothing _, (List.append_nil _).symm⟩
  | done healthy =>
    simp only [Connector.stepProbe?, hat] at h
    cases h

/-- Everything that is asked of the backend is noted. -/
theorem asks_applyNoted (t : Traffic (Noted β)) (e : TrafficEvent β) :
    ∃ steps, Asks t e steps ∧ (t.applyNoted e).hooks = t.hooks ++ steps := by
  have hnothing : ∃ steps, Asks t e steps ∧ t.hooks = t.hooks ++ steps :=
    ⟨[], .nothing _, (List.append_nil _).symm⟩
  cases e with
  | move i =>
    simp only [applyNoted, TrafficEvent.noted, apply]
    split
    · next call hcall =>
      split
      · next hstep => exact asks_of_callStep hcall (Connector.callStep_of_stepCall? hstep)
      · exact hnothing
    · exact hnothing
  | drop i =>
    simp only [applyNoted, TrafficEvent.noted, apply]
    split
    · refine ⟨[], .nothing _, ?_⟩
      rw [List.append_nil]
      simp only [hooks, Connector.dropCall]
      split <;> rfl
    · exact hnothing
  | moveProbe i =>
    simp only [applyNoted, TrafficEvent.noted, apply]
    split
    · next hstep =>
      obtain ⟨p, -, hstep⟩ := Option.bind_eq_some_iff.mp hstep
      exact asks_of_stepProbe? hstep
    · exact hnothing
  | moveClosing i =>
    obtain hstays | ⟨closing, c, closing', hclosing, hstep, hmoved⟩ := t.apply_moveClosing i
    · rw [applyNoted, TrafficEvent.noted, hstays]
      exact hnothing
    · rw [applyNoted, TrafficEvent.noted, hmoved]
      cases hstep with
      | began hrun hfits | failed hrun hlate | returned hrun => exact hnothing
      | released hwhen => exact ⟨_, .released hclosing hwhen, rfl⟩
      | closed hends => exact ⟨_, .closed hclosing, rfl⟩
  | arrive mode request context | close | dropClosing i | probe context | observe | trip | reset
  | shift backend | wait duration => exact hnothing

end Traffic

end GuardedDispatch
