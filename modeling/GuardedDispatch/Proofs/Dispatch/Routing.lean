import GuardedDispatch.Proofs.Dispatch.Errors
import GuardedDispatch.Proofs.Dispatch.Ownership

/-!
# Calls stay with the connector that they are routed to

A registry names connectors under their own kinds. A call for a kind is routed once, when it is
asked for: to the connector that serves the kind then, or to none. Whatever the call does after that
it does to this connector; and with a request of another kind it does nothing to this one either,
since it is turned away before it comes in.
-/

namespace GuardedDispatch

/-- A call that has not come in, or that was answered outside because its request is invalid
there. -/
def ConnectorCall.IsOutside (call : ConnectorCall) : Prop :=
  call.stage = .arriving ∨ ∃ e, call.stage = .answered (.error e) ∧ e.kind = .validation

namespace Connector

variable {β : Type} [Backend β] {c c' : Connector β} {call call' : ConnectorCall} {now : Nat}

private theorem CallStep.outside (h : c.CallStep now call c' call')
    (hkind : call.request.kind ≠ c.kind)
    (hout : call.IsOutside) :
    c' = c ∧ call'.IsOutside ∧ ∃ e, call'.answer? = some (.error e) ∧ e.kind = .validation := by
  cases h with
  | misdirected hat hkind => exact ⟨rfl, .inr ⟨_, rfl, rfl⟩, _, rfl, rfl⟩
  | entered hat hkind' hrun | refused hat hkind' hrun => exact absurd hkind' hkind
  | moved hat hstep hopen | concluded hat hstep hdone =>
    obtain hat' | ⟨e, hat', -⟩ := hout <;> cases hat.symm.trans hat'

end Connector

namespace Dispatch

variable {β : Type} {d : Dispatch (Noted β)} {t : TaskId} {id : ConnectorId}
  {wanted : ConnectorType}

/-! ### Registries name connectors under their own kinds -/

/-- Every connector that is served under a kind is of this kind. -/
def ServesByKind {γ : Type} (d : Dispatch γ) : Prop :=
  ∀ w id, d.registry.get? w = some id → ∃ c, d.connector? id = some c ∧ c.kind = w

variable [Backend β]

/-- What serves a kind after an event served it before, or is of this kind. -/
theorem get?_apply {γ : Type} [Backend γ] (d : Dispatch γ) (e : DispatchEvent γ)
    (h : (d.apply e).registry.get? wanted = some id) :
    d.registry.get? wanted = some id ∨ ∃ c, d.connector? id = some c ∧ c.kind = wanted := by
  have hstep := d.registryStep_apply e
  generalize (d.apply e).registry = registry at hstep h
  cases hstep with
  | same => exact .inl h
  | @accepted t task w target c ht hat hc hkind hopen =>
    rw [Registry.get?_put] at h
    split at h
    · next hw =>
      obtain rfl := Option.some.inj h
      exact .inr ⟨c, hc, hkind.trans hw.symm⟩
    · exact .inl h
  | emptied ht hat => cases h

/-- Every event keeps connectors under their own kinds. -/
theorem ServesByKind.applyNoted (h : d.ServesByKind) (e : DispatchEvent β) :
    (d.applyNoted e).ServesByKind := by
  intro w id hw
  obtain ⟨c, hc, hkind⟩ := (get?_apply d (e.noted d) hw).elim (h w id) fun hnew ↦ hnew
  obtain ⟨c', hc', hsame⟩ := kind_applyNoted hc e
  exact ⟨c', hc', hsame.trans hkind⟩

/-! ### What a call does -/

/-- A task that calls a connector of a kind, with what it was asked. While the request is of another
kind, the call is outside. -/
structure Calls {γ : Type} (d : Dispatch γ) (t : TaskId) (id : ConnectorId)
    (wanted : ConnectorType) (asked : ConnectorCall) : Prop where
  numbered : d.Numbered
  target : ∃ c, d.connector? id = some c ∧ c.kind = wanted
  call : ∃ task call, d.task? t = some task ∧ task.activity = .calling id call ∧
    call.mode = asked.mode ∧ call.request = asked.request ∧ call.context = asked.context ∧
    (asked.request.kind ≠ wanted → call.IsOutside)

variable {asked : ConnectorCall}

/-- A call stays with the connector that it was routed to. -/
theorem Calls.applyNoted (h : d.Calls t id wanted asked) (e : DispatchEvent β) :
    (d.applyNoted e).Calls t id wanted asked := by
  obtain ⟨hn, ⟨c, hc, hkind⟩, task, call, ht, hat, hmode, hrequest, hcontext, hout⟩ := h
  obtain ⟨c', hc', hsame⟩ := kind_applyNoted hc e
  refine ⟨hn.apply _, ⟨c', hc', hsame.trans hkind⟩, ?_⟩
  obtain ⟨task', ht', hstays | ⟨-, -, d₁, hstep, -⟩⟩ := hn.task?_apply ht (e.noted d)
  · exact ⟨task', call, ht', hstays.trans hat, hmode, hrequest, hcontext, hout⟩
  · generalize hat' : task'.activity = a' at hstep
    rw [hat] at hstep
    cases hstep with
    | @called _ _ call' c₀ c₀' hc₀ hstep =>
      cases hc.symm.trans hc₀
      obtain ⟨hmode', hrequest', hcontext', -⟩ := hstep.same
      refine ⟨task', call', ht', hat', hmode'.trans hmode, hrequest'.trans hrequest,
        hcontext'.trans hcontext, fun hne ↦ ?_⟩
      exact (hstep.outside (by rwa [hrequest, hkind]) (hout hne)).2.1
    | closed hc hclose hpart => cases hpart

private theorem Calls.turnedAway (h : d.Calls t id wanted asked)
    (hne : asked.request.kind ≠ wanted) :
    (∀ r, d.answerOf? t = some r → ∃ e, r = .error e ∧ e.kind = .validation) ∧
      (d.answerOf? t = none → ∀ task, d.task? t = some task → task.gone = false →
        ∃ e, (d.applyNoted (.move t)).answerOf? t = some (.error e) ∧ e.kind = .validation) := by
  obtain ⟨hn, ⟨c, hc, hkind⟩, task, call, ht, hat, hmode, hrequest, hcontext, hout⟩ := h
  have hanswer : d.answerOf? t = call.answer? := by
    rw [answerOf?_of_task? ht, hat]
    rfl
  refine ⟨fun r hr ↦ ?_, fun hnone task' ht' hgone ↦ ?_⟩
  · rw [hanswer] at hr
    obtain hat' | ⟨e, hat', hvalidation⟩ := hout hne
    · rw [ConnectorCall.answer?, hat'] at hr
      cases hr
    · rw [ConnectorCall.answer?, hat'] at hr
      cases hr
      exact ⟨e, rfl, hvalidation⟩
  · cases ht.symm.trans ht'
    have harriving : call.stage = .arriving := by
      obtain hat' | ⟨e, hat', -⟩ := hout hne
      · exact hat'
      · rw [hanswer, ConnectorCall.answer?, hat'] at hnone
        cases hnone
    have hmismatch : call.request.kind ≠ c.kind := by rwa [hrequest, hkind]
    let failure := c.placed call.context call.mode (kindMismatch c.kind call.request.kind)
    let turned : ConnectorCall := { call with stage := .answered (.error failure) }
    have hstep : d.stepActivity? task.activity =
        some (d.putConnector id c, .calling id turned) := by
      simp only [hat, stepActivity?, hc, Connector.stepCall?, harriving, Request.expect, hmismatch,
        if_false, Option.bind_eq_bind, Option.bind_some]
      rfl
    obtain ⟨-, task', ht', hat'⟩ := exists_task_of_stepActivity? ht hgone hstep
    refine ⟨failure, ?_, rfl⟩
    rw [Dispatch.applyNoted, DispatchEvent.noted, answerOf?_of_task? ht', hat']
    rfl

/-! ### Calls in a run -/

/-- A call that is asked for begins with what serves its kind. -/
theorem task?_of_asked (hn : d.Numbered) (hid : d.registry.get? wanted = some id)
    (mode : SendMode) (request : Request) (context : CallContext) :
    (d.applyNoted (.ask (.send wanted mode request context))).task? d.nextTask =
      some { activity := .calling id { mode, request, context } } := by
  change (d.start (d.callFor wanted mode request context)).1.task? _ = _
  rw [callFor, hid, hn.task?_start, if_pos rfl]

/-- A call that is asked for is routed to what serves its kind. -/
theorem calls_of_asked (hn : d.Numbered) (hserves : d.ServesByKind)
    (hid : d.registry.get? wanted = some id) (mode : SendMode) (request : Request)
    (context : CallContext) :
    (d.applyNoted (.ask (.send wanted mode request context))).Calls d.nextTask id wanted
      { mode, request, context } :=
  ⟨hn.start _, hserves wanted id hid, _, { mode, request, context },
    task?_of_asked hn hid mode request context, rfl, rfl, rfl, rfl, fun _ ↦ .inl rfl⟩

/-- In every run from the start, tasks are numbered and connectors serve their own kinds. -/
theorem servesByKind_run (start : Nat) (events : List (DispatchEvent β)) :
    let d := ({ now := start } : Dispatch (Noted β)).runNoted events
    d.Numbered ∧ d.ServesByKind := by
  refine runNoted_keeps events (I := fun d ↦ d.Numbered ∧ d.ServesByKind)
    (fun d e _ ⟨hn, h⟩ ↦ ⟨hn.apply _, h.applyNoted e⟩) ⟨numbered_new start, ?_⟩
  intro w id hw
  cases hw

end Dispatch

end GuardedDispatch
