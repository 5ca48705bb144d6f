import GuardedDispatch.Connector.Mock
import GuardedDispatch.Proofs.Dispatch.Events
import GuardedDispatch.Proofs.Stack.Steps

/-!
# Where a failure says that it happened

A call fails because its request is for another kind of backend, because the connector does not run,
because the policies end it, or because the backend raised a failure, of which exhausted retries
keep the last. All of these leave the connector with their place filled in and with what the
backend said about itself as it was. A call for a kind that nobody serves never comes to a
connector: its failure names the kind and the operation only.
-/

namespace GuardedDispatch

/-! ### What is known of a failure -/

namespace ConnectorFailure

/-- A failure of a call in a context that says where it happened. -/
structure Located (e : ConnectorFailure) (context : CallContext) : Prop where
  connector : e.report.connector?.isSome = true
  endpoint : e.report.endpoint?.isSome = true
  operation : e.report.operation?.isSome = true
  datacenter : context.datacenter?.isSome = true → e.report.datacenter?.isSome = true

/-- A failure that says of itself whatever the raised one does. -/
structure Keeps (raised e : ConnectorFailure) : Prop where
  kind_eq : e.report.kind = raised.report.kind
  message_eq : e.report.message = raised.report.message
  code_eq : e.report.code? = raised.report.code?
  connector : ∀ t, raised.report.connector? = some t → e.report.connector? = some t
  endpoint : ∀ s, raised.report.endpoint? = some s → e.report.endpoint? = some s
  datacenter : ∀ s, raised.report.datacenter? = some s → e.report.datacenter? = some s
  operation : ∀ s, raised.report.operation? = some s → e.report.operation? = some s
  sources_eq : e.sources = raised.sources
  lastFailure?_eq : e.lastFailure? = raised.lastFailure?

private theorem report_mapReport (f : FailureReport → FailureReport) (e : ConnectorFailure) :
    (e.mapReport f).report = f e.report := by
  cases e <;> rfl

end ConnectorFailure

namespace Connector

variable {β : Type}

private theorem located_placed (c : Connector β) (context : CallContext) (mode : SendMode)
    (e : ConnectorFailure) : (c.placed context mode e).Located context := by
  have hfilled {γ : Type} {x? y? : Option γ} (hy : y?.isSome = true) :
      (x? <|> y?).isSome = true := by
    cases x? with
    | none => exact hy
    | some x => rfl
  have hreport : (c.placed context mode e).report =
      e.report.orContext c.kind context.endpoint context.datacenter? mode.operation :=
    e.report_mapReport _
  exact ⟨hreport ▸ hfilled rfl, hreport ▸ hfilled rfl, hreport ▸ hfilled rfl,
    fun hnamed ↦ hreport ▸ hfilled hnamed⟩

/-- A failure that was placed says of itself what it said before. -/
theorem keeps_placed (c : Connector β) (context : CallContext) (mode : SendMode)
    (e : ConnectorFailure) : e.Keeps (c.placed context mode e) := by
  have hfirst {γ : Type} {x? y? : Option γ} {x : γ} (hx : x? = some x) :
      (x? <|> y?) = some x := by
    rw [hx]
    rfl
  cases e <;> exact ⟨rfl, rfl, rfl, fun _ ↦ hfirst, fun _ ↦ hfirst, fun _ ↦ hfirst,
    fun _ ↦ hfirst, rfl, rfl⟩

end Connector

/-! ### Where a failure comes from -/

namespace Stack

variable {σ ε α : Type} {op : Operation σ ε α} {eligible : PolicyFailure ε → Bool} {now : Nat}
  {s s' : Stack} {env env' : σ} {c c' : Call ε α} {e : PolicyFailure ε}

/-- A failure that ends an attempt, or exhaustion after it. -/
def EndsAs (f e : PolicyFailure ε) : Prop := e = f ∨ ∃ name attempts, e = .exhausted name attempts f

private theorem endsAs_of_afterAttempt {number : Nat} {r : Except (PolicyFailure ε) α}
    (h : (s.afterAttempt eligible c number now r).2.phase.result? = some (.error e)) :
    ∃ f, r = .error f ∧ EndsAs f e := by
  unfold afterAttempt at h
  split at h
  · cases h
    exact ⟨e, rfl, .inl rfl⟩
  · next config hconfig =>
    cases r with
    | ok value => cases h
    | error f =>
      simp only [Retry.judge] at h
      by_cases hend : (f.isRejection || !eligible f) = true
      · rw [if_pos hend] at h
        cases h
        exact ⟨e, rfl, .inl rfl⟩
      · by_cases hlast : config.attempts ≤ number
        · rw [if_neg hend, if_pos hlast] at h
          cases h
          exact ⟨f, rfl, .inr ⟨_, _, rfl⟩⟩
        · rw [if_neg hend, if_neg hlast] at h
          cases h

private theorem endsAs_of_endAttempt {a : Attempt} {r : Except (PolicyFailure ε) α}
    (h : (s.endAttempt eligible c a now r).2.phase.result? = some (.error e)) :
    ∃ f, r = .error f ∧ EndsAs f e :=
  endsAs_of_afterAttempt h

private theorem isOk_of_afterAttempt {number : Nat} {r r' : Except (PolicyFailure ε) α}
    (h : (s.afterAttempt eligible c number now r).2.phase.result? = some r') :
    r'.isOk = r.isOk := by
  have hd := decided_afterAttempt eligible s c number now r
  generalize s.afterAttempt eligible c number now r = next at hd h
  obtain ⟨s', c'⟩ := next
  cases hd with
  | done hok hrejected =>
    cases h
    exact hok
  | again hr hrejected => cases h

/-- The result with which a step ends a call is a failure in which none of the operation is, or its
operation has just finished. -/
theorem result_of_step? {r : Except (PolicyFailure ε) α}
    (h : s.step? op eligible now env c = some (s', env', c')) (hdone : c'.phase.result? = some r) :
    (∃ e, r = .error e ∧ e.inner? = none) ∨ ∃ ticket, env' = (op.finish env ticket).1 ∧
      ∀ e, r = .error e → ∃ f, (op.finish env ticket).2 = .error f ∧ EndsAs f e := by
  cases hat : c.phase with
  | attempting a =>
    simp only [step?, hat] at h
    split at h
    · cases h
      refine .inr ⟨a.ticket, rfl, fun e he ↦ ?_⟩
      subst he
      exact endsAs_of_endAttempt hdone
    · split at h
      · cases h
        cases r with
        | ok value => cases isOk_of_afterAttempt hdone
        | error e =>
          obtain ⟨f, hf, hends⟩ := endsAs_of_endAttempt hdone
          cases hf
          obtain rfl | ⟨name, attempts, rfl⟩ := hends
          · exact .inl ⟨_, rfl, rfl⟩
          · exact .inl ⟨_, rfl, rfl⟩
      · cases h
  | arriving | queued ticket | admitted | throttled since wakeAt | preparing number
  | pausing number wakeAt | finished r =>
    have hm := moved_of_step? h
    cases hm with
    | turnedAway _ hb hr | gaveUp _ hb hr | limited _ hl hr | refused _ hb hr =>
      cases hdone
      exact .inl ⟨_, rfl, rfl⟩
    | unguarded _ hb | seated _ hb hr | queued _ hb hr | claimed _ hb hr | unlimited _ hl
    | granted _ hl hr | slept _ hl hr | started _ hp | resumed _ hdue => cases hdone
    | ended hat' hends hd => cases hat.symm.trans hat'

end Stack

namespace ConnectorCall

variable {β : Type} [Backend β]

/-- Where the failure of a call comes from that a connector answers, and what is kept of a failure
that the backend raised. -/
inductive Origin (c : Connector β) (call : ConnectorCall) (e : ConnectorFailure) : Prop
  | misdirected (heq : e = c.placed call.context call.mode (kindMismatch c.kind call.request.kind))
  | shut (heq : e = c.placed call.context call.mode c.refusal)
  | policy {p : PolicyFailure ConnectorFailure} (hours : p.inner? = none)
      (heq : e = c.placed call.context call.mode (.ofPolicy p))
  | raised {ticket : Nat} {raised : ConnectorFailure}
      (hraised : (Backend.finishSend c.backend call.mode call.request call.context ticket).2 =
        .error raised)
      (hkeeps : raised.Keeps e)
  | exhausted {ticket : Nat} {raised : ConnectorFailure}
      (hraised : (Backend.finishSend c.backend call.mode call.request call.context ticket).2 =
        .error raised)
      (hlast : e.lastFailure? = some raised)

end ConnectorCall

namespace Connector

variable {β : Type} [Backend β] {c c' : Connector β} {call call' : ConnectorCall} {now : Nat}
  {e : ConnectorFailure}

/-- A call keeps what it was asked, and only a call without an answer takes a step. -/
theorem CallStep.same (h : c.CallStep now call c' call') :
    call'.mode = call.mode ∧ call'.request = call.request ∧ call'.context = call.context ∧
      call.answer? = none := by
  cases h with
  | misdirected hat hkind | entered hat hkind hrun | refused hat hkind hrun | moved hat hstep hopen
  | concluded hat hstep hdone =>
    exact ⟨rfl, rfl, rfl, by rw [ConnectorCall.answer?, hat]⟩

private theorem CallStep.failure (h : c.CallStep now call c' call')
    (he : call'.answer? = some (.error e)) :
    e.Located call.context ∧ ConnectorCall.Origin c call e := by
  cases h with
  | misdirected hat hkind =>
    cases he
    exact ⟨c.located_placed _ _ _, .misdirected rfl⟩
  | refused hat hkind hrun =>
    cases he
    exact ⟨c.located_placed _ _ _, .shut rfl⟩
  | entered hat hkind hrun | moved hat hstep hopen => cases he
  | @concluded inner inner' stack backend hat hstep r hdone =>
    cases r with
    | ok response => cases he
    | error p =>
      cases he
      refine ⟨c.located_placed _ _ _, ?_⟩
      obtain ⟨_, heq, hours⟩ | ⟨ticket, -, hfails⟩ := Stack.result_of_step? hstep hdone
      · cases heq
        exact .policy hours rfl
      · obtain ⟨f, hfinish, hends⟩ := hfails p rfl
        cases hsend :
          (Backend.finishSend c.backend call.mode call.request call.context ticket).2 with
        | ok response =>
          simp only [ConnectorCall.operation, Prod.map_snd, hsend, Except.mapError] at hfinish
          cases hfinish
        | error raised =>
          simp only [ConnectorCall.operation, Prod.map_snd, hsend, Except.mapError] at hfinish
          cases hfinish
          obtain rfl | ⟨name, attempts, rfl⟩ := hends
          · exact .raised hsend (c.keeps_placed _ _ raised)
          · exact .exhausted hsend rfl

end Connector

namespace Dispatch

variable {β : Type} [Backend β] {d : Dispatch β} {t : TaskId} {task : TaskState} {id : ConnectorId}
  {call : ConnectorCall} {r : Except ConnectorFailure Response}

/-! ### How a call is answered -/

omit [Backend β] in
/-- The answer of a task is that of its activity. -/
theorem answerOf?_of_task? (ht : d.task? t = some task) :
    d.answerOf? t = task.activity.answer? := by
  rw [answerOf?, ht, Option.bind_some]

private theorem ActivityStep.unanswered {d' : Dispatch β} {a a' : Activity}
    (h : d.ActivityStep a d' a') :
    a.answer? = none := by
  cases h with
  | called hc hstep => exact hstep.same.2.2.2
  | probed hc hstep | turnedDown hc hr | accepted hc hr | emptied hopen | tooLate hshut => rfl
  | closed hc hstep hpart => cases hpart <;> rfl

/-- An answer is final. -/
theorem Numbered.answerOf?_run (h : d.Numbered) (hr : d.answerOf? t = some r)
    (events : List (DispatchEvent β)) : (d.run events).answerOf? t = some r := by
  have hkeeps : (d.run events).Numbered ∧ (d.run events).answerOf? t = some r := by
    refine run_keeps (I := fun d ↦ d.Numbered ∧ d.answerOf? t = some r)
      (fun d e _ ⟨h, hr⟩ ↦ ⟨h.apply e, ?_⟩) ⟨h, hr⟩
    obtain ⟨task, ht, hanswer⟩ := Option.bind_eq_some_iff.mp hr
    obtain ⟨task', ht', hsame | ⟨-, -, d₁, hstep, -⟩⟩ := h.task?_apply ht e
    · rw [answerOf?_of_task? ht', hsame]
      exact hanswer
    · rw [hstep.unanswered] at hanswer
      cases hanswer
  exact hkeeps.2

private theorem Numbered.exists_answering_step (h : d.Numbered) (ht : d.task? t = some task)
    (hat : task.activity = .calling id call) (hopen : call.answer? = none)
    {events : List (DispatchEvent β)} (hr : (d.run events).answerOf? t = some r) :
    ∃ before rest c c' before' after', events = before ++ .move t :: rest ∧
      (d.run before).answerOf? t = none ∧
      ((d.run before).apply (.move t)).answerOf? t = some r ∧
      (d.run before).connector? id = some c ∧
      c.CallStep (d.run before).now before' c' after' ∧ before'.mode = call.mode ∧
      before'.request = call.request ∧ before'.context = call.context ∧
      after'.answer? = some r := by
  induction events generalizing d task call with
  | nil =>
    have hnone : d.answerOf? t = none := by
      rw [answerOf?_of_task? ht, hat]
      exact hopen
    cases hnone.symm.trans hr
  | cons e rest ih =>
    obtain ⟨task', ht', hsame | ⟨rfl, -, d₁, hstep, -⟩⟩ := h.task?_apply ht e
    · obtain ⟨before, rest', c, c', before', after', rfl, hfound⟩ :=
        ih (h.apply e) ht' (hsame.trans hat) hopen hr
      exact ⟨e :: before, rest', c, c', before', after', rfl, hfound⟩
    · generalize hafter : task'.activity = a' at hstep
      rw [hat] at hstep
      cases hstep with
      | @called id call call' c c' hc hstep =>
        obtain ⟨hmode, hrequest, hcontext, -⟩ := hstep.same
        cases hanswer : call'.answer? with
        | none =>
          obtain ⟨before, rest', c₂, c₂', before', after', rfl, hwaits, hanswers, hc₂, hstep₂,
            hmode', hrequest', hcontext', hfound⟩ := ih (h.apply _) ht' hafter hanswer hr
          exact ⟨.move t :: before, rest', c₂, c₂', before', after', rfl, hwaits, hanswers, hc₂,
            hstep₂, hmode'.trans hmode, hrequest'.trans hrequest, hcontext'.trans hcontext, hfound⟩
        | some r' =>
          have hnow : d.answerOf? t = none := by
            rw [answerOf?_of_task? ht, hat]
            exact hopen
          have hdone : (d.apply (.move t)).answerOf? t = some r' := by
            rw [answerOf?_of_task? ht', hafter]
            exact hanswer
          have hfinal := (h.apply (.move t)).answerOf?_run hdone rest
          cases hfinal.symm.trans hr
          exact ⟨[], rest, c, c', call, call', rfl, hnow, hdone, hc, hstep, rfl, rfl, rfl, hanswer⟩
      | closed hc hstep hpart => cases hpart

private theorem Numbered.answerOf?_refused (h : d.Numbered) {e : ConnectorFailure}
    (events : List (DispatchEvent β)) :
    ((d.start (.refused e)).1.run events).answerOf? d.nextTask = some (.error e) := by
  refine (h.start _).answerOf?_run ?_ events
  rw [answerOf?, h.task?_start, if_pos rfl]
  rfl

/-- Where a failed call says that it happened. If no connector serves the kind it is for, its
failure names the kind and the operation, and neither the endpoint nor the datacenter. Otherwise its
failure says where it happened in full, and comes from the step that answered the call: a mismatch
of kinds, a connector that does not run, a failure of the policies alone, or a failure that the
backend had just raised, which says of itself what it said then, or is kept as it was behind
exhausted retries. -/
theorem failures_are_located (start : Nat) (earlier later : List (DispatchEvent β))
    (wanted : ConnectorType) (mode : SendMode) (request : Request) (context : CallContext) :
    let d := ({ now := start } : Dispatch β).run earlier
    let asked := d.apply (.ask (.send wanted mode request context))
    ∀ e, (asked.run later).answerOf? d.nextTask = some (.error e) →
      (d.registry.get? wanted = none → e = Registry.missing wanted mode.operation ∧
        e.report.connector? = some wanted ∧ e.report.operation? = some mode.operation ∧
        e.report.endpoint? = none ∧ e.report.datacenter? = none) ∧
      ∀ id, d.registry.get? wanted = some id → e.Located context ∧
        ∃ before rest c call, later = before ++ .move d.nextTask :: rest ∧
          (asked.run before).answerOf? d.nextTask = none ∧
          ((asked.run before).apply (.move d.nextTask)).answerOf? d.nextTask = some (.error e) ∧
          (asked.run before).connector? id = some c ∧ call.mode = mode ∧
          call.request = request ∧ call.context = context ∧ ConnectorCall.Origin c call e := by
  intro d asked e he
  have hd : d.Numbered := (numbered_new start).run earlier
  refine ⟨fun hnone ↦ ?_, fun id hid ↦ ?_⟩
  · have hrefused : asked = (d.start (.refused (Registry.missing wanted mode.operation))).1 := by
      change (d.start (d.callFor wanted mode request context)).1 = _
      rw [callFor, hnone]
    rw [hrefused, hd.answerOf?_refused later] at he
    cases he
    exact ⟨rfl, rfl, rfl, rfl, rfl⟩
  · have hcalled : asked = (d.start (.calling id { mode, request, context })).1 := by
      change (d.start (d.callFor wanted mode request context)).1 = _
      rw [callFor, hid]
    have ht : asked.task? d.nextTask =
        some { activity := .calling id { mode, request, context } } := by
      rw [hcalled, hd.task?_start, if_pos rfl]
    obtain ⟨before, rest, c, c', call, call', hsplit, hwaits, hanswers, hc, hstep, hmode, hrequest,
      hcontext, hanswer⟩ := (hd.apply _).exists_answering_step ht rfl rfl he
    obtain ⟨hlocated, horigin⟩ := hstep.failure hanswer
    have hcontext : call.context = context := hcontext
    exact ⟨hcontext ▸ hlocated, before, rest, c, call, hsplit, hwaits, hanswers, hc, hmode,
      hrequest, hcontext, horigin⟩

/-- A request for an HTTP backend. -/
def plainRequest : Request := .http ⟨.get, "/x", [], ∅, none, none⟩

/-- A context that names a datacenter. -/
def billing : CallContext := { endpoint := "http://billing", datacenter? := some "eu-1" }

/-- A backend that is down is registered. -/
def downRegistered : List (DispatchEvent MockBackend) :=
  [.build { kind := .http, failure? := some (.backendCommunication, "down") } .passthrough 0 none,
    .ask (.register .http 0), .move 0]

/-- A call to a backend that is down fails, and its failure says where. -/
theorem failures_are_located_at_billing :
    let d := ({} : Dispatch MockBackend).run downRegistered
    let asked := d.apply (.ask (.send .http .sync plainRequest billing))
    ∃ e, (asked.run (List.replicate 5 (.move 1))).answerOf? 1 = some (.error e) ∧
      e.Located billing := by
  intro d asked
  obtain ⟨r, hr, herror⟩ := Option.map_eq_some_iff.mp
    (by decide +kernel :
      ((asked.run (List.replicate 5 (.move 1))).answerOf? 1).map Except.isOk = some false)
  cases r with
  | ok response => cases herror
  | error e =>
    have hserved : d.registry.get? .http = some 0 := by decide +kernel
    exact ⟨e, hr, ((failures_are_located 0 downRegistered (List.replicate 5 (.move 1)) .http .sync
      plainRequest billing e hr).2 0 hserved).1⟩

/-- Not every failed call says where it happened. -/
theorem missing_connector_not_located :
    ¬ ∀ (start : Nat) (earlier later : List (DispatchEvent MockBackend)) (wanted : ConnectorType)
      (mode : SendMode) (request : Request) (context : CallContext),
      let d := ({ now := start } : Dispatch MockBackend).run earlier
      let asked := d.apply (.ask (.send wanted mode request context))
      ∀ e, (asked.run later).answerOf? d.nextTask = some (.error e) → e.Located context := by
  intro hall
  have hlocated := hall 0 [] [] .http .sync plainRequest billing
    (Registry.missing .http "send_sync") rfl
  cases hlocated.endpoint

end Dispatch

end GuardedDispatch
