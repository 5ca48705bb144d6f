import GuardedDispatch.Proofs.Dispatch.Routing

/-!
# What a registration is worth

A connector that is accepted serves its kind, and the registration closes whatever served it before,
without asking whether that is the very same connector. So one that the registry does not close by
then runs for as long as it is left with its kind, and calls for this kind get as far as its
backend unless its policies end them. One that is registered a second time is closed by its own
registration, and from then on turns away every call for the kind that it still serves.
-/

namespace GuardedDispatch

/-! ### Steps of closes and calls -/

/-- Whether a failure is of a kind that policies raise by themselves. -/
def FailureKind.isOfPolicies : FailureKind → Bool
  | .bulkheadRejected | .rateLimited | .circuitOpen | .timedOut | .retryExhausted => true
  | _ => false

private theorem ConnectorFailure.isOfPolicies_ofPolicy {p : PolicyFailure ConnectorFailure}
    (h : p.inner? = none) : (ofPolicy p).kind.isOfPolicies = true := by
  cases p with
  | inner e => cases h
  | bulkheadFull _ _ | rateLimited _ _ | circuitOpen _ _ | timedOut _ _ | exhausted _ _ _ => rfl

namespace Connector

variable {β : Type} [Backend β]

private theorem CloseStep.stops {c c' : Connector β} {now : Nat} {progress progress' : Closing}
    (h : c.CloseStep now progress c' progress')
    (hbefore : progress = .arriving ∨ c.status ≠ .running) : c'.status ≠ .running := by
  cases h with
  | began hrun hfits | failed hrun hlate => exact fun heq ↦ nomatch heq
  | returned hrun => exact hrun
  | released hwhen => exact hbefore.resolve_left fun heq ↦ nomatch heq
  | closed hends => exact fun heq ↦ nomatch heq

private theorem CallStep.reaches {c c' : Connector (Noted β)} {now : Nat}
    {call call' : ConnectorCall}
    (h : c.CallStep now call c' call') (hkind : call.request.kind = c.kind)
    (hrun : c.status = .running) {r : Except ConnectorFailure Response}
    (hr : call'.answer? = some r) :
    (∃ e, r = .error e ∧ e.kind.isOfPolicies = true) ∨
      c'.backend.hooks = c.backend.hooks ++ [.sendFinished] := by
  cases h with
  | misdirected hat hmisfit => exact absurd hkind hmisfit
  | refused hat hkind hstopped => exact absurd hrun hstopped
  | entered hat hkind hrun | moved hat hstep hopen => cases hr
  | @concluded inner inner' stack backend hat hstep result hdone =>
    cases hr
    obtain ⟨p, rfl, hours⟩ | ⟨ticket, rfl, -⟩ := Stack.result_of_step? hstep hdone
    · have hplaced := (c.keeps_placed call.context call.mode (.ofPolicy p)).kind_eq
      exact .inl ⟨_, rfl, (congrArg FailureKind.isOfPolicies hplaced).trans
        (ConnectorFailure.isOfPolicies_ofPolicy hours)⟩
    · exact .inr rfl

end Connector

namespace Activity

variable {a a' : Activity} {id other : ConnectorId} {progress progress' : Closing}

/-- Whether a connector may lose its kind with the next step of an activity: a registration for the
kind or a shutdown is heard, or the connector is closed past the registry. -/
def ousts (wanted : ConnectorType) (id : ConnectorId) : Activity → Bool
  | .registering w _ => w = wanted
  | .shuttingDown => true
  | .closing target _ => target = id
  | _ => false

private theorem not_closesByHand {wanted : ConnectorType} (h : a.ousts wanted id = false) :
    a.closesByHand id = false := by
  cases a with
  | closing target _ => exact h
  | calling _ _ | refused _ | probing _ _ | registering _ _ | registered _ _ | shuttingDown
  | draining _ => rfl

private theorem PartStep.isOfRegistry_eq (h : a.PartStep (other, progress) (other, progress') a') :
    a'.isOfRegistry = a.isOfRegistry := by
  cases h with
  | alone | replaced r | among before after => rfl

/-- Who gets further with one connector closes the same ones. -/
theorem PartStep.closingsOf_eq_nil_iff (h : a.PartStep (other, progress) (other, progress') a')
    (id : ConnectorId) : a'.closingsOf id = [] ↔ a.closingsOf id = [] := by
  obtain ⟨before, after, hold, hnew⟩ := h.closingsOf_eq id
  rw [hold, hnew]
  split <;> simp

end Activity

namespace Dispatch

variable {β : Type} {d d₁ : Dispatch (Noted β)} {t u : TaskId} {a a' : Activity}
  {id : ConnectorId} {wanted : ConnectorType} {progress : Closing}

/-! ### Connectors that stop -/

/-- A connector runs. -/
def Runs (d : Dispatch (Noted β)) (id : ConnectorId) : Prop :=
  ∃ c, d.connector? id = some c ∧ c.status = .running

/-- A connector does not run any more. -/
def Stopped (d : Dispatch (Noted β)) (id : ConnectorId) : Prop :=
  ∃ c, d.connector? id = some c ∧ c.status ≠ .running

/-- Every close of a connector that is further than arriving has stopped it. -/
def ClosesStop (d : Dispatch (Noted β)) (id : ConnectorId) : Prop :=
  ∀ t task progress, d.task? t = some task → progress ∈ task.activity.closingsOf id →
    progress = .arriving ∨ d.Stopped id

private theorem eq_arriving_of_activityOf {γ : Type} (d : Dispatch γ) {errand : Errand}
    (h : progress ∈ (d.activityOf errand).closingsOf id) : progress = .arriving := by
  cases errand with
  | close target =>
    cases List.mem_singleton.mp (Activity.mem_closingsOf.mp h)
    rfl
  | send wanted mode request context =>
    have hidle : (Errand.send wanted mode request context).claims? ≠ some id := by
      intro heq
      cases heq
    rw [(d.activityOf_idle hidle).2] at h
    cases h
  | call _ _ _ _ | probe _ _ | register _ _ | shutDown => cases Activity.mem_closingsOf.mp h

variable [Backend β]

private theorem ActivityStep.mem_closingsOf (h : d.ActivityStep a d₁ a')
    (hmem : progress ∈ a'.closingsOf id) :
    progress ∈ a.closingsOf id ∨ progress = .arriving ∨
      ∃ before c c', before ∈ a.closingsOf id ∧ d.connector? id = some c ∧
        c.CloseStep d.now before c' progress ∧ d₁.connector? id = some c' := by
  have hpart := Activity.mem_closingsOf.mp hmem
  cases h with
  | called hc hstep | probed hc hstep | turnedDown hc hr | tooLate hshut => cases hpart
  | accepted hc hr =>
    obtain ⟨previous, -, heq⟩ := Option.map_eq_some_iff.mp (Option.mem_toList.mp hpart)
    cases heq
    exact .inr (.inl rfl)
  | emptied hopen =>
    obtain ⟨target, -, heq⟩ := List.mem_map.mp hpart
    cases heq
    exact .inr (.inl rfl)
  | @closed _ _ target before after c c' hc hclose hstep =>
    obtain ⟨earlier, later, hparts, hparts'⟩ := hstep.parts_eq
    rw [hparts', List.mem_append, List.mem_cons] at hpart
    have hkept (hother : (id, progress) ∈ earlier ∨ (id, progress) ∈ later) :
        progress ∈ a.closingsOf id := by
      rw [Activity.mem_closingsOf, hparts, List.mem_append, List.mem_cons]
      exact hother.imp_right .inr
    obtain hearlier | heq | hlater := hpart
    · exact .inl (hkept (.inl hearlier))
    · cases heq
      refine .inr (.inr ⟨before, c, c', ?_, hc, hclose, connector?_putConnector_self hc c'⟩)
      rw [Activity.mem_closingsOf, hparts]
      exact List.mem_append_right _ List.mem_cons_self
    · exact .inl (hkept (.inr hlater))

private theorem Stopped.applyNoted (h : d.Stopped id) (e : DispatchEvent β) :
    (d.applyNoted e).Stopped id := by
  obtain ⟨c, hc, hstopped⟩ := h
  obtain ⟨c', hc', hrests | ⟨_, _, _, _, -, -, -, hclose⟩⟩ := rests_or_closes_applyNoted hc e
  · exact ⟨c', hc', hrests.status_eq ▸ hstopped⟩
  · exact ⟨c', hc', hclose.stops (.inr hstopped)⟩

private theorem ClosesStop.applyNoted (h : d.ClosesStop id) (hn : d.Numbered)
    (e : DispatchEvent β) :
    (d.applyNoted e).ClosesStop id := by
  intro t task progress ht hmem
  have hkept {task₀ : TaskState} (ht₀ : d.task? t = some task₀)
      (hmem : progress ∈ task₀.activity.closingsOf id) :
      progress = .arriving ∨ (d.applyNoted e).Stopped id :=
    (h t task₀ progress ht₀ hmem).imp_right (·.applyNoted e)
  obtain ⟨task₀, ht₀, hsame | ⟨-, d₁, hstep, -, hconnectors⟩⟩ | ⟨errand, -, hbegun⟩ :=
    hn.task?_of_apply ht
  · exact hkept ht₀ (hsame ▸ hmem)
  · obtain hold | hnew | ⟨before, c, c', hbefore, hc, hclose, hc'⟩ := hstep.mem_closingsOf hmem
    · exact hkept ht₀ hold
    · exact .inl hnew
    · refine .inr ⟨c', ?_, hclose.stops ?_⟩
      · rw [connector?, Dispatch.applyNoted, hconnectors]
        exact hc'
      · obtain harrived | ⟨c₀, hc₀, hstopped⟩ := h t task₀ before ht₀ hbefore
        · exact .inl harrived
        · cases hc.symm.trans hc₀
          exact .inr hstopped
  · rw [hbegun] at hmem
    exact .inl (d.eq_arriving_of_activityOf hmem)

/-! ### Connectors that are left with their kind -/

/-- A registration or a shutdown closes a connector, or has closed it. -/
def RegistryCloses (d : Dispatch (Noted β)) (t : TaskId) (id : ConnectorId) : Prop :=
  ∃ task, d.task? t = some task ∧ task.activity.isOfRegistry = true ∧
    task.activity.closingsOf id ≠ []

/-- Whether a connector may lose its kind with an event. -/
def ousts (d : Dispatch (Noted β)) (wanted : ConnectorType) (id : ConnectorId) :
    DispatchEvent β → Bool
  | .move t => (d.task? t).any (·.activity.ousts wanted id)
  | _ => false

/-- Whether a connector is left with its kind while one event happens after another. -/
def leaves (d : Dispatch (Noted β)) (wanted : ConnectorType) (id : ConnectorId) :
    List (DispatchEvent β) → Bool
  | [] => true
  | e :: rest => !d.ousts wanted id e && (d.applyNoted e).leaves wanted id rest

private theorem leaves_keeps {I : Dispatch (Noted β) → Prop}
    (hstep : ∀ d e, d.ousts wanted id e = false → I d → I (d.applyNoted e))
    {events : List (DispatchEvent β)} (hleft : d.leaves wanted id events = true) (h : I d) :
    I (d.runNoted events) := by
  induction events generalizing d with
  | nil => exact h
  | cons e rest ih =>
    obtain ⟨hkept, hrest⟩ := Bool.and_eq_true_iff.mp hleft
    exact ih hrest (hstep d e (Bool.not_eq_true' _ ▸ hkept) h)

/-- A connector that serves a kind, where what closes it stops it. -/
structure Incumbent (d : Dispatch (Noted β)) (wanted : ConnectorType) (id : ConnectorId) :
    Prop where
  numbered : d.Numbered
  byKind : d.ServesByKind
  closesStop : d.ClosesStop id
  serves : d.registry.get? wanted = some id

/-- A connector that holds its kind: it serves it and runs, and nothing of the registry closes
it. -/
structure Tenured (d : Dispatch (Noted β)) (wanted : ConnectorType) (id : ConnectorId) : Prop
    extends d.Incumbent wanted id where
  runs : d.Runs id
  unclosed : ∀ t, ¬ d.RegistryCloses t id

variable {e : DispatchEvent β} {task : TaskState}

omit [Backend β] in
private theorem not_ousts_of_move (he : d.ousts wanted id e = false) (hmove : e.noted d = .move t)
    (ht : d.task? t = some task) : task.activity.ousts wanted id = false := by
  cases e with
  | move u =>
    cases hmove
    rw [ousts, ht] at he
    exact he
  | build _ _ _ _ | ask _ | leave _ | drop _ | observe _ | trip _ | reset _ | shift _ _ | wait _ =>
    cases hmove

private theorem get?_of_not_ousts (he : d.ousts wanted id e = false)
    (hserves : d.registry.get? wanted = some id) :
    (d.applyNoted e).registry.get? wanted = some id := by
  have hstep := d.registryStep_apply (e.noted d)
  rw [Dispatch.applyNoted]
  generalize (d.apply (e.noted d)).registry = registry at hstep ⊢
  generalize hmove : e.noted d = noted at hstep
  cases hstep with
  | same => exact hserves
  | @accepted t task w other c ht hat hc hkind hopen =>
    have hleft := not_ousts_of_move he hmove ht
    rw [hat] at hleft
    rw [Registry.get?_put, if_neg fun heq ↦ of_decide_eq_false hleft heq.symm]
    exact hserves
  | emptied ht hat =>
    have hleft := not_ousts_of_move he hmove ht
    rw [hat] at hleft
    cases hleft

private theorem Incumbent.applyNoted (h : d.Incumbent wanted id)
    (he : d.ousts wanted id e = false) :
    (d.applyNoted e).Incumbent wanted id where
  numbered := h.numbered.apply _
  byKind := h.byKind.applyNoted e
  closesStop := h.closesStop.applyNoted h.numbered e
  serves := get?_of_not_ousts he h.serves

private theorem Tenured.unclosed_applyNoted (h : d.Tenured wanted id)
    (he : d.ousts wanted id e = false)
    (t : TaskId) : ¬ (d.applyNoted e).RegistryCloses t id := by
  rintro ⟨task, ht, hof, hcloses⟩
  obtain ⟨task₀, ht₀, hsame | ⟨hmove, d₁, hstep, -⟩⟩ | ⟨errand, -, hbegun⟩ :=
    h.numbered.task?_of_apply ht
  · exact h.unclosed t ⟨task₀, ht₀, hsame ▸ hof, hsame ▸ hcloses⟩
  · have hleft := not_ousts_of_move he hmove ht₀
    have hunclosed (hof₀ : task₀.activity.isOfRegistry = true) :
        task₀.activity.closingsOf id = [] :=
      of_not_not fun hcloses₀ ↦ h.unclosed t ⟨task₀, ht₀, hof₀, hcloses₀⟩
    generalize task.activity = a' at hstep hof hcloses
    generalize task₀.activity = a at hstep hleft hunclosed
    cases hstep with
    | called hc hstep | probed hc hstep => cases hof
    | turnedDown hc hr => exact hcloses rfl
    | @accepted w other c registry previous? hc hr =>
      -- what it replaced is of its own kind, so it is not this connector
      obtain ⟨hkind, -, -, rfl⟩ := Registry.eq_put_of_register hr
      rw [closingsOf_replaced] at hcloses
      have hreplaced : d.registry.get? w = some id := of_not_not fun hne ↦ hcloses (if_neg hne)
      obtain ⟨c₁, hc₁, hw⟩ := h.byKind w id hreplaced
      obtain ⟨c₂, hc₂, hwanted⟩ := h.byKind wanted id h.serves
      cases hc₁.symm.trans hc₂
      exact of_decide_eq_false hleft (hw.symm.trans hwanted)
    | emptied hopen | tooLate hshut => cases hleft
    | closed hc hclose hpart =>
      have hof₀ := hpart.isOfRegistry_eq.symm.trans hof
      exact hcloses ((hpart.closingsOf_eq_nil_iff id).mpr (hunclosed hof₀))
  · rw [hbegun] at hof hcloses
    cases errand with
    | send w mode request context =>
      rw [activityOf] at hof
      obtain ⟨target, heq⟩ | heq := d.callFor_eq w mode request context <;> rw [heq] at hof <;>
        cases hof
    | call _ _ _ _ | probe _ _ | close _ => cases hof
    | register _ _ | shutDown => exact hcloses rfl

private theorem Tenured.runs_applyNoted (h : d.Tenured wanted id)
    (he : d.ousts wanted id e = false) :
    (d.applyNoted e).Runs id := by
  obtain ⟨c, hc, hrun⟩ := h.runs
  obtain ⟨c', hc', hrests | ⟨t, task, progress, _, rfl, ht, hmem, -⟩⟩ :=
    rests_or_closes_applyNoted hc e
  · exact ⟨c', hc', hrests.status_eq.trans hrun⟩
  · have hleft := not_ousts_of_move he rfl ht
    have hof := Activity.isOfRegistry_of_mem_closingsOf hmem (Activity.not_closesByHand hleft)
    exact absurd ⟨task, ht, hof, List.ne_nil_of_mem hmem⟩ (h.unclosed t)

private theorem Tenured.applyNoted (h : d.Tenured wanted id) (he : d.ousts wanted id e = false) :
    (d.applyNoted e).Tenured wanted id where
  toIncumbent := h.toIncumbent.applyNoted he
  runs := h.runs_applyNoted he
  unclosed := h.unclosed_applyNoted he

/-! ### Connectors that are closed -/

private theorem closes_applyNoted (hn : d.Numbered)
    (h : ∃ task, d.task? t = some task ∧ task.activity.closingsOf id ≠ []) (e : DispatchEvent β) :
    ∃ task, (d.applyNoted e).task? t = some task ∧ task.activity.closingsOf id ≠ [] := by
  obtain ⟨task, ht, hcloses⟩ := h
  obtain ⟨task', ht', hsame | ⟨-, -, d₁, hstep, -⟩⟩ := hn.task?_apply ht (e.noted d)
  · exact ⟨task', ht', hsame ▸ hcloses⟩
  · refine ⟨task', ht', ?_⟩
    generalize task'.activity = a' at hstep ⊢
    generalize task.activity = a at hstep hcloses
    cases hstep with
    | called hc hstep | probed hc hstep | turnedDown hc hr | accepted hc hr | emptied hopen
    | tooLate hshut => exact absurd rfl hcloses
    | closed hc hclose hpart => exact mt (hpart.closingsOf_eq_nil_iff id).mp hcloses

omit [Backend β] in
private theorem ClosesStop.stopped (h : d.ClosesStop id) (ht : d.task? t = some task)
    (hcloses : task.activity.closingsOf id ≠ []) (hover : task.activity.isOver = true) :
    d.Stopped id := by
  obtain ⟨progress, hmem⟩ := List.exists_mem_of_ne_nil _ hcloses
  obtain rfl := Activity.eq_done_of_isOver hover hmem
  exact (h t task .done ht hmem).resolve_left fun heq ↦ nomatch heq

/-! ### Registrations -/

private theorem accepted_of_move (hn : d.Numbered) (ht : d.task? t = some task)
    (hat : task.activity = .registering wanted id)
    (hok : (d.applyNoted (.move t)).registrationOf? t = some (.ok ())) :
    (∃ c, d.connector? id = some c ∧ c.kind = wanted) ∧
      (d.applyNoted (.move t)).connectors = d.connectors ∧
      (d.applyNoted (.move t)).registry = d.registry.put wanted id ∧
      ∃ task', (d.applyNoted (.move t)).task? t = some task' ∧
        task'.activity = .registered (.ok ()) ((d.registry.get? wanted).map (·, .arriving)) := by
  obtain ⟨task', ht', hsame | ⟨-, -, d₁, hstep, hregistry, hconnectors⟩⟩ :=
    hn.task?_apply ht (.move t)
  · rw [registrationOf?, Dispatch.applyNoted, DispatchEvent.noted, ht', Option.bind_some, hsame,
      hat] at hok
    cases hok
  · rw [registrationOf?, Dispatch.applyNoted, DispatchEvent.noted, ht', Option.bind_some] at hok
    generalize hat' : task'.activity = a' at hstep hok
    rw [hat] at hstep
    cases hstep with
    | turnedDown hc hr => cases hok
    | accepted hc hr =>
      obtain ⟨hkind, -, rfl, rfl⟩ := Registry.eq_put_of_register hr
      exact ⟨⟨_, hc, hkind⟩, hconnectors, hregistry, task', ht', hat'⟩
    | closed hc hclose hpart => cases hpart

/-! ### Calls for the kind -/

private theorem Calls.reaches {asked : ConnectorCall} (h : d.Calls t id wanted asked)
    (hkind : asked.request.kind = wanted) (hruns : d.Runs id) (hnone : d.answerOf? t = none)
    {r : Except ConnectorFailure Response}
    (hr : (d.applyNoted (.move t)).answerOf? t = some r) :
    (∃ e, r = .error e ∧ e.kind.isOfPolicies = true) ∨
      (d.applyNoted (.move t)).hooks id = d.hooks id ++ [.sendFinished] := by
  obtain ⟨hn, ⟨c, hc, hserves⟩, task, call, ht, hat, -, hrequest, -⟩ := h
  obtain ⟨c₀, hc₀, hrun⟩ := hruns
  cases hc.symm.trans hc₀
  obtain ⟨task', ht', hsame | ⟨-, -, d₁, hstep, -, hconnectors⟩⟩ := hn.task?_apply ht (.move t)
  · rw [Dispatch.applyNoted, DispatchEvent.noted, answerOf?_of_task? ht', hsame,
      ← answerOf?_of_task? ht, hnone] at hr
    cases hr
  · rw [Dispatch.applyNoted, DispatchEvent.noted, answerOf?_of_task? ht'] at hr
    generalize task'.activity = a' at hstep hr
    rw [hat] at hstep
    cases hstep with
    | @called _ _ call' c₁ c' hc₁ hstep =>
      cases hc.symm.trans hc₁
      have hc' : (d.applyNoted (.move t)).connector? id = some c' := by
        rw [connector?, Dispatch.applyNoted, DispatchEvent.noted, hconnectors]
        exact connector?_putConnector_self hc c'
      rw [hooks, hooks, hc, hc']
      exact hstep.reaches (hrequest ▸ hkind.trans hserves.symm) hrun hr
    | closed hc hclose hpart => cases hpart

private theorem first_step_of_asked {c : Connector (Noted β)} (hn : d.Numbered)
    (hserves : d.registry.get? wanted = some id) (hc : d.connector? id = some c)
    (hwanted : c.kind = wanted) (mode : SendMode) {request : Request} (context : CallContext)
    (hkind : request.kind = wanted) :
    let t := d.nextTask
    let stepped := (d.applyNoted (.ask (.send wanted mode request context))).applyNoted (.move t)
    (c.status = .running → ∃ task call, stepped.task? t = some task ∧
      task.activity = .calling id call ∧ call.isInside = true) ∧
    (c.status ≠ .running → stepped.hooks id = d.hooks id ∧
      ∃ e, stepped.answerOf? t = some (.error e) ∧ e.kind = .unavailable) := by
  intro t stepped
  let call : ConnectorCall := { mode, request, context }
  let asked := d.applyNoted (.ask (.send wanted mode request context))
  have hasked : asked.connector? id = some c := hc
  have hexpected : request.kind = c.kind := hkind.trans hwanted.symm
  have htakes {c' : Connector (Noted β)} {call' : ConnectorCall}
      (hstep : c.stepCall? asked.now call = some (c', call')) :
      stepped.connector? id = some c' ∧
        ∃ task, stepped.task? t = some task ∧ task.activity = .calling id call' := by
    have hmoves : asked.stepActivity? (.calling id call) =
        some (asked.putConnector id c', .calling id call') := by
      simp only [stepActivity?, hasked, Option.bind_eq_bind, Option.bind_some, hstep]
    obtain ⟨hconnectors, htask⟩ := exists_task_of_stepActivity?
      (task?_of_asked hn hserves mode request context) rfl hmoves
    refine ⟨?_, htask⟩
    change (asked.apply (.move t)).connectors[id]? = some c'
    rw [hconnectors]
    exact connector?_putConnector_self hasked c'
  refine ⟨fun hrun ↦ ?_, fun hstopped ↦ ?_⟩
  · have henter : c.enter.status = .running := hrun
    have hstep : c.stepCall? asked.now call = some (c.enter.tuned context,
        { call with stage := .guarded { options := context.callOptions } }) := by
      simp only [Connector.stepCall?, call, Request.expect, hexpected, henter, if_true]
    obtain ⟨-, task, ht, hat⟩ := htakes hstep
    exact ⟨task, _, ht, hat, rfl⟩
  · have hrefuse : ¬ c.enter.status = .running := hstopped
    have hstep : c.stepCall? asked.now call = some (c.enter.answer false,
        { call with
          stage := .answered (.error (c.enter.placed context mode c.enter.refusal)) }) := by
      simp only [Connector.stepCall?, call, Request.expect, hexpected, hrefuse, if_true, if_false]
    obtain ⟨hc', task, ht, hat⟩ := htakes hstep
    refine ⟨?_, c.enter.placed context mode c.enter.refusal, ?_, rfl⟩
    · rw [hooks, hooks, hc', hc]
      rfl
    · rw [answerOf?_of_task? ht, hat]
      rfl

/-- Calls for a kind get through to a connector: they enter it with their first step, and as long as
it is left with its kind, each is answered with a failure of the policies, or with the end of a send
of its backend. -/
def GetsThrough (d : Dispatch (Noted β)) (wanted : ConnectorType) (id : ConnectorId) : Prop :=
  ∀ mode request context, request.kind = wanted →
    let t := d.nextTask
    let asked := d.applyNoted (.ask (.send wanted mode request context))
    (∃ task call, (asked.applyNoted (.move t)).task? t = some task ∧
      task.activity = .calling id call ∧ call.isInside = true) ∧
    ∀ events : List (DispatchEvent β), asked.leaves wanted id events = true →
      let d' := asked.runNoted events
      ∀ r, d'.answerOf? t = none → (d'.applyNoted (.move t)).answerOf? t = some r →
        (∃ e, r = .error e ∧ e.kind.isOfPolicies = true) ∨
          (d'.applyNoted (.move t)).hooks id = d'.hooks id ++ [.sendFinished]

/-- Calls for a kind are turned away by a connector: they fail with their first step, as it is
unavailable, and its backend is asked for nothing. -/
def TurnsAway (d : Dispatch (Noted β)) (wanted : ConnectorType) (id : ConnectorId) : Prop :=
  ∀ mode request context, request.kind = wanted →
    let t := d.nextTask
    let asked := d.applyNoted (.ask (.send wanted mode request context))
    (asked.applyNoted (.move t)).hooks id = d.hooks id ∧
      ∃ e, (asked.applyNoted (.move t)).answerOf? t = some (.error e) ∧ e.kind = .unavailable

private theorem Tenured.getsThrough (h : d.Tenured wanted id) : d.GetsThrough wanted id := by
  intro mode request context hkind t asked
  obtain ⟨c, hc, hrun⟩ := h.runs
  obtain ⟨c₀, hc₀, hwanted⟩ := h.byKind wanted id h.serves
  cases hc.symm.trans hc₀
  obtain ⟨henters, -⟩ := first_step_of_asked h.numbered h.serves hc hwanted mode context hkind
  refine ⟨henters hrun, fun events hleft ↦ ?_⟩
  intro d' r hnone hr
  have hasked : asked.Tenured wanted id := h.applyNoted rfl
  obtain ⟨htenured, hcalls⟩ := leaves_keeps
    (I := fun x ↦ x.Tenured wanted id ∧ x.Calls t id wanted { mode, request, context })
    (fun _ e he ⟨hx, hcalls⟩ ↦ ⟨hx.applyNoted he, hcalls.applyNoted e⟩) hleft
    ⟨hasked, calls_of_asked h.numbered h.byKind h.serves mode request context⟩
  exact hcalls.reaches hkind htenured.runs hnone hr

private theorem Incumbent.turnsAway (h : d.Incumbent wanted id) (hstopped : d.Stopped id) :
    d.TurnsAway wanted id := by
  intro mode request context hkind
  obtain ⟨c, hc, hstopped⟩ := hstopped
  obtain ⟨c₀, hc₀, hwanted⟩ := h.byKind wanted id h.serves
  cases hc.symm.trans hc₀
  exact (first_step_of_asked h.numbered h.serves hc hwanted mode context hkind).2 hstopped

/-- In every run from the start, whatever closes a connector stops it. -/
theorem closesStop_run (start : Nat) (events : List (DispatchEvent β)) (id : ConnectorId) :
    (({ now := start } : Dispatch (Noted β)).runNoted events).ClosesStop id := by
  refine (runNoted_keeps events (I := fun d ↦ d.Numbered ∧ d.ClosesStop id)
    (fun d e _ ⟨hn, h⟩ ↦ ⟨hn.apply _, h.applyNoted hn e⟩) ⟨numbered_new start, ?_⟩).2
  intro t task progress ht
  cases ht

/-- What a registration is worth. When a running connector is accepted for a kind, it serves this
kind for as long as it is left with it. If the registry does not close it by then, it runs all the
while, and calls for the kind get through to it. Its own registration closes it exactly if it served
the kind already; and as soon as a registration that closes it is over, it runs no more, and calls
for the kind that it still serves are turned away. -/
theorem registration_usable_unless_closed (start : Nat) (earlier later : List (DispatchEvent β))
    (wanted : ConnectorType) (id : ConnectorId) (t : TaskId) :
    let d₀ := ({ now := start } : Dispatch (Noted β)).runNoted earlier
    let heard := d₀.applyNoted (.move t)
    let d := heard.runNoted later
    (∃ task, d₀.task? t = some task ∧ task.activity = .registering wanted id) → d₀.Runs id →
    heard.registrationOf? t = some (.ok ()) → heard.leaves wanted id later = true →
      d.bare = ({ now := start } : Dispatch β).run (earlier ++ .move t :: later) ∧
      d.registry.get? wanted = some id ∧
      ((∀ u, ¬ heard.RegistryCloses u id) → d.Runs id ∧ d.GetsThrough wanted id) ∧
      (heard.RegistryCloses t id ↔ d₀.registry.get? wanted = some id) ∧
      ∀ u task, heard.RegistryCloses u id → d.task? u = some task → task.activity.isOver = true →
        d.Stopped id ∧ d.TurnsAway wanted id := by
  intro d₀ heard d ⟨task, ht, hat⟩ ⟨c, hc, hrun⟩ hok hleft
  have hbare : d.bare = ({ now := start } : Dispatch β).run (earlier ++ .move t :: later) := by
    have hall := bare_runNoted ({ now := start } : Dispatch (Noted β)) (earlier ++ .move t :: later)
    rw [runNoted_append] at hall
    exact hall
  obtain ⟨hn, hbyKind⟩ : d₀.Numbered ∧ d₀.ServesByKind := servesByKind_run start earlier
  obtain ⟨-, hconnectors, hregistry, task', ht', hat'⟩ := accepted_of_move hn ht hat hok
  have hheard : heard.Incumbent wanted id :=
    { numbered := hn.apply _
      byKind := hbyKind.applyNoted _
      closesStop := (closesStop_run start earlier id).applyNoted hn _
      serves := by rw [hregistry, Registry.get?_put, if_pos rfl] }
  have hd : d.Incumbent wanted id := leaves_keeps (I := fun x ↦ x.Incumbent wanted id)
    (fun _ _ he hx ↦ hx.applyNoted he) hleft hheard
  refine ⟨hbare, hd.serves, fun hunclosed ↦ ?_, ?_, fun u last hcloses hu hover ↦ ?_⟩
  · have hruns : heard.Runs id := by
      refine ⟨c, ?_, hrun⟩
      rw [connector?, hconnectors]
      exact hc
    have htenured : d.Tenured wanted id := leaves_keeps (I := fun x ↦ x.Tenured wanted id)
      (fun _ _ he hx ↦ hx.applyNoted he) hleft ⟨hheard, hruns, hunclosed⟩
    exact ⟨htenured.runs, htenured.getsThrough⟩
  · have hclosings : task'.activity.closingsOf id =
        if d₀.registry.get? wanted = some id then [.arriving] else [] := by
      rw [hat', closingsOf_replaced]
    constructor
    · rintro ⟨task₁, ht₁, -, hne⟩
      cases ht'.symm.trans ht₁
      rw [hclosings] at hne
      exact of_not_not fun hother ↦ hne (if_neg hother)
    · intro hserved
      refine ⟨task', ht', hat' ▸ rfl, ?_⟩
      rw [hclosings, if_pos hserved]
      exact List.cons_ne_nil _ _
  · obtain ⟨first, hfirst, -, hne⟩ := hcloses
    obtain ⟨-, last', hlast, hne⟩ := runNoted_keeps later
      (I := fun x ↦ x.Numbered ∧ ∃ task, x.task? u = some task ∧ task.activity.closingsOf id ≠ [])
      (fun _ e _ hx ↦ ⟨hx.1.apply _, closes_applyNoted hx.1 hx.2 e⟩)
      ⟨hheard.numbered, first, hfirst, hne⟩
    cases hu.symm.trans hlast
    have hstopped : d.Stopped id := hd.closesStop.stopped hu hne hover
    exact ⟨hstopped, hd.turnsAway hstopped⟩

/-- A connector serves a kind when another one is asked to be registered for it. -/
def replacementAsked : List (DispatchEvent MockBackend) :=
  [.build { kind := .http } .passthrough 0 none, .build { kind := .http } .passthrough 0 none,
    .ask (.register .http 0), .move 0, .ask (.register .http 1)]

/-- When the other one has replaced it, calls get through to the other one. -/
theorem replacement_usable :
    let d₀ := ({} : Dispatch (Noted MockBackend)).runNoted replacementAsked
    let d := (d₀.applyNoted (.move 1)).runNoted [.move 1, .move 1, .move 1]
    d₀.registry.get? .http = some 0 ∧ d.registry.get? .http = some 1 ∧ d.Runs 1 ∧
      d.GetsThrough .http 1 := by
  intro d₀ d
  have hserved : d₀.registry.get? .http = some 0 := by decide +kernel
  obtain ⟨-, hserves, husable, -⟩ := registration_usable_unless_closed 0 replacementAsked
    [.move 1, .move 1, .move 1] .http 1 1 ⟨_, rfl, rfl⟩ ⟨_, rfl, rfl⟩ rfl (by decide +kernel)
  refine ⟨hserved, hserves, husable ?_⟩
  rintro u ⟨task, ht, -, hne⟩
  have hnobody : (d₀.applyNoted (.move 1)).closingsOf 1 = [] := by decide +kernel
  obtain ⟨progress, hmem⟩ := List.exists_mem_of_ne_nil _ hne
  have hcloses : progress ∈ (d₀.applyNoted (.move 1)).closingsOf 1 :=
    mem_collect (f := fun _ a ↦ a.closingsOf 1) ht hmem
  rw [hnobody] at hcloses
  cases hcloses

/-- A connector serves a kind when it is asked to be registered for it again. -/
def registeredAgain : List (DispatchEvent MockBackend) :=
  [.build { kind := .http } .passthrough 0 none, .ask (.register .http 0), .move 0,
    .ask (.register .http 0)]

/-- Not every connector that was accepted runs when its registration is over: one that was
registered again does not. -/
theorem registered_again_stopped :
    ¬ ∀ (start : Nat) (earlier later : List (DispatchEvent MockBackend)) (wanted : ConnectorType)
      (id : ConnectorId) (t : TaskId),
      let d₀ := ({ now := start } : Dispatch (Noted MockBackend)).runNoted earlier
      let heard := d₀.applyNoted (.move t)
      let d := heard.runNoted later
      (∃ task, d₀.task? t = some task ∧ task.activity = .registering wanted id) → d₀.Runs id →
      heard.registrationOf? t = some (.ok ()) → heard.leaves wanted id later = true →
      (∃ task, d.task? t = some task ∧ task.activity.isOver = true) →
        d.Runs id ∧ d.GetsThrough wanted id := by
  intro hall
  obtain ⟨⟨c, hc, hrun⟩, -⟩ := hall 0 registeredAgain [.move 1, .move 1, .move 1] .http 0 1
    ⟨_, rfl, rfl⟩ ⟨_, rfl, rfl⟩ rfl (by decide +kernel) ⟨_, rfl, rfl⟩
  cases hc
  cases hrun

end Dispatch

end GuardedDispatch
