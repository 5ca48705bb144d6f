import GuardedDispatch.Connector.Mock
import GuardedDispatch.Proofs.Dispatch.Custody
import GuardedDispatch.Proofs.Dispatch.Noted

/-!
# A registry closes what it owns

A registry owns the connectors it accepted, until it hands them to a task that closes them. Wherever
registrations and a shutdown interleave, custody moves along one way, so a connector is closed by
one task and only after it was accepted. When every registration and every shutdown is over, each
accepted connector was closed once and no other ever.
-/

namespace GuardedDispatch

/-- Which connector an errand is to register, or to close past the registry. -/
def Errand.claims? : Errand → Option ConnectorId
  | .register _ id | .close id => some id
  | _ => none

namespace DispatchEvent

variable {β : Type}

/-- Which connector somebody asks to register, or to close past the registry. -/
def claims? : DispatchEvent β → Option ConnectorId
  | .ask errand => errand.claims?
  | _ => none

/-- Whether no connector is built and no task takes a step. -/
def isStill : DispatchEvent β → Bool
  | .build .. | .move _ => false
  | _ => true

end DispatchEvent

namespace Activity

variable {a : Activity} {id : ConnectorId} {progress : Closing}

/-- Whether an activity is that of a registration or of a shutdown. -/
def isOfRegistry : Activity → Bool
  | .registering .. | .registered .. | .shuttingDown | .draining _ => true
  | _ => false

/-- Whether an activity closes a connector past the registry. -/
def closesByHand (id : ConnectorId) : Activity → Bool
  | .closing target _ => target = id
  | _ => false

/-- Whether an activity is that of a shutdown. -/
def isOfShutdown : Activity → Bool
  | .shuttingDown | .draining _ => true
  | _ => false

/-- An activity that is over is done with whatever it closed. -/
theorem eq_done_of_isOver (h : a.isOver = true) (hmem : progress ∈ a.closingsOf id) :
    progress = .done := by
  have hpart := mem_closingsOf.mp hmem
  cases a with
  | closing target far =>
    cases List.mem_singleton.mp hpart
    exact eq_of_beq h
  | registered r replaced? =>
    cases Option.mem_toList.mp hpart
    exact eq_of_beq h
  | draining parts => exact eq_of_beq (List.all_eq_true.mp h (id, progress) hpart)
  | calling _ _ | refused _ | probing _ _ | registering _ _ | shuttingDown => cases hpart

/-- What closes a connector is of the registry, or closes it by hand. -/
theorem isOfRegistry_of_mem_closingsOf (hmem : progress ∈ a.closingsOf id)
    (hhand : a.closesByHand id = false) : a.isOfRegistry = true := by
  have hpart := mem_closingsOf.mp hmem
  cases a with
  | closing target far =>
    cases List.mem_singleton.mp hpart
    exact absurd rfl (of_decide_eq_false hhand)
  | registered _ _ | draining _ => rfl
  | calling _ _ | refused _ | probing _ _ | registering _ _ | shuttingDown => cases hpart

end Activity

namespace Dispatch

variable {β : Type} {d d' : Dispatch (Noted β)} {t u : TaskId} {task : TaskState}
  {id other : ConnectorId} {k : Custody}

/-! ### Custody in a run -/

private theorem Holds.rested (h : d.Holds id k) (htasks : d'.tasks = d.tasks)
    (hregistry : d'.registry = d.registry) (hrests : RestsAt id d d') : d'.Holds id k where
  wanters_eq := by
    rw [wantersOf, collect, htasks]
    exact h.wanters_eq
  serves_iff w := by
    rw [hregistry]
    exact h.serves_iff w
  closings_eq := by
    rw [closingsOf, collect, htasks]
    exact h.closings_eq
  result_eq t ht := by
    rw [registrationOf?, task?, htasks]
    exact h.result_eq t ht
  fits := hrests.fits h.fits
  known haccepted := hrests.isSome (h.known haccepted)

private theorem restsAt_mapConnector {f : Connector (Noted β) → Connector (Noted β)}
    (hf : ∀ c, d.connector? other = some c → c.Rests (f c)) (id : ConnectorId) :
    RestsAt id d (d.mapConnector other f) := by
  rw [RestsAt, connector?_mapConnector]
  split
  · next hid =>
    subst hid
    cases hc : d.connector? other with
    | none => exact .none
    | some c => exact .some (hf c hc)
  · exact restsAt_of_connectors_eq rfl id

/-- A call for a kind is a call of the connector that serves it, or is refused. -/
theorem callFor_eq {γ : Type} (d : Dispatch γ) (wanted : ConnectorType) (mode : SendMode)
    (request : Request) (context : CallContext) :
    (∃ id, d.callFor wanted mode request context = .calling id { mode, request, context }) ∨
      d.callFor wanted mode request context =
        .refused (Registry.missing wanted mode.operation) := by
  unfold callFor
  split
  · next id _ => exact .inl ⟨id, rfl⟩
  · exact .inr rfl

/-- A task that begins neither registers nor closes a connector, unless it was asked to. -/
theorem activityOf_idle {γ : Type} (d : Dispatch γ) {errand : Errand}
    (he : errand.claims? ≠ some id) :
    (d.activityOf errand).wantsFor id = [] ∧ (d.activityOf errand).closingsOf id = [] := by
  cases errand with
  | send wanted mode request context =>
    rw [activityOf]
    obtain ⟨target, heq⟩ | heq := d.callFor_eq wanted mode request context <;> rw [heq] <;>
      exact ⟨rfl, rfl⟩
  | register wanted target =>
    exact ⟨Activity.wantsFor_registering_of_ne (fun heq ↦ he (congrArg some heq)) wanted, rfl⟩
  | close target =>
    have hne : target ≠ id := fun heq ↦ he (congrArg some heq)
    simp [activityOf, Activity.wantsFor, Activity.wants?, Activity.closingsOf, Activity.parts, hne]
  | call _ _ _ _ | probe _ _ | shutDown => exact ⟨rfl, rfl⟩

private theorem Holds.started (h : d.Holds id k) (hn : d.Numbered) {a : Activity}
    (hwants : a.wantsFor id = []) (hclosings : a.closingsOf id = []) :
    (d.start a).1.Holds id k where
  wanters_eq := by
    rw [wantersOf, collect_start, hwants, List.map_nil, List.append_nil]
    exact h.wanters_eq
  serves_iff := h.serves_iff
  closings_eq := by
    rw [closingsOf, collect_start, hclosings, List.append_nil]
    exact h.closings_eq
  result_eq t ht := by
    have hold : t ≠ d.nextTask := by
      rintro rfl
      obtain ⟨task, htask, -⟩ := h.exists_task hn ht
      rw [hn.task?_nextTask] at htask
      cases htask
    rw [registrationOf?, hn.task?_start, if_neg hold]
    exact h.result_eq t ht
  fits := h.fits
  known := h.known

private theorem Holds.asked (h : d.Holds id .unasked) (hn : d.Numbered) (wanted : ConnectorType) :
    (d.start (.registering wanted id)).1.Holds id (.asked d.nextTask wanted) where
  wanters_eq := by
    rw [wantersOf, collect_start]
    have hnone := h.wanters_eq
    rw [wantersOf] at hnone
    rw [hnone]
    simp [Activity.wantsFor, Activity.wants?, Custody.wanted?]
  serves_iff := h.serves_iff
  closings_eq := by
    rw [closingsOf, collect_start, ← closingsOf, h.closings_eq]
    rfl
  result_eq t ht := by
    cases ht
    rw [registrationOf?, hn.task?_start, if_pos rfl]
    rfl
  fits := h.fits
  known h := by cases h

private theorem connector?_addConnector (d : Dispatch β) (c : Connector β) (id : ConnectorId) :
    (d.addConnector c).1.connector? id =
      (d.connector? id).or (if id = d.connectors.length then some c else none) := by
  rw [connector?, addConnector, List.getElem?_append]
  split
  · next hlt =>
    rw [connector?, List.getElem?_eq_getElem hlt]
    rfl
  · next hlt =>
    have hge : d.connectors.length ≤ id := Nat.le_of_not_lt hlt
    have hlast : id - d.connectors.length = 0 ↔ id = d.connectors.length :=
      ⟨fun h ↦ Nat.le_antisymm (Nat.sub_eq_zero_iff_le.mp h) hge, fun h ↦ h ▸ Nat.sub_self _⟩
    rw [connector?, List.getElem?_eq_none hge, Option.none_or, List.getElem?_singleton]
    exact if_congr hlast rfl rfl

private theorem Holds.built (h : d.Holds id k) {c : Connector (Noted β)}
    (hrun : c.status = .running)
    (hcloses : c.closes = 0) : (d.addConnector c).1.Holds id k where
  wanters_eq := h.wanters_eq
  serves_iff := h.serves_iff
  closings_eq := h.closings_eq
  result_eq := h.result_eq
  fits x hx := by
    rw [connector?_addConnector] at hx
    cases hold : d.connector? id with
    | some x₀ =>
      rw [hold, Option.some_or] at hx
      cases hx
      exact h.fits x hold
    | none =>
      obtain ⟨-, rfl⟩ : id = d.connectors.length ∧ c = x := by simpa [hold] using hx
      cases k with
      | unasked | asked _ _ => exact ⟨hrun, hcloses⟩
      | refused _ | serving _ _ | closing _ _ =>
        have hknown := h.known rfl
        rw [hold] at hknown
        cases hknown
  known haccepted := by
    rw [connector?_addConnector, Option.isSome_or, h.known haccepted, Bool.true_or]

private theorem restsAt_dropTask (d : Dispatch (Noted β)) (t : TaskId) (id : ConnectorId) :
    RestsAt id d (d.dropTask t) := by
  obtain heq | ⟨task, ht, heq | ⟨target, call, -, heq⟩⟩ := d.dropTask_eq t
  · rw [heq]
    exact restsAt_of_connectors_eq rfl id
  · rw [heq]
    exact restsAt_of_connectors_eq rfl id
  · rw [heq]
    refine restsAt_mapConnector (d := d) (fun c _ ↦ ?_) id
    unfold Connector.dropCall
    split <;> exact ⟨rfl, rfl, rfl⟩

private theorem Holds.dropped (h : d.Holds id k) (hn : d.Numbered) (t : TaskId) :
    (d.dropTask t).Holds id k := by
  have hrests := d.restsAt_dropTask t id
  obtain heq | ⟨task, ht, heq | ⟨target, call, -, heq⟩⟩ := d.dropTask_eq t
  · rw [heq]
    exact h
  · rw [heq]
    exact h.quietly hn ht rfl rfl rfl (fun _ ↦ rfl) (fun _ ↦ .rfl) (restsAt_of_connectors_eq rfl id)
  · have htasks : (d.mapConnector target (·.dropCall call d.now)).tasks = d.tasks := rfl
    rw [heq] at hrests ⊢
    exact h.quietly hn ht htasks rfl rfl (fun _ ↦ rfl) (fun _ ↦ .rfl) hrests

variable [Backend β] {e : DispatchEvent β}

private theorem restsAt_applyNoted (d : Dispatch (Noted β)) (he : e.isStill = true)
    (id : ConnectorId) :
    RestsAt id d (d.applyNoted e) := by
  cases e with
  | build _ _ _ _ | move _ => cases he
  | ask errand | wait duration => exact restsAt_of_connectors_eq rfl id
  | leave t =>
    obtain heq | heq := d.abandon_eq t
    · rw [applyNoted, DispatchEvent.noted, apply, heq]
      exact restsAt_of_connectors_eq rfl id
    · rw [applyNoted, DispatchEvent.noted, apply, heq]
      exact d.restsAt_dropTask t id
  | drop t => exact d.restsAt_dropTask t id
  | observe target =>
    obtain heq | ⟨c, hc, heq⟩ := d.observe_eq target
    · rw [applyNoted, DispatchEvent.noted, apply, heq]
      exact restsAt_of_connectors_eq rfl id
    · have hrests : c.Rests (c.observe d.now).1 := ⟨rfl, rfl, rfl⟩
      rw [applyNoted, DispatchEvent.noted, apply, heq]
      exact restsAt_putConnector hc hrests id
  | trip target | reset target =>
    change RestsAt id d (d.mapConnector target _)
    refine restsAt_mapConnector (fun c _ ↦ ?_) id
    exact ⟨rfl, rfl, rfl⟩
  | shift target backend =>
    change RestsAt id d (d.mapConnector target _)
    refine restsAt_mapConnector (fun c hc ↦ ?_) id
    have hhooks : d.hooks target = c.backend.hooks := by
      rw [hooks, hc]
      rfl
    exact ⟨rfl, congrArg (List.count HookStep.closeStarted) hhooks, rfl⟩

private theorem Holds.applied (h : d.Holds id k) (hn : d.Numbered) (he : e.claims? ≠ some id) :
    ∃ k', (d.applyNoted e).Holds id k' ∧ k'.task? = k.task? := by
  cases e with
  | build backend config drainTimeout healthContext? => exact ⟨k, h.built rfl rfl, rfl⟩
  | ask errand =>
    obtain ⟨hwants, hclosings⟩ := d.activityOf_idle he
    exact ⟨k, h.started hn hwants hclosings, rfl⟩
  | move t =>
    obtain heq | ⟨task, d₁, a', ht, -, hstep, heq⟩ := d.apply_move t
    · rw [applyNoted, DispatchEvent.noted, heq]
      exact ⟨k, h, rfl⟩
    · rw [applyNoted, DispatchEvent.noted, heq]
      exact h.moved hn ht hstep
  | leave t =>
    obtain heq | heq := d.abandon_eq t
    · rw [applyNoted, DispatchEvent.noted, apply, heq]
      exact ⟨k, h, rfl⟩
    · rw [applyNoted, DispatchEvent.noted, apply, heq]
      exact ⟨k, h.dropped hn t, rfl⟩
  | drop t => exact ⟨k, h.dropped hn t, rfl⟩
  | observe target =>
    obtain ⟨htasks, -, hregistry⟩ := d.observe_frame target
    exact ⟨k, h.rested htasks hregistry (d.restsAt_applyNoted rfl id), rfl⟩
  | trip target | reset target | shift target backend | wait duration =>
    exact ⟨k, h.rested rfl rfl (d.restsAt_applyNoted rfl id), rfl⟩

private theorem Holds.runNoted {events : List (DispatchEvent β)} (h : d.Holds id k)
    (hn : d.Numbered)
    (halone : ∀ e ∈ events, e.claims? ≠ some id) :
    (d.runNoted events).Numbered ∧
      ∃ k', (d.runNoted events).Holds id k' ∧ k'.task? = k.task? := by
  refine runNoted_keeps events (I := fun d ↦ d.Numbered ∧ ∃ k', d.Holds id k' ∧ k'.task? = k.task?)
    (fun d e he ⟨hn, k', h', hk'⟩ ↦ ⟨hn.apply _, ?_⟩) ⟨hn, k, h, rfl⟩
  obtain ⟨k'', h'', hk''⟩ := h'.applied hn (halone e he)
  exact ⟨k'', h'', hk''.trans hk'⟩

/-! ### The shutdown -/

/-- A shutdown has begun: it took its first step. -/
def ShutdownBegan {γ : Type} (d : Dispatch γ) : Prop :=
  ∃ t task parts, d.task? t = some task ∧ task.activity = .draining parts

/-- Tasks are numbered, the registry serves nothing once it is shut down, and it is shut down by the
time that a shutdown began. -/
structure Orderly {γ : Type} (d : Dispatch γ) : Prop where
  numbered : d.Numbered
  emptied : d.registry.shutDown = true → ∀ w, d.registry.get? w = none
  shutDown : d.ShutdownBegan → d.registry.shutDown = true

/-- A new dispatch is in order. -/
theorem orderly_new {γ : Type} (start : Nat) : ({ now := start } : Dispatch γ).Orderly where
  numbered := numbered_new start
  emptied _ _ := rfl
  shutDown h := by
    obtain ⟨t, task, parts, ht, -⟩ := h
    cases ht

section

variable {γ : Type} [Backend γ] {d : Dispatch γ} {e : DispatchEvent γ}

/-- What becomes of the registry: it stays as it is, a task that registers a connector has it
accepted under its kind while the registry is not shut down, or a shutdown empties it. -/
inductive RegistryStep (d : Dispatch γ) : DispatchEvent γ → Registry → Prop
  | same (e : DispatchEvent γ) : RegistryStep d e d.registry
  | accepted {t : TaskId} {task : TaskState} {w : ConnectorType} {id : ConnectorId}
      {c : Connector γ} (ht : d.task? t = some task) (hat : task.activity = .registering w id)
      (hc : d.connector? id = some c) (hkind : c.kind = w) (hopen : d.registry.shutDown = false) :
      RegistryStep d (.move t) (d.registry.put w id)
  | emptied {t : TaskId} {task : TaskState} (ht : d.task? t = some task)
      (hat : task.activity = .shuttingDown) : RegistryStep d (.move t) d.registry.emptied

/-- Every event is one of the three to the registry. -/
theorem registryStep_apply (d : Dispatch γ) (e : DispatchEvent γ) :
    d.RegistryStep e (d.apply e).registry := by
  cases e with
  | build backend config drainTimeout healthContext? | ask errand | trip id | reset id
  | shift id backend | wait duration => exact .same _
  | move t =>
    obtain heq | ⟨task, d₁, a', ht, -, hstep, heq⟩ := d.apply_move t
    · rw [heq]
      exact .same _
    · rw [heq]
      generalize hat : task.activity = a at hstep
      cases hstep with
      | called hc hstep | probed hc hstep | turnedDown hc hr | tooLate hshut
      | closed hc hstep hpart => exact .same _
      | accepted hc hr =>
        obtain ⟨hkind, hopen, rfl, -⟩ := Registry.eq_put_of_register hr
        exact .accepted ht hat hc hkind hopen
      | emptied hopen => exact .emptied ht hat
  | leave t =>
    rw [apply, (d.abandon_frame t).2]
    exact .same _
  | drop t =>
    rw [apply, (d.dropTask_frame t).2]
    exact .same _
  | observe id =>
    rw [apply, (d.observe_frame id).2.2]
    exact .same _

/-- What was shut down stays so. -/
theorem shutDown_apply (h : d.registry.shutDown = true) (e : DispatchEvent γ) :
    (d.apply e).registry.shutDown = true := by
  have hstep := d.registryStep_apply e
  generalize (d.apply e).registry = registry at hstep ⊢
  cases hstep with
  | same => exact h
  | accepted ht hat hc hkind hopen =>
    rw [h] at hopen
    cases hopen
  | emptied ht hat => rfl

/-- Whatever happens, a dispatch stays in order. -/
theorem Orderly.apply (h : d.Orderly) (e : DispatchEvent γ) : (d.apply e).Orderly where
  numbered := h.numbered.apply e
  emptied hshut w := by
    have hstep := d.registryStep_apply e
    generalize (d.apply e).registry = registry at hstep hshut ⊢
    cases hstep with
    | same => exact h.emptied hshut w
    | accepted ht hat hc hkind hopen =>
      rw [show d.registry.shutDown = true from hshut] at hopen
      cases hopen
    | emptied ht hat => rfl
  shutDown := by
    rintro ⟨t, task, parts, ht, hat⟩
    have hkept {t₀ : TaskId} {task₀ : TaskState} {parts₀ : List (ConnectorId × Closing)}
        (ht₀ : d.task? t₀ = some task₀) (hat₀ : task₀.activity = .draining parts₀) :
        (d.apply e).registry.shutDown = true :=
      shutDown_apply (h.shutDown ⟨t₀, task₀, parts₀, ht₀, hat₀⟩) e
    obtain ⟨task₀, ht₀, hsame | ⟨-, d₁, hstep, hregistry, -⟩⟩ | ⟨errand, -, hbegun⟩ :=
      h.numbered.task?_of_apply ht
    · exact hkept ht₀ (hsame.symm.trans hat)
    · generalize hat₀ : task₀.activity = a at hstep
      rw [hat] at hstep
      cases hstep with
      | emptied hopen =>
        rw [hregistry]
        rfl
      | tooLate hshut => exact shutDown_apply hshut e
      | closed hc hclose hpart =>
        cases hpart with
        | among before after => exact hkept ht₀ hat₀
    · rw [hat] at hbegun
      cases errand with
      | send wanted mode request context =>
        rw [activityOf] at hbegun
        obtain ⟨id, heq⟩ | heq := d.callFor_eq wanted mode request context <;>
          cases hbegun.trans heq
      | call _ _ _ _ | probe _ _ | register _ _ | shutDown | close _ => cases hbegun

/-- What closes a connector by hand was asked to. -/
theorem closesByHand_apply (hn : d.Numbered) (he : e ≠ .ask (.close id))
    (hall : ∀ t task, d.task? t = some task → task.activity.closesByHand id = false) (t : TaskId)
    (task : TaskState) (ht : (d.apply e).task? t = some task) :
    task.activity.closesByHand id = false := by
  refine hn.all_apply (P := fun a ↦ a.closesByHand id = false) hall (fun a d₁ a' hstep ha ↦ ?_)
    (fun errand heq ↦ ?_) t task ht
  · cases hstep with
    | called hc hstep | probed hc hstep | turnedDown hc hr | accepted hc hr | emptied hopen
    | tooLate hshut => rfl
    | closed hc hstep hpart =>
      cases hpart with
      | alone => exact ha
      | replaced r | among before after => rfl
  · subst heq
    cases errand with
    | close target =>
      refine decide_eq_false ?_
      rintro rfl
      exact he rfl
    | send wanted mode request context =>
      rw [activityOf]
      obtain ⟨target, heq⟩ | heq := d.callFor_eq wanted mode request context <;> rw [heq] <;> rfl
    | call _ _ _ _ | probe _ _ | register _ _ | shutDown => rfl

/-- A shutdown that was asked for goes on. -/
theorem isOfShutdown_apply (hn : d.Numbered)
    (h : ∃ t task, d.task? t = some task ∧ task.activity.isOfShutdown = true)
    (e : DispatchEvent γ) :
    ∃ t task, (d.apply e).task? t = some task ∧ task.activity.isOfShutdown = true := by
  obtain ⟨t, task, ht, hof⟩ := h
  obtain ⟨task', ht', hsame | ⟨-, -, d₁, hstep, -⟩⟩ := hn.task?_apply ht e
  · exact ⟨t, task', ht', hsame ▸ hof⟩
  · refine ⟨t, task', ht', ?_⟩
    generalize task'.activity = a' at hstep
    generalize task.activity = a at hstep hof
    cases hstep with
    | called hc hstep | probed hc hstep | turnedDown hc hr | accepted hc hr => cases hof
    | emptied hopen | tooLate hshut => rfl
    | closed hc hstep hpart =>
      cases hpart with
      | alone | replaced r => cases hof
      | among before after => rfl

end

/-! ### Registrations that come too late -/

omit [Backend β] in
private theorem RestsAt.exists_rests (h : RestsAt id d d') {c : Connector (Noted β)}
    (hc : d.connector? id = some c) : ∃ c', d'.connector? id = some c' ∧ c.Rests c' := by
  rw [RestsAt, hc] at h
  generalize d'.connector? id = o at h ⊢
  cases h with
  | some hrests => exact ⟨_, rfl, hrests⟩

/-- Connectors stay: whatever happens, one rests, or a task gets further with closing it. -/
theorem rests_or_closes_applyNoted {c : Connector (Noted β)} (hc : d.connector? id = some c)
    (e : DispatchEvent β) : ∃ c', (d.applyNoted e).connector? id = some c' ∧ (c.Rests c' ∨
      ∃ t task progress progress', e = .move t ∧ d.task? t = some task ∧
        progress ∈ task.activity.closingsOf id ∧ c.CloseStep d.now progress c' progress') := by
  have hrested (h : RestsAt id d (d.applyNoted e)) :
      ∃ c', (d.applyNoted e).connector? id = some c' ∧ (c.Rests c' ∨
        ∃ t task progress progress', e = .move t ∧ d.task? t = some task ∧
          progress ∈ task.activity.closingsOf id ∧ c.CloseStep d.now progress c' progress') := by
    obtain ⟨c', hc', hrests⟩ := h.exists_rests hc
    exact ⟨c', hc', .inl hrests⟩
  cases e with
  | build backend config drainTimeout healthContext? =>
    refine ⟨c, ?_, .inl (.refl c)⟩
    rw [applyNoted, DispatchEvent.noted, apply, connector?_addConnector, hc, Option.some_or]
  | move t =>
    obtain heq | ⟨task, d₁, a', ht, -, hstep, heq⟩ := d.apply_move t
    · rw [applyNoted, DispatchEvent.noted, heq]
      exact ⟨c, hc, .inl (.refl c)⟩
    · rw [applyNoted, DispatchEvent.noted, heq] at hrested ⊢
      generalize hat : task.activity = a at hstep
      cases hstep with
      | called hc₀ hcall => exact hrested (restsAt_putConnector hc₀ hcall.rests id)
      | probed hc₀ hprobe =>
        exact hrested (restsAt_putConnector hc₀ (Connector.rests_stepProbe? hprobe) id)
      | turnedDown hc₀ hr | accepted hc₀ hr | emptied hopen | tooLate hshut =>
        exact hrested (restsAt_of_connectors_eq rfl id)
      | @closed _ _ target progress progress' c₀ c₀' hc₀ hclose hpart =>
        by_cases hid : target = id
        · subst hid
          cases hc.symm.trans hc₀
          obtain ⟨before, after, hparts, -⟩ := hpart.parts_eq
          refine ⟨c₀', connector?_putConnector_self hc c₀', .inr ⟨t, task, progress, progress', rfl,
            ht, ?_, hclose⟩⟩
          rw [Activity.mem_closingsOf, hat, hparts]
          exact List.mem_append_right _ List.mem_cons_self
        · exact ⟨c, (connector?_putConnector_ne hid d c₀').trans hc, .inl (.refl c)⟩
  | ask _ | leave _ | drop _ | observe _ | trip _ | reset _ | shift _ _ | wait _ =>
    exact hrested (d.restsAt_applyNoted rfl id)

/-- Connectors keep their kinds. -/
theorem kind_applyNoted {c : Connector (Noted β)} (hc : d.connector? id = some c)
    (e : DispatchEvent β) : ∃ c', (d.applyNoted e).connector? id = some c' ∧ c'.kind = c.kind := by
  obtain ⟨c', hc', hrests | ⟨_, _, _, _, -, -, -, hclose⟩⟩ := rests_or_closes_applyNoted hc e
  · exact ⟨c', hc', hrests.kind_eq⟩
  · exact ⟨c', hc', hclose.kind_eq⟩

/-- A registration finds the registry shut down: it waits to be heard, or was turned down. -/
structure TurnsDown (d : Dispatch (Noted β)) (t : TaskId) (wanted : ConnectorType)
    (id : ConnectorId) : Prop where
  shut : d.registry.shutDown = true
  outcome : ∃ task, d.task? t = some task ∧ (task.activity = .registering wanted id ∨
    ∃ c, d.connector? id = some c ∧
      task.activity = .registered (.error (Registry.refusal c.kind wanted)) none)

private theorem TurnsDown.applied {wanted : ConnectorType} (h : d.TurnsDown t wanted id)
    (hn : d.Numbered)
    (e : DispatchEvent β) : (d.applyNoted e).TurnsDown t wanted id := by
  refine ⟨shutDown_apply h.shut _, ?_⟩
  obtain ⟨task, ht, hat⟩ := h.outcome
  obtain ⟨task', ht', hsame | ⟨-, -, d₁, hstep, -⟩⟩ := hn.task?_apply ht (e.noted d)
  · refine ⟨task', ht', hat.imp hsame.trans fun ⟨c, hc, hrefused⟩ ↦ ?_⟩
    obtain ⟨c', hc', hkind⟩ := kind_applyNoted hc e
    refine ⟨c', hc', ?_⟩
    rw [hsame, hrefused, hkind]
  · refine ⟨task', ht', .inr ?_⟩
    generalize hat' : task'.activity = a' at hstep
    obtain hwaits | ⟨c, hc, hrefused⟩ := hat
    · rw [hwaits] at hstep
      cases hstep with
      | @turnedDown _ _ c failure hc hr =>
        obtain ⟨c', hc', hkind⟩ := kind_applyNoted hc e
        rw [Registry.register_of_shutDown h.shut] at hr
        cases hr
        exact ⟨c', hc', by rw [hkind]⟩
      | accepted hc hr =>
        obtain ⟨-, hopen, -⟩ := Registry.eq_put_of_register hr
        rw [h.shut] at hopen
        cases hopen
      | closed hc hclose hpart => cases hpart
    · rw [hrefused] at hstep
      cases hstep with
      | closed hc hclose hpart => cases hpart

/-! ### Runs -/

/-- In every run from the start, dispatches are in order. -/
theorem orderly_run (start : Nat) (events : List (DispatchEvent β)) :
    (({ now := start } : Dispatch (Noted β)).runNoted events).Orderly :=
  runNoted_keeps events (fun _ _ _ h ↦ h.apply _) (orderly_new start)

/-- In a run where nobody asks to close a connector by hand, nobody does. -/
theorem closesByHand_run (start : Nat) {events : List (DispatchEvent β)}
    (hnone : ∀ e ∈ events, e ≠ .ask (.close id)) (t : TaskId) (task : TaskState)
    (ht : (({ now := start } : Dispatch (Noted β)).runNoted events).task? t = some task) :
    task.activity.closesByHand id = false := by
  have hkept := runNoted_keeps events
    (I := fun d ↦ d.Numbered ∧ ∀ t task, d.task? t = some task →
      task.activity.closesByHand id = false)
    (fun d e he ⟨hn, hall⟩ ↦ ⟨hn.apply _, closesByHand_apply hn (fun hclose ↦ ?_) hall⟩)
    ⟨numbered_new start, fun t task ht ↦ by cases ht⟩
  · exact hkept.2 t task ht
  · cases e with
    | ask errand =>
      cases hclose
      exact hnone _ he rfl
    | build _ _ _ _ | move _ | leave _ | drop _ | observe _ | trip _ | reset _ | shift _ _
    | wait _ => cases hclose

/-- A connector that only one registration asks for is with that registration in the end. -/
theorem exists_holds_run (start : Nat) {earlier later : List (DispatchEvent β)}
    (halone : ∀ e ∈ earlier ++ later, e.claims? ≠ some id) (wanted : ConnectorType) :
    ∃ k, ((({ now := start } : Dispatch (Noted β)).runNoted earlier).runNoted
      (.ask (.register wanted id) :: later)).Holds id k ∧
        k.task? = some (({ now := start } : Dispatch (Noted β)).runNoted earlier).nextTask := by
  have hnew : ({ now := start } : Dispatch (Noted β)).Holds id .unasked := holds_new start id
  obtain ⟨hn, k, hk, hnone⟩ := hnew.runNoted (numbered_new start)
    fun e he ↦ halone e (List.mem_append_left later he)
  obtain rfl : k = .unasked := by
    cases k with
    | unasked => rfl
    | asked _ _ | refused _ | serving _ _ | closing _ _ => cases hnone
  obtain ⟨-, k', hk', htask⟩ := (hk.asked hn wanted).runNoted (hn.start _)
    fun e he ↦ halone e (List.mem_append_right earlier he)
  exact ⟨k', hk', htask⟩

private theorem registering_applyNoted {wanted : ConnectorType} (hn : d.Numbered)
    (h : ∃ task, d.task? t = some task ∧
      (task.activity = .registering wanted id ∨ task.activity.registration?.isSome = true))
    (e : DispatchEvent β) : ∃ task, (d.applyNoted e).task? t = some task ∧
      (task.activity = .registering wanted id ∨ task.activity.registration?.isSome = true) := by
  obtain ⟨task, ht, hat⟩ := h
  obtain ⟨task', ht', hsame | ⟨-, -, d₁, hstep, -⟩⟩ := hn.task?_apply ht (e.noted d)
  · exact ⟨task', ht', hsame ▸ hat⟩
  · refine ⟨task', ht', .inr ?_⟩
    generalize task'.activity = a' at hstep
    obtain hwaits | hdone := hat
    · rw [hwaits] at hstep
      cases hstep with
      | turnedDown hc hr | accepted hc hr => rfl
      | closed hc hclose hpart => cases hpart
    · generalize task.activity = a at hstep hdone
      cases hstep with
      | called hc hcall | probed hc hprobe | turnedDown hc hr | accepted hc hr | emptied hopen
      | tooLate hshut => cases hdone
      | closed hc hclose hpart =>
        rw [hpart.same.1]
        exact hdone

private theorem turnsDown_of_waiting {wanted : ConnectorType} (hn : d.Numbered)
    {mid : List (DispatchEvent β)}
    (hshut : (d.runNoted (.ask (.register wanted id) :: mid)).registry.shutDown = true)
    (hnone : (d.runNoted (.ask (.register wanted id) :: mid)).registrationOf? d.nextTask = none) :
    (d.runNoted (.ask (.register wanted id) :: mid)).TurnsDown d.nextTask wanted id := by
  have hbegun : ∃ task, (d.start (.registering wanted id)).1.task? d.nextTask = some task ∧
      (task.activity = .registering wanted id ∨ task.activity.registration?.isSome = true) :=
    ⟨_, (hn.task?_start _ _).trans (if_pos rfl), .inl rfl⟩
  obtain ⟨-, task, ht, hwaits | hdone⟩ := runNoted_keeps mid
    (I := fun m ↦ m.Numbered ∧ ∃ task, m.task? d.nextTask = some task ∧
      (task.activity = .registering wanted id ∨ task.activity.registration?.isSome = true))
    (fun m e _ ⟨hm, h⟩ ↦ ⟨hm.apply _, registering_applyNoted hm h e⟩) ⟨hn.start _, hbegun⟩
  · exact ⟨hshut, task, ht, .inl hwaits⟩
  · have hresult : task.activity.registration? = none := by
      rw [registrationOf?] at hnone
      exact (Option.bind_eq_none_iff.mp hnone) task ht
    rw [hresult] at hdone
    cases hdone

omit [Backend β] in
private theorem Holds.untouched (h : d.Holds id k) (hk : k.task? = some t)
    (hnot : d.registrationOf? t ≠ some (.ok ())) :
    (∀ w, d.registry.get? w ≠ some id) ∧ ∀ c, d.connector? id = some c → c.closes = 0 := by
  have hresult := h.result_eq t hk
  cases k with
  | unasked => cases hk
  | asked _ _ | refused _ =>
    refine ⟨fun w hw ↦ ?_, fun c hc ↦ (h.fits c hc).2⟩
    obtain ⟨u, hu⟩ := h.eq_serving hw
    cases hu
  | serving _ _ | closing _ _ =>
    obtain ⟨r, hr, hok⟩ := Option.map_eq_some_iff.mp hresult
    cases r with
    | error e => cases hok
    | ok u => exact absurd hr hnot

omit [Backend β] in
private theorem Holds.closed_once (h : d.Holds id k) (hn : d.Numbered) (hk : k.task? = some t)
    (hok : d.registrationOf? t = some (.ok ())) (hnone : ∀ w, d.registry.get? w = none)
    (hhand : ∀ v task, d.task? v = some task → task.activity.closesByHand id = false)
    (hover : ∀ v task, d.task? v = some task → task.activity.isOfRegistry = true →
      task.activity.isOver = true) :
    ∃ c, d.connector? id = some c ∧ c.closes = 1 := by
  have hresult := h.result_eq t hk
  rw [hok] at hresult
  cases k with
  | unasked => cases hk
  | asked _ _ | refused _ => cases hresult
  | serving u w =>
    have hserves := (h.serves_iff w).mpr rfl
    rw [hnone w] at hserves
    cases hserves
  | closing u progress =>
    obtain ⟨c, hc⟩ := Option.isSome_iff_exists.mp (h.known rfl)
    have hmem : progress ∈ d.closingsOf id := by
      rw [h.closings_eq]
      exact List.mem_singleton_self _
    obtain ⟨v, task, ht, hclosing⟩ := hn.exists_of_mem_collect hmem
    have hof := Activity.isOfRegistry_of_mem_closingsOf hclosing (hhand v task ht)
    obtain rfl := Activity.eq_done_of_isOver (hover v task ht hof) hclosing
    exact ⟨c, hc, h.fits c hc⟩

private theorem Orderly.nothing_served (h : d.Orderly) (hbegan : d.ShutdownBegan)
    (events : List (DispatchEvent β)) : (d.runNoted events).registry.shutDown = true ∧
      ∀ w, (d.runNoted events).registry.get? w = none := by
  obtain ⟨horder, hshut⟩ := runNoted_keeps events
    (I := fun d ↦ d.Orderly ∧ d.registry.shutDown = true)
    (fun d e _ ⟨h, hshut⟩ ↦ ⟨h.apply _, shutDown_apply hshut _⟩) ⟨h, h.shutDown hbegan⟩
  exact ⟨hshut, horder.emptied hshut⟩

private theorem shutdownBegan_of_asked (hn : d.Numbered) {events : List (DispatchEvent β)}
    (hasked : .ask .shutDown ∈ events)
    (hover : ∀ v task, (d.runNoted events).task? v = some task →
      task.activity.isOfRegistry = true → task.activity.isOver = true) :
    (d.runNoted events).ShutdownBegan := by
  obtain ⟨before, after, rfl⟩ := List.append_of_mem hasked
  have hnumbered : (d.runNoted before).Numbered :=
    runNoted_keeps before (fun _ _ _ h ↦ h.apply _) hn
  have hbegun : ∃ t task, ((d.runNoted before).start .shuttingDown).1.task? t = some task ∧
      task.activity.isOfShutdown = true :=
    ⟨_, _, (hnumbered.task?_start _ _).trans (if_pos rfl), rfl⟩
  obtain ⟨-, t, task, ht, hof⟩ := runNoted_keeps after
    (I := fun d ↦ d.Numbered ∧ ∃ t task, d.task? t = some task ∧ task.activity.isOfShutdown = true)
    (fun d e _ ⟨h, hstays⟩ ↦ ⟨h.apply _, isOfShutdown_apply h hstays _⟩)
    ⟨hnumbered.start _, hbegun⟩
  have ht' : (d.runNoted (before ++ .ask .shutDown :: after)).task? t = some task := by
    rw [runNoted_append]
    exact ht
  cases hat : task.activity with
  | draining parts => exact ⟨t, task, parts, ht', hat⟩
  | shuttingDown =>
    have hdone := hover t task ht' (by rw [hat]; rfl)
    rw [hat] at hdone
    cases hdone
  | calling _ _ | refused _ | probing _ _ | closing _ _ | registering _ _ | registered _ _ =>
    rw [hat] at hof
    cases hof

private theorem TurnsDown.result_eq {wanted : ConnectorType} (h : d.TurnsDown t wanted id)
    (hn : d.Numbered) {events : List (DispatchEvent β)} {r : Except ConnectorFailure Unit}
    (hr : (d.runNoted events).registrationOf? t = some r) :
    ∃ c, (d.runNoted events).connector? id = some c ∧
      r = .error (Registry.refusal c.kind wanted) := by
  obtain ⟨-, -, task, ht, hwaits | ⟨c, hc, hrefused⟩⟩ := runNoted_keeps events
    (I := fun d ↦ d.Numbered ∧ d.TurnsDown t wanted id)
    (fun d e _ ⟨hn, h⟩ ↦ ⟨hn.apply _, h.applied hn e⟩) ⟨hn, h⟩
  · rw [registrationOf?, ht, Option.bind_some, hwaits] at hr
    cases hr
  · rw [registrationOf?, ht, Option.bind_some, hrefused] at hr
    cases hr
    exact ⟨c, hc, rfl⟩

private theorem TurnsDown.heard {wanted : ConnectorType} (h : d.TurnsDown t wanted id)
    (hnone : d.registrationOf? t = none) {c : Connector (Noted β)}
    (hc : d.connector? id = some c) (ht : d.task? t = some task) (hgone : task.gone = false) :
    (d.applyNoted (.move t)).registrationOf? t =
      some (.error (Registry.refusal c.kind wanted)) := by
  obtain ⟨task', ht', hat⟩ := h.outcome
  cases ht.symm.trans ht'
  obtain hwaits | ⟨_, _, hrefused⟩ := hat
  · have hstep : d.stepActivity? task.activity =
        some (d, .registered (.error (Registry.refusal c.kind wanted)) none) := by
      simp only [hwaits, stepActivity?, hc, Option.bind_eq_bind, Option.bind_some,
        Registry.register_of_shutDown h.shut]
    obtain ⟨-, task', ht', hat'⟩ := exists_task_of_stepActivity? ht hgone hstep
    rw [applyNoted, DispatchEvent.noted, registrationOf?, ht', Option.bind_some, hat']
    rfl
  · rw [registrationOf?, ht, Option.bind_some, hrefused] at hnone
    cases hnone

/-- A registry closes what it owns. Once a shutdown began, nothing is served any more, and whatever
registration has no result by then is turned down with its next step. A connector that nobody but
one registration asks for serves nothing and is never closed unless that registration succeeds. And
if it does, the connector was closed once by the time that a shutdown was asked for and neither a
registration nor a shutdown has anything left to do. -/
theorem registry_closes_what_it_owns (start : Nat) (events : List (DispatchEvent β)) :
    let d₀ : Dispatch (Noted β) := { now := start }
    let d := d₀.runNoted events
    d.bare = ({ now := start } : Dispatch β).run events ∧
    (∀ before after, events = before ++ after → (d₀.runNoted before).ShutdownBegan →
      d.registry.shutDown = true ∧ ∀ w, d.registry.get? w = none) ∧
    ∀ earlier wanted id later, events = earlier ++ .ask (.register wanted id) :: later →
      (∀ e ∈ earlier ++ later, e.claims? ≠ some id) →
      let t := (d₀.runNoted earlier).nextTask
      (∀ between after, later = between ++ after →
        let m := d₀.runNoted (earlier ++ .ask (.register wanted id) :: between)
        m.ShutdownBegan → m.registrationOf? t = none →
          (∀ c task, m.connector? id = some c → m.task? t = some task → task.gone = false →
            (m.applyNoted (.move t)).registrationOf? t =
              some (.error (Registry.refusal c.kind wanted))) ∧
          ∀ r, d.registrationOf? t = some r →
            ∃ c, d.connector? id = some c ∧ r = .error (Registry.refusal c.kind wanted)) ∧
      (d.registrationOf? t ≠ some (.ok ()) →
        (∀ w, d.registry.get? w ≠ some id) ∧ ∀ c, d.connector? id = some c → c.closes = 0) ∧
      (.ask .shutDown ∈ events →
        (∀ v task, d.task? v = some task → task.activity.isOfRegistry = true →
          task.activity.isOver = true) →
        d.registrationOf? t = some (.ok ()) → ∃ c, d.connector? id = some c ∧ c.closes = 1) := by
  have horder (events : List (DispatchEvent β)) := orderly_run start events
  refine ⟨bare_runNoted _ events, fun before after heq hbegan ↦ ?_,
    fun earlier wanted id later heq halone ↦
      ⟨fun between after hlater hbegan hnone ↦ ?_, fun hnot ↦ ?_, fun hasked hover hok ↦ ?_⟩⟩
  · subst heq
    rw [runNoted_append]
    exact (horder before).nothing_served hbegan after
  · subst heq hlater
    have hsplit : earlier ++ .ask (.register wanted id) :: (between ++ after) =
        (earlier ++ .ask (.register wanted id) :: between) ++ after := by
      rw [List.append_assoc, List.cons_append]
    have hm := horder (earlier ++ .ask (.register wanted id) :: between)
    have hwaits := runNoted_append ({ now := start } : Dispatch (Noted β)) earlier
      (.ask (.register wanted id) :: between)
    have hlate := turnsDown_of_waiting (horder earlier).numbered
      (hwaits ▸ hm.shutDown hbegan) (hwaits ▸ hnone)
    rw [← hwaits] at hlate
    refine ⟨fun c task hc ht hgone ↦ hlate.heard hnone hc ht hgone, fun r hr ↦ ?_⟩
    rw [hsplit, runNoted_append] at hr ⊢
    exact hlate.result_eq hm.numbered hr
  · subst heq
    obtain ⟨k, hk, htask⟩ := exists_holds_run start halone wanted
    rw [← runNoted_append] at hk
    exact hk.untouched htask hnot
  · -- nothing serves once the shutdown began, so an accepted connector is with whom closes it
    subst heq
    obtain ⟨k, hk, htask⟩ := exists_holds_run start halone wanted
    rw [← runNoted_append] at hk
    have hbegan := shutdownBegan_of_asked (numbered_new start) hasked hover
    have hend := horder (earlier ++ .ask (.register wanted id) :: later)
    refine hk.closed_once hend.numbered htask hok (hend.emptied (hend.shutDown hbegan)) ?_ hover
    refine closesByHand_run start fun e he hclose ↦ ?_
    subst hclose
    obtain he | he := List.mem_append.mp he
    · exact halone _ (List.mem_append_left later he) rfl
    · cases he with
      | tail _ he => exact halone _ (List.mem_append_right earlier he) rfl

/-! ### Runs with a shutdown -/

/-- One connector replaces another, and a shutdown runs into the close of the replaced one. A third
connector is asked to be registered before the shutdown begins and heard after. -/
def replacedThenShutDown : List (DispatchEvent MockBackend) :=
  [.build { kind := .http } {} 0 none, .build { kind := .http } {} 0 none,
    .build { kind := .http } {} 0 none, .ask (.register .http 0), .move 0, .ask (.register .http 1),
    .move 1, .ask .shutDown, .ask (.register .http 2), .move 2, .move 3, .move 1, .move 2, .move 1,
    .move 2, .move 1, .move 2]

/-- The first two are closed once, the third never. -/
theorem replaced_and_drained_once :
    let d := ({} : Dispatch (Noted MockBackend)).runNoted replacedThenShutDown
    (∃ c, d.connector? 0 = some c ∧ c.closes = 1) ∧ (∃ c, d.connector? 1 = some c ∧ c.closes = 1) ∧
      ∀ c, d.connector? 2 = some c → c.closes = 0 := by
  intro d
  have hover : ∀ v task, d.task? v = some task → task.activity.isOfRegistry = true →
      task.activity.isOver = true := by
    intro v task ht
    obtain ⟨before, after, hsplit, -⟩ := List.lookup_eq_some_iff.mp ht
    have hall : ∀ x ∈ d.tasks, x.2.activity.isOfRegistry = true → x.2.activity.isOver = true := by
      decide +kernel
    exact hall (v, task) (hsplit ▸ List.mem_append_right _ List.mem_cons_self)
  obtain ⟨-, -, hall⟩ := registry_closes_what_it_owns 0 replacedThenShutDown
  obtain ⟨-, -, hfirst⟩ := hall (replacedThenShutDown.take 3) .http 0 (replacedThenShutDown.drop 4)
    rfl (by decide +kernel)
  obtain ⟨-, -, hsecond⟩ := hall (replacedThenShutDown.take 5) .http 1 (replacedThenShutDown.drop 6)
    rfl (by decide +kernel)
  obtain ⟨-, hthird, -⟩ := hall (replacedThenShutDown.take 8) .http 2 (replacedThenShutDown.drop 9)
    rfl (by decide +kernel)
  have hasked : .ask .shutDown ∈ replacedThenShutDown := by simp [replacedThenShutDown]
  have hrefused : d.registrationOf? 3 = some (.error (Registry.tooLate .http)) := rfl
  refine ⟨hfirst hasked hover rfl, hsecond hasked hover rfl, (hthird fun hok ↦ ?_).2⟩
  cases hrefused.symm.trans hok

/-- Not every late registration fails because the registry is not available. -/
theorem late_misfit_not_unavailable :
    ¬ ∀ (start : Nat) (events earlier : List (DispatchEvent MockBackend)) (wanted : ConnectorType)
      (id : ConnectorId) (later : List (DispatchEvent MockBackend)),
      let d₀ : Dispatch (Noted MockBackend) := { now := start }
      events = earlier ++ .ask (.register wanted id) :: later →
      (∀ e ∈ earlier ++ later, e.claims? ≠ some id) → (d₀.runNoted earlier).ShutdownBegan →
      ∀ r, (d₀.runNoted events).registrationOf? (d₀.runNoted earlier).nextTask = some r →
        ∃ e, r = .error e ∧ e.kind = .unavailable := by
  intro hall
  obtain ⟨e, he, hkind⟩ := hall 0 _ [.build { kind := .queue } {} 0 none, .ask .shutDown, .move 0]
    .http 0 [.move 1] rfl (by decide +kernel) ⟨0, _, _, rfl, rfl⟩
    (.error (Registry.refusal .queue .http)) rfl
  cases he
  cases hkind

end Dispatch

end GuardedDispatch
