import GuardedDispatch.Proofs.Connector.Noted
import GuardedDispatch.Proofs.Dispatch.Events

/-!
# Who has a connector in hand

A connector that is registered waits to be heard, and is turned down or serves its kind. Whoever
takes it out of the registry closes it: the registration that replaces it, or the shutdown. So a
connector is always in one place, which its custody names, and a step of a task moves it along.
-/

namespace GuardedDispatch

/-! ### How far a connector is closed -/

namespace Connector

variable {β : Type} {c c' : Connector (Noted β)} {now : Nat}

/-- How often the close of the backend was begun. -/
def closes (c : Connector (Noted β)) : Nat := c.backend.hooks.count .closeStarted

/-- How a connector stands that one close has come so far with: it runs as long as that has not
begun, and the backend is closed once by the time that it need not wait any longer. It is not closed
if the close failed. -/
def Fits (c : Connector (Noted β)) : Closing → Prop
  | .arriving | .withdrawn => c.status = .running ∧ c.closes = 0
  | .draining _ | .brokenOff => c.closes = 0
  | .releasing _ | .done => c.closes = 1

/-- What becomes of a connector that nobody closes. -/
structure Rests (c c' : Connector (Noted β)) : Prop where
  status_eq : c'.status = c.status
  closes_eq : c'.closes = c.closes
  kind_eq : c'.kind = c.kind

theorem Rests.refl (c : Connector (Noted β)) : c.Rests c := ⟨rfl, rfl, rfl⟩

private theorem Rests.fits {progress : Closing} (h : c.Rests c') (hfits : c.Fits progress) :
    c'.Fits progress := by
  cases progress with
  | arriving | withdrawn => exact ⟨h.status_eq.trans hfits.1, h.closes_eq.trans hfits.2⟩
  | draining deadline | brokenOff | releasing ends? | done => exact h.closes_eq.trans hfits

private theorem closes_note {hooks : List HookStep} {step : HookStep}
    (hstep : step ≠ .closeStarted) :
    (hooks ++ [step]).count .closeStarted = hooks.count .closeStarted := by
  rw [List.count_append, List.count_singleton, beq_false_of_ne hstep, if_neg Bool.false_ne_true,
    Nat.add_zero]

variable [Backend β]

/-- A connector rests while a call takes a step. -/
theorem CallStep.rests {call call' : ConnectorCall} (h : c.CallStep now call c' call') :
    c.Rests c' := by
  have hinside {inner inner' : Call ConnectorFailure Response} {stack : Stack} {backend : Noted β}
      (hstep : c.stack.step? call.operation mayRetry now c.backend inner =
        some (stack, backend, inner')) :
      backend.hooks.count .closeStarted = c.backend.hooks.count .closeStarted := by
    obtain rfl | ⟨_, rfl⟩ | ⟨_, rfl⟩ := (Stack.moved_of_step? hstep).env_eq
    · rfl
    · exact closes_note (by decide)
    · exact closes_note (by decide)
  cases h with
  | misdirected hat hkind => exact .refl c
  | refused hat hkind hrun => exact ⟨rfl, rfl, rfl⟩
  | entered hat hkind hrun =>
    unfold tuned
    split <;> exact ⟨rfl, rfl, rfl⟩
  | moved hat hstep hopen => exact ⟨rfl, hinside hstep, rfl⟩
  | concluded hat hstep hdone => exact ⟨rfl, hinside hstep, rfl⟩

/-- A connector rests while a probe takes a step. -/
theorem rests_stepProbe? {p p' : Probe} (h : c.stepProbe? now p = some (c', p')) : c.Rests c' := by
  cases hat : p.stage with
  | arriving =>
    simp only [stepProbe?, hat] at h
    split at h <;> cases h
    · exact ⟨rfl, closes_note (by decide), rfl⟩
    · exact .refl c
  | asking ticket ends? deadline? =>
    simp only [stepProbe?, hat] at h
    split at h
    · cases h
      exact ⟨rfl, closes_note (by decide), rfl⟩
    · split at h <;> cases h
      exact .refl c
  | done healthy =>
    simp only [stepProbe?, hat] at h
    cases h

private theorem CloseStep.fits {progress progress' : Closing}
    (h : c.CloseStep now progress c' progress')
    (hfits : c.Fits progress) : c'.Fits progress' := by
  cases h with
  | began hrun hsoon | failed hrun hlate => exact hfits.2
  | returned hrun => exact absurd hfits.1 hrun
  | @released deadline hwhen =>
    change (c.backend.hooks ++ [HookStep.closeStarted]).count .closeStarted = 1
    have hzero : c.backend.hooks.count .closeStarted = 0 := hfits
    rw [List.count_append, hzero]
    rfl
  | closed hends =>
    have hone : c.backend.hooks.count .closeStarted = 1 := hfits
    change (c.backend.hooks ++ [HookStep.closeFinished]).count .closeStarted = 1
    exact (closes_note (by decide)).trans hone

/-- Closing keeps the kind. -/
theorem CloseStep.kind_eq {progress progress' : Closing}
    (h : c.CloseStep now progress c' progress') : c'.kind = c.kind := by
  cases h with
  | began hrun hfits | failed hrun hlate | returned hrun | released hwhen | closed hends => rfl

end Connector

/-! ### What an activity has in hand -/

namespace Activity

/-- How far an activity is with closing a connector. -/
def closingsOf (id : ConnectorId) (a : Activity) : List Closing :=
  a.parts.filterMap fun part ↦ if part.1 = id then some part.2 else none

/-- For which kind an activity wants to register a connector. -/
def wantsFor (id : ConnectorId) (a : Activity) : List ConnectorType :=
  (a.wants?.filter (·.2 = id)).toList.map (·.1)

/-- What an activity closes are its parts. -/
theorem mem_closingsOf {id : ConnectorId} {a : Activity} {progress : Closing} :
    progress ∈ a.closingsOf id ↔ (id, progress) ∈ a.parts := by
  rw [closingsOf, List.mem_filterMap]
  constructor
  · rintro ⟨⟨target, far⟩, hpart, hfar⟩
    obtain ⟨hid, hsame⟩ := Option.ite_none_right_eq_some.mp hfar
    obtain rfl : target = id := hid
    obtain rfl : far = progress := Option.some_inj.mp hsame
    exact hpart
  · exact fun hpart ↦ ⟨_, hpart, if_pos rfl⟩

private theorem wantsFor_registering_self (wanted : ConnectorType) (id : ConnectorId) :
    (Activity.registering wanted id).wantsFor id = [wanted] := by
  simp [wantsFor, wants?]

/-- Who wants one connector does not want another. -/
theorem wantsFor_registering_of_ne {id other : ConnectorId} (h : other ≠ id)
    (wanted : ConnectorType) : (Activity.registering wanted other).wantsFor id = [] := by
  simp [wantsFor, wants?, h]

section

variable {a a' : Activity} {id other : ConnectorId} {progress progress' : Closing}

/-- What an activity closes of one connector stands before and after the part that gets further. -/
theorem PartStep.closingsOf_eq (h : a.PartStep (other, progress) (other, progress') a')
    (id : ConnectorId) : ∃ before after,
      a.closingsOf id = before ++ (if other = id then [progress] else []) ++ after ∧
        a'.closingsOf id = before ++ (if other = id then [progress'] else []) ++ after := by
  obtain ⟨before, after, hparts, hparts'⟩ := h.parts_eq
  have hsplit (far : Closing) : (before ++ (other, far) :: after).filterMap
      (fun part ↦ if part.1 = id then some part.2 else none) =
        before.filterMap (fun part ↦ if part.1 = id then some part.2 else none) ++
          (if other = id then [far] else []) ++
            after.filterMap fun part ↦ if part.1 = id then some part.2 else none := by
    rw [List.filterMap_append, List.filterMap_cons, List.append_assoc]
    split <;> simp_all
  exact ⟨_, _, by rw [closingsOf, hparts, hsplit], by rw [closingsOf, hparts', hsplit]⟩

private theorem PartStep.wantsFor_eq (h : a.PartStep (other, progress) (other, progress') a')
    (id : ConnectorId) : a'.wantsFor id = a.wantsFor id := by
  obtain ⟨-, hwants, hwants', -⟩ := h.same
  rw [wantsFor, wantsFor, hwants, hwants']

private theorem PartStep.closingsOf_of_ne (h : a.PartStep (other, progress) (other, progress') a')
    (hne : other ≠ id) : a'.closingsOf id = a.closingsOf id := by
  obtain ⟨before, after, hold, hnew⟩ := h.closingsOf_eq id
  rw [hold, hnew, if_neg hne, if_neg hne]

private theorem PartStep.closingsOf_of_sole (h : a.PartStep (id, progress) (id, progress') a')
    {far : Closing} (hsole : a.closingsOf id = [far]) :
    far = progress ∧ a'.closingsOf id = [progress'] := by
  obtain ⟨before, after, hold, hnew⟩ := h.closingsOf_eq id
  rw [if_pos rfl] at hold hnew
  have hall := hsole.symm.trans hold
  have hlength := congrArg List.length hall
  simp only [List.length_append, List.length_cons, List.length_nil] at hlength
  obtain rfl := List.eq_nil_of_length_eq_zero (l := before) (by omega)
  obtain rfl := List.eq_nil_of_length_eq_zero (l := after) (by omega)
  cases hall
  exact ⟨rfl, hnew⟩

end

end Activity

namespace Dispatch

variable {β : Type} {d d' d₁ : Dispatch β} {t u : TaskId} {task : TaskState}
  {id other : ConnectorId}

/-! ### What the tasks have in hand -/

/-- What is collected over all tasks. -/
def collect {γ : Type} (d : Dispatch β) (f : TaskId → Activity → List γ) : List γ :=
  d.tasks.flatMap fun x ↦ f x.1 x.2.activity

/-- How far the tasks are with closing a connector. -/
def closingsOf (d : Dispatch β) (id : ConnectorId) : List Closing :=
  d.collect fun _ a ↦ a.closingsOf id

/-- Which tasks want to register a connector, and for which kind. -/
def wantersOf (d : Dispatch β) (id : ConnectorId) : List (TaskId × ConnectorType) :=
  d.collect fun t a ↦ (a.wantsFor id).map (t, ·)

private theorem Numbered.collect_putTask {γ : Type} (h : d.Numbered) (ht : d.task? t = some task)
    (f : TaskId → Activity → List γ) :
    ∃ before after, d.collect f = before ++ f t task.activity ++ after ∧
      ∀ task', (d.putTask t task').collect f = before ++ f t task'.activity ++ after := by
  obtain ⟨before, after, hsplit, hput⟩ := h.exists_tasks ht
  have heq (task : TaskState) :
      (before ++ (t, task) :: after).flatMap (fun x ↦ f x.1 x.2.activity) =
        before.flatMap (fun x ↦ f x.1 x.2.activity) ++ f t task.activity ++
          after.flatMap fun x ↦ f x.1 x.2.activity := by
    rw [List.flatMap_append, List.flatMap_cons, List.append_assoc]
  exact ⟨_, _, by rw [collect, hsplit, heq], fun task' ↦ by rw [collect, hput, heq]⟩

/-- A task that begins contributes what it does. -/
theorem collect_start {γ : Type} (d : Dispatch β) (a : Activity) (f : TaskId → Activity → List γ) :
    (d.start a).1.collect f = d.collect f ++ f d.nextTask a := by
  rw [collect, start, List.flatMap_append, List.flatMap_singleton]
  rfl

/-- What tasks contribute is all that is collected. -/
theorem mem_collect {γ : Type} {f : TaskId → Activity → List γ} {x : γ}
    (ht : d.task? t = some task) (hx : x ∈ f t task.activity) : x ∈ d.collect f := by
  obtain ⟨before, after, hsplit, -⟩ := List.lookup_eq_some_iff.mp ht
  rw [collect, hsplit, List.flatMap_append, List.flatMap_cons]
  exact List.mem_append_right _ (List.mem_append_left _ hx)

end Dispatch

/-! ### Who has a connector in hand -/

/-- Where a connector stands between its registration and its close, with the task that registers
it: nobody asked, its registration waits to be heard or was turned down, it serves a kind, or a task
closes it. -/
inductive Custody where
  | unasked
  | asked (t : TaskId) (wanted : ConnectorType)
  | refused (t : TaskId)
  | serving (t : TaskId) (wanted : ConnectorType)
  | closing (t : TaskId) (progress : Closing)

namespace Custody

/-- The task of the registration. -/
def task? : Custody → Option TaskId
  | .unasked => none
  | .asked t _ | .refused t | .serving t _ | .closing t _ => some t

/-- The registration that waits to be heard. -/
def wanted? : Custody → Option (TaskId × ConnectorType)
  | .asked t wanted => some (t, wanted)
  | _ => none

/-- The kind that is served. -/
def served? : Custody → Option ConnectorType
  | .serving _ wanted => some wanted
  | _ => none

/-- How far the close is. -/
def progress? : Custody → Option Closing
  | .closing _ progress => some progress
  | _ => none

/-- Whether the registration was accepted, if it was heard. -/
def accepted? : Custody → Option Bool
  | .refused _ => some false
  | .serving .. | .closing .. => some true
  | _ => none

end Custody

namespace Dispatch

variable {β : Type} {d d' d₁ : Dispatch (Noted β)} {t u : TaskId} {task : TaskState}
  {id other : ConnectorId} {k : Custody}

/-- A connector is where its custody says: that task and no other wants it, that kind and no other
is served by it, one close and no other is under way, and it is closed as far as that close is. -/
structure Holds (d : Dispatch (Noted β)) (id : ConnectorId) (k : Custody) : Prop where
  wanters_eq : d.wantersOf id = k.wanted?.toList
  serves_iff : ∀ w, d.registry.get? w = some id ↔ k.served? = some w
  closings_eq : d.closingsOf id = k.progress?.toList
  result_eq : ∀ t, k.task? = some t → (d.registrationOf? t).map Except.isOk = k.accepted?
  fits : ∀ c, d.connector? id = some c → c.Fits (k.progress?.getD .arriving)
  known : k.accepted?.isSome = true → (d.connector? id).isSome = true

/-- Nobody has a connector in hand at first. -/
theorem holds_new (start : Nat) (id : ConnectorId) :
    ({ now := start } : Dispatch (Noted β)).Holds id .unasked where
  wanters_eq := rfl
  serves_iff _ := ⟨(nomatch ·), (nomatch ·)⟩
  closings_eq := rfl
  result_eq _ h := nomatch h
  fits _ h := nomatch h
  known h := nomatch h

/-! ### How the custody changes -/

/-- Everything collected comes from some task. -/
theorem Numbered.exists_of_mem_collect {γ : Type} (h : d.Numbered) {f : TaskId → Activity → List γ}
    {x : γ} (hx : x ∈ d.collect f) : ∃ t task, d.task? t = some task ∧ x ∈ f t task.activity := by
  obtain ⟨⟨t, task⟩, hmem, hx⟩ := List.mem_flatMap.mp hx
  refine ⟨t, task, ?_, hx⟩
  obtain ⟨before, after, hsplit⟩ := List.append_of_mem hmem
  refine List.lookup_eq_some_iff.mpr ⟨before, after, hsplit, fun y hy ↦ bne_iff_ne.mpr ?_⟩
  have hkeys : (d.tasks.map (·.1)).Nodup := h ▸ List.nodup_range
  rw [hsplit, List.map_append, List.map_cons, List.nodup_append] at hkeys
  exact (hkeys.2.2 y.1 (List.mem_map_of_mem hy) t List.mem_cons_self).symm

/-- A registration that is known of is that of a task, which wants that connector and no other, or
has its result. -/
theorem Holds.exists_task (h : d.Holds id k) (hn : d.Numbered) (hk : k.task? = some t) :
    ∃ task, d.task? t = some task ∧ ((∃ w, task.activity.wants? = some (w, id)) ∨
      task.activity.registration?.isSome = true) := by
  have hdone (haccepted : k.accepted?.isSome = true) :
      ∃ task, d.task? t = some task ∧ ((∃ w, task.activity.wants? = some (w, id)) ∨
        task.activity.registration?.isSome = true) := by
    rw [← h.result_eq t hk, Option.isSome_map, Option.isSome_iff_exists] at haccepted
    obtain ⟨r, hr⟩ := haccepted
    obtain ⟨task, ht, hregistration⟩ := Option.bind_eq_some_iff.mp hr
    exact ⟨task, ht, .inr (Option.isSome_iff_exists.mpr ⟨r, hregistration⟩)⟩
  cases k with
  | unasked => cases hk
  | asked t' wanted =>
    cases hk
    have hmem : (t, wanted) ∈ d.wantersOf id := by
      rw [h.wanters_eq]
      exact List.mem_singleton_self _
    obtain ⟨t', task, ht, hwants⟩ := hn.exists_of_mem_collect hmem
    obtain ⟨w, hw, heq⟩ := List.mem_map.mp hwants
    cases heq
    obtain ⟨⟨w, id'⟩, hmem', rfl⟩ := List.mem_map.mp hw
    obtain ⟨hwanted, hid⟩ := Option.filter_eq_some_iff.mp (Option.mem_toList.mp hmem')
    obtain rfl : id' = id := of_decide_eq_true hid
    exact ⟨task, ht, .inl ⟨w, hwanted⟩⟩
  | refused t' | serving t' wanted | closing t' progress => exact hdone rfl

private theorem Holds.task?_ne (h : d.Holds id k) (hn : d.Numbered) (ht : d.task? t = some task)
    {w : ConnectorType} (hat : task.activity = .registering w other) (hne : other ≠ id) :
    k.task? ≠ some t := by
  intro hk
  obtain ⟨task', ht', ⟨w', hw'⟩ | hregistration⟩ := h.exists_task hn hk
  · cases ht.symm.trans ht'
    rw [hat] at hw'
    cases hw'
    exact hne rfl
  · cases ht.symm.trans ht'
    rw [hat] at hregistration
    cases hregistration

private theorem Holds.eq_asked (h : d.Holds id k) (ht : d.task? t = some task) {w : ConnectorType}
    (hat : task.activity = .registering w id) : k = .asked t w := by
  have hmem : (t, w) ∈ d.wantersOf id := by
    refine mem_collect ht ?_
    rw [hat, Activity.wantsFor_registering_self]
    exact List.mem_singleton_self _
  rw [h.wanters_eq] at hmem
  cases k with
  | asked t' w' =>
    cases List.mem_singleton.mp hmem
    rfl
  | unasked | refused _ | serving _ _ | closing _ _ => cases hmem

/-- Whoever serves a kind was registered for it. -/
theorem Holds.eq_serving (h : d.Holds id k) {w : ConnectorType}
    (hserves : d.registry.get? w = some id) : ∃ u, k = .serving u w := by
  have hserved := (h.serves_iff w).mp hserves
  cases k with
  | serving u w =>
    cases hserved
    exact ⟨u, rfl⟩
  | unasked | asked _ _ | refused _ | closing _ _ => cases hserved

private theorem Holds.eq_closing (h : d.Holds id k) (ht : d.task? t = some task)
    {progress : Closing}
    (hmem : progress ∈ task.activity.closingsOf id) : ∃ u, k = .closing u progress := by
  have hall : progress ∈ d.closingsOf id := mem_collect ht hmem
  rw [h.closings_eq] at hall
  cases k with
  | closing u far =>
    obtain rfl := List.mem_singleton.mp hall
    exact ⟨u, rfl⟩
  | unasked | asked _ _ | refused _ | serving _ _ => cases hall

private theorem registrationOf?_putTask (ht : d.task? t = some task) (htasks : d₁.tasks = d.tasks)
    (task' : TaskState) (u : TaskId) :
    (d₁.putTask t task').registrationOf? u =
      if u = t then task'.activity.registration? else d.registrationOf? u := by
  have hsame : d₁.task? = d.task? := by
    funext v
    rw [task?, htasks, task?]
  rw [registrationOf?, task?_putTask, hsame]
  split
  · rw [ht]
    rfl
  · rfl

private theorem Numbered.collect_moved {γ : Type} (hn : d.Numbered) (ht : d.task? t = some task)
    (htasks : d₁.tasks = d.tasks) (task' : TaskState) (f : TaskId → Activity → List γ) :
    ∃ before after, d.collect f = before ++ f t task.activity ++ after ∧
      (d₁.putTask t task').collect f = before ++ f t task'.activity ++ after := by
  obtain ⟨before, after, hold, hnew⟩ := hn.collect_putTask ht f
  refine ⟨before, after, hold, ?_⟩
  rw [← hnew task', collect, collect, Dispatch.putTask, Dispatch.putTask, htasks]

private theorem Numbered.collect_same {γ : Type} (hn : d.Numbered) (ht : d.task? t = some task)
    (htasks : d₁.tasks = d.tasks) {task' : TaskState} {f : TaskId → Activity → List γ}
    (hsame : f t task'.activity = f t task.activity) :
    (d₁.putTask t task').collect f = d.collect f := by
  obtain ⟨before, after, hold, hnew⟩ := hn.collect_moved ht htasks task' f
  rw [hold, hnew, hsame]

private theorem Numbered.collect_sole {γ : Type} (hn : d.Numbered) (ht : d.task? t = some task)
    (htasks : d₁.tasks = d.tasks) (task' : TaskState) {f : TaskId → Activity → List γ}
    (hsole : d.collect f = f t task.activity) :
    (d₁.putTask t task').collect f = f t task'.activity := by
  obtain ⟨before, after, hold, hnew⟩ := hn.collect_moved ht htasks task' f
  have hlength := congrArg List.length (hsole.symm.trans hold)
  simp only [List.length_append] at hlength
  obtain rfl := List.eq_nil_of_length_eq_zero (l := before) (by omega)
  obtain rfl := List.eq_nil_of_length_eq_zero (l := after) (by omega)
  rw [hnew, List.nil_append, List.append_nil]

private theorem Numbered.collect_eq_of_singleton {γ : Type} (hn : d.Numbered)
    (ht : d.task? t = some task)
    {f : TaskId → Activity → List γ} {x : γ} (hall : d.collect f = [x])
    (hsome : f t task.activity ≠ []) : d.collect f = f t task.activity := by
  obtain ⟨before, after, hold, -⟩ := hn.collect_putTask ht f
  have hlength := congrArg List.length (hall.symm.trans hold)
  have hpos := List.length_pos_iff.mpr hsome
  simp only [List.length_append, List.length_cons, List.length_nil] at hlength
  obtain rfl := List.eq_nil_of_length_eq_zero (l := before) (by omega)
  obtain rfl := List.eq_nil_of_length_eq_zero (l := after) (by omega)
  rw [hold, List.nil_append, List.append_nil]

private theorem Holds.result_moved (h : d.Holds id k) (ht : d.task? t = some task)
    (htasks : d₁.tasks = d.tasks) {task' : TaskState}
    (hresult : k.task? = some t → task'.activity.registration? = task.activity.registration?)
    {u : TaskId} (hu : k.task? = some u) :
    ((d₁.putTask t task').registrationOf? u).map Except.isOk = k.accepted? := by
  rw [registrationOf?_putTask ht htasks]
  split
  · next heq =>
    subst heq
    have hold := h.result_eq u hu
    rw [registrationOf?, ht, Option.bind_some] at hold
    rw [hresult hu]
    exact hold
  · exact h.result_eq u hu

/-- A connector that nobody closes between two moments. -/
def RestsAt (id : ConnectorId) (d d' : Dispatch (Noted β)) : Prop :=
  Option.Rel Connector.Rests (d.connector? id) (d'.connector? id)

/-- Connectors rest while nothing happens to any of them. -/
theorem restsAt_of_connectors_eq (h : d'.connectors = d.connectors) (id : ConnectorId) :
    RestsAt id d d' := by
  rw [RestsAt, connector?, connector?, h]
  cases d.connectors[id]? with
  | none => exact .none
  | some c => exact .some (.refl c)

/-- A connector rests when it is put back at rest, or another one is. -/
theorem restsAt_putConnector {c c' : Connector (Noted β)} (hc : d.connector? other = some c)
    (hrests : c.Rests c') (id : ConnectorId) : RestsAt id d (d.putConnector other c') := by
  by_cases hid : other = id
  · subst hid
    rw [RestsAt, hc, connector?_putConnector_self hc]
    exact .some hrests
  · rw [RestsAt, connector?_putConnector_ne hid]
    exact restsAt_of_connectors_eq rfl id

/-- A connector that rests stays as far closed as it is. -/
theorem RestsAt.fits (h : RestsAt id d d') {progress : Closing}
    (hfits : ∀ c, d.connector? id = some c → c.Fits progress) :
    ∀ c, d'.connector? id = some c → c.Fits progress := by
  intro c hc
  rw [RestsAt, hc] at h
  generalize hc₀ : d.connector? id = o at h
  cases h with
  | some hrests => exact hrests.fits (hfits _ hc₀)

/-- A connector that rests stays. -/
theorem RestsAt.isSome (h : RestsAt id d d') (hknown : (d.connector? id).isSome = true) :
    (d'.connector? id).isSome = true := by
  unfold RestsAt at h
  generalize d.connector? id = o at h hknown
  generalize d'.connector? id = o' at h ⊢
  cases h with
  | some hrests => rfl
  | none => cases hknown

/-- A step that does nothing about a connector leaves its custody alone. -/
theorem Holds.quietly (h : d.Holds id k) (hn : d.Numbered) (ht : d.task? t = some task)
    (htasks : d₁.tasks = d.tasks) {task' : TaskState}
    (hwants : task'.activity.wantsFor id = task.activity.wantsFor id)
    (hclosings : task'.activity.closingsOf id = task.activity.closingsOf id)
    (hresult : k.task? = some t → task'.activity.registration? = task.activity.registration?)
    (hserves : ∀ w, d₁.registry.get? w = some id ↔ d.registry.get? w = some id)
    (hrests : RestsAt id d d₁) : (d₁.putTask t task').Holds id k where
  wanters_eq :=
    (hn.collect_same ht htasks (congrArg (List.map (t, ·)) hwants)).trans h.wanters_eq
  serves_iff w := (hserves w).trans (h.serves_iff w)
  closings_eq := (hn.collect_same ht htasks hclosings).trans h.closings_eq
  result_eq _ := h.result_moved ht htasks hresult
  fits := hrests.fits h.fits
  known haccepted := hrests.isSome (h.known haccepted)

private theorem Holds.heard (h : d.Holds id k) (hn : d.Numbered) (ht : d.task? t = some task)
    {w : ConnectorType} (hat : task.activity = .registering w id) (htasks : d₁.tasks = d.tasks)
    (hconnectors : d₁.connectors = d.connectors) {c : Connector (Noted β)}
    (hc : d.connector? id = some c) {task' : TaskState} {r : Except ConnectorFailure Unit}
    {replaced? : Option (ConnectorId × Closing)} (hat' : task'.activity = .registered r replaced?)
    (hnone : task'.activity.closingsOf id = []) {k' : Custody} (hk' : k'.task? = some t)
    (hwanted : k'.wanted? = none) (hprogress : k'.progress? = none)
    (haccepted : k'.accepted? = some r.isOk)
    (hserves : ∀ w, d₁.registry.get? w = some id ↔ k'.served? = some w) :
    (d₁.putTask t task').Holds id k' := by
  obtain rfl := h.eq_asked ht hat
  have hrests : RestsAt id d (d₁.putTask t task') := restsAt_of_connectors_eq hconnectors id
  have hsole : d.wantersOf id = (task.activity.wantsFor id).map (t, ·) := by
    rw [h.wanters_eq, hat, Activity.wantsFor_registering_self]
    rfl
  have hsame : task'.activity.closingsOf id = task.activity.closingsOf id := by
    rw [hnone, hat]
    rfl
  refine ⟨?_, hserves, ?_, fun u hu ↦ ?_, ?_, fun _ ↦ hrests.isSome (hc ▸ rfl)⟩
  · refine (hn.collect_sole ht htasks task' hsole).trans ?_
    rw [hat', hwanted]
    rfl
  · rw [hprogress]
    exact (hn.collect_same ht htasks hsame).trans h.closings_eq
  · cases hk'.symm.trans hu
    rw [registrationOf?_putTask ht htasks, if_pos rfl, hat', haccepted]
    rfl
  · rw [hprogress]
    exact hrests.fits h.fits

private theorem Holds.handedOver {w : ConnectorType} (h : d.Holds id (.serving u w))
    (hn : d.Numbered)
    (ht : d.task? t = some task) (htasks : d₁.tasks = d.tasks)
    (hconnectors : d₁.connectors = d.connectors) {task' : TaskState}
    (hwants : task.activity.wantsFor id = []) (hwants' : task'.activity.wantsFor id = [])
    (hnone : task.activity.closingsOf id = [])
    (hbegun : task'.activity.closingsOf id = [.arriving])
    (hresult : u = t → task'.activity.registration? = task.activity.registration?)
    (hserves : ∀ w, d₁.registry.get? w ≠ some id) :
    (d₁.putTask t task').Holds id (.closing u .arriving) := by
  have hrests : RestsAt id d (d₁.putTask t task') := restsAt_of_connectors_eq hconnectors id
  have hsole : d.closingsOf id = task.activity.closingsOf id := h.closings_eq.trans hnone.symm
  have hsame := congrArg (List.map (t, ·)) (hwants'.trans hwants.symm)
  refine ⟨(hn.collect_same ht htasks hsame).trans h.wanters_eq, fun w ↦ ?_,
    (hn.collect_sole ht htasks task' hsole).trans hbegun, fun _ hv ↦ ?_, hrests.fits h.fits,
    fun _ ↦ hrests.isSome (h.known rfl)⟩
  · exact ⟨fun hw ↦ absurd hw (hserves w), fun hw ↦ by cases hw⟩
  · exact h.result_moved ht htasks (fun hu ↦ hresult (Option.some_inj.mp hu)) hv

private theorem closingsOf_emptied {r : Registry} {served? : Option ConnectorType}
    (h : ∀ w, r.get? w = some id ↔ served? = some w) :
    (Activity.draining (r.connectors.map (·, .arriving))).closingsOf id =
      served?.toList.map fun _ ↦ .arriving := by
  have hserves (w : ConnectorType) :
      ((r.get? w).bind fun x ↦ if x = id then some Closing.arriving else none) =
        if served? = some w then some .arriving else none := by
    rw [if_congr (h w).symm rfl rfl]
    cases r.get? w <;> simp
  have hconnectors : (Activity.draining (r.connectors.map (·, .arriving))).closingsOf id =
      ConnectorType.all.filterMap fun w ↦ if served? = some w then some .arriving else none := by
    simp only [Activity.closingsOf, Activity.parts, Registry.connectors, List.filterMap_map,
      List.filterMap_filterMap, Function.comp_def, hserves]
  rw [hconnectors]
  cases served? with
  | none => rfl
  | some w => cases w <;> rfl

/-- A registration begins to close the connector that it replaced, if there was one. -/
theorem closingsOf_replaced (r : Except ConnectorFailure Unit) (previous? : Option ConnectorId)
    (id : ConnectorId) : (Activity.registered r (previous?.map (·, .arriving))).closingsOf id =
      if previous? = some id then [.arriving] else [] := by
  cases previous? with
  | none => rfl
  | some previous => by_cases h : previous = id <;> simp [Activity.closingsOf, Activity.parts, h]

private theorem Holds.turnedDown (h : d.Holds id k) (hn : d.Numbered) (ht : d.task? t = some task)
    {task' : TaskState} {wanted : ConnectorType} {e : ConnectorFailure}
    (hat : task.activity = .registering wanted other)
    (hat' : task'.activity = .registered (.error e) none) {c : Connector (Noted β)}
    (hc : d.connector? other = some c) :
    ∃ k', (d.putTask t task').Holds id k' ∧ k'.task? = k.task? := by
  have hclosings : task'.activity.closingsOf id = [] := by
    rw [hat']
    rfl
  by_cases hid : other = id
  · subst hid
    obtain rfl := h.eq_asked ht hat
    exact ⟨.refused t, h.heard hn ht hat rfl rfl hc hat' hclosings rfl rfl rfl rfl
      fun w ↦ h.serves_iff w, rfl⟩
  · have hother := h.task?_ne hn ht hat hid
    refine ⟨k, h.quietly hn ht rfl ?_ ?_ (fun hk ↦ absurd hk hother) (fun _ ↦ .rfl)
      (restsAt_of_connectors_eq rfl id), rfl⟩
    · rw [hat, hat', Activity.wantsFor_registering_of_ne hid]
      rfl
    · rw [hclosings, hat]
      rfl

private theorem Holds.accepted (h : d.Holds id k) (hn : d.Numbered) (ht : d.task? t = some task)
    {task' : TaskState} {wanted : ConnectorType} (hat : task.activity = .registering wanted other)
    (hat' : task'.activity =
      .registered (.ok ()) ((d.registry.get? wanted).map (·, .arriving)))
    {c : Connector (Noted β)} (hc : d.connector? other = some c)
    (htasks : d₁.tasks = d.tasks) (hconnectors : d₁.connectors = d.connectors)
    (hregistry : d₁.registry = d.registry.put wanted other) :
    ∃ k', (d₁.putTask t task').Holds id k' ∧ k'.task? = k.task? := by
  have hclosings := closingsOf_replaced (.ok ()) (d.registry.get? wanted) id
  rw [← hat'] at hclosings
  have hwants' : task'.activity.wantsFor id = [] := by
    rw [hat']
    rfl
  -- a connector is the one that is accepted, or was replaced by it, or has nothing to do with it
  by_cases hid : other = id
  · subst hid
    obtain rfl := h.eq_asked ht hat
    have hfree (w : ConnectorType) : d.registry.get? w ≠ some other := by
      intro hw
      obtain ⟨u, hu⟩ := h.eq_serving hw
      cases hu
    rw [if_neg (hfree wanted)] at hclosings
    refine ⟨.serving t wanted,
      h.heard hn ht hat htasks hconnectors hc hat' hclosings rfl rfl rfl rfl fun w ↦ ?_, rfl⟩
    rw [hregistry, Registry.get?_put, Custody.served?, Option.some_inj]
    split
    · next hw => exact ⟨fun _ ↦ hw.symm, fun _ ↦ rfl⟩
    · next hw => exact ⟨fun hs ↦ absurd hs (hfree w), fun hs ↦ absurd hs.symm hw⟩
  · have hother := h.task?_ne hn ht hat hid
    have hwants : task.activity.wantsFor id = [] := by
      rw [hat, Activity.wantsFor_registering_of_ne hid]
    have hput (w : ConnectorType) :
        d₁.registry.get? w = some id ↔ w ≠ wanted ∧ d.registry.get? w = some id := by
      rw [hregistry, Registry.get?_put]
      split <;> simp_all
    by_cases hreplaced : d.registry.get? wanted = some id
    · obtain ⟨u, rfl⟩ := h.eq_serving hreplaced
      rw [if_pos hreplaced] at hclosings
      refine ⟨.closing u .arriving, h.handedOver hn ht htasks hconnectors hwants hwants' ?_
        hclosings ?_ fun w hw ↦ ?_, rfl⟩
      · rw [hat]
        rfl
      · rintro rfl
        exact absurd rfl hother
      · obtain ⟨hne, hw⟩ := (hput w).mp hw
        cases (h.serves_iff w).mp hw
        exact hne rfl
    · rw [if_neg hreplaced] at hclosings
      refine ⟨k, h.quietly hn ht htasks (hwants'.trans hwants.symm) ?_
        (fun hk ↦ absurd hk hother) (fun w ↦ ?_) (restsAt_of_connectors_eq hconnectors id), rfl⟩
      · rw [hclosings, hat]
        rfl
      · refine (hput w).trans ⟨And.right, fun hw ↦ ⟨?_, hw⟩⟩
        rintro rfl
        exact hreplaced hw

private theorem Holds.emptied (h : d.Holds id k) (hn : d.Numbered) (ht : d.task? t = some task)
    {task' : TaskState} (hat : task.activity = .shuttingDown)
    (hat' : task'.activity = .draining (d.registry.connectors.map (·, .arriving)))
    (htasks : d₁.tasks = d.tasks) (hconnectors : d₁.connectors = d.connectors)
    (hregistry : d₁.registry = d.registry.emptied) :
    ∃ k', (d₁.putTask t task').Holds id k' ∧ k'.task? = k.task? := by
  have hclosings := closingsOf_emptied h.serves_iff
  rw [← hat'] at hclosings
  have hfree (w : ConnectorType) : d₁.registry.get? w ≠ some id := by
    rw [hregistry, Registry.get?_emptied]
    exact (Option.some_ne_none id).symm
  have hsame : task'.activity.wantsFor id = task.activity.wantsFor id ∧
      task'.activity.registration? = task.activity.registration? := by
    rw [hat, hat']
    exact ⟨rfl, rfl⟩
  have hnone : task.activity.wantsFor id = [] ∧ task.activity.closingsOf id = [] := by
    rw [hat]
    exact ⟨rfl, rfl⟩
  cases k with
  | serving u w =>
    exact ⟨.closing u .arriving, h.handedOver hn ht htasks hconnectors hnone.1
      (hsame.1.trans hnone.1) hnone.2 hclosings (fun _ ↦ hsame.2) hfree, rfl⟩
  | unasked | asked _ _ | refused _ | closing _ _ =>
    refine ⟨_, h.quietly hn ht htasks hsame.1 (hclosings.trans hnone.2.symm) (fun _ ↦ hsame.2)
      (fun w ↦ ⟨fun hw ↦ absurd hw (hfree w), fun hw ↦ ?_⟩)
      (restsAt_of_connectors_eq hconnectors id), rfl⟩
    obtain ⟨u, hu⟩ := h.eq_serving hw
    cases hu

variable [Backend β]

private theorem Holds.closed (h : d.Holds id k) (hn : d.Numbered) (ht : d.task? t = some task)
    {progress progress' : Closing} {c c' : Connector (Noted β)} (hc : d.connector? id = some c)
    (hstep : c.CloseStep d.now progress c' progress') {task' : TaskState}
    (hpart : task.activity.PartStep (id, progress) (id, progress') task'.activity) :
    ∃ k', ((d.putConnector id c').putTask t task').Holds id k' ∧ k'.task? = k.task? := by
  have htasks : (d.putConnector id c').tasks = d.tasks := rfl
  have hself : (d.putConnector id c').connector? id = some c' := connector?_putConnector_self hc c'
  have hmem : progress ∈ task.activity.closingsOf id := by
    obtain ⟨before, after, hparts, -⟩ := hpart.parts_eq
    rw [Activity.mem_closingsOf, hparts]
    exact List.mem_append_right _ List.mem_cons_self
  obtain ⟨u, rfl⟩ := h.eq_closing ht hmem
  have hsole := hn.collect_eq_of_singleton ht h.closings_eq (List.ne_nil_of_mem hmem)
  obtain ⟨-, hfurther⟩ := hpart.closingsOf_of_sole (hsole.symm.trans h.closings_eq)
  have hsame := congrArg (List.map (t, ·)) (hpart.wantsFor_eq id)
  refine ⟨.closing u progress', ⟨(hn.collect_same ht htasks hsame).trans h.wanters_eq,
    h.serves_iff, (hn.collect_sole ht htasks task' hsole).trans hfurther,
    fun _ ↦ h.result_moved ht htasks fun _ ↦ hpart.same.1, fun x hx ↦ ?_, fun _ ↦ ?_⟩, rfl⟩
  · cases hself.symm.trans hx
    exact hstep.fits (h.fits c hc)
  · exact Option.isSome_of_eq_some hself

/-- A step of a task leaves each connector with the registration that it has. -/
theorem Holds.moved (h : d.Holds id k) (hn : d.Numbered) (ht : d.task? t = some task)
    {task' : TaskState} (hstep : d.ActivityStep task.activity d₁ task'.activity) :
    ∃ k', (d₁.putTask t task').Holds id k' ∧ k'.task? = k.task? := by
  have htasks := hstep.tasks_eq.1
  generalize hat : task.activity = a at hstep
  generalize hat' : task'.activity = a' at hstep
  cases hstep with
  | called hc hcall =>
    refine ⟨k, h.quietly hn ht htasks ?_ ?_ (fun _ ↦ ?_) (fun _ ↦ .rfl)
      (restsAt_putConnector hc hcall.rests id), rfl⟩ <;> rw [hat, hat'] <;> rfl
  | probed hc hprobe =>
    refine ⟨k, h.quietly hn ht htasks ?_ ?_ (fun _ ↦ ?_) (fun _ ↦ .rfl)
      (restsAt_putConnector hc (Connector.rests_stepProbe? hprobe) id), rfl⟩ <;>
      rw [hat, hat'] <;> rfl
  | turnedDown hc hr => exact h.turnedDown hn ht hat hat' hc
  | accepted hc hr =>
    obtain ⟨rfl, -, rfl, rfl⟩ := Registry.eq_put_of_register hr
    exact h.accepted hn ht hat hat' hc htasks rfl rfl
  | emptied hopen => exact h.emptied hn ht hat hat' htasks rfl rfl
  | tooLate hshut =>
    refine ⟨k, h.quietly hn ht htasks ?_ ?_ (fun _ ↦ ?_) (fun _ ↦ .rfl)
      (restsAt_of_connectors_eq rfl id), rfl⟩ <;> rw [hat, hat'] <;> rfl
  | @closed _ _ target progress progress' c c' hc hclose hpart =>
    subst hat hat'
    by_cases hid : target = id
    · subst hid
      exact h.closed hn ht hc hclose hpart
    · refine ⟨k, h.quietly hn ht htasks (hpart.wantsFor_eq id) (hpart.closingsOf_of_ne hid)
        (fun _ ↦ hpart.same.1) (fun _ ↦ .rfl) ?_, rfl⟩
      rw [RestsAt, connector?_putConnector_ne hid]
      exact restsAt_of_connectors_eq rfl id

end Dispatch

end GuardedDispatch
