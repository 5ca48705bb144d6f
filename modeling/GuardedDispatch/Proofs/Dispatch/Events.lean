import GuardedDispatch.Proofs.Dispatch.Steps

/-!
# What can happen to a dispatch

Connectors are built, somebody asks for something, which begins a task, tasks take steps or are left
by their callers, backends come into other states by themselves, and time passes. What can happen
next is an event, and an event that cannot happen leaves the dispatch as it is, so a list of events
is an interleaving and every interleaving is one. What a task does changes with its own steps only.
-/

namespace GuardedDispatch

/-- What somebody asks for: a call to the connector that serves a kind, a call or a probe of a
certain connector, a registration, the shutdown of the registry, or the close of a connector. -/
inductive Errand where
  | send (wanted : ConnectorType) (mode : SendMode) (request : Request) (context : CallContext)
  | call (id : ConnectorId) (mode : SendMode) (request : Request) (context : CallContext)
  | probe (id : ConnectorId) (context : CallContext)
  | register (wanted : ConnectorType) (id : ConnectorId)
  | shutDown
  | close (id : ConnectorId)

/-- One thing that happens to a dispatch. -/
inductive DispatchEvent (β : Type) where
  | build (backend : β) (config : StackConfig) (drainTimeout : Nat)
      (healthContext? : Option CallContext)
  | ask (errand : Errand)
  | move (t : TaskId)
  | leave (t : TaskId)
  | drop (t : TaskId)
  | observe (id : ConnectorId)
  | trip (id : ConnectorId)
  | reset (id : ConnectorId)
  | shift (id : ConnectorId) (backend : β)
  | wait (duration : Nat)

namespace Dispatch

variable {β : Type}

/-- The activity that an errand begins. -/
def activityOf (d : Dispatch β) : Errand → Activity
  | .send wanted mode request context => d.callFor wanted mode request context
  | .call id mode request context => .calling id { mode, request, context }
  | .probe id context => .probing id { context }
  | .register wanted id => .registering wanted id
  | .shutDown => .shuttingDown
  | .close id => .closing id .arriving

/-- Changes the breaker of a connector by hand. -/
def mapBreaker (d : Dispatch β) (id : ConnectorId) (f : Breaker → Breaker) : Dispatch β :=
  d.mapConnector id fun c ↦ { c with stack := c.stack.mapBreaker f }

/-- The answer of a task, if it is a call that has one. -/
def answerOf? (d : Dispatch β) (t : TaskId) : Option (Except ConnectorFailure Response) :=
  (d.task? t).bind (·.activity.answer?)

/-- The result of a task, if it is a registration that has one. -/
def registrationOf? (d : Dispatch β) (t : TaskId) : Option (Except ConnectorFailure Unit) :=
  (d.task? t).bind (·.activity.registration?)

variable [Backend β]

/-- Lets an event happen. -/
def apply (d : Dispatch β) : DispatchEvent β → Dispatch β
  | .build backend config drainTimeout healthContext? =>
    (d.addConnector { Connector.new backend config d.now with drainTimeout, healthContext? }).1
  | .ask errand => (d.start (d.activityOf errand)).1
  | .move t => (d.stepTask? t).getD d
  | .leave t => d.abandon t
  | .drop t => d.dropTask t
  | .observe id => (d.observe id).1
  | .trip id => d.mapBreaker id (·.trip d.now)
  | .reset id => d.mapBreaker id (·.reset d.now)
  | .shift id backend => d.mapConnector id ({ · with backend })
  | .wait duration => { d with now := d.now + duration }

/-- Lets one event happen after another. -/
def run (d : Dispatch β) (events : List (DispatchEvent β)) : Dispatch β := events.foldl apply d

/-- What every event keeps holds at the end of every run. -/
theorem run_keeps {I : Dispatch β → Prop} {events : List (DispatchEvent β)}
    (hstep : ∀ d, ∀ e ∈ events, I d → I (d.apply e)) {d : Dispatch β} (h : I d) :
    I (d.run events) := by
  induction events generalizing d with
  | nil => exact h
  | cons e rest ih =>
    exact ih (fun d e' he' ↦ hstep d e' (List.mem_cons_of_mem e he'))
      (hstep d e List.mem_cons_self h)

variable {d : Dispatch β} {t : TaskId} {task : TaskState} {id : ConnectorId}

/-! ### Connectors come and stay -/

omit [Backend β] in
/-- A connector changes only by what is done to it. -/
theorem connector?_mapConnector (d : Dispatch β) (id : ConnectorId) (f : Connector β → Connector β)
    (other : ConnectorId) :
    (d.mapConnector id f).connector? other =
      if id = other then (d.connector? other).map f else d.connector? other := by
  rw [connector?, mapConnector, List.getElem?_modify]
  split
  · rfl
  · exact Option.map_id_apply

/-! ### Tasks change by their own steps -/

/-- A task that is to take a step takes it, or has to wait. -/
theorem apply_move (d : Dispatch β) (t : TaskId) :
    d.apply (.move t) = d ∨ ∃ task d₁ a', d.task? t = some task ∧ task.gone = false ∧
      d.ActivityStep task.activity d₁ a' ∧ d.apply (.move t) = d₁.putTask t
        { task with activity := a', endedAt? := if a'.isOver then some d₁.now else none } := by
  rw [apply]
  cases h : d.stepTask? t with
  | none => exact .inl rfl
  | some d' => exact .inr (activityStep_of_stepTask? h)

/-- A task whose activity can take a step takes that step. -/
theorem exists_task_of_stepActivity? {d₁ : Dispatch β} {a' : Activity} (ht : d.task? t = some task)
    (hgone : task.gone = false) (hstep : d.stepActivity? task.activity = some (d₁, a')) :
    (d.apply (.move t)).connectors = d₁.connectors ∧
      ∃ task', (d.apply (.move t)).task? t = some task' ∧ task'.activity = a' := by
  have hmoved : d.stepTask? t = some (d₁.putTask t
      { task with activity := a', endedAt? := if a'.isOver then some d₁.now else none }) := by
    simp only [stepTask?, ht, Option.bind_eq_bind, Option.bind_some, hgone, hstep]
    rfl
  have htask : d₁.task? t = some task := by
    rw [task?, (activityStep_of_stepActivity? hstep).tasks_eq.1]
    exact ht
  rw [apply, hmoved, Option.getD_some, task?_putTask, if_pos rfl, htask]
  exact ⟨rfl, _, rfl, rfl⟩

omit [Backend β] in
/-- Taking a task away puts it back with nothing else to do, and may take a call out of its
connector. -/
theorem dropTask_eq (d : Dispatch β) (t : TaskId) :
    d.dropTask t = d ∨ ∃ task, d.task? t = some task ∧
      (d.dropTask t = d.putTask t { task with gone := true } ∨ ∃ id call,
        task.activity = .calling id call ∧ d.dropTask t =
          (d.putTask t { task with gone := true }).mapConnector id (·.dropCall call d.now)) := by
  cases ht : d.task? t with
  | none => exact .inl (by simp only [dropTask, ht])
  | some task =>
    refine .inr ⟨task, rfl, ?_⟩
    simp only [dropTask, ht]
    split
    · next id call hat => exact .inr ⟨id, call, hat, rfl⟩
    · exact .inl rfl

omit [Backend β] in
/-- A caller that leaves takes its task away, or leaves everything as it is. -/
theorem abandon_eq (d : Dispatch β) (t : TaskId) :
    d.abandon t = d ∨ d.abandon t = d.dropTask t := by
  unfold abandon
  split
  · split
    · exact .inl rfl
    · exact .inr rfl
  · exact .inl rfl

omit [Backend β] in
/-- Taking a task away begins none and leaves the registry alone. -/
theorem dropTask_frame (d : Dispatch β) (t : TaskId) :
    (d.dropTask t).nextTask = d.nextTask ∧ (d.dropTask t).registry = d.registry := by
  obtain heq | ⟨task, -, heq | ⟨id, call, -, heq⟩⟩ := d.dropTask_eq t <;> rw [heq] <;>
    exact ⟨rfl, rfl⟩

omit [Backend β] in
/-- A caller that leaves begins no task and leaves the registry alone. -/
theorem abandon_frame (d : Dispatch β) (t : TaskId) :
    (d.abandon t).nextTask = d.nextTask ∧ (d.abandon t).registry = d.registry := by
  obtain heq | heq := d.abandon_eq t <;> rw [heq]
  · exact ⟨rfl, rfl⟩
  · exact d.dropTask_frame t

omit [Backend β] in
private theorem Numbered.dropTask (h : d.Numbered) (t : TaskId) : (d.dropTask t).Numbered := by
  obtain heq | ⟨task, -, heq | ⟨id, call, -, heq⟩⟩ := d.dropTask_eq t
  · rw [heq]
    exact h
  · rw [heq]
    exact h.putTask t _
  · rw [heq]
    exact h.putTask t _

omit [Backend β] in
/-- Looking at a connector puts it back as it is seen. -/
theorem observe_eq (d : Dispatch β) (id : ConnectorId) :
    (d.observe id).1 = d ∨ ∃ c, d.connector? id = some c ∧
      (d.observe id).1 = d.putConnector id (c.observe d.now).1 := by
  unfold Dispatch.observe
  split
  · exact .inl rfl
  · next c hc => exact .inr ⟨c, hc, rfl⟩

omit [Backend β] in
/-- Looking at a connector leaves the tasks and the registry alone. -/
theorem observe_frame (d : Dispatch β) (id : ConnectorId) :
    (d.observe id).1.tasks = d.tasks ∧ (d.observe id).1.nextTask = d.nextTask ∧
      (d.observe id).1.registry = d.registry := by
  obtain heq | ⟨c, -, heq⟩ := d.observe_eq id <;> rw [heq] <;> exact ⟨rfl, rfl, rfl⟩

/-- Every event keeps the numbers. -/
theorem Numbered.apply (h : d.Numbered) (e : DispatchEvent β) : (d.apply e).Numbered := by
  cases e with
  | build backend config drainTimeout healthContext? | trip id | reset id | shift id backend
  | wait duration => exact h
  | ask errand => exact h.start _
  | move t =>
    obtain heq | ⟨task, d₁, a', -, -, hstep, heq⟩ := d.apply_move t
    · rw [heq]
      exact h
    · obtain ⟨htasks, hnext, -⟩ := hstep.tasks_eq
      rw [heq]
      refine Numbered.putTask ?_ t _
      rw [Numbered, htasks, hnext]
      exact h
  | leave t =>
    obtain heq | heq := d.abandon_eq t
    · rw [Dispatch.apply, heq]
      exact h
    · rw [Dispatch.apply, heq]
      exact h.dropTask t
  | drop t => exact h.dropTask t
  | observe id =>
    obtain ⟨htasks, hnext, -⟩ := d.observe_frame id
    rw [Numbered, Dispatch.apply, htasks, hnext]
    exact h

/-- Tasks are numbered in every run. -/
theorem Numbered.run (h : d.Numbered) (events : List (DispatchEvent β)) : (d.run events).Numbered :=
  run_keeps (fun _ e _ hd ↦ hd.apply e) h

omit [Backend β] in
private theorem task?_dropTask (d : Dispatch β) {u : TaskId} (hu : d.task? u = some task) :
    ∃ task', (d.dropTask t).task? u = some task' ∧ task'.activity = task.activity := by
  have hput {other : TaskState} (ht : d.task? t = some other) :
      ∃ task', (d.putTask t { other with gone := true }).task? u = some task' ∧
        task'.activity = task.activity := by
    rw [task?_putTask]
    by_cases hut : u = t
    · subst hut
      cases hu.symm.trans ht
      rw [if_pos rfl, hu]
      exact ⟨_, rfl, rfl⟩
    · rw [if_neg hut]
      exact ⟨task, hu, rfl⟩
  obtain heq | ⟨other, ht, heq | ⟨id, call, -, heq⟩⟩ := d.dropTask_eq t
  · exact ⟨task, heq.symm ▸ hu, rfl⟩
  · rw [heq]
    exact hput ht
  · rw [heq]
    exact hput ht

/-- What a task does changes with its own steps only, with which the registry and the connectors
change. -/
theorem Numbered.task?_apply (h : d.Numbered) (ht : d.task? t = some task) (e : DispatchEvent β) :
    ∃ task', (d.apply e).task? t = some task' ∧
      (task'.activity = task.activity ∨
        e = .move t ∧ task.gone = false ∧
          ∃ d₁, d.ActivityStep task.activity d₁ task'.activity ∧
            (d.apply e).registry = d₁.registry ∧ (d.apply e).connectors = d₁.connectors) := by
  have hdropped {u : TaskId} : ∃ task', (d.dropTask u).task? t = some task' ∧
      task'.activity = task.activity := d.task?_dropTask (t := u) ht
  cases e with
  | build backend config drainTimeout healthContext? | trip id | reset id | shift id backend
  | wait duration => exact ⟨task, ht, .inl rfl⟩
  | ask errand =>
    have hold : t ≠ d.nextTask := by
      rintro rfl
      rw [h.task?_nextTask] at ht
      cases ht
    refine ⟨task, ?_, .inl rfl⟩
    rw [Dispatch.apply, h.task?_start, if_neg hold, ht]
  | move u =>
    obtain heq | ⟨other, d₁, a', hu, hgone, hstep, heq⟩ := d.apply_move u
    · rw [heq]
      exact ⟨task, ht, .inl rfl⟩
    · have htasks : d₁.task? = d.task? := by
        funext v
        rw [task?, hstep.tasks_eq.1, task?]
      rw [heq, task?_putTask, htasks]
      by_cases htu : t = u
      · subst htu
        cases ht.symm.trans hu
        rw [if_pos rfl, ht]
        exact ⟨_, rfl, .inr ⟨rfl, hgone, d₁, hstep, rfl, rfl⟩⟩
      · rw [if_neg htu]
        exact ⟨task, ht, .inl rfl⟩
  | leave u =>
    obtain heq | heq := d.abandon_eq u
    · rw [Dispatch.apply, heq]
      exact ⟨task, ht, .inl rfl⟩
    · obtain ⟨task', ht', hsame⟩ := hdropped (u := u)
      rw [Dispatch.apply, heq]
      exact ⟨task', ht', .inl hsame⟩
  | drop u =>
    obtain ⟨task', ht', hsame⟩ := hdropped (u := u)
    exact ⟨task', ht', .inl hsame⟩
  | observe id =>
    refine ⟨task, ?_, .inl rfl⟩
    rw [Dispatch.apply, task?, (d.observe_frame id).1]
    exact ht

/-- Tasks begin only when they are asked for. -/
theorem nextTask_apply (d : Dispatch β) {e : DispatchEvent β} (he : ∀ errand, e ≠ .ask errand) :
    (d.apply e).nextTask = d.nextTask := by
  cases e with
  | ask errand => exact absurd rfl (he errand)
  | build backend config drainTimeout healthContext? | trip id | reset id | shift id backend
  | wait duration => rfl
  | move t =>
    obtain heq | ⟨task, d₁, a', -, -, hstep, heq⟩ := d.apply_move t
    · rw [heq]
    · rw [heq]
      exact hstep.tasks_eq.2.1
  | leave t => exact (d.abandon_frame t).1
  | drop t => exact (d.dropTask_frame t).1
  | observe id => exact (d.observe_frame id).2.1

omit [Backend β] in
private theorem Numbered.lt_nextTask (h : d.Numbered) (ht : d.task? t = some task) :
    t < d.nextTask := by
  obtain ⟨before, after, hsplit, -⟩ := List.lookup_eq_some_iff.mp ht
  have hmem : t ∈ d.tasks.map (·.1) := by
    rw [hsplit]
    exact List.mem_map_of_mem (List.mem_append_right _ List.mem_cons_self)
  exact List.mem_range.mp (h ▸ hmem)

omit [Backend β] in
private theorem Numbered.exists_task (h : d.Numbered) (ht : t < d.nextTask) :
    ∃ task, d.task? t = some task := by
  have hmem : t ∈ d.tasks.map (·.1) := h ▸ List.mem_range.mpr ht
  obtain ⟨x, hx, rfl⟩ := List.mem_map.mp hmem
  refine Option.ne_none_iff_exists'.mp fun hnone ↦ ?_
  exact bne_iff_ne.mp (List.lookup_eq_none_iff.mp hnone x hx) rfl

/-- A task does what it did, took a step, or was just asked for. -/
theorem Numbered.task?_of_apply (h : d.Numbered) {e : DispatchEvent β}
    (ht : (d.apply e).task? t = some task) :
    (∃ task₀, d.task? t = some task₀ ∧ (task.activity = task₀.activity ∨
      e = .move t ∧ ∃ d₁, d.ActivityStep task₀.activity d₁ task.activity ∧
        (d.apply e).registry = d₁.registry ∧ (d.apply e).connectors = d₁.connectors)) ∨
    ∃ errand, e = .ask errand ∧ task.activity = d.activityOf errand := by
  cases h₀ : d.task? t with
  | some task₀ =>
    obtain ⟨task', ht', hsame | ⟨he, -, hstep⟩⟩ := h.task?_apply h₀ e
    · cases ht.symm.trans ht'
      exact .inl ⟨task₀, rfl, .inl hsame⟩
    · cases ht.symm.trans ht'
      exact .inl ⟨task₀, rfl, .inr ⟨he, hstep⟩⟩
  | none =>
    by_cases hasked : ∃ errand, e = .ask errand
    · obtain ⟨errand, rfl⟩ := hasked
      rw [Dispatch.apply, h.task?_start] at ht
      split at ht
      · cases ht
        exact .inr ⟨errand, rfl, rfl⟩
      · cases h₀.symm.trans ht
    · have hnext := d.nextTask_apply fun errand he ↦ hasked ⟨errand, he⟩
      obtain ⟨task₀, ht₀⟩ := h.exists_task (hnext ▸ (h.apply e).lt_nextTask ht)
      cases h₀.symm.trans ht₀

/-- What every step keeps of an activity, and every errand begins with, holds of all of them. -/
theorem Numbered.all_apply (h : d.Numbered) {P : Activity → Prop}
    (hall : ∀ t task, d.task? t = some task → P task.activity) {e : DispatchEvent β}
    (hstep : ∀ a d₁ a', d.ActivityStep a d₁ a' → P a → P a')
    (hask : ∀ errand, e = .ask errand → P (d.activityOf errand)) (t : TaskId) (task : TaskState)
    (ht : (d.apply e).task? t = some task) : P task.activity := by
  obtain ⟨task₀, ht₀, hsame | ⟨-, d₁, hmoved, -⟩⟩ | ⟨errand, he, hbegun⟩ := h.task?_of_apply ht
  · rw [hsame]
    exact hall t task₀ ht₀
  · exact hstep _ _ _ hmoved (hall t task₀ ht₀)
  · rw [hbegun]
    exact hask errand he

end Dispatch

end GuardedDispatch
