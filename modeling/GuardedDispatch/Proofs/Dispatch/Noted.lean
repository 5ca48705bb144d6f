import GuardedDispatch.Proofs.Connector.Noted
import GuardedDispatch.Proofs.Dispatch.Events

/-!
# Dispatches whose backends note what their hooks do

Each connector of a dispatch may have a backend that notes the steps of its hooks. Tasks then take
the same steps, so a run of such a dispatch is the run of the one that it stands for.
-/

namespace GuardedDispatch

namespace Dispatch

variable {β : Type}

/-- The dispatch whose backends the noting ones stand for. -/
def bare (d : Dispatch (Noted β)) : Dispatch β :=
  { d with connectors := d.connectors.map Connector.bare }

/-- The steps that the hooks of a connector took. -/
def hooks (d : Dispatch (Noted β)) (id : ConnectorId) : List HookStep :=
  (d.connector? id).elim [] (·.backend.hooks)

@[simp] theorem now_bare (d : Dispatch (Noted β)) : d.bare.now = d.now := rfl
@[simp] theorem registry_bare (d : Dispatch (Noted β)) : d.bare.registry = d.registry := rfl
@[simp] theorem task?_bare (d : Dispatch (Noted β)) : d.bare.task? = d.task? := rfl
@[simp] theorem putTask_bare (d : Dispatch (Noted β)) (t : TaskId) (task : TaskState) :
    d.bare.putTask t task = (d.putTask t task).bare := rfl

@[simp] theorem connector?_bare (d : Dispatch (Noted β)) (id : ConnectorId) :
    d.bare.connector? id = (d.connector? id).map Connector.bare :=
  List.getElem?_map

@[simp] theorem putConnector_bare (d : Dispatch (Noted β)) (id : ConnectorId)
    (c : Connector (Noted β)) : d.bare.putConnector id c.bare = (d.putConnector id c).bare := by
  rw [putConnector, putConnector, bare, bare, List.map_set]

private theorem mapConnector_bare {f : Connector (Noted β) → Connector (Noted β)}
    {g : Connector β → Connector β} (h : ∀ c, g c.bare = (f c).bare) (d : Dispatch (Noted β))
    (id : ConnectorId) : d.bare.mapConnector id g = (d.mapConnector id f).bare := by
  have hmap : (d.connectors.map Connector.bare).modify id g =
      (d.connectors.modify id f).map Connector.bare := by
    refine List.ext_getElem? fun i ↦ ?_
    rw [List.getElem?_modify, List.getElem?_map, List.getElem?_map, List.getElem?_modify]
    cases d.connectors[i]? with
    | none => rfl
    | some c => by_cases hi : id = i <;> simp [hi, h]
  rw [mapConnector, mapConnector, bare, bare, hmap]

private theorem bind_connector?_bare {γ δ : Type}
    {f : Connector (Noted β) → Option (Connector (Noted β) × γ)}
    {g : Connector β → Option (Connector β × γ)}
    (h : ∀ c, g c.bare = (f c).map fun r ↦ (r.1.bare, r.2)) (d : Dispatch (Noted β))
    (id : ConnectorId) (k : γ → δ) :
    ((d.bare.connector? id).bind fun c ↦
        (g c).bind fun r ↦ some (d.bare.putConnector id r.1, k r.2)) =
      ((d.connector? id).bind fun c ↦
        (f c).bind fun r ↦ some (d.putConnector id r.1, k r.2)).map fun r ↦ (r.1.bare, r.2) := by
  rw [connector?_bare]
  cases d.connector? id with
  | none => rfl
  | some c =>
    simp only [Option.map_some, Option.bind_some, h]
    cases f c with
    | none => rfl
    | some r => simp only [Option.map_some, Option.bind_some, putConnector_bare]

variable [Backend β]

private theorem stepParts?_bare (d : Dispatch (Noted β)) (parts : List (ConnectorId × Closing)) :
    d.bare.stepParts? parts = (d.stepParts? parts).map fun r ↦ (r.1.bare, r.2) := by
  induction parts with
  | nil => rfl
  | cons part rest ih =>
    obtain ⟨id, progress⟩ := part
    have hstep : (d.bare.connector? id).bind (·.stepClosing? d.bare.now progress) =
        ((d.connector? id).bind (·.stepClosing? d.now progress)).map fun r ↦ (r.1.bare, r.2) := by
      rw [connector?_bare, now_bare]
      cases d.connector? id with
      | none => rfl
      | some c => exact c.stepClosing?_bare d.now progress
    rw [stepParts?, stepParts?, hstep, ih]
    cases (d.connector? id).bind (·.stepClosing? d.now progress) with
    | none => cases d.stepParts? rest <;> rfl
    | some r => simp only [Option.map_some, putConnector_bare]

private theorem stepActivity?_bare (d : Dispatch (Noted β)) (a : Activity) :
    d.bare.stepActivity? a = (d.stepActivity? a).map fun r ↦ (r.1.bare, r.2) := by
  cases a with
  | refused e => rfl
  | calling id call =>
    exact bind_connector?_bare (fun c ↦ c.stepCall?_bare d.now call) d id (Activity.calling id)
  | probing id probe =>
    exact bind_connector?_bare (fun c ↦ c.stepProbe?_bare d.now probe) d id (Activity.probing id)
  | closing id progress =>
    exact bind_connector?_bare (fun c ↦ c.stepClosing?_bare d.now progress) d id
      (Activity.closing id)
  | registering wanted id =>
    simp only [stepActivity?, connector?_bare, Option.bind_eq_bind, registry_bare]
    cases d.connector? id with
    | none => rfl
    | some c =>
      simp only [Option.map_some, Option.bind_some, Connector.kind_bare]
      cases d.registry.register wanted c.kind id <;> rfl
  | registered r replaced? =>
    cases replaced? with
    | none => rfl
    | some part =>
      exact bind_connector?_bare (fun c ↦ c.stepClosing?_bare d.now part.2) d part.1
        fun progress ↦ Activity.registered r (some (part.1, progress))
  | shuttingDown =>
    simp only [stepActivity?, registry_bare, apply_ite (Option.map _)]
    rfl
  | draining parts =>
    simp only [stepActivity?, stepParts?_bare, Option.bind_eq_bind]
    split
    · rfl
    · cases d.stepParts? parts <;> rfl

private theorem stepTask?_bare (d : Dispatch (Noted β)) (t : TaskId) :
    d.bare.stepTask? t = (d.stepTask? t).map bare := by
  simp only [stepTask?, task?_bare, Option.bind_eq_bind]
  cases d.task? t with
  | none => rfl
  | some task =>
    simp only [Option.bind_some, stepActivity?_bare]
    split
    · rfl
    · cases d.stepActivity? task.activity <;> rfl

omit [Backend β] in
private theorem dropTask_bare (d : Dispatch (Noted β)) (t : TaskId) :
    d.bare.dropTask t = (d.dropTask t).bare := by
  simp only [dropTask, task?_bare, putTask_bare, now_bare]
  cases d.task? t with
  | none => rfl
  | some task =>
    cases hat : task.activity with
    | calling id call =>
      simp only [hat]
      exact mapConnector_bare (f := (·.dropCall call d.now)) (g := (·.dropCall call d.now))
        (fun c ↦ c.dropCall_bare call d.now) (d.putTask t _) id
    | refused _ | probing _ _ | closing _ _ | registering _ _ | registered _ _ | shuttingDown
    | draining _ => simp only [hat]

omit [Backend β] in
private theorem abandon_bare (d : Dispatch (Noted β)) (t : TaskId) :
    d.bare.abandon t = (d.abandon t).bare := by
  simp only [abandon, task?_bare, dropTask_bare]
  cases d.task? t with
  | none => rfl
  | some task => exact (apply_ite bare _ _ _).symm

omit [Backend β] in
private theorem observe_bare (d : Dispatch (Noted β)) (id : ConnectorId) :
    (d.bare.observe id).1 = (d.observe id).1.bare := by
  simp only [Dispatch.observe, connector?_bare]
  cases d.connector? id with
  | none => rfl
  | some c => exact putConnector_bare d id (c.observe d.now).1

/-! ### Runs -/

end Dispatch

/-- The event on backends that note what their hooks do: a new one has noted nothing, and one that
comes into another state by itself keeps what it noted. -/
def DispatchEvent.noted (d : Dispatch (Noted β)) : DispatchEvent β → DispatchEvent (Noted β)
  | .build backend config drainTimeout healthContext? =>
    .build { backend } config drainTimeout healthContext?
  | .ask errand => .ask errand
  | .move t => .move t
  | .leave t => .leave t
  | .drop t => .drop t
  | .observe id => .observe id
  | .trip id => .trip id
  | .reset id => .reset id
  | .shift id backend => .shift id { backend, hooks := d.hooks id }
  | .wait duration => .wait duration

namespace Dispatch

variable {β : Type} [Backend β]

/-- Lets an event happen that is noted. -/
def applyNoted (d : Dispatch (Noted β)) (e : DispatchEvent β) : Dispatch (Noted β) :=
  d.apply (e.noted d)

/-- Lets one event happen after another, all of them noted. -/
def runNoted (d : Dispatch (Noted β)) (events : List (DispatchEvent β)) : Dispatch (Noted β) :=
  events.foldl applyNoted d

/-- A noted run of two parts is the one after the other. -/
theorem runNoted_append (d : Dispatch (Noted β)) (earlier later : List (DispatchEvent β)) :
    d.runNoted (earlier ++ later) = (d.runNoted earlier).runNoted later :=
  List.foldl_append

/-- What every event keeps holds at the end of every noted run. -/
theorem runNoted_keeps {I : Dispatch (Noted β) → Prop} (events : List (DispatchEvent β))
    (hstep : ∀ d, ∀ e ∈ events, I d → I (d.applyNoted e)) {d : Dispatch (Noted β)} (h : I d) :
    I (d.runNoted events) := by
  induction events generalizing d with
  | nil => exact h
  | cons e rest ih =>
    exact ih (fun d e' he' ↦ hstep d e' (List.mem_cons_of_mem e he'))
      (hstep d e List.mem_cons_self h)

private theorem bare_applyNoted (d : Dispatch (Noted β)) (e : DispatchEvent β) :
    (d.applyNoted e).bare = d.bare.apply e := by
  cases e with
  | ask errand | wait duration => rfl
  | build backend config drainTimeout healthContext? =>
    simp only [applyNoted, DispatchEvent.noted, apply, addConnector, bare, List.map_append]
    rfl
  | move t =>
    simp only [applyNoted, DispatchEvent.noted, apply, stepTask?_bare]
    cases d.stepTask? t <;> rfl
  | leave t => exact (abandon_bare d t).symm
  | drop t => exact (dropTask_bare d t).symm
  | observe id => exact (observe_bare d id).symm
  | trip id | reset id | shift id backend => exact (mapConnector_bare (fun _ ↦ rfl) d id).symm

/-- A noted run is the run. -/
theorem bare_runNoted (d : Dispatch (Noted β)) (events : List (DispatchEvent β)) :
    (d.runNoted events).bare = d.bare.run events := by
  induction events generalizing d with
  | nil => rfl
  | cons e rest ih =>
    rw [runNoted, List.foldl_cons, ← runNoted, ih, bare_applyNoted]
    rfl

end Dispatch

end GuardedDispatch
