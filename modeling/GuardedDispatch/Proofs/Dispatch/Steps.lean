import GuardedDispatch.Dispatch.Basic
import GuardedDispatch.Proofs.Connector.Life

/-!
# What a step of a task does

A task takes a step by what it does: a call or a probe moves on in its connector, a registration is
accepted or turned down, a shutdown empties the registry or comes too late, and a connector that has
to be closed gets further with that. One relation names these steps, with everything each can rely
on and everything it changes; no other task is touched.
-/

namespace GuardedDispatch

/-! ### What activities are about -/

namespace Activity

/-- The connectors that an activity closes, and how far it is with each. -/
def parts : Activity → List (ConnectorId × Closing)
  | .closing id progress => [(id, progress)]
  | .registered _ replaced? => replaced?.toList
  | .draining parts => parts
  | _ => []

/-- What an activity wants to register, and for which kind. -/
def wants? : Activity → Option (ConnectorType × ConnectorId)
  | .registering wanted id => some (wanted, id)
  | _ => none

/-- An activity gets further with one of the connectors it closes. -/
inductive PartStep (part part' : ConnectorId × Closing) : Activity → Activity → Prop
  | alone : PartStep part part' (.closing part.1 part.2) (.closing part'.1 part'.2)
  | replaced (r : Except ConnectorFailure Unit) :
      PartStep part part' (.registered r (some part)) (.registered r (some part'))
  | among (before after : List (ConnectorId × Closing)) :
      PartStep part part' (.draining (before ++ part :: after))
        (.draining (before ++ part' :: after))

variable {part part' : ConnectorId × Closing} {a a' : Activity}

/-- It gets no further with the others. -/
theorem PartStep.parts_eq (h : PartStep part part' a a') :
    ∃ before after, a.parts = before ++ part :: after ∧ a'.parts = before ++ part' :: after := by
  cases h with
  | alone | replaced r => exact ⟨[], [], rfl, rfl⟩
  | among before after => exact ⟨before, after, rfl, rfl⟩

/-- What was registered stays so, and nothing else is wanted, asked or drained. -/
theorem PartStep.same (h : PartStep part part' a a') :
    a'.registration? = a.registration? ∧ a.wants? = none ∧ a'.wants? = none ∧
      a'.answer? = a.answer? := by
  cases h with
  | alone | replaced r | among before after => exact ⟨rfl, rfl, rfl, rfl⟩

end Activity

/-! ### Registrations -/

namespace Registry

variable {r registry : Registry} {wanted serves : ConnectorType} {id : ConnectorId}
  {previous? : Option ConnectorId}

/-- A connector is accepted only for its kind and before the shutdown, and then it alone serves
this kind. -/
theorem eq_put_of_register (h : r.register wanted serves id = .ok (registry, previous?)) :
    serves = wanted ∧ r.shutDown = false ∧ registry = r.put wanted id ∧
      previous? = r.get? wanted := by
  unfold register at h
  split at h
  · cases h
  · next hkind =>
    split at h
    · cases h
    · next hopen =>
      cases h
      exact ⟨not_not.mp hkind, Bool.eq_false_iff.mpr hopen, rfl, rfl⟩

/-- The failure of registering a connector after the shutdown: it comes too late, unless it is of
another kind in the first place. -/
def refusal (serves wanted : ConnectorType) : ConnectorFailure :=
  if serves = wanted then tooLate wanted else wrongKind serves wanted

/-- After the shutdown every connector is turned down. -/
theorem register_of_shutDown (h : r.shutDown = true) (wanted serves : ConnectorType)
    (id : ConnectorId) : r.register wanted serves id = .error (refusal serves wanted) := by
  unfold register refusal
  by_cases hkind : serves = wanted
  · rw [if_neg (not_not.mpr hkind), if_pos h, if_pos hkind]
  · rw [if_pos hkind, if_neg hkind]

end Registry

namespace Dispatch

variable {β : Type} {d d' : Dispatch β} {a a' : Activity} {t u : TaskId} {task : TaskState}
  {id other : ConnectorId} {c : Connector β}

/-! ### Connectors -/

/-- A connector that is put back is found where it was. -/
theorem connector?_putConnector_self (hc : d.connector? id = some c) (c' : Connector β) :
    (d.putConnector id c').connector? id = some c' :=
  List.getElem?_set_self (List.getElem?_eq_some_iff.mp hc).1

/-- Putting back a connector leaves the others alone. -/
theorem connector?_putConnector_ne (h : id ≠ other) (d : Dispatch β) (c' : Connector β) :
    (d.putConnector id c').connector? other = d.connector? other :=
  List.getElem?_set_ne h

/-! ### Tasks -/

/-- A task that is put back is found where it was, and the others as they were. -/
theorem task?_putTask (d : Dispatch β) (t : TaskId) (task : TaskState) (u : TaskId) :
    (d.putTask t task).task? u =
      if u = t then (d.task? t).map fun _ ↦ task else d.task? u := by
  unfold task? putTask
  induction d.tasks with
  | nil => split <;> rfl
  | cons x rest ih =>
    obtain ⟨v, other⟩ := x
    by_cases hv : v = t
    · subst hv
      simp only [List.map_cons, if_true, List.lookup_cons]
      by_cases hu : u = v
      · simp [hu]
      · rw [if_neg hu] at ih ⊢
        rw [beq_false_of_ne hu]
        exact ih
    · simp only [List.map_cons, if_neg hv, List.lookup_cons]
      by_cases hu : u = v
      · simp [hu, hv]
      · have hother : (t == v) = false := beq_false_of_ne (Ne.symm hv)
        rw [beq_false_of_ne hu, hother]
        exact ih

/-- Tasks are numbered as they begin. -/
def Numbered (d : Dispatch β) : Prop := d.tasks.map (·.1) = List.range d.nextTask

/-- A new dispatch has no tasks. -/
theorem numbered_new (start : Nat) : ({ now := start } : Dispatch β).Numbered := rfl

/-- Putting back a task keeps the numbers. -/
theorem Numbered.putTask (h : d.Numbered) (t : TaskId) (task : TaskState) :
    (d.putTask t task).Numbered := by
  have hkeys : (d.putTask t task).tasks.map (·.1) = d.tasks.map (·.1) := by
    rw [Dispatch.putTask, List.map_map]
    refine List.map_congr_left fun x _ ↦ ?_
    by_cases hx : x.1 = t
    · simp [hx]
    · simp [hx]
  exact hkeys.trans h

/-- Beginning a task keeps the numbers. -/
theorem Numbered.start (h : d.Numbered) (a : Activity) : (d.start a).1.Numbered := by
  rw [Numbered, Dispatch.start, List.map_append, h, List.range_succ]
  rfl

/-- No task has the next number. -/
theorem Numbered.task?_nextTask (h : d.Numbered) : d.task? d.nextTask = none := by
  rw [task?, List.lookup_eq_none_iff]
  intro x hx
  have hlt := List.mem_range.mp (h ▸ List.mem_map_of_mem hx)
  exact bne_iff_ne.mpr (Nat.ne_of_gt hlt)

/-- A task that begins is found under its number, and the others as they were. -/
theorem Numbered.task?_start (h : d.Numbered) (a : Activity) (u : TaskId) :
    (d.start a).1.task? u = if u = d.nextTask then some { activity := a } else d.task? u := by
  rw [task?, Dispatch.start, List.lookup_append]
  by_cases hu : u = d.nextTask
  · rw [hu, if_pos rfl]
    have hnone := h.task?_nextTask
    rw [task?] at hnone
    rw [hnone, List.lookup_cons_self]
    rfl
  · rw [if_neg hu, List.lookup_cons, beq_false_of_ne hu, List.lookup_nil, Option.or_none]
    rfl

/-- A task stands somewhere among the others, and only it changes when it is put back. -/
theorem Numbered.exists_tasks (h : d.Numbered) (ht : d.task? t = some task) :
    ∃ before after, d.tasks = before ++ (t, task) :: after ∧
      ∀ task', (d.putTask t task').tasks = before ++ (t, task') :: after := by
  obtain ⟨before, after, hsplit, hbefore⟩ := List.lookup_eq_some_iff.mp ht
  refine ⟨before, after, hsplit, fun task' ↦ ?_⟩
  have hkeys : (d.tasks.map (·.1)).Nodup := h ▸ List.nodup_range
  rw [hsplit, List.map_append, List.map_cons, List.nodup_append] at hkeys
  have hafter : t ∉ after.map (·.1) := (List.nodup_cons.mp hkeys.2.1).1
  have hkept {l : List (TaskId × TaskState)} (hl : ∀ x ∈ l, x.1 ≠ t) :
      l.map (fun x ↦ if x.1 = t then (x.1, task') else (x.1, x.2)) = l :=
    (List.map_congr_left fun x hx ↦ if_neg (hl x hx)).trans (List.map_id l)
  have hput : (d.putTask t task').tasks =
      d.tasks.map fun x ↦ if x.1 = t then (x.1, task') else (x.1, x.2) := rfl
  rw [hput, hsplit, List.map_append, List.map_cons, if_pos rfl,
    hkept fun x hx ↦ Ne.symm (bne_iff_ne.mp (hbefore x hx)),
    hkept fun x hx he ↦ hafter (he ▸ List.mem_map_of_mem hx)]

/-! ### Steps -/

variable [Backend β]

/-- What a step of an activity does to the dispatch and to the activity. -/
inductive ActivityStep (d : Dispatch β) : Activity → Dispatch β → Activity → Prop
  | called {id : ConnectorId} {call call' : ConnectorCall} {c c' : Connector β}
      (hc : d.connector? id = some c) (hstep : c.CallStep d.now call c' call') :
      ActivityStep d (.calling id call) (d.putConnector id c') (.calling id call')
  | probed {id : ConnectorId} {p p' : Probe} {c c' : Connector β}
      (hc : d.connector? id = some c) (hstep : c.stepProbe? d.now p = some (c', p')) :
      ActivityStep d (.probing id p) (d.putConnector id c') (.probing id p')
  | turnedDown {wanted : ConnectorType} {id : ConnectorId} {c : Connector β} {e : ConnectorFailure}
      (hc : d.connector? id = some c) (hr : d.registry.register wanted c.kind id = .error e) :
      ActivityStep d (.registering wanted id) d (.registered (.error e) none)
  | accepted {wanted : ConnectorType} {id : ConnectorId} {c : Connector β} {registry : Registry}
      {previous? : Option ConnectorId} (hc : d.connector? id = some c)
      (hr : d.registry.register wanted c.kind id = .ok (registry, previous?)) :
      ActivityStep d (.registering wanted id) { d with registry }
        (.registered (.ok ()) (previous?.map (·, .arriving)))
  | emptied (hopen : d.registry.shutDown = false) :
      ActivityStep d .shuttingDown { d with registry := d.registry.emptied }
        (.draining (d.registry.connectors.map (·, .arriving)))
  | tooLate (hshut : d.registry.shutDown = true) : ActivityStep d .shuttingDown d (.draining [])
  | closed {a a' : Activity} {id : ConnectorId} {progress progress' : Closing} {c c' : Connector β}
      (hc : d.connector? id = some c) (hstep : c.CloseStep d.now progress c' progress')
      (hpart : a.PartStep (id, progress) (id, progress') a') :
      ActivityStep d a (d.putConnector id c') a'

private theorem exists_part_of_stepParts? {parts parts' : List (ConnectorId × Closing)}
    (h : d.stepParts? parts = some (d', parts')) :
    ∃ before after id progress progress' c c', parts = before ++ (id, progress) :: after ∧
      parts' = before ++ (id, progress') :: after ∧ d.connector? id = some c ∧
        c.CloseStep d.now progress c' progress' ∧ d' = d.putConnector id c' := by
  induction parts generalizing parts' with
  | nil => cases h
  | cons part rest ih =>
    obtain ⟨id, progress⟩ := part
    rw [stepParts?] at h
    split at h
    · next c' progress' hstep =>
      obtain ⟨c, hc, hstep⟩ := Option.bind_eq_some_iff.mp hstep
      cases h
      exact ⟨[], rest, id, progress, progress', c, c', rfl, rfl, hc,
        Connector.closeStep_of_stepClosing? hstep, rfl⟩
    · obtain ⟨⟨d₁, rest'⟩, hrest, heq⟩ := Option.map_eq_some_iff.mp h
      cases heq
      obtain ⟨before, after, id', progress₁, progress', c, c', rfl, rfl, hc, hstep, hput⟩ :=
        ih hrest
      exact ⟨(id, progress) :: before, after, id', progress₁, progress', c, c', rfl, rfl, hc, hstep,
        hput⟩

/-- Every step of an activity is one of the seven. -/
theorem activityStep_of_stepActivity? (h : d.stepActivity? a = some (d', a')) :
    d.ActivityStep a d' a' := by
  have hclose {id : ConnectorId} {progress : Closing} {r : Connector β × Closing}
      (hr : ((d.connector? id).bind fun c ↦ c.stepClosing? d.now progress) = some r) :
      ∃ c, d.connector? id = some c ∧ c.CloseStep d.now progress r.1 r.2 := by
    obtain ⟨c, hc, hstep⟩ := Option.bind_eq_some_iff.mp hr
    exact ⟨c, hc, Connector.closeStep_of_stepClosing? hstep⟩
  cases a with
  | calling id call =>
    simp only [stepActivity?, Option.bind_eq_bind, Option.bind_eq_some_iff] at h
    obtain ⟨c, hc, ⟨c', call'⟩, hstep, h⟩ := h
    cases h
    exact .called hc (Connector.callStep_of_stepCall? hstep)
  | refused e => cases h
  | probing id p =>
    simp only [stepActivity?, Option.bind_eq_bind, Option.bind_eq_some_iff] at h
    obtain ⟨c, hc, ⟨c', p'⟩, hstep, h⟩ := h
    cases h
    exact .probed hc hstep
  | closing id progress =>
    simp only [stepActivity?, Option.bind_eq_bind, Option.bind_eq_some_iff] at h
    obtain ⟨c, hc, ⟨c', progress'⟩, hstep, h⟩ := h
    cases h
    exact .closed hc (Connector.closeStep_of_stepClosing? hstep) .alone
  | registering wanted id =>
    simp only [stepActivity?, Option.bind_eq_bind, Option.bind_eq_some_iff] at h
    obtain ⟨c, hc, h⟩ := h
    split at h
    · next e hr =>
      cases h
      exact .turnedDown hc hr
    · next registry previous? hr =>
      cases h
      exact .accepted hc hr
  | registered r replaced? =>
    cases replaced? with
    | none => cases h
    | some part =>
      obtain ⟨id, progress⟩ := part
      simp only [stepActivity?, Option.bind_eq_bind, Option.bind_eq_some_iff] at h
      obtain ⟨c, hc, ⟨c', progress'⟩, hstep, h⟩ := h
      cases h
      exact .closed hc (Connector.closeStep_of_stepClosing? hstep) (.replaced r)
  | shuttingDown =>
    simp only [stepActivity?] at h
    split at h
    · next hshut =>
      cases h
      exact .tooLate hshut
    · next hopen =>
      cases h
      exact .emptied (Bool.eq_false_iff.mpr hopen)
  | draining parts =>
    rw [stepActivity?] at h
    split at h
    · cases h
    obtain ⟨⟨d₁, parts'⟩, hstep, h⟩ := Option.bind_eq_some_iff.mp h
    cases h
    obtain ⟨before, after, id, progress, progress', c, c', rfl, rfl, hc, hclosed, rfl⟩ :=
      exists_part_of_stepParts? hstep
    exact .closed hc hclosed (.among before after)

/-- A task that takes a step is there, was not taken away, and its activity takes the step. -/
theorem activityStep_of_stepTask? (h : d.stepTask? t = some d') :
    ∃ task d₁ a', d.task? t = some task ∧ task.gone = false ∧
      d.ActivityStep task.activity d₁ a' ∧
        d' = d₁.putTask t
          { task with activity := a', endedAt? := if a'.isOver then some d₁.now else none } := by
  simp only [stepTask?, Option.bind_eq_bind, Option.bind_eq_some_iff] at h
  obtain ⟨task, ht, h⟩ := h
  split at h
  · cases h
  · next hgone =>
    obtain ⟨⟨d₁, a'⟩, hstep, h⟩ := Option.bind_eq_some_iff.mp h
    cases h
    exact ⟨task, d₁, a', ht, Bool.eq_false_iff.mpr hgone, activityStep_of_stepActivity? hstep, rfl⟩

/-- A step of an activity begins no task, touches none, and takes no time. -/
theorem ActivityStep.tasks_eq (h : d.ActivityStep a d' a') :
    d'.tasks = d.tasks ∧ d'.nextTask = d.nextTask ∧ d'.now = d.now := by
  cases h with
  | called hc hstep | probed hc hstep | turnedDown hc hr | accepted hc hr | emptied hopen
  | tooLate hshut | closed hc hstep hpart => exact ⟨rfl, rfl, rfl⟩

end Dispatch

end GuardedDispatch
