import GuardedDispatch.Connector.Call
import GuardedDispatch.Connector.Closing
import GuardedDispatch.Connector.Probe
import GuardedDispatch.Dispatch.Registry
import GuardedDispatch.Schedule

/-!
# Dispatch: connectors, their registry, and what goes on in them

A dispatch holds connectors, a registry that routes to them, and tasks: calls, probes, closes,
registrations and shutdowns, each a value that says where it stands. `Dispatch.step?` moves one
task by one step; everything that happens concurrently is an order of such steps.
-/

namespace GuardedDispatch

/-- What a task does. -/
inductive Activity where
  | calling (target : ConnectorId) (call : ConnectorCall)
  | refused (failure : ConnectorFailure)
  | probing (target : ConnectorId) (probe : Probe)
  | closing (target : ConnectorId) (progress : Closing)
  | registering (wanted : ConnectorType) (target : ConnectorId)
  | registered (result : Except ConnectorFailure Unit) (replaced? : Option (ConnectorId × Closing))
  | shuttingDown
  | draining (parts : List (ConnectorId × Closing))

/-- A task: what it does, when it came to its end, and whether it was taken away. -/
structure TaskState where
  activity : Activity
  endedAt? : Option Nat := none
  gone : Bool := false

/-- Connectors, the registry, the tasks in the order in which they began to wait, and the clock. -/
structure Dispatch (β : Type) where
  now : Nat := 0
  connectors : List (Connector β) := []
  registry : Registry := {}
  tasks : List (TaskId × TaskState) := []
  nextTask : TaskId := 0

namespace Activity

/-- Whether nothing is left to do. -/
def isOver : Activity → Bool
  | .calling _ call => call.answer?.isSome
  | .refused _ => true
  | .probing _ probe => probe.verdict?.isSome
  | .closing _ progress => progress == .done
  | .registering .. | .shuttingDown => false
  | .registered _ replaced? => replaced?.all (·.2 == .done)
  | .draining parts => parts.all (·.2 == .done)

/-- The answer of a call that has one. -/
def answer? : Activity → Option (Except ConnectorFailure Response)
  | .calling _ call => call.answer?
  | .refused e => some (.error e)
  | _ => none

/-- The verdict of a probe that has one. -/
def verdict? : Activity → Option Bool
  | .probing _ probe => probe.verdict?
  | _ => none

/-- The result of a registration that has one. -/
def registration? : Activity → Option (Except ConnectorFailure Unit)
  | .registered r _ => some r
  | _ => none

/-- Whether the activity runs on a task of its own, so that it goes on when its caller leaves. -/
def isDetached : Activity → Bool
  | .calling _ call => call.mode != .sync
  | _ => false

end Activity

/-- Whether one of several closes broke off. -/
def anyBrokenOff (parts : List (ConnectorId × Closing)) : Bool := parts.any (·.2 == .brokenOff)

namespace Dispatch

variable {β : Type} [Backend β]

/-- The connector with a number. -/
def connector? (d : Dispatch β) (id : ConnectorId) : Option (Connector β) := d.connectors[id]?

/-- Replaces a connector. -/
def putConnector (d : Dispatch β) (id : ConnectorId) (c : Connector β) : Dispatch β :=
  { d with connectors := d.connectors.set id c }

/-- Changes a connector. -/
def mapConnector (d : Dispatch β) (id : ConnectorId) (f : Connector β → Connector β) : Dispatch β :=
  { d with connectors := d.connectors.modify id f }

/-- The task with a number. -/
def task? (d : Dispatch β) (t : TaskId) : Option TaskState := d.tasks.lookup t

/-- Replaces a task. -/
def putTask (d : Dispatch β) (t : TaskId) (task : TaskState) : Dispatch β :=
  { d with tasks := d.tasks.map fun (u, other) => if u = t then (u, task) else (u, other) }

/-- Adds a connector. -/
def addConnector (d : Dispatch β) (c : Connector β) : Dispatch β × ConnectorId :=
  ({ d with connectors := d.connectors ++ [c] }, d.connectors.length)

/-- Begins an activity on a task of its own. -/
def start (d : Dispatch β) (a : Activity) : Dispatch β × TaskId :=
  ({ d with tasks := d.tasks ++ [(d.nextTask, { activity := a })], nextTask := d.nextTask + 1 },
    d.nextTask)

/-- Closes the first of several connectors that has something to do; `none` while all of them have
to wait and once all are closed. -/
def stepParts? (d : Dispatch β) :
    List (ConnectorId × Closing) → Option (Dispatch β × List (ConnectorId × Closing))
  | [] => none
  | (id, closing) :: rest =>
    match (d.connector? id).bind (·.stepClosing? d.now closing) with
    | some (c, closing) => some (d.putConnector id c, (id, closing) :: rest)
    | none => (d.stepParts? rest).map fun (d, rest) => (d, (id, closing) :: rest)

/-- Moves an activity by one step; `none` while it has to wait and once it is over. -/
def stepActivity? (d : Dispatch β) : Activity → Option (Dispatch β × Activity)
  | .calling id call => do
    let (c, call) ← (← d.connector? id).stepCall? d.now call
    some (d.putConnector id c, .calling id call)
  | .refused _ => none
  | .probing id probe => do
    let (c, probe) ← (← d.connector? id).stepProbe? d.now probe
    some (d.putConnector id c, .probing id probe)
  | .closing id closing => do
    let (c, closing) ← (← d.connector? id).stepClosing? d.now closing
    some (d.putConnector id c, .closing id closing)
  | .registering wanted id => do
    let c ← d.connector? id
    match d.registry.register wanted c.kind id with
    | .error e => some (d, .registered (.error e) none)
    | .ok (registry, previous?) =>
      some ({ d with registry }, .registered (.ok ()) (previous?.map (·, .arriving)))
  | .registered _ none => none
  | .registered r (some (id, closing)) => do
    let (c, closing) ← (← d.connector? id).stepClosing? d.now closing
    some (d.putConnector id c, .registered r (some (id, closing)))
  | .shuttingDown =>
    if d.registry.shutDown then some (d, .draining [])
    else
      some ({ d with registry := d.registry.emptied },
        .draining (d.registry.connectors.map (·, .arriving)))
  | .draining parts =>
    -- the parts of a shutdown are one task, which ends where one of them fails
    if anyBrokenOff parts then none
    else do
      let (d, parts) ← d.stepParts? parts
      some (d, .draining parts)

/-- Moves a task by one step; `none` while it has to wait, once it is over, and once it was taken
away. -/
def stepTask? (d : Dispatch β) (t : TaskId) : Option (Dispatch β) := do
  let task ← d.task? t
  if task.gone then none
  let (d, activity) ← d.stepActivity? task.activity
  some (d.putTask t
    { task with activity, endedAt? := if activity.isOver then some d.now else none })

/-- The next moment at which a waiting activity moves by itself. -/
def activityWakeAt? (d : Dispatch β) : Activity → Option Nat
  | .calling id call => do (← d.connector? id).callWakeAt? call
  | .probing _ probe => probe.wakeAt?
  | .closing _ closing => closing.wakeAt?
  | .registered _ replaced? => do (← replaced?).2.wakeAt?
  | .draining parts =>
    if anyBrokenOff parts then none else (parts.filterMap (·.2.wakeAt?)).min?
  | .refused _ | .registering .. | .shuttingDown => none

instance : World (Dispatch β) where
  now := Dispatch.now
  setNow d time := { d with now := time }
  tasks d := d.tasks.map (·.1)
  requeue d t :=
    { d with tasks := d.tasks.filter (·.1 != t) ++ d.tasks.filter (·.1 == t) }
  step? := stepTask?
  wakeAt? d t := do
    let task ← d.task? t
    if task.gone then none else d.activityWakeAt? task.activity

/-- Whether a task has come to its end or was taken away. -/
def isOver (d : Dispatch β) (t : TaskId) : Bool :=
  (d.task? t).all fun task => task.gone || task.activity.isOver

/-- A task in diagnostics, as its caller holds it. -/
def taskDiagnostic (d : Dispatch β) (t : TaskId) : String :=
  "ConnectorFuture \x7b finished: " ++ toString (d.isOver t) ++ " \x7d"

/-- Takes a task away where it stands. -/
def dropTask (d : Dispatch β) (t : TaskId) : Dispatch β :=
  match d.task? t with
  | none => d
  | some task =>
    let d := d.putTask t { task with gone := true }
    match task.activity with
    | .calling id call => d.mapConnector id (·.dropCall call d.now)
    | _ => d

/-- The caller of a task leaves: what runs on a task of its own goes on, all else is taken away. -/
def abandon (d : Dispatch β) (t : TaskId) : Dispatch β :=
  match d.task? t with
  | some task => if task.activity.isDetached || task.activity.isOver then d else d.dropTask t
  | none => d

/-- The activity of a call to the connector that serves a kind. -/
def callFor (d : Dispatch β) (wanted : ConnectorType) (mode : SendMode) (request : Request)
    (context : CallContext) : Activity :=
  match d.registry.get? wanted with
  | some id => .calling id { mode, request, context }
  | none => .refused (Registry.missing wanted mode.operation)

/-- What the caller that waits for a task does itself: all but detached activities. -/
def foreground (d : Dispatch β) (t : TaskId) : List TaskId :=
  match d.task? t with
  | some task => if task.activity.isDetached then [] else [t]
  | none => []

/-- Begins an activity and lets time pass until it is over. -/
def perform (d : Dispatch β) (a : Activity) : Dispatch β × Option Activity :=
  let (d, t) := d.start a
  let d := World.await d (d.foreground t) (·.isOver t)
  (d, (d.task? t).map (·.activity))

/-- Probes the connector that serves a kind; a kind that nobody serves is not healthy. -/
def probe (d : Dispatch β) (wanted : ConnectorType) (context : CallContext) : Dispatch β × Bool :=
  match d.registry.get? wanted with
  | none => (d, false)
  | some id =>
    let (d, done?) := d.perform (.probing id { context })
    (d, (done?.bind Activity.verdict?).getD false)

/-- Begins a probe of the connector that serves a kind in its own context, or in the local one if
it has none. -/
def startOwnProbe (d : Dispatch β) (t : ConnectorType) :
    Dispatch β × Option (ConnectorType × TaskId) :=
  match d.registry.get? t with
  | none => (d, none)
  | some id =>
    let context := ((d.connector? id).bind (·.healthContext?)).getD (.local_ t)
    let (d, task) := d.start (.probing id { context })
    (d, some (t, task))

/-- Probes every registered connector at once and lets time pass until all have answered. -/
def probeAll (d : Dispatch β) : Dispatch β × (ConnectorType → Option Bool) :=
  let (d, probes) := ConnectorType.all.foldl (fun (d, probes) t =>
    let (d, probe?) := d.startOwnProbe t
    (d, probes ++ probe?.toList)) (d, [])
  let d := World.await d (probes.map (·.2)) fun d => probes.all fun (_, task) => d.isOver task
  (d, fun t => do ((← d.task? (← probes.lookup t)).activity).verdict?)

/-- Looks at the counters of a connector. -/
def observe (d : Dispatch β) (id : ConnectorId) : Dispatch β × Option ConnectorMetrics :=
  match d.connector? id with
  | none => (d, none)
  | some c =>
    let (c, m) := c.observe d.now
    (d.putConnector id c, some m)

/-- Looks at the counters of every registered connector. -/
def observeAll (d : Dispatch β) : Dispatch β × MetricsByKind :=
  d.registry.connectors.foldl (fun (d, seen) id =>
    let (d, m?) := d.observe id
    (d, fun t => (m?.filter (·.kind == t)) <|> seen t)) (d, fun _ => none)

end Dispatch

end GuardedDispatch
