import GuardedDispatch.Connector.Mock
import GuardedDispatch.Dispatch.Basic
import GuardedDispatch.Processing.Pipeline

/-!
# Rehearsals: scripted stages in a pipeline

A rehearsal surrounds a pipeline with stages that follow scripts, delivery sessions that keep what
was asked of them, and a sink that keeps its letters. A stage may send what it received to the log
connector of a dispatch, whose clock is the clock of the rehearsal.
-/

namespace GuardedDispatch

open Text

/-- How a scripted stage fails: with a text made from a template, or as a failed call. -/
inductive ScriptedFailure where
  | template (retryable : Bool) (text : String) (source? : Option String)
  | connector (failure : ConnectorFailure)

/-- What a scripted stage does at one invocation: sleep, set attributes, add to its payload, show an
attribute, send its input to a topic, and fail. -/
structure StageAction where
  sleep : Nat := 0
  attributes : List (String × Json) := []
  append? : Option String := none
  showing? : Option String := none
  topic? : Option String := none
  failure? : Option ScriptedFailure := none

/-- A stage's actions by invocation, and the tag it adds to its payload when told nothing else. -/
structure StageScript where
  tag : String
  actions : List StageAction := []

/-- A delivery session that fails as told and keeps what was asked of it. -/
structure RehearsedSession where
  commitFailure? : Option String := none
  rollbackFailure? : Option String := none
  events : List String := []

/-- An answer that is a failure if one is given. -/
def answerUnless (failure? : Option String) : Except String Unit := failure?.elim (.ok ()) .error

namespace RehearsedSession

/-- Commits the session. -/
def commit (s : RehearsedSession) : RehearsedSession × Except String Unit :=
  ({ s with events := s.events ++ ["commit"] }, answerUnless s.commitFailure?)

/-- Rolls the session back. -/
def rollback (s : RehearsedSession) : RehearsedSession × Except String Unit :=
  ({ s with events := s.events ++ ["rollback"] }, answerUnless s.rollbackFailure?)

end RehearsedSession

/-- What surrounds a rehearsed pipeline: the dispatch with the clock, how often each stage ran, the
delivery sessions by number, and the letters that reached the sink. -/
structure PipelineRehearsal where
  dispatch : Dispatch StandIn := {}
  invoked : Stage → Nat := fun _ => 0
  sessions : List RehearsedSession := []
  letters : List (String × DeadLetter) := []

/-- Fills a template in with what a stage sees. -/
def fillTemplate (template : String) (c : ProcessingContext String) (payload : String) : String :=
  ((((template.replace "\x7battempt\x7d" (toString c.attempt)).replace "\x7blast\x7d"
    (toString c.isLastAttempt)).replace "\x7bcorr\x7d" c.correlationId).replace
    "\x7bmessage\x7d" c.message).replace "\x7bpayload\x7d" payload

/-- Where records go that stages send. -/
def clusterEndpoint : String := "log://cluster"

namespace StageAction

/-- The output of an action before anything is sent. -/
def output (a : StageAction) (tag : String) (c : ProcessingContext String)
    (payload : String) : String :=
  let shown := a.showing?.elim "" fun name =>
    "[" ++ ((c.attribute? name).elim "-" Json.compact) ++ "]"
  payload ++ (a.append?.elim (">" ++ tag) (fillTemplate · c payload)) ++ shown

/-- What becomes of an action's output: the scripted failure, or the output itself. -/
def outcome (a : StageAction) (c : ProcessingContext String) (payload output : String) :
    Except StageFailure String :=
  match a.failure? with
  | none => .ok output
  | some (.connector e) => .error (.ofConnector e)
  | some (.template retryable text source?) =>
    .error ⟨fillTemplate text c payload, retryable, source?.toList⟩

end StageAction

namespace PipelineRehearsal

/-- Sends a payload to a topic of the log connector; gives what identifies the response. -/
def sendRecord (r : PipelineRehearsal) (topic payload correlationId : String) :
    PipelineRehearsal × Except StageFailure String :=
  let draft := ((({} : LogDraft).topic topic).payload (textBytes payload)).correlationId correlationId
  match draft.build with
  | .error e => (r, .error (.ofConnector e))
  | .ok record =>
    let call := r.dispatch.callFor .log .sync (.log record) { endpoint := clusterEndpoint }
    let (dispatch, done?) := r.dispatch.perform call
    let answer := ((done?.bind Activity.answer?).getD (.ok (.log {}))).mapError StageFailure.ofConnector
    ({ r with dispatch }, answer.map fun response => response.identifier?.getD "")

/-- Runs the next action of a stage's script. -/
def work (stage : Stage) (script : StageScript) (r : PipelineRehearsal)
    (shared : SharedContext String) (payload : String) :
    PipelineRehearsal × List SharedContext.ContextNote × Except StageFailure String :=
  let action := (script.actions[r.invoked stage]?).getD {}
  let r :=
    { r with
      invoked := fun s => if s = stage then r.invoked s + 1 else r.invoked s
      dispatch := if action.sleep = 0 then r.dispatch else World.pass r.dispatch action.sleep }
  let notes := action.attributes.map fun (n, v) => SharedContext.ContextNote.attribute n v
  let c := (shared.noteAll 0 notes).context
  let output := action.output script.tag c payload
  match action.topic? with
  | none => (r, notes, action.outcome c payload output)
  | some topic =>
    match r.sendRecord topic payload c.correlationId with
    | (r, .error e) => (r, notes, .error e)
    | (r, .ok identifier) =>
      (r, notes, action.outcome c payload (output ++ "@" ++ identifier))

/-- Asks something of a session. -/
def ask (r : PipelineRehearsal) (session : DeliverySession)
    (question : RehearsedSession → RehearsedSession × Except String Unit) :
    PipelineRehearsal × Except String Unit :=
  match r.sessions[session.id]? with
  | none => (r, .ok ())
  | some s =>
    let (s, answer) := question s
    ({ r with sessions := r.sessions.set session.id s }, answer)

/-- The surroundings of a pipeline with scripted stages, and with a sink if told so. -/
def surroundings (scripts : Stage → Option StageScript) (sink : Bool) :
    Surroundings PipelineRehearsal String String where
  work? stage := (scripts stage).map (work stage)
  now r := r.dispatch.now
  sleep r wait := { r with dispatch := World.pass r.dispatch wait }
  commit r session := r.ask session RehearsedSession.commit
  rollback r session := r.ask session RehearsedSession.rollback
  report? :=
    if sink then
      some fun r message letter => ({ r with letters := r.letters ++ [(message, letter)] }, .ok ())
    else none

end PipelineRehearsal

end GuardedDispatch
