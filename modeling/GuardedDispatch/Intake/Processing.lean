import GuardedDispatch.Intake.Message
import GuardedDispatch.Processing.Rehearsal

/-!
# Pipelines from JSON
-/

namespace GuardedDispatch.Intake

/-- A rehearsed delivery session. -/
def session (v : Json) : RehearsedSession :=
  { commitFailure? := v.textField? "fail_commit", rollbackFailure? := v.textField? "fail_rollback" }

/-- An action of a scripted stage. -/
def stageAction (v : Json) : StageAction where
  sleep := v.natOr "sleep_ms" 0
  attributes := v.members "set"
  append? := v.textField? "append"
  showing? := v.textField? "attr"
  topic? := v.textField? "send"
  failure? := (v.field? "fail").map fun f =>
    match f.textField? "retryable", f.textField? "fatal" with
    | some t, _ => .template true t (f.textField? "source")
    | none, some t => .template false t (f.textField? "source")
    | none, none => .connector (failure f)

/-- A stage's script; its tag is the first letter of the stage's name unless it says so. -/
def stageScript (s : Stage) (v : Json) : StageScript :=
  { tag := v.textOr "tag" (String.ofList (s.name.toList.take 1))
    actions := (v.items "script").map stageAction }

/-- The policy of a pipeline. -/
def pipelinePolicy (v : Json) : PipelinePolicy :=
  let d : PipelinePolicy := {}
  { maxAttempts := max 1 (v.natOr "max_attempts" d.maxAttempts)
    retryEntry := if v.textOr "retry_entry" "" == "start" then .start else d.retryEntry
    nonRetryable := match v.field? "non_retryable_stages" with
      | none => d.nonRetryable
      | some _ => (v.textItems "non_retryable_stages").filterMap Stage.ofName?
    backoff := (v.field? "backoff").elim d.backoff backoff }

end GuardedDispatch.Intake
