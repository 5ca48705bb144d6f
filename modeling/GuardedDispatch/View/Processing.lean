import GuardedDispatch.Processing.Pipeline
import GuardedDispatch.View.Message

/-!
# JSON views of processing contexts and pipelines
-/

namespace GuardedDispatch.View

/-- The members of the view of a retry snapshot. -/
def retryMembers (s : RetrySnapshot) : List (String × Json) :=
  [("attempt", .nat s.attempt), ("max_attempts", .nat s.maxAttempts),
    ("remaining", .nat s.remaining), ("last", .bool s.isLast),
    ("correlation_id", .text s.correlationId), ("failed_stage", .text? s.failedStage?),
    ("next_backoff_ms", .nat s.nextBackoff), ("last_failure", .text? s.lastFailure?)]

/-- The members of the view of a processing context, with a text for diagnostics. -/
def contextMembers (c : ProcessingContext String) (diagnostic : String) : List (String × Json) :=
  [("correlation_id", .text c.correlationId), ("message", .text c.message),
    ("attempt", .nat c.attempt), ("max_attempts", .nat c.maxAttempts),
    ("last", .bool c.isLastAttempt), ("transactional", .bool c.isTransactional),
    ("attributes", dictionary id c.attributes),
    ("retry", optional (fun s => .record (retryMembers s)) c.snapshot?), ("debug", .text diagnostic)]

/-- How a run of a stage ended. -/
def stageOutcome : StageOutcome → Json
  | .success => .record [("result", .text "success")]
  | .failure reason => .record [("result", .text "failure"), ("reason", .text reason)]

/-- A run of a stage. -/
def stageRecord (r : StageRecord) : Json :=
  .record [("stage", .text r.stage), ("attempt", .nat r.attempt), ("open", .bool r.isOpen),
    ("outcome", optional (fun e => stageOutcome e.outcome) r.ending?),
    ("has_duration", .bool r.duration?.isSome)]

/-- An audit trail. -/
def trail (l : List StageRecord) : Json := .list (l.map stageRecord)

/-- A stage's failure. -/
def stageFailure (e : StageFailure) : Json :=
  .record [("message", .text e.message), ("retryable", .bool e.retryable)]

/-- A dead letter. -/
def deadLetter (l : DeadLetter) : Json :=
  .record [("correlation_id", .text l.correlationId), ("stage", .text l.stage.name),
    ("attempts", .nat l.attempts), ("reason", .text l.reason.name), ("error", .text l.error)]

/-- A failed run. -/
def pipelineFailure (e : PipelineFailure) : Json :=
  let common := [("display", Json.text e.display), ("letter", optional deadLetter e.letter?),
    ("sources", texts e.sources)]
  match e with
  | .deadLettered _ cause =>
    .record (("type", .text "dead_lettered") :: ("source", stageFailure cause) :: common)
  | .session e _ => .record (("type", .text "session") :: ("error", failure e) :: common)

/-- The result of a run. -/
def pipelineResult : Except PipelineFailure String → Json
  | .ok payload => .record [("ok", .text payload)]
  | .error e => .record [("err", pipelineFailure e)]

/-- A pipeline's counters. -/
def pipelineStats (s : PipelineStats) : Json :=
  .record [("processed", .nat s.processed), ("completed", .nat s.completed),
    ("retried", .nat s.retried), ("dead_lettered", .nat s.deadLettered),
    ("session_failures", .nat s.sessionFailures), ("success_rate", real s.successRate)]

end GuardedDispatch.View
