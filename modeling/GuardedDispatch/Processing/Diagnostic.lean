import GuardedDispatch.Number.Shortest
import GuardedDispatch.Processing.Pipeline
import GuardedDispatch.Text.Elapsed

/-!
# Pipelines in diagnostics
-/

namespace GuardedDispatch

open Number Text

/-- A backoff in diagnostics. -/
def Backoff.diagnostic (b : Backoff) : String :=
  let cap := b.max?.elim "None" fun m => "Some(" ++ elapsedText m ++ ")"
  s!"Backoff \x7b initial: {elapsedText b.initial}, multiplier: " ++
  b.multiplier.shortestText Binary.diagnosticLayout ++ s!", max: {cap} \x7d"

/-- A pipeline's policy in diagnostics; the stages are a set, shown in order. -/
def PipelinePolicy.diagnostic (p : PipelinePolicy) : String :=
  let stages := (Stage.all.filter p.nonRetryable.contains).map (·.label)
  s!"PipelinePolicy \x7b max_attempts: {p.maxAttempts}, retry_entry: {p.retryEntry.label}, " ++
  "non_retryable_stages: \x7b" ++ String.intercalate ", " stages ++ "\x7d, backoff: " ++
  p.backoff.diagnostic ++ " \x7d"

/-- A pipeline in diagnostics: the stages that have work, its policy, and whether it has a sink. -/
def PipelinePolicy.pipelineDiagnostic (p : PipelinePolicy) (stages : List Stage) (sink : Bool) :
    String :=
  "Pipeline \x7b stages: [" ++ String.intercalate ", " (stages.map fun s => quoted s.name) ++
  "], policy: " ++ p.diagnostic ++ s!", dead_letter_sink: {sink} \x7d"

end GuardedDispatch
