import GuardedDispatch.Processing.Context

/-!
# The audit trail of a shared context

A shared context records each start of a stage and how it ended. A stage that ends closes the most
recent of its runs that is still open; records are only ever added, and a closed one stays as it
is.
-/

namespace GuardedDispatch

/-- How a run of a stage ended. -/
inductive StageOutcome where
  | success
  | failure (reason : String)
  deriving DecidableEq, Repr

/-- When a run of a stage ended, and how. -/
structure StageEnd where
  at_ : Int
  outcome : StageOutcome
  deriving DecidableEq, Repr

/-- One run of a stage; it is open until it has an end. -/
structure StageRecord where
  stage : String
  attempt : Nat
  startedAt : Int
  ending? : Option StageEnd := none
  deriving DecidableEq, Repr

namespace StageRecord

/-- Whether the run has not ended. -/
def isOpen (r : StageRecord) : Bool := r.ending?.isNone

/-- How long the run took, once it has ended. -/
def duration? (r : StageRecord) : Option Nat := r.ending?.map fun e => (e.at_ - r.startedAt).toNat

end StageRecord

/-- Closes the first open record of a stage in a list that starts with the most recent one. -/
def closeLatest (stage : String) (e : StageEnd) : List StageRecord → List StageRecord
  | [] => []
  | r :: older =>
    if r.stage = stage ∧ r.isOpen then { r with ending? := some e } :: older
    else r :: closeLatest stage e older

/-- A context with the trail of its stages' runs, in order of their starts. -/
structure SharedContext (μ : Type) where
  context : ProcessingContext μ
  trail : List StageRecord := []

namespace SharedContext

variable {μ : Type}

/-- Records the start of a stage at the attempt that runs. -/
def stageStarted (c : SharedContext μ) (stage : String) (now : Int) : SharedContext μ :=
  { c with trail := c.trail ++ [{ stage, attempt := c.context.attempt, startedAt := now }] }

/-- Records the end of a stage. -/
def stageEnded (c : SharedContext μ) (stage : String) (outcome : StageOutcome) (now : Int) :
    SharedContext μ :=
  { c with trail := (closeLatest stage ⟨now, outcome⟩ c.trail.reverse).reverse }

/-- Records that a stage succeeded. -/
def stageSucceeded (c : SharedContext μ) (stage : String) (now : Int) : SharedContext μ :=
  c.stageEnded stage .success now

/-- Records that a stage failed. -/
def stageFailed (c : SharedContext μ) (stage reason : String) (now : Int) : SharedContext μ :=
  c.stageEnded stage (.failure reason) now

/-- What a stage may do to the context it shares: set attributes and record runs of its own. -/
inductive ContextNote where
  | attribute (name : String) (value : Json)
  | started (stage : String)
  | succeeded (stage : String)
  | failed (stage reason : String)

/-- Carries out one note. -/
def note (c : SharedContext μ) (now : Int) : ContextNote → SharedContext μ
  | .attribute n v => { c with context := c.context.setAttribute n v }
  | .started s => c.stageStarted s now
  | .succeeded s => c.stageSucceeded s now
  | .failed s r => c.stageFailed s r now

/-- Carries out notes in order. -/
def noteAll (c : SharedContext μ) (now : Int) (notes : List ContextNote) : SharedContext μ :=
  notes.foldl (fun c n => c.note now n) c

/-- The runs of one stage. -/
def history (c : SharedContext μ) (stage : String) : List StageRecord :=
  c.trail.filter (·.stage == stage)

/-- The time that the ended runs of one stage took in all. -/
def cumulativeDuration (c : SharedContext μ) (stage : String) : Nat :=
  ((c.history stage).filterMap (·.duration?)).foldl (· + ·) 0

/-- Changes the context and keeps the trail. -/
def mapContext (c : SharedContext μ) (f : ProcessingContext μ → ProcessingContext μ) :
    SharedContext μ :=
  { c with context := f c.context }

/-- The shared context of the next attempt, if one is left; the trail goes on. -/
def nextAttempt? (c : SharedContext μ) (stage cause : String) (backoff : Backoff) (now : Int) :
    Option (SharedContext μ) :=
  (c.context.nextAttempt? stage cause backoff now).map ({ c with context := · })

/-- Retires a shared context in favour of its next attempt; the last one is handed back. The trail
goes on either way. -/
def retire (c : SharedContext μ) (stage cause : String) (backoff : Backoff) (now : Int) :
    Except (SharedContext μ) (SharedContext μ) :=
  match c.context.retire stage cause backoff now with
  | .ok next => .ok { c with context := next }
  | .error last => .error { c with context := last }

/-- The next attempt is the one that a context is retired for. -/
theorem toOption_retire (c : SharedContext μ) (stage cause : String) (backoff : Backoff)
    (now : Int) : (c.retire stage cause backoff now).toOption =
      c.nextAttempt? stage cause backoff now := by
  rw [retire, ProcessingContext.retire, nextAttempt?]
  cases c.context.nextAttempt? stage cause backoff now <;> rfl

/-- The shared context in diagnostics. -/
def diagnostic (c : SharedContext μ) : String :=
  "SharedProcessingContext \x7b context: " ++ c.context.diagnostic ++
  s!", stage_runs: {c.trail.length} \x7d"

end SharedContext

end GuardedDispatch
