import GuardedDispatch.Connector.Failure

/-!
# The stages of a pipeline and their failures
-/

namespace GuardedDispatch

/-- The stages in the order in which a message passes through them. -/
inductive Stage where
  | validate
  | enrich
  | transform
  | route
  | operate
  deriving DecidableEq, Repr, Inhabited

namespace Stage

/-- The stages in order. -/
def all : List Stage := [.validate, .enrich, .transform, .route, .operate]

/-- The stage's name. -/
def name : Stage → String
  | .validate => "validate"
  | .enrich => "enrich"
  | .transform => "transform"
  | .route => "route"
  | .operate => "operate"

/-- The stage's position. -/
def index : Stage → Nat
  | .validate => 0
  | .enrich => 1
  | .transform => 2
  | .route => 3
  | .operate => 4

/-- The constructor-like name of a stage in diagnostics. -/
def label : Stage → String
  | .validate => "Validate"
  | .enrich => "Enrich"
  | .transform => "Transform"
  | .route => "Route"
  | .operate => "Operate"

/-- The stage with a name. -/
def ofName? (s : String) : Option Stage := all.find? (·.name == s)

/-- The stage after this one. -/
def next? : Stage → Option Stage
  | .validate => some .enrich
  | .enrich => some .transform
  | .transform => some .route
  | .route => some .operate
  | .operate => none

/-- The next stage is one position further. -/
theorem index_of_next? {s t : Stage} (h : s.next? = some t) : t.index = s.index + 1 := by
  cases s <;> simp [next?] at h <;> subst h <;> rfl

end Stage

/-- Where a message enters again after a failed attempt. -/
inductive RetryEntry where
  | failingStage
  | start
  deriving DecidableEq, Repr, Inhabited

/-- The entry's name in settings. -/
def RetryEntry.name : RetryEntry → String
  | .failingStage => "failing_stage"
  | .start => "start"

/-- The constructor-like name of an entry in diagnostics. -/
def RetryEntry.label : RetryEntry → String
  | .failingStage => "FailingStage"
  | .start => "Start"

/-- A stage's failure, whether another attempt may get past it, and the texts of what was behind
it. -/
structure StageFailure where
  message : String
  retryable : Bool
  sources : List String := []
  deriving DecidableEq, Repr, Inhabited

/-- A failed call as the failure of the stage that made it. -/
def StageFailure.ofConnector (e : ConnectorFailure) : StageFailure :=
  ⟨e.display, e.isRetryable, e.display :: e.sources⟩

end GuardedDispatch
