/-!
# The three states of a circuit breaker
-/

namespace GuardedDispatch

/-- Closed lets calls through, open refuses them, half-open lets a few probes through. -/
inductive CircuitState where
  | closed
  | opened
  | halfOpen
  deriving DecidableEq, Repr, Inhabited

namespace CircuitState

/-- The state's name in messages and metrics. -/
def name : CircuitState → String
  | .closed => "closed"
  | .opened => "open"
  | .halfOpen => "half_open"

/-- The state's number in a gauge. -/
def number : CircuitState → Nat
  | .closed => 0
  | .opened => 1
  | .halfOpen => 2

/-- The state with a number; an unknown number is read as closed. -/
def ofNumber : Nat → CircuitState
  | 1 => .opened
  | 2 => .halfOpen
  | _ => .closed

/-- A state is read back from its number. -/
@[simp] theorem ofNumber_number (s : CircuitState) : ofNumber s.number = s := by cases s <;> rfl

end CircuitState

end GuardedDispatch
