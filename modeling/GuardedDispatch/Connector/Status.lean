/-!
# The life of a connector
-/

namespace GuardedDispatch

/-- A connector runs, then drains its calls, then is closed. -/
inductive ConnectorStatus where
  | running
  | closing
  | closed
  deriving DecidableEq, Repr, Inhabited

namespace ConnectorStatus

/-- The status in messages and reports. -/
def name : ConnectorStatus → String
  | .running => "running"
  | .closing => "closing"
  | .closed => "closed"

/-- The constructor-like name of a status in diagnostics. -/
def label : ConnectorStatus → String
  | .running => "Running"
  | .closing => "Closing"
  | .closed => "Closed"

/-- The status's number. -/
def number : ConnectorStatus → Nat
  | .running => 0
  | .closing => 1
  | .closed => 2

/-- The status with a number; an unknown number is read as running. -/
def ofNumber : Nat → ConnectorStatus
  | 1 => .closing
  | 2 => .closed
  | _ => .running

/-- The status with a name. -/
def ofName? (s : String) : Option ConnectorStatus :=
  [running, closing, closed].find? (·.name == s)

/-- A status is read back from its number. -/
@[simp] theorem ofNumber_number (s : ConnectorStatus) : ofNumber s.number = s := by cases s <;> rfl

end ConnectorStatus

end GuardedDispatch
