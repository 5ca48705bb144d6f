/-!
# The kinds of backend

A connector serves one kind of backend; requests, responses, settings and metrics are filed under
that kind.
-/

namespace GuardedDispatch

/-- A kind of backend. -/
inductive ConnectorType where
  | http
  | queue
  | log
  | graphQuery
  deriving DecidableEq, Repr, Inhabited

namespace ConnectorType

/-- The kinds in declaration order. -/
def all : List ConnectorType := [.http, .queue, .log, .graphQuery]

/-- The name of a kind in messages, settings and metrics. -/
def name : ConnectorType → String
  | .http => "http"
  | .queue => "queue"
  | .log => "log"
  | .graphQuery => "graph_query"

/-- The constructor-like name of a kind in diagnostics. -/
def label : ConnectorType → String
  | .http => "Http"
  | .queue => "Queue"
  | .log => "Log"
  | .graphQuery => "GraphQuery"

/-- The position of a kind in declaration order. -/
def index : ConnectorType → Nat
  | .http => 0
  | .queue => 1
  | .log => 2
  | .graphQuery => 3

/-- The name of the breaker of a kind's connector. -/
def breakerName (t : ConnectorType) : String := t.name ++ "-circuit-breaker"

/-- The kind with exactly this name. -/
def ofName? (s : String) : Option ConnectorType := all.find? (·.name == s)

/-- A name as users write it: capitals and hyphens are accepted. -/
def normalized (s : String) : String :=
  s.map fun c => if c = '-' then '_' else c.toLower

/-- Reads a kind as users write it, with two shorter spellings of the last one. -/
def parse (s : String) : Except String ConnectorType :=
  let n := normalized s
  if n = "graphquery" ∨ n = "graph" then .ok .graphQuery
  else match ofName? n with
    | some t => .ok t
    | none =>
      .error s!"unknown connector type '{n}' (expected one of: http, queue, log, graph_query)"

/-- Every kind is listed. -/
theorem mem_all (t : ConnectorType) : t ∈ all := by cases t <;> decide

/-- Names tell kinds apart. -/
theorem name_injective {a b : ConnectorType} (h : a.name = b.name) : a = b := by
  cases a <;> cases b <;> first | rfl | (exact absurd h (by decide))

/-- A kind is read back from its name. -/
@[simp] theorem ofName?_name (t : ConnectorType) : ofName? t.name = some t := by cases t <;> decide

end ConnectorType

end GuardedDispatch
