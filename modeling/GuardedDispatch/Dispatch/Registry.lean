import GuardedDispatch.Connector.Failure

/-!
# The registry of connectors

A registry names at most one connector for each kind of backend. Once it is shut down it is empty
and stays so.
-/

namespace GuardedDispatch

/-- Connectors are known by number. -/
abbrev ConnectorId := Nat

/-- Which connector serves which kind, and whether the registry is shut down. -/
structure Registry where
  serving : ConnectorType → Option ConnectorId := fun _ => none
  shutDown : Bool := false

namespace Registry

/-- The connector that serves a kind. -/
def get? (r : Registry) (t : ConnectorType) : Option ConnectorId := r.serving t

/-- Whether a connector serves a kind. -/
def contains (r : Registry) (t : ConnectorType) : Bool := (r.get? t).isSome

/-- The kinds that are served, in declaration order. -/
def kinds (r : Registry) : List ConnectorType := ConnectorType.all.filter r.contains

/-- The number of connectors. -/
def size (r : Registry) : Nat := r.kinds.length

/-- The connectors, in declaration order of the kinds they serve. -/
def connectors (r : Registry) : List ConnectorId := ConnectorType.all.filterMap r.get?

/-- Names the connector of a kind. -/
def put (r : Registry) (t : ConnectorType) (id : ConnectorId) : Registry :=
  { r with serving := fun u => if u = t then some id else r.serving u }

/-- The registry after it was shut down: nothing is served. -/
def emptied (_ : Registry) : Registry := { shutDown := true }

/-- The failure of registering a connector of one kind for another. -/
def wrongKind (serves wanted : ConnectorType) : ConnectorFailure :=
  ((ConnectorFailure.validation
    s!"cannot register a {serves.name} connector as {wanted.name}").withConnector wanted).withOperation
    "register"

/-- The failure of registering after the shutdown. -/
def tooLate (wanted : ConnectorType) : ConnectorFailure :=
  ((ConnectorFailure.of .unavailable "registry is shut down").withConnector wanted).withOperation
    "register"

/-- The failure of a call for a kind that nobody serves. -/
def missing (wanted : ConnectorType) (operation : String) : ConnectorFailure :=
  ((ConnectorFailure.of .unavailable s!"no {wanted.name} connector registered").withConnector
    wanted).withOperation operation

/-- Accepts a connector of a kind for a kind, and tells which one it replaces. -/
def register (r : Registry) (wanted serves : ConnectorType) (id : ConnectorId) :
    Except ConnectorFailure (Registry × Option ConnectorId) :=
  if serves ≠ wanted then .error (wrongKind serves wanted)
  else if r.shutDown then .error (tooLate wanted)
  else .ok (r.put wanted id, r.get? wanted)

/-- The registry in diagnostics. -/
def diagnostic (r : Registry) : String :=
  "ConnectorRegistry \x7b connectors: [" ++ String.intercalate ", " (r.kinds.map (·.label)) ++
  s!"], shut_down: {r.shutDown} \x7d"

/-- Naming a connector changes what serves its kind and no other. -/
@[simp] theorem get?_put (r : Registry) (t u : ConnectorType) (id : ConnectorId) :
    (r.put t id).get? u = if u = t then some id else r.get? u := rfl

/-- Nothing is served after the shutdown. -/
@[simp] theorem get?_emptied (r : Registry) (t : ConnectorType) : r.emptied.get? t = none := rfl

end Registry

end GuardedDispatch
