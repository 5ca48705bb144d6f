import GuardedDispatch.Json.Writer
import GuardedDispatch.Message.Http

/-!
# Graph queries and their results
-/

namespace GuardedDispatch

open Text

/-- The greatest page size. -/
def maxPageSize : Nat := 999

/-- A valid graph query. -/
structure GraphQueryRequest where
  resource : String
  query : String
  variableValues : Dictionary Json
  apiVersion? : Option String
  pageSize? : Option Nat
  headers : Headers
  correlationId? : Option String
  deriving DecidableEq

/-- What is known of a graph query before it is checked. -/
structure GraphQueryDraft where
  resource? : Option String := none
  query? : Option String := none
  variableValues : Dictionary Json := ∅
  apiVersion? : Option String := none
  pageSize? : Option Nat := none
  headers : Headers := ∅
  correlationId? : Option String := none

namespace GraphQueryDraft

/-- Sets the resource. -/
def resource (d : GraphQueryDraft) (s : String) : GraphQueryDraft := { d with resource? := some s }

/-- Sets the query text. -/
def query (d : GraphQueryDraft) (s : String) : GraphQueryDraft := { d with query? := some s }

/-- Sets a variable. -/
def variableValue (d : GraphQueryDraft) (name : String) (value : Json) : GraphQueryDraft :=
  { d with variableValues := d.variableValues.put name value }

/-- Sets the version of the interface. -/
def apiVersion (d : GraphQueryDraft) (s : String) : GraphQueryDraft :=
  { d with apiVersion? := some s }

/-- Sets the page size. -/
def pageSize (d : GraphQueryDraft) (n : Nat) : GraphQueryDraft := { d with pageSize? := some n }

/-- Sets a header. -/
def header (d : GraphQueryDraft) (name value : String) : GraphQueryDraft :=
  { d with headers := d.headers.put name value }

/-- Sets the correlation id. -/
def correlationId (d : GraphQueryDraft) (id : String) : GraphQueryDraft :=
  { d with correlationId? := some id }

/-- Checks a draft: a resource, a query, and a page size in range if one is given. -/
def build (d : GraphQueryDraft) : Except ConnectorFailure GraphQueryRequest :=
  match given? d.resource?, given? d.query? with
  | none, _ => .error (.validation "graph query requires a resource")
  | some _, none => .error (.validation "graph query requires a query")
  | some resource, some query =>
    if d.pageSize?.any (fun n => n = 0 ∨ maxPageSize < n) then
      .error (.validation s!"page size {d.pageSize?.getD 0} out of range 1..={maxPageSize}")
    else
      .ok { resource, query, variableValues := d.variableValues, apiVersion? := d.apiVersion?
            pageSize? := d.pageSize?, headers := d.headers, correlationId? := d.correlationId? }

end GraphQueryDraft

/-- The query under another correlation id. -/
def GraphQueryRequest.withCorrelationId (r : GraphQueryRequest) (id : String) :
    GraphQueryRequest :=
  { r with correlationId? := some id }

/-- The result of a graph query. -/
structure GraphQueryResponse where
  status : Nat := 200
  requestId? : Option String := none
  data? : Option Json := none
  nextLink? : Option String := none
  errors : List String := []
  deriving DecidableEq, Inhabited

/-- A result is a success if its status is and it reports no errors. -/
def GraphQueryResponse.isSuccess (r : GraphQueryResponse) : Bool :=
  isSuccessStatus r.status && r.errors.isEmpty

end GuardedDispatch
