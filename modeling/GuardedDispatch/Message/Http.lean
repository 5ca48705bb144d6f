import GuardedDispatch.Connector.Failure
import GuardedDispatch.Text.Blank
import GuardedDispatch.Text.Dictionary

/-!
# HTTP requests and responses

A request is built from a draft: `HttpDraft.build` gives the request exactly if the draft is
valid, and else says what is wrong with it first.
-/

namespace GuardedDispatch

open Text

/-- The bytes of a payload. -/
abbrev Bytes := List UInt8

/-- Named text values. -/
abbrev Headers := Dictionary String

/-- The request methods. -/
inductive HttpMethod where
  | get
  | post
  | put
  | patch
  | delete
  deriving DecidableEq, Repr, Inhabited

namespace HttpMethod

/-- The methods in declaration order. -/
def all : List HttpMethod := [.get, .post, .put, .patch, .delete]

/-- The method's name on the wire. -/
def name : HttpMethod → String
  | .get => "GET"
  | .post => "POST"
  | .put => "PUT"
  | .patch => "PATCH"
  | .delete => "DELETE"

/-- Whether requests of this method carry a body. -/
def hasBody : HttpMethod → Bool
  | .post | .put | .patch => true
  | .get | .delete => false

/-- The method with a name. -/
def ofName? (s : String) : Option HttpMethod := all.find? (·.name == s)

end HttpMethod

/-- A valid HTTP request. -/
structure HttpRequest where
  method : HttpMethod
  path : String
  query : List (String × String)
  headers : Headers
  body? : Option Bytes
  correlationId? : Option String
  deriving DecidableEq, Repr

/-- What is known of an HTTP request before it is checked. -/
structure HttpDraft where
  method : HttpMethod := .get
  path? : Option String := none
  query : List (String × String) := []
  headers : Headers := ∅
  body? : Option Bytes := none
  correlationId? : Option String := none

namespace HttpDraft

/-- Sets the path. -/
def path (d : HttpDraft) (s : String) : HttpDraft := { d with path? := some s }

/-- Adds a query parameter after those already given. -/
def addQuery (d : HttpDraft) (name value : String) : HttpDraft :=
  { d with query := d.query ++ [(name, value)] }

/-- Sets a header. -/
def header (d : HttpDraft) (name value : String) : HttpDraft :=
  { d with headers := d.headers.put name value }

/-- Sets the body. -/
def body (d : HttpDraft) (b : Bytes) : HttpDraft := { d with body? := some b }

/-- Sets the correlation id. -/
def correlationId (d : HttpDraft) (id : String) : HttpDraft := { d with correlationId? := some id }

/-- Checks a draft: a path that starts with a slash, and a body exactly where the method has
one. -/
def build (d : HttpDraft) : Except ConnectorFailure HttpRequest :=
  match given? d.path? with
  | none => .error (.validation "http request requires a path")
  | some path =>
    if !path.startsWith "/" then .error (.validation s!"http path '{path}' must start with '/'")
    else
      match d.method.hasBody, d.body? with
      | true, none => .error (.validation s!"{d.method.name} request requires a body")
      | false, some _ => .error (.validation s!"{d.method.name} request must not carry a body")
      | _, _ =>
        .ok { method := d.method, path, query := d.query, headers := d.headers, body? := d.body?
              correlationId? := d.correlationId? }

end HttpDraft

/-- The request under another correlation id. -/
def HttpRequest.withCorrelationId (r : HttpRequest) (id : String) : HttpRequest :=
  { r with correlationId? := some id }

/-- Whether a status stands for success. -/
def isSuccessStatus (status : Nat) : Bool := 200 ≤ status && status < 300

/-- An HTTP response. -/
structure HttpResponse where
  status : Nat := 200
  headers : Headers := ∅
  body? : Option Bytes := none
  deriving DecidableEq, Repr, Inhabited

end GuardedDispatch
