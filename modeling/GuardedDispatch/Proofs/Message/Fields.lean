import GuardedDispatch.Message.Envelope

/-!
# The fields of requests

What is said about a request before it is checked is a list of remarks, most of which give a value
to a field. A header is a field of its own for every name, and so is a variable of a graph query.
Filling in a field changes that field and no other, so a draft has for each field the value that was
given last, or the default. The correlation id of a log record is one of its headers.
-/

namespace GuardedDispatch

open Text

/-- A name has the value that was put in under it. -/
theorem Text.Dictionary.get?_put_self {α : Type} (d : Dictionary α) (name : String) (value : α) :
    (d.put name value).get? name = some value :=
  (d.get?_put name name value).trans (if_pos rfl)

/-- Other names have the values that they had. -/
theorem Text.Dictionary.get?_put_of_ne {α : Type} (d : Dictionary α) {name other : String}
    (h : name ≠ other) (value : α) : (d.put name value).get? other = d.get? other :=
  (d.get?_put name other value).trans (if_neg h)

/-! ### Details -/

/-- A value for a field. -/
structure Detail {F : Type} (V : F → Type) where
  field : F
  value : V field

section Filling

variable {δ κ F : Type} [DecidableEq F] {V : F → Type}

/-- The value that a field was given last. -/
def latest? (f : F) : List (Detail V) → Option (V f)
  | [] => none
  | d :: rest => (latest? f rest).or (if h : d.field = f then some (h ▸ d.value) else none)

/-- Remarks are taken into account by filling in the field that they give a value to, if they give
one, and by nothing else that can be read. -/
structure FillsIn (step : δ → κ → δ) (detail? : κ → Option (Detail V))
    (get? : δ → (f : F) → Option (V f)) : Prop where
  given : ∀ d k e, detail? k = some e → get? (step d k) e.field = some e.value
  kept : ∀ d k f, (∀ e, detail? k = some e → e.field ≠ f) → get? (step d k) f = get? d f

private theorem FillsIn.get?_foldl {step : δ → κ → δ} {detail? : κ → Option (Detail V)}
    {get? : δ → (f : F) → Option (V f)} (h : FillsIn step detail? get?) (d : δ)
    (remarks : List κ) (f : F) :
    get? (remarks.foldl step d) f =
      (latest? f (remarks.filterMap detail?)).or (get? d f) := by
  induction remarks generalizing d with
  | nil => rfl
  | cons k rest ih =>
    rw [List.foldl_cons, ih]
    cases hk : detail? k with
    | none => rw [List.filterMap_cons_none hk, h.kept d k f fun e he ↦ by rw [hk] at he; cases he]
    | some e =>
      rw [List.filterMap_cons_some hk, latest?, Option.or_assoc]
      by_cases hf : e.field = f
      · subst hf
        rw [dif_pos rfl, h.given d k e hk]
        rfl
      · rw [dif_neg hf, h.kept d k f fun e' he' ↦ Option.some.inj (hk.symm.trans he') ▸ hf]
        rfl

end Filling

/-! ### HTTP requests -/

/-- The fields of an HTTP request that have one value each. -/
inductive HttpField where
  | path
  | header (name : String)
  | body
  | correlationId
  deriving DecidableEq

/-- The values of a field. -/
abbrev HttpField.Value : HttpField → Type
  | .path | .header _ | .correlationId => String
  | .body => Bytes

/-- What is said about an HTTP request: a detail, or one more query parameter. -/
inductive HttpRemark where
  | detail (d : Detail HttpField.Value)
  | query (name value : String)

namespace HttpRemark

/-- The detail that is given, if one is. -/
def detail? : HttpRemark → Option (Detail HttpField.Value)
  | .detail d => some d
  | .query .. => none

/-- The query parameter that is given, if one is. -/
def query? : HttpRemark → Option (String × String)
  | .detail _ => none
  | .query name value => some (name, value)

/-- The value of a field in effect after some remarks. -/
def inEffect (remarks : List HttpRemark) (f : HttpField) : Option f.Value :=
  latest? f (remarks.filterMap detail?)

end HttpRemark

namespace HttpDraft

/-- Fills in a field. -/
def put (d : HttpDraft) : (f : HttpField) → f.Value → HttpDraft
  | .path, s => d.path s
  | .header name, value => d.header name value
  | .body, b => d.body b
  | .correlationId, id => d.correlationId id

/-- Reads a field. -/
def get? (d : HttpDraft) : (f : HttpField) → Option f.Value
  | .path => d.path?
  | .header name => d.headers.get? name
  | .body => d.body?
  | .correlationId => d.correlationId?

/-- Takes a remark into account. -/
def remark (d : HttpDraft) : HttpRemark → HttpDraft
  | .detail e => d.put e.field e.value
  | .query name value => d.addQuery name value

/-- The draft of a request with a method and some remarks. -/
def ofRemarks (method : HttpMethod) (remarks : List HttpRemark) : HttpDraft :=
  remarks.foldl remark { method }

private theorem fillsIn_remark : FillsIn remark HttpRemark.detail? get? where
  given d k e hk := by
    cases k with
    | query name value => cases hk
    | detail e =>
      cases hk
      obtain ⟨f, v⟩ := e
      cases f with
      | header name => exact d.headers.get?_put_self name v
      | _ => rfl
  kept d k g hg := by
    cases k with
    | query name value => cases g <;> rfl
    | detail e =>
      obtain ⟨f, v⟩ := e
      have hne : f ≠ g := hg _ rfl
      cases f with
      | header name =>
        cases g with
        | header other => exact d.headers.get?_put_of_ne (mt (congrArg HttpField.header) hne) v
        | _ => rfl
      | _ =>
        cases g
        all_goals try rfl
        -- What is left is the field itself.
        all_goals exact absurd rfl hne

/-- A draft has the values in effect. -/
theorem get?_ofRemarks (method : HttpMethod) (remarks : List HttpRemark) (f : HttpField) :
    (ofRemarks method remarks).get? f = HttpRemark.inEffect remarks f := by
  rw [ofRemarks, fillsIn_remark.get?_foldl, HttpRemark.inEffect]
  cases f <;> exact Option.or_none

/-- The method is kept, and query parameters come one after the other. -/
theorem foldl_remark (d : HttpDraft) (remarks : List HttpRemark) :
    (remarks.foldl remark d).method = d.method ∧
      (remarks.foldl remark d).query = d.query ++ remarks.filterMap HttpRemark.query? := by
  induction remarks generalizing d with
  | nil => exact ⟨rfl, (List.append_nil _).symm⟩
  | cons k rest ih =>
    obtain ⟨hmethod, hquery⟩ := ih (d.remark k)
    rw [List.foldl_cons, hmethod, hquery]
    cases k with
    | detail e =>
      obtain ⟨f, v⟩ := e
      cases f <;> exact ⟨rfl, rfl⟩
    | query name value => exact ⟨rfl, List.append_assoc _ _ _⟩

end HttpDraft

/-! ### Queue requests -/

/-- The fields of a queue request. -/
inductive QueueField where
  | destination
  | payload
  | header (name : String)
  | correlationId
  | messageGroup
  | deliveryMode
  | priority
  | timeToLive
  | exchangePattern
  | replyTo
  deriving DecidableEq

/-- The values of a field. -/
abbrev QueueField.Value : QueueField → Type
  | .destination | .header _ | .correlationId | .messageGroup | .replyTo => String
  | .payload => Bytes
  | .deliveryMode => DeliveryMode
  | .priority | .timeToLive => Nat
  | .exchangePattern => ExchangePattern

namespace QueueField

/-- The value of a field that none is given to. -/
def default? : (f : QueueField) → Option f.Value
  | .deliveryMode => some .persistent
  | .exchangePattern => some .fireAndForget
  | _ => none

/-- The value of a field in effect after some remarks. -/
def inEffect (remarks : List (Detail Value)) (f : QueueField) : Option f.Value :=
  (latest? f remarks).or f.default?

end QueueField

namespace QueueDraft

/-- Fills in a field. -/
def put (d : QueueDraft) : (f : QueueField) → f.Value → QueueDraft
  | .destination, s => d.destination s
  | .payload, b => d.payload b
  | .header name, value => d.header name value
  | .correlationId, id => d.correlationId id
  | .messageGroup, s => d.messageGroup s
  | .deliveryMode, m => d.withDeliveryMode m
  | .priority, n => d.priority n
  | .timeToLive, ms => d.timeToLive ms
  | .exchangePattern, p => d.withExchangePattern p
  | .replyTo, s => d.replyTo s

/-- Reads a field. -/
def get? (d : QueueDraft) : (f : QueueField) → Option f.Value
  | .destination => d.destination?
  | .payload => d.payload?
  | .header name => d.headers.get? name
  | .correlationId => d.correlationId?
  | .messageGroup => d.messageGroup?
  | .deliveryMode => some d.deliveryMode
  | .priority => d.priority?
  | .timeToLive => d.timeToLive?
  | .exchangePattern => some d.exchangePattern
  | .replyTo => d.replyTo?

/-- Takes a detail into account. -/
def remark (d : QueueDraft) (e : Detail QueueField.Value) : QueueDraft := d.put e.field e.value

/-- The draft of a request with some details. -/
def ofRemarks (remarks : List (Detail QueueField.Value)) : QueueDraft := remarks.foldl remark {}

private theorem fillsIn_remark : FillsIn remark some get? where
  given d k e hk := by
    cases hk
    obtain ⟨f, v⟩ := k
    cases f with
    | header name => exact d.headers.get?_put_self name v
    | _ => rfl
  kept d k g hg := by
    obtain ⟨f, v⟩ := k
    have hne : f ≠ g := hg _ rfl
    cases f with
    | header name =>
      cases g with
      | header other => exact d.headers.get?_put_of_ne (mt (congrArg QueueField.header) hne) v
      | _ => rfl
    | _ =>
      cases g
      all_goals try rfl
      all_goals exact absurd rfl hne

/-- A draft has the values in effect. -/
theorem get?_ofRemarks (remarks : List (Detail QueueField.Value)) (f : QueueField) :
    (ofRemarks remarks).get? f = QueueField.inEffect remarks f := by
  rw [ofRemarks, fillsIn_remark.get?_foldl, List.filterMap_some, QueueField.inEffect]
  cases f <;> rfl

end QueueDraft

/-! ### Log records -/

/-- The fields of a log record. Its correlation id is a header. -/
inductive LogField where
  | topic
  | key
  | payload
  | partition
  | header (name : String)
  | timestamp
  | acks
  | idempotent
  deriving DecidableEq

/-- The values of a field. -/
abbrev LogField.Value : LogField → Type
  | .topic | .header _ => String
  | .key | .payload => Bytes
  | .partition => Nat
  | .timestamp => Int
  | .acks => Acks
  | .idempotent => Bool

/-- What is said about a log record: a detail, or its correlation id. -/
inductive LogRemark where
  | detail (d : Detail LogField.Value)
  | correlationId (id : String)

/-- The value of a field that none is given to. -/
def LogField.default? : (f : LogField) → Option f.Value
  | .acks => some .all
  | .idempotent => some false
  | _ => none

namespace LogRemark

/-- The detail that is given: a correlation id is the value of its header. -/
def toDetail : LogRemark → Detail LogField.Value
  | .detail d => d
  | .correlationId id => ⟨.header correlationHeader, id⟩

/-- The value of a field in effect after some remarks. -/
def inEffect (remarks : List LogRemark) (f : LogField) : Option f.Value :=
  (latest? f (remarks.map toDetail)).or f.default?

end LogRemark

namespace LogDraft

/-- Fills in a field. -/
def put (d : LogDraft) : (f : LogField) → f.Value → LogDraft
  | .topic, s => d.topic s
  | .key, b => d.key b
  | .payload, b => d.payload b
  | .partition, n => d.partition n
  | .header name, value => d.header name value
  | .timestamp, ms => d.timestamp ms
  | .acks, a => d.withAcks a
  | .idempotent, on => d.withIdempotence on

/-- Reads a field. -/
def get? (d : LogDraft) : (f : LogField) → Option f.Value
  | .topic => d.topic?
  | .key => d.key?
  | .payload => d.payload?
  | .partition => d.partition?
  | .header name => d.headers.get? name
  | .timestamp => d.timestamp?
  | .acks => some d.acks
  | .idempotent => some d.idempotent

/-- Takes a remark into account. -/
def remark (d : LogDraft) : LogRemark → LogDraft
  | .detail e => d.put e.field e.value
  | .correlationId id => d.correlationId id

/-- The draft of a record with some remarks. -/
def ofRemarks (remarks : List LogRemark) : LogDraft := remarks.foldl remark {}

private theorem remark_eq (d : LogDraft) (k : LogRemark) :
    d.remark k = d.put k.toDetail.field k.toDetail.value := by
  cases k <;> rfl

private theorem fillsIn_remark : FillsIn remark (some ∘ LogRemark.toDetail) get? where
  given d k e hk := by
    cases hk
    rw [remark_eq]
    obtain ⟨f, v⟩ := k.toDetail
    cases f with
    | header name => exact d.headers.get?_put_self name v
    | _ => rfl
  kept d k g hg := by
    have hne : k.toDetail.field ≠ g := hg _ rfl
    rw [remark_eq]
    generalize k.toDetail = e at hne ⊢
    obtain ⟨f, v⟩ := e
    cases f with
    | header name =>
      cases g with
      | header other => exact d.headers.get?_put_of_ne (mt (congrArg LogField.header) hne) v
      | _ => rfl
    | _ =>
      cases g
      all_goals try rfl
      all_goals exact absurd rfl hne

/-- A draft has the values in effect. -/
theorem get?_ofRemarks (remarks : List LogRemark) (f : LogField) :
    (ofRemarks remarks).get? f = LogRemark.inEffect remarks f := by
  rw [ofRemarks, fillsIn_remark.get?_foldl, List.filterMap_eq_map, LogRemark.inEffect]
  cases f <;> rfl

end LogDraft

/-! ### Graph queries -/

/-- The fields of a graph query. -/
inductive GraphQueryField where
  | resource
  | query
  | variableValue (name : String)
  | apiVersion
  | pageSize
  | header (name : String)
  | correlationId
  deriving DecidableEq

/-- The values of a field. -/
abbrev GraphQueryField.Value : GraphQueryField → Type
  | .resource | .query | .apiVersion | .header _ | .correlationId => String
  | .variableValue _ => Json
  | .pageSize => Nat

namespace GraphQueryDraft

/-- Fills in a field. -/
def put (d : GraphQueryDraft) : (f : GraphQueryField) → f.Value → GraphQueryDraft
  | .resource, s => d.resource s
  | .query, s => d.query s
  | .variableValue name, value => d.variableValue name value
  | .apiVersion, s => d.apiVersion s
  | .pageSize, n => d.pageSize n
  | .header name, value => d.header name value
  | .correlationId, id => d.correlationId id

/-- Reads a field. -/
def get? (d : GraphQueryDraft) : (f : GraphQueryField) → Option f.Value
  | .resource => d.resource?
  | .query => d.query?
  | .variableValue name => d.variableValues.get? name
  | .apiVersion => d.apiVersion?
  | .pageSize => d.pageSize?
  | .header name => d.headers.get? name
  | .correlationId => d.correlationId?

/-- Takes a detail into account. -/
def remark (d : GraphQueryDraft) (e : Detail GraphQueryField.Value) : GraphQueryDraft :=
  d.put e.field e.value

/-- The draft of a query with some details. -/
def ofRemarks (remarks : List (Detail GraphQueryField.Value)) : GraphQueryDraft :=
  remarks.foldl remark {}

private theorem fillsIn_remark : FillsIn remark some get? where
  given d k e hk := by
    cases hk
    obtain ⟨f, v⟩ := k
    cases f with
    | header name => exact d.headers.get?_put_self name v
    | variableValue name => exact d.variableValues.get?_put_self name v
    | _ => rfl
  kept d k g hg := by
    obtain ⟨f, v⟩ := k
    have hne : f ≠ g := hg _ rfl
    cases f with
    | header name =>
      cases g with
      | header other => exact d.headers.get?_put_of_ne (mt (congrArg GraphQueryField.header) hne) v
      | _ => rfl
    | variableValue name =>
      cases g with
      | variableValue other =>
        exact d.variableValues.get?_put_of_ne (mt (congrArg GraphQueryField.variableValue) hne) v
      | _ => rfl
    | _ =>
      cases g
      all_goals try rfl
      all_goals exact absurd rfl hne

/-- A draft has the values in effect. -/
theorem get?_ofRemarks (remarks : List (Detail GraphQueryField.Value)) (f : GraphQueryField) :
    (ofRemarks remarks).get? f = latest? f remarks := by
  rw [ofRemarks, fillsIn_remark.get?_foldl, List.filterMap_some]
  cases f <;> exact Option.or_none

end GraphQueryDraft

/-! ### Requests -/

/-- Reads a field of an HTTP request. -/
def HttpRequest.get? (r : HttpRequest) : (f : HttpField) → Option f.Value
  | .path => some r.path
  | .header name => r.headers.get? name
  | .body => r.body?
  | .correlationId => r.correlationId?

/-- Reads a field of a queue request. -/
def QueueRequest.get? (r : QueueRequest) : (f : QueueField) → Option f.Value
  | .destination => some r.destination
  | .payload => some r.payload
  | .header name => r.headers.get? name
  | .correlationId => r.correlationId?
  | .messageGroup => r.messageGroup?
  | .deliveryMode => some r.deliveryMode
  | .priority => r.priority?
  | .timeToLive => r.timeToLive?
  | .exchangePattern => some r.exchangePattern
  | .replyTo => r.replyTo?

/-- Reads a field of a log record. -/
def LogRequest.get? (r : LogRequest) : (f : LogField) → Option f.Value
  | .topic => some r.topic
  | .key => r.key?
  | .payload => some r.payload
  | .partition => r.partition?
  | .header name => r.headers.get? name
  | .timestamp => r.timestamp?
  | .acks => some r.acks
  | .idempotent => some r.idempotent

/-- Reads a field of a graph query. -/
def GraphQueryRequest.get? (r : GraphQueryRequest) : (f : GraphQueryField) → Option f.Value
  | .resource => some r.resource
  | .query => some r.query
  | .variableValue name => r.variableValues.get? name
  | .apiVersion => r.apiVersion?
  | .pageSize => r.pageSize?
  | .header name => r.headers.get? name
  | .correlationId => r.correlationId?

/-! ### Requests of any kind -/

/-- All that is said about a request of some kind. -/
inductive RequestRemarks where
  | http (method : HttpMethod) (remarks : List HttpRemark)
  | queue (remarks : List (Detail QueueField.Value))
  | log (remarks : List LogRemark)
  | graphQuery (remarks : List (Detail GraphQueryField.Value))

/-- Drafts the request and checks the draft. -/
def RequestRemarks.build : RequestRemarks → Except ConnectorFailure Request
  | .http method remarks => (HttpDraft.ofRemarks method remarks).build.map .http
  | .queue remarks => (QueueDraft.ofRemarks remarks).build.map .queue
  | .log remarks => (LogDraft.ofRemarks remarks).build.map .log
  | .graphQuery remarks => (GraphQueryDraft.ofRemarks remarks).build.map .graphQuery

end GuardedDispatch
