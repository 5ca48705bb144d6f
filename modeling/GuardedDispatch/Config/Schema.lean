import GuardedDispatch.Config.Configuration

/-!
# The schema of configurations

The JSON schema that editors check configuration files against. It is drawn from the descriptions of
the sections, so it lists exactly the members that are read, with the defaults that they have.
-/

namespace GuardedDispatch

open Number

mutual

/-- A value as a default in a schema. -/
def Setting.defaultValue : Setting → Json
  | .absent => .null
  | .flag on => .bool on
  | .count n => .nat n
  | .single x => .real x.convert
  | .double x => .real x
  | .text s => .text s
  | .list items => .list (Setting.defaultItems items)
  | .group members => .record (Setting.defaultMembers members)

/-- Items as defaults. -/
def Setting.defaultItems : List Setting → List Json
  | [] => []
  | x :: rest => x.defaultValue :: Setting.defaultItems rest

/-- Members as defaults; absent ones are left out. -/
def Setting.defaultMembers : List (String × Setting) → List (String × Json)
  | [] => []
  | (name, x) :: rest =>
    if x.isPresent then (name, x.defaultValue) :: Setting.defaultMembers rest
    else Setting.defaultMembers rest

end

namespace Schema

/-- The reference to a definition. -/
def reference (name : String) : Json := .record [("$ref", .text s!"#/definitions/{name}")]

/-- A limit of a range. -/
def limit (n : Nat) : Json := .real (.ofNat n)

/-- The members that say what form a value has. -/
def shapeMembers : Shape → List (String × Json)
  | .flag => [("type", .text "boolean")]
  | .count width least greatest? =>
    let format := match width with
      | .word32 => "uint32"
      | .word64 => "uint64"
      | .size => "uint"
    [("type", .text "integer"), ("format", .text format), ("minimum", limit least)] ++
      greatest?.toList.map fun n => ("maximum", limit n)
  | .percentage =>
    [("type", .text "number"), ("format", .text "float"), ("maximum", limit 100)]
  | .factor => [("type", .text "number"), ("format", .text "double"), ("minimum", limit 1)]
  | .text => [("type", .text "string")]
  | .words => [("type", .text "array"), ("items", reference "Stage")]
  | .entry => [("allOf", .list [reference "RetryEntry"])]
  | .record name => [("allOf", .list [reference name])]
  | .records name => [("type", .text "object"), ("additionalProperties", reference name)]
  | .optional (.record name) =>
    [("anyOf", .list [reference name, .record [("type", .text "null")]])]
  | .optional shape =>
    (shapeMembers shape).map fun (name, value) =>
      if name = "type" then (name, .list [value, .text "null"]) else (name, value)

/-- The schema of a member with the value that it has in a fresh section. -/
def property {σ : Type} (fresh : σ) (m : Member σ) : Json :=
  let value := m.get fresh
  .record (shapeMembers m.shape ++ (m.description?.toList.map fun d => ("description", .text d)) ++
    (if value.isPresent then [("default", value.defaultValue)] else []))

/-- The members of the schema of a section. -/
def sectionMembers (σ : Type) [Section σ] (description : String) : List (String × Json) :=
  [("description", .text description), ("type", .text "object"),
    ("properties", .record ((Section.members (σ := σ)).map fun m =>
      (m.name, property Section.fresh m)))]

/-- The schema of a section with its name. -/
def definition (name : String) (σ : Type) [Section σ] (description : String) : String × Json :=
  (name, .record (sectionMembers σ description))

/-- The schema of a word from a list. -/
def wordOf (words : List String) : List (String × Json) :=
  [("type", .text "string"), ("enum", .list (words.map .text))]

/-- The schemas that others refer to. -/
def definitions : List (String × Json) := [
  definition "BulkheadSettings" BulkheadSection "Bulkhead section",
  definition "CircuitBreakerSettings" BreakerSection "Circuit breaker section",
  definition "ConnectorSettings" ConnectorSettings "Settings of one connector type",
  definition "PipelineConfig" PipelineSettings "Pipeline retry section",
  definition "PolicyConfig" PolicySettings "Settings for all five policy primitives",
  definition "PolicyOverrides" PolicyOverrides
    "Per-connector policy sections; unset sections fall back to the defaults",
  definition "RateLimiterSettings" RateLimiterSection "Rate limiter section",
  ("RetryEntry", .record [("description", .text "Where a retried message re-enters the pipeline"),
    ("oneOf", .list [
      .record (("description", .text "Re-run the stage that failed, with the input it failed on") ::
        wordOf [RetryEntry.failingStage.name]),
      .record (("description", .text "Start over at Validate with the original payload") ::
        wordOf [RetryEntry.start.name])])]),
  definition "RetrySettings" RetrySection "Retry section",
  ("Stage", .record (("description", .text "Pipeline stage, in execution order") ::
    wordOf (Stage.all.map (·.name)))),
  definition "TimeLimiterSettings" TimeLimiterSection "Time limiter section"]

/-- The dialect that the schema is written in. -/
def dialect : String :=
  let host := "json-schema.org"
  s!"http://{host}/draft-07/schema#"

/-- The schema of a whole configuration. -/
def root : Json :=
  .record ([("$schema", .text dialect), ("title", .text "SwitchboardConfig"),
    ("definitions", .record definitions)] ++ sectionMembers Configuration "Root configuration")

/-- Follows names from the root of a schema; gives the name that is missing where it ends. -/
def find (v : Json) : List String → Except String Json
  | [] => .ok v
  | name :: rest =>
    match v.member? name with
    | some next => find next rest
    | none => .error name

end Schema

end GuardedDispatch
