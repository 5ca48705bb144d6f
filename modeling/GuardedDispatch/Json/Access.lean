import GuardedDispatch.Json.Value

/-!
# Looking into JSON values
-/

namespace GuardedDispatch.Json

/-- A member that is present and not null. -/
def field? (v : Json) (name : String) : Option Json :=
  match v.member? name with
  | some .null => none
  | found => found

/-- The text of a string value. -/
def asText? : Json → Option String
  | .text s => some s
  | _ => none

/-- The number of a value that is a natural number. -/
def asNat? : Json → Option Nat
  | .whole (.ofNat n) => some n
  | _ => none

/-- The truth of a boolean value. -/
def asBool? : Json → Option Bool
  | .bool b => some b
  | _ => none

/-- The items of a list. -/
def asList? : Json → Option (List Json)
  | .list items => some items
  | _ => none

/-- The members of an object. -/
def asMembers? : Json → Option (List (String × Json))
  | .object members => some members
  | _ => none

/-- The text of a member. -/
def textField? (v : Json) (name : String) : Option String := v.field? name >>= asText?

/-- The natural number of a member. -/
def natField? (v : Json) (name : String) : Option Nat := v.field? name >>= asNat?

/-- The truth of a member. -/
def boolField? (v : Json) (name : String) : Option Bool := v.field? name >>= asBool?

/-- The items of a member that is a list; a missing one has none. -/
def items (v : Json) (name : String) : List Json := ((v.field? name) >>= asList?).getD []

/-- The members of a member that is an object; a missing one has none. -/
def members (v : Json) (name : String) : List (String × Json) :=
  ((v.field? name) >>= asMembers?).getD []

/-- The natural number of a member, or one in its place. -/
def natOr (v : Json) (name : String) (otherwise : Nat) : Nat := (v.natField? name).getD otherwise

/-- The text of a member, or one in its place. -/
def textOr (v : Json) (name otherwise : String) : String := (v.textField? name).getD otherwise

/-- The truth of a member, or one in its place. -/
def boolOr (v : Json) (name : String) (otherwise : Bool) : Bool :=
  (v.boolField? name).getD otherwise

/-- A member that is an object; in place of a missing one stands the object without members. -/
def part (v : Json) (name : String) : Json := (v.field? name).getD (.object [])

/-- The whole number of a member. -/
def intField? (v : Json) (name : String) : Option Int :=
  match v.field? name with
  | some (.whole n) => some n
  | _ => none

/-- The items of a list that are texts. -/
def textItems (v : Json) (name : String) : List String := (v.items name).filterMap asText?

/-- The members of an object whose values are texts. -/
def textMembers (v : Json) (name : String) : List (String × String) :=
  (v.members name).filterMap fun (n, x) => x.asText?.map (n, ·)

mutual

/-- How deeply values are nested in a value; one that holds none has depth one. -/
def depth : Json → Nat
  | .list items => itemsDepth items + 1
  | .object members => membersDepth members + 1
  | _ => 1

/-- The greatest depth of some values. -/
def itemsDepth : List Json → Nat
  | [] => 0
  | v :: rest => max (depth v) (itemsDepth rest)

/-- The greatest depth of the values of some members. -/
def membersDepth : List (String × Json) → Nat
  | [] => 0
  | (_, v) :: rest => max (depth v) (membersDepth rest)

end

end GuardedDispatch.Json
