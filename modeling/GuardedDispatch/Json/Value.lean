import GuardedDispatch.Number.Binary

/-!
# JSON values

Structured values that requests, contexts and messages carry. Numbers are whole numbers or double
precision numbers; the members of an object are kept in ascending order of their names, one member
a name, so that equal values are equal objects.
-/

namespace GuardedDispatch

/-- A JSON value. -/
inductive Json where
  | null
  | bool (value : Bool)
  | whole (value : Int)
  | real (value : Number.Double)
  | text (value : String)
  | list (items : List Json)
  | object (members : List (String × Json))
  deriving Inhabited

namespace Json

mutual

/-- Equality of two values, decided by comparing them part by part. -/
def same : Json → Json → Bool
  | .null, .null => true
  | .bool a, .bool b => a == b
  | .whole a, .whole b => a == b
  | .real a, .real b => decide (a = b)
  | .text a, .text b => a == b
  | .list a, .list b => sameItems a b
  | .object a, .object b => sameMembers a b
  | _, _ => false

/-- Equality of two lists of values. -/
def sameItems : List Json → List Json → Bool
  | [], [] => true
  | a :: as, b :: bs => same a b && sameItems as bs
  | _, _ => false

/-- Equality of two lists of members. -/
def sameMembers : List (String × Json) → List (String × Json) → Bool
  | [], [] => true
  | (m, a) :: as, (n, b) :: bs => m == n && same a b && sameMembers as bs
  | _, _ => false

end

mutual

/-- The comparison accepts exactly equal values. -/
theorem same_iff : (a b : Json) → (same a b = true ↔ a = b)
  | .null, b => by cases b <;> simp [same]
  | .bool x, b => by cases b <;> simp [same]
  | .whole x, b => by cases b <;> simp [same]
  | .real x, b => by cases b <;> simp [same]
  | .text x, b => by cases b <;> simp [same]
  | .list x, b => by
    cases b <;> simp [same]
    exact sameItems_iff x _
  | .object x, b => by
    cases b <;> simp [same]
    exact sameMembers_iff x _

/-- The comparison accepts exactly equal lists of values. -/
theorem sameItems_iff : (a b : List Json) → (sameItems a b = true ↔ a = b)
  | [], b => by cases b <;> simp [sameItems]
  | x :: xs, [] => by simp [sameItems]
  | x :: xs, y :: ys => by
    simp only [sameItems, Bool.and_eq_true, List.cons.injEq]
    rw [same_iff x y, sameItems_iff xs ys]

/-- The comparison accepts exactly equal lists of members. -/
theorem sameMembers_iff : (a b : List (String × Json)) → (sameMembers a b = true ↔ a = b)
  | [], b => by cases b <;> simp [sameMembers]
  | x :: xs, [] => by simp [sameMembers]
  | (m, x) :: xs, (n, y) :: ys => by
    simp only [sameMembers, Bool.and_eq_true, beq_iff_eq, List.cons.injEq, Prod.mk.injEq]
    rw [same_iff x y, sameMembers_iff xs ys]

end

instance : DecidableEq Json := fun a b => decidable_of_iff _ (same_iff a b)

/-- A natural number as a value. -/
def nat (n : Nat) : Json := .whole n

/-- A text, or null where there is none. -/
def text? (s : Option String) : Json := s.elim .null .text

/-- A natural number, or null where there is none. -/
def nat? (n : Option Nat) : Json := n.elim .null .nat

/-- Puts a member into its place; a member of the same name is replaced. -/
def putMember (name : String) (value : Json) : List (String × Json) → List (String × Json)
  | [] => [(name, value)]
  | (n, v) :: rest =>
    if name < n then (name, value) :: (n, v) :: rest
    else if name = n then (name, value) :: rest
    else (n, v) :: putMember name value rest

/-- The object with the given members; of two members of one name the later one stays. -/
def record (members : List (String × Json)) : Json :=
  .object (members.foldl (fun acc m => putMember m.1 m.2 acc) [])

/-- The value of the first member with a name. -/
def memberOf? (name : String) : List (String × Json) → Option Json
  | [] => none
  | (n, v) :: rest => if n = name then some v else memberOf? name rest

/-- The value of an object's member. -/
def member? (name : String) : Json → Option Json
  | .object members => memberOf? name members
  | _ => none

/-- After a member is put in, looking its name up finds it and other names are as before. -/
theorem memberOf?_putMember (name other : String) (value : Json) (members : List (String × Json)) :
    memberOf? other (putMember name value members) =
      if name = other then some value else memberOf? other members := by
  induction members with
  | nil => simp [putMember, memberOf?]
  | cons m rest ih =>
    obtain ⟨n, v⟩ := m
    simp only [putMember]
    split
    · by_cases h : name = other <;> simp [memberOf?, h]
    · split
      · rename_i h
        subst h
        by_cases h' : name = other <;> simp [memberOf?, h']
      · rename_i hne
        by_cases h' : n = other
        · subst h'
          simp [memberOf?, hne]
        · simp [memberOf?, h', ih]

end Json

end GuardedDispatch
