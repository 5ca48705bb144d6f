import GuardedDispatch.Json.Value
import GuardedDispatch.Policy.Backoff
import GuardedDispatch.Yaml.Meaning
import GuardedDispatch.Yaml.Writer

/-!
# Settings and sections

A section of a configuration is a structure whose members are described once: how a member is
called, what it holds, how it is read, and when its value is at fault. Reading, writing, checking
and describing a section all go by that description.
-/

namespace GuardedDispatch

open Number Yaml

/-- The value of a member. -/
inductive Setting where
  | absent
  | flag (on : Bool)
  | count (n : Nat)
  | single (x : Single)
  | double (x : Double)
  | text (s : String)
  | list (items : List Setting)
  | group (members : List (String × Setting))
  deriving Inhabited

namespace Setting

/-- Whether a value is there. -/
def isPresent : Setting → Bool
  | .absent => false
  | _ => true

/-- An optional count. -/
def count? (n : Option Nat) : Setting := n.elim .absent .count

/-- An optional text. -/
def text? (s : Option String) : Setting := s.elim .absent .text

mutual

/-- A value as it is written. -/
def node : Setting → Node
  | .absent => .plain "null"
  | .flag on => .plain (toString on)
  | .count n => .plain (toString n)
  | .single x => .plain (numberScalar Binary.storedSingleLayout x)
  | .double x => .plain (numberScalar Binary.storedDoubleLayout x)
  | .text s => .quoted s
  | .list items => .sequence (itemNodes items)
  | .group members => .mapping (memberNodes members)

/-- Items as they are written. -/
def itemNodes : List Setting → List Node
  | [] => []
  | x :: rest => x.node :: itemNodes rest

/-- Members as they are written; absent ones are left out. -/
def memberNodes : List (String × Setting) → List (Node × Node)
  | [] => []
  | (name, x) :: rest =>
    if x.isPresent then (.plain name, x.node) :: memberNodes rest else memberNodes rest

end

end Setting

/-- The width of a natural number: thirty-two or sixty-four bits, the latter also as a size. -/
inductive Width where
  | word32
  | word64
  | size
  deriving DecidableEq, Repr

/-- The greatest number of a width. -/
def Width.greatest : Width → Nat
  | .word32 => Nat.pow 2 32 - 1
  | .word64 | .size => wordMax

/-- The form of a member's value. -/
inductive Shape where
  | flag
  | count (width : Width) (least : Nat) (greatest? : Option Nat)
  | percentage
  | factor
  | text
  | words
  | entry
  | record (name : String)
  | records (name : String)
  | optional (shape : Shape)
  deriving DecidableEq, Repr

/-- A member of a section: its name, its description, its form, its value, how it is read into the
section, and the paths at which it is at fault. -/
structure Member (σ : Type) where
  name : String
  description? : Option String := none
  shape : Shape
  get : σ → Setting
  read? : Node → σ → Option σ
  faults : σ → List String := fun _ => []

/-- A section: the value it has where nothing is written, and its members. -/
class Section (σ : Type) where
  fresh : σ
  members : List (Member σ)

namespace Section

variable {σ τ : Type}

/-- Reads entries one after another; a member may come once, and what is no member is passed
over. -/
def readEntries? (members : List (Member σ)) (seen : List String) (acc : σ) :
    List (Node × Node) → Option σ
  | [] => some acc
  | (key, value) :: rest => do
    let name ← key.text?
    match members.find? (·.name == name) with
    | none => readEntries? members seen acc rest
    | some m =>
      if seen.contains name then none
      else
        let acc ← m.read? value acc
        readEntries? members (name :: seen) acc rest

/-- Reads a section; members that are not written keep their fresh values. -/
def read? [Section σ] (node : Node) : Option σ := do
  readEntries? (members (σ := σ)) [] fresh (← node.entries?)

/-- The values of a section's members. -/
def settings [Section σ] (x : σ) : Setting :=
  .group ((members (σ := σ)).map fun m => (m.name, m.get x))

/-- The paths at which a section is at fault. -/
def faults [Section σ] (x : σ) : List String := (members (σ := σ)).flatMap (·.faults x)

end Section

namespace Member

variable {σ τ : Type}

/-- A fault at a member whose value is not valid. -/
def faultUnless (name : String) (valid : Bool) : List String := if valid then [] else [name]

/-- The member with a description. -/
def described (m : Member σ) (description : String) : Member σ :=
  { m with description? := some description }

/-- A truth value. -/
def flag (name : String) (get : σ → Bool) (set : σ → Bool → σ) : Member σ where
  name
  shape := .flag
  get x := .flag (get x)
  read? node x := node.flag?.map (set x)

/-- A natural number, at fault below a least or above a greatest value. -/
def count (name : String) (width : Width) (get : σ → Nat) (set : σ → Nat → σ) (least : Nat := 0)
    (greatest? : Option Nat := none) : Member σ where
  name
  shape := .count width least greatest?
  get x := .count (get x)
  read? node x := (node.natural? width.greatest).map (set x)
  faults x := faultUnless name (least ≤ get x && greatest?.all (get x ≤ ·))

/-- A natural number of sixty-four bits that may be missing. -/
def optionalCount (name : String) (get : σ → Option Nat) (set : σ → Option Nat → σ) : Member σ where
  name
  shape := .optional (.count .word64 0 none)
  get x := .count? (get x)
  read? node x := (node.optional? (·.natural? Width.word64.greatest)).map (set x)

/-- A percentage above zero and at most a hundred; it is read in double precision and kept in single
precision. -/
def percentage (name : String) (get : σ → Single) (set : σ → Single → σ) : Member σ where
  name
  shape := .percentage
  get x := .single (get x)
  read? node x := node.double?.map fun d => set x d.convert
  faults x := faultUnless name ((get x).greater 0 && !(get x).greater 100)

/-- A factor that is not below one. -/
def factor (name : String) (get : σ → Double) (set : σ → Double → σ) : Member σ where
  name
  shape := .factor
  get x := .double (get x)
  read? node x := node.double?.map (set x)
  faults x := faultUnless name (!(1 : Double).greater (get x))

/-- A text. -/
def text (name : String) (get : σ → String) (set : σ → String → σ) : Member σ where
  name
  shape := .text
  get x := .text (get x)
  read? node x := node.text?.map (set x)

/-- A text that may be missing. -/
def optionalText (name : String) (get : σ → Option String) (set : σ → Option String → σ) :
    Member σ where
  name
  shape := .optional .text
  get x := .text? (get x)
  read? node x := (node.optional? Node.text?).map (set x)

/-- A section within a section; its faults are found under its name. -/
def nested [Section τ] (name record : String) (get : σ → τ) (set : σ → τ → σ) : Member σ where
  name
  shape := .record record
  get x := Section.settings (get x)
  read? node x := (Section.read? node).map (set x)
  faults x := (Section.faults (get x)).map (name ++ "." ++ ·)

/-- A section that may be missing; its faults are found where it is laid over another one. -/
def optionalNested [Section τ] (name record : String) (get : σ → Option τ)
    (set : σ → Option τ → σ) : Member σ where
  name
  shape := .optional (.record record)
  get x := (get x).elim .absent Section.settings
  read? node x := (node.optional? Section.read?).map (set x)

end Member

end GuardedDispatch
