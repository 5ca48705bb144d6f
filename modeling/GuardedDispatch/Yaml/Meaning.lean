import GuardedDispatch.Number.Shortest
import GuardedDispatch.Yaml.Node

/-!
# What scalars stand for

A plain scalar can stand for nothing, a truth value or a number; every scalar stands for its text.
Numbers are decimal, or whole in base sixteen, eight or two; a decimal with a leading zero is no
whole number.
-/

namespace GuardedDispatch.Yaml

open Number

/-- Whether a text stands for nothing. -/
def isNull (s : String) : Bool := ["~", "null", "Null", "NULL"].contains s

/-- The truth value that a text stands for. -/
def flagOf? (s : String) : Option Bool :=
  if ["true", "True", "TRUE"].contains s then some true
  else if ["false", "False", "FALSE"].contains s then some false
  else none

/-- The value of a digit in a base up to sixteen. -/
def digitIn? (base : Nat) (c : Char) : Option Nat :=
  let n :=
    if c.isDigit then c.toNat - '0'.toNat
    else if 'a' ≤ c ∧ c ≤ 'f' then c.toNat - 'a'.toNat + 10
    else if 'A' ≤ c ∧ c ≤ 'F' then c.toNat - 'A'.toNat + 10
    else base
  if n < base then some n else none

/-- The natural number that digits write in a base. -/
def naturalIn? (base : Nat) (cs : List Char) : Option Nat :=
  if cs.isEmpty then none
  else cs.foldlM (fun n c => (digitIn? base c).map (n * base + ·)) 0

/-- Whether a decimal has a digit after a leading zero. -/
def hasLeadingZero (cs : List Char) : Bool :=
  match cs with
  | '0' :: c :: rest => (c :: rest).all Char.isDigit
  | _ => false

/-- The natural number that digits write, after the letter of their base if they have one. -/
def unsignedOf? : List Char → Option Nat
  | '0' :: 'x' :: digits => naturalIn? 16 digits
  | '0' :: 'o' :: digits => naturalIn? 8 digits
  | '0' :: 'b' :: digits => naturalIn? 2 digits
  | cs => if hasLeadingZero cs then none else naturalIn? 10 cs

/-- The natural number that a text stands for, with an optional plus sign. -/
def naturalOf? (s : String) : Option Nat :=
  match s.toList with
  | '+' :: cs => unsignedOf? cs
  | cs => unsignedOf? cs

/-- The names of the numbers that no digits write. -/
def specialDouble? (s : String) : Option Double :=
  if [".inf", ".Inf", ".INF", "+.inf", "+.Inf", "+.INF"].contains s then some (.infinite false)
  else if ["-.inf", "-.Inf", "-.INF"].contains s then some (.infinite true)
  else if [".nan", ".NaN", ".NAN"].contains s then some .nan
  else none

/-- The double precision number that a text stands for; none that digits write too great. -/
def doubleOf? (s : String) : Option Double :=
  match specialDouble? s with
  | some x => some x
  | none => do
    let d ← match s.toList with
      | '-' :: cs => Decimal.readUnsigned? true cs
      | '+' :: cs => Decimal.readUnsigned? false cs
      | cs => Decimal.readUnsigned? false cs
    match d.toBinary .double with
    | .infinite _ => none
    | x => some x

/-- The tags of the standard scalars. -/
def standardTag (name : String) : String := "tag:yaml.org,2002:" ++ name

namespace Node

/-- The text of a scalar that can stand for something else than itself: a plain one, or a literal one
whose tag says so. -/
def literal? (tag : String) : Node → Option String
  | .scalar .plain _ s => some s
  | .scalar .literal tag? s => if tag? == some (standardTag tag) then some s else none
  | _ => none

/-- The truth value that the node stands for. -/
def flag? (node : Node) : Option Bool := node.literal? "bool" >>= flagOf?

/-- The natural number up to a greatest one that the node stands for. -/
def natural? (greatest : Nat) (node : Node) : Option Nat :=
  (node.literal? "int" >>= naturalOf?).filter (· ≤ greatest)

/-- The double precision number that the node stands for. -/
def double? (node : Node) : Option Double := node.literal? "float" >>= doubleOf?

/-- The text of a scalar. -/
def text? : Node → Option String
  | .scalar _ _ s => some s
  | _ => none

/-- The name of a choice: the text of a scalar, or the local tag of one that stands for nothing. -/
def choice? : Node → Option String
  | .scalar style tag? s =>
    match tag?.map String.toList with
    | some ('!' :: name) =>
      if style == .plain && (s.isEmpty || isNull s) then some (String.ofList name) else none
    | _ => some s
  | _ => none

/-- The items of a sequence; an empty scalar has none. -/
def items? : Node → Option (List Node)
  | .sequence items => some items
  | node => if node.isEmptyScalar then some [] else none

/-- The entries of a mapping; an empty scalar has none. -/
def entries? : Node → Option (List (Node × Node))
  | .mapping entries => some entries
  | node => if node.isEmptyScalar then some [] else none

/-- A reading of a node that may stand for nothing: a plain scalar without a tag that says so or has
no text, or one with the tag for it, which has to say so. -/
def optional? {α : Type} (read? : Node → Option α) (node : Node) : Option (Option α) :=
  match node with
  | .scalar .plain none s =>
    if s.isEmpty || isNull s then some none else (read? node).map some
  | .scalar .plain (some tag) s =>
    if tag != standardTag "null" then (read? node).map some
    else if isNull s then some none else none
  | _ => (read? node).map some

end Node

end GuardedDispatch.Yaml
