import GuardedDispatch.Yaml.Scalar

/-!
# YAML nodes

A document is a tree of scalars, sequences and mappings. A scalar keeps its text, how it was written
and its tag: what it stands for depends on all three. A reference names a node that stands elsewhere
in the document.
-/

namespace GuardedDispatch.Yaml

/-- A node of a document. -/
inductive Node where
  | scalar (style : ScalarStyle) (tag? : Option String) (text : String)
  | sequence (items : List Node)
  | mapping (entries : List (Node × Node))
  | reference (number : Nat)
  deriving Inhabited

namespace Node

/-- The node that stands where nothing was written. -/
def nothing : Node := .scalar .plain none ""

/-- A plain scalar. -/
def plain (s : String) : Node := .scalar .plain none s

/-- A scalar that stands for its text whatever it looks like. -/
def quoted (s : String) : Node := .scalar .doubleQuoted none s

/-- A mapping with plain keys. -/
def record (entries : List (String × Node)) : Node :=
  .mapping (entries.map fun (name, value) => (.plain name, value))

/-- Whether the node is a plain scalar without text. -/
def isEmptyScalar : Node → Bool
  | .scalar style _ s => style == .plain && s.isEmpty
  | _ => false

mutual

/-- The node with its references replaced, where there is something to replace them by. -/
def replace (targets : Array Node) : Node → Node
  | .reference n => targets.getD n (.reference n)
  | .sequence items => .sequence (replaceItems targets items)
  | .mapping entries => .mapping (replaceEntries targets entries)
  | node => node

/-- Items with their references replaced. -/
def replaceItems (targets : Array Node) : List Node → List Node
  | [] => []
  | item :: rest => item.replace targets :: replaceItems targets rest

/-- Entries with the references in their keys and values replaced. -/
def replaceEntries (targets : Array Node) : List (Node × Node) → List (Node × Node)
  | [] => []
  | (key, value) :: rest =>
    (key.replace targets, value.replace targets) :: replaceEntries targets rest

end

/-- The node with the references replaced in it, and then in what replaced them, a number of times
over. A node that holds a reference to itself keeps one at that depth. -/
def resolve (depth : Nat) (targets : Array Node) (node : Node) : Node :=
  node.replace (Nat.repeat (fun inner => targets.map (·.replace inner)) depth targets)

end Node

end GuardedDispatch.Yaml
