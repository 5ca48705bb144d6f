import GuardedDispatch.Yaml.Scalar

/-!
# Tokens

The tokens of a document are its scalars, the properties and indicators around them, and the edges of
its collections. The edges of a block collection are not written: they follow from the columns in
which its parts begin.
-/

namespace GuardedDispatch.Yaml

/-- A token of a document. -/
inductive Token where
  /-- The version directive. -/
  | version (major minor : Nat)
  /-- The directive that says what a tag handle stands for. -/
  | handle (name expansion : String)
  | documentStart
  | documentEnd
  | blockSequence
  | blockMapping
  | blockEnd
  | flowSequence
  | flowSequenceEnd
  | flowMapping
  | flowMappingEnd
  /-- The dash before an item. -/
  | item
  /-- The comma between two items or entries. -/
  | comma
  /-- The beginning of a key. -/
  | key
  /-- The colon before a value. -/
  | value
  /-- The alias of an anchor. -/
  | reference (name : String)
  | anchor (name : String)
  | tag (handle suffix : String)
  | scalar (style : ScalarStyle) (text : String)
  deriving DecidableEq, Repr, Inhabited

end GuardedDispatch.Yaml
