import GuardedDispatch.Json.Writer

/-!
# JSON text on several lines

Every member and item has a line of its own, two columns further right a level; empty collections
stay on one line.
-/

namespace GuardedDispatch.Json

/-- Lines with a comma after each but the last one. -/
def separated : List (List String) → List String
  | [] => []
  | [block] => block
  | block :: rest => block.dropLast ++ block.getLast?.toList.map (· ++ ",") ++ separated rest

/-- Lines between brackets. -/
def bracketed (left right : String) (blocks : List (List String)) : List String :=
  if blocks.isEmpty then [left ++ right]
  else [left] ++ (separated blocks).map ("  " ++ ·) ++ [right]

/-- Lines after the name of a member. -/
def named (name : String) : List String → List String
  | [] => []
  | first :: rest => (stringText name ++ ": " ++ first) :: rest

mutual

/-- The lines of a value. -/
def lines : Json → List String
  | .list items => bracketed "[" "]" (itemBlocks items)
  | .object members => bracketed "\x7b" "\x7d" (memberBlocks members)
  | v => [v.compact]

/-- The lines of each item. -/
def itemBlocks : List Json → List (List String)
  | [] => []
  | v :: rest => v.lines :: itemBlocks rest

/-- The lines of each member. -/
def memberBlocks : List (String × Json) → List (List String)
  | [] => []
  | (name, v) :: rest => named name v.lines :: memberBlocks rest

end

/-- The text of a value on several lines. -/
def pretty (v : Json) : String := String.intercalate "\n" v.lines

end GuardedDispatch.Json
