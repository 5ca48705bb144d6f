import GuardedDispatch.Yaml.Node
import GuardedDispatch.Yaml.Token.Lexer

/-!
# Documents

A text holds one document: directives and a mark may come before its node, and marks after it. The
node is found by descent over the tokens. A part that may be missing is nothing, and an alias is a
reference to the node whose anchor it names.
-/

namespace GuardedDispatch.Yaml

/-- What is known while the node of a document is read: the tokens that are left, what tag handles
stand for, the numbers of the anchors' names, and the nodes with anchors in the order in which they
begin, each with the number of its name. -/
structure Reading where
  tokens : List Token
  handles : List (String × String) := [("!", "!"), ("!!", "tag:yaml.org,2002:")]
  names : List (String × Nat) := []
  anchored : Array (Nat × Node) := #[]

/-- A step of reading, which can fail. -/
abbrev ReadM := StateT Reading Option

namespace ReadM

/-- The next token; none at the end. -/
def peek : ReadM (Option Token) := do return (← get).tokens.head?

/-- Moves over a token. -/
def skip : ReadM Unit := modify fun r => { r with tokens := r.tokens.tail }

/-- Moves over a given token, if it is next, and says whether it was. -/
def accept (t : Token) : ReadM Bool := do
  if (← peek) == some t then
    skip
    return true
  else return false

/-- Moves over a given token; fails if another one is next. -/
def expect (t : Token) : ReadM Unit := do
  if !(← accept t) then failure

/-- Whether one of the given tokens is next. -/
def nextIn (ts : List Token) : ReadM Bool := do return (← peek).any ts.contains

/-- Moves over an anchor, if there is one, and gives its name. -/
def anchor? : ReadM (Option String) := do
  match ← peek with
  | some (.anchor name) =>
    skip
    return some name
  | _ => return none

/-- Moves over a tag, if there is one, and gives what it stands for; fails if its handle stands for
nothing. -/
def tag? : ReadM (Option String) := do
  match ← peek with
  | some (.tag handle suffix) =>
    skip
    if handle.isEmpty then return some suffix
    match (← get).handles.lookup handle with
    | some expansion => return some (expansion ++ suffix)
    | none => failure
  | _ => return none

/-- Moves over the anchor and the tag of a node, in either order. -/
def properties : ReadM (Option String × Option String) := do
  match ← anchor? with
  | some name => return (some name, ← tag?)
  | none =>
    let tag ← tag?
    return (← if tag.isSome then anchor? else pure none, tag)

/-- The node that an alias stands for. -/
def target (name : String) : ReadM Node := do
  match (← get).names.lookup name with
  | some n => return .reference n
  | none => failure

/-- Says that the next node has an anchor, and gives its place among the nodes that have. The number of
a name is how many other names there were when it was given last. -/
def declare (name : String) : ReadM Nat := do
  let r ← get
  let n := r.names.length
  set { r with
    names := (name, n) :: r.names.filter (·.1 != name)
    anchored := r.anchored.push (n, .reference n) }
  return r.anchored.size

/-- Keeps the node at a place among those that have an anchor. -/
def define (place : Nat) (node : Node) : ReadM Unit :=
  modify fun r => { r with anchored := r.anchored.modify place fun (n, _) => (n, node) }

/-- What a node without further tokens is: nothing, if it has a property. -/
def absent (anchor? tag? : Option String) : ReadM Node :=
  if anchor?.isSome || tag?.isSome then pure (.scalar .plain tag? "") else failure

mutual

/-- Reads a node. Block collections are allowed only within blocks, and a sequence without a token of
its own only as a part of an entry. -/
def node (fuel : Nat) (block inEntry : Bool) : ReadM Node :=
  match fuel with
  | 0 => failure
  | fuel + 1 => do
    if let some (.reference name) ← peek then
      skip
      return ← target name
    let (anchor?, tag?) ← properties
    let place? ← anchor?.mapM declare
    let node ← match ← peek, block with
      | some (.scalar style s), _ => do
        skip
        pure (.scalar style (tag?.filter (· != "!")) s)
      | some .flowSequence, _ => do
        skip
        pure (.sequence (← flowItems fuel true))
      | some .flowMapping, _ => do
        skip
        pure (.mapping (← flowEntries fuel true))
      | some .blockSequence, true => do
        skip
        pure (.sequence (← blockItems fuel))
      | some .blockMapping, true => do
        skip
        pure (.mapping (← blockEntries fuel))
      | some .item, true =>
        if inEntry then do pure (.sequence (← entryItems fuel)) else absent anchor? tag?
      | _, _ => absent anchor? tag?
    place?.forM (define · node)
    return node

/-- Reads a node, or nothing if one of the given tokens is next. -/
def nodeBefore (fuel : Nat) (block inEntry : Bool) (ends : List Token) : ReadM Node :=
  match fuel with
  | 0 => failure
  | fuel + 1 => do
    if ← nextIn ends then return .nothing else node fuel block inEntry

/-- Reads the value of an entry, if a colon is next. -/
def valueBefore (fuel : Nat) (block : Bool) (ends : List Token) : ReadM Node :=
  match fuel with
  | 0 => failure
  | fuel + 1 => do
    if ← accept .value then nodeBefore fuel block block ends else return .nothing

/-- Reads the items of a block sequence. -/
def blockItems (fuel : Nat) : ReadM (List Node) :=
  match fuel with
  | 0 => failure
  | fuel + 1 => do
    if ← accept .item then
      let item ← nodeBefore fuel true false [.item, .blockEnd]
      return item :: (← blockItems fuel)
    else
      expect .blockEnd
      return []

/-- Reads the items of a sequence that is a part of an entry. -/
def entryItems (fuel : Nat) : ReadM (List Node) :=
  match fuel with
  | 0 => failure
  | fuel + 1 => do
    if ← accept .item then
      let item ← nodeBefore fuel true false [.item, .key, .value, .blockEnd]
      return item :: (← entryItems fuel)
    else return []

/-- Reads the entries of a block mapping. -/
def blockEntries (fuel : Nat) : ReadM (List (Node × Node)) :=
  match fuel with
  | 0 => failure
  | fuel + 1 => do
    if ← accept .key then
      let key ← nodeBefore fuel true true [.key, .value, .blockEnd]
      let value ← valueBefore fuel true [.key, .value, .blockEnd]
      return (key, value) :: (← blockEntries fuel)
    else
      expect .blockEnd
      return []

/-- Reads the items of a flow sequence. A key makes an item a mapping of one entry; a token that
stands where the key should follow is passed over. -/
def flowItems (fuel : Nat) (first : Bool) : ReadM (List Node) :=
  match fuel with
  | 0 => failure
  | fuel + 1 => do
    if ← accept .flowSequenceEnd then return []
    if !first then
      expect .comma
      if ← accept .flowSequenceEnd then return []
    let item ←
      if ← accept .key then do
        let missing ← nextIn [.value, .comma, .flowSequenceEnd]
        let key ← if missing then do
            skip
            pure .nothing
          else node fuel false false
        let value ← valueBefore fuel false [.comma, .flowSequenceEnd]
        pure (.mapping [(key, value)])
      else node fuel false false
    return item :: (← flowItems fuel false)

/-- Reads the entries of a flow mapping. -/
def flowEntries (fuel : Nat) (first : Bool) : ReadM (List (Node × Node)) :=
  match fuel with
  | 0 => failure
  | fuel + 1 => do
    if ← accept .flowMappingEnd then return []
    if !first then
      expect .comma
      if ← accept .flowMappingEnd then return []
    let entry ←
      if ← accept .key then do
        let key ← nodeBefore fuel false false [.value, .comma, .flowMappingEnd]
        pure (key, ← valueBefore fuel false [.comma, .flowMappingEnd])
      else do pure (← node fuel false false, .nothing)
    return entry :: (← flowEntries fuel false)

end

/-- Reads the directives before a document: one version of the format at most, and every handle at
most once. -/
def directives (fuel : Nat) (versioned : Bool) (handles : List (String × String)) : ReadM Unit :=
  match fuel with
  | 0 => failure
  | fuel + 1 => do
    match ← peek with
    | some (.version major minor) =>
      skip
      if versioned || major != 1 || !(minor == 1 || minor == 2) then failure
      directives fuel true handles
    | some (.handle name expansion) =>
      skip
      if (handles.lookup name).isSome then failure
      directives fuel versioned ((name, expansion) :: handles)
    | _ => modify fun r => { r with handles := handles ++ r.handles }

/-- Whether a directive or the mark of a document is next. -/
def beginsDocument : Option Token → Bool
  | some (.version ..) | some (.handle ..) | some .documentStart => true
  | _ => false

/-- Moves over marks at which documents end. -/
def skipEnds : ReadM Unit :=
  modify fun r => { r with tokens := r.tokens.dropWhile (· == .documentEnd) }

/-- Reads the node of the document that the tokens hold. -/
def document (fuel : Nat) : ReadM Node := do
  if (← peek).isNone then return .nothing
  let marked := beginsDocument (← peek)
  if marked then
    directives fuel false []
    expect .documentStart
  let next ← peek
  let empty := marked && (next.isNone || next == some .documentEnd || beginsDocument next)
  let node ← if empty then pure .nothing else node fuel true false
  skipEnds
  if (← peek).isSome then failure
  return node

end ReadM

/-- How often references are replaced within what replaced others. What is read of a document is not
nested deeper than this. -/
def referenceDepth : Nat := 16

/-- The nodes that references stand for: of the nodes with one number the last one. -/
def Reading.targets (r : Reading) : Array Node :=
  r.anchored.foldl (fun targets (n, node) => targets.modify n fun _ => node)
    (Array.ofFn fun n : Fin r.anchored.size => .reference n)

/-- The node of the document that tokens hold. -/
def Node.ofTokens? (tokens : List Token) : Option Node := do
  let (node, r) ← (ReadM.document (4 * tokens.length + 4)).run { tokens }
  some (node.resolve referenceDepth r.targets)

/-- The node of the document that a text holds. -/
def Node.read? (s : String) : Option Node := Token.scan? s >>= Node.ofTokens?

end GuardedDispatch.Yaml
