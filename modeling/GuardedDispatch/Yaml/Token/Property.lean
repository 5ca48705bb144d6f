import GuardedDispatch.Yaml.Token

/-!
# Names, tags and directives

A node can carry an anchor, by which an alias later names it, and a tag, which says what it stands
for. A tag is a handle with a suffix, and a directive before a document says what a handle stands
for. Every reader gives what it read and the cursor after it.
-/

namespace GuardedDispatch.Yaml

/-- Whether a character can stand in a name. -/
def isNameChar (c : Char) : Bool := c.isAlphanum || c == '_' || c == '-'

/-- Whether a character can stand in a tag, within angle brackets or without them. -/
def isTagChar (bracketed : Bool) (c : Char) : Bool :=
  isNameChar c || ";/?:@&=+$.%!~*'()".toList.contains c || bracketed && ",[]".toList.contains c

namespace Cursor

/-- Reads a name, which may be empty. -/
def name (c : Cursor) : String × Cursor :=
  let cs := c.rest.takeWhile isNameChar
  (String.ofList cs, c.skipMany cs.length)

/-- Reads the name of an anchor after its indicator. -/
def anchorName? (c : Cursor) : Option (String × Cursor) :=
  let (name, c) := c.name
  let ends := c.peek?.all fun d => isGapChar d || "?:,]\x7d%@`".toList.contains d
  if name.isEmpty || !ends then none else some (name, c)

/-- The octets that percent signs with two digits write, and every other character's own octets. -/
def octets? : List Char → Option (List UInt8)
  | [] => some []
  | '%' :: a :: b :: rest => do
    let octet := (← hexDigit? a) * 16 + (← hexDigit? b)
    some (octet.toUInt8 :: (← octets? rest))
  | c :: rest => if c == '%' then none else (octets? rest).map (c.toNat.toUInt8 :: ·)

/-- Reads the characters of a tag. -/
def tagText? (bracketed : Bool) (c : Cursor) : Option (String × Cursor) := do
  let cs := c.rest.takeWhile (isTagChar bracketed)
  let text ← String.fromUTF8? ⟨(← octets? cs).toArray⟩
  some (text, c.skipMany cs.length)

/-- Reads a tag handle, and says whether an exclamation mark closes it. -/
def tagHandle (c : Cursor) : String × Bool × Cursor :=
  let (name, after) := c.skip.name
  if after.sees '!' then ("!" ++ name ++ "!", true, after.skip) else ("!" ++ name, false, after)

/-- Reads a tag: a full one in angle brackets, a suffix after a closed handle, or a suffix after an
exclamation mark. An exclamation mark alone is a suffix without a handle. -/
def tag? (c : Cursor) : Option (Token × Cursor) := do
  if c.skip.sees '<' then
    let (suffix, c) ← c.skip.skip.tagText? true
    if suffix.isEmpty || !c.sees '>' then none else some (.tag "" suffix, c.skip)
  else
    let (handle, closed, after) := c.tagHandle
    if closed then
      let (suffix, c) ← after.tagText? false
      if suffix.isEmpty then none else some (.tag handle suffix, c)
    else
      let (suffix, c) ← c.skip.tagText? false
      some (if suffix.isEmpty then .tag "" "!" else .tag "!" suffix, c)

/-- Reads a number of a version: up to nine digits. -/
def versionNumber? (c : Cursor) : Option (Nat × Cursor) :=
  let cs := c.rest.takeWhile Char.isDigit
  if cs.isEmpty || 9 < cs.length then none
  else some (cs.foldl (fun n d => n * 10 + (d.toNat - '0'.toNat)) 0, c.skipMany cs.length)

/-- Reads what follows the name of the version directive. -/
def versionValue? (c : Cursor) : Option (Token × Cursor) := do
  let (major, c) ← c.skipBlanks.versionNumber?
  if !c.sees '.' then none
  else
    let (minor, c) ← c.skip.versionNumber?
    some (.version major minor, c)

/-- Reads what follows the name of the handle directive. -/
def handleValue? (c : Cursor) : Option (Token × Cursor) := do
  let c := c.skipBlanks
  let (handle, closed, after) := c.tagHandle
  if !c.sees '!' || !(closed || handle == "!") || !after.peek?.any isBlankChar then none
  else
    let (expansion, c) ← after.skipBlanks.tagText? true
    if expansion.isEmpty || !endsWord c.peek? then none
    else some (.handle handle expansion, c)

/-- Reads a directive with the rest of its line. -/
def directive? (c : Cursor) : Option (Token × Cursor) := do
  let (name, c) := c.skip.name
  let (token, c) ←
    if !endsWord c.peek? then none
    else if name == "YAML" then c.versionValue?
    else if name == "TAG" then c.handleValue?
    else none
  some (token, ← c.endLine?)

end Cursor

end GuardedDispatch.Yaml
