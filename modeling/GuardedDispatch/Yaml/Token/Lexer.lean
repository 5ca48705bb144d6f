import GuardedDispatch.Yaml.Token.Property

/-!
# Tokens of a text

The lexer finds the tokens of a text from left to right. It keeps the columns of the open block
collections, and the place where a key could have begun: when a colon shows that it was one, the
token for it is put in front of what has been read since. Such a key stands on one line and has at
most 1024 characters.
-/

namespace GuardedDispatch.Yaml

/-- A place where a key could have begun: how many tokens come before it, whether nothing but a key
may stand there, and where it is in the text. -/
structure KeyStart where
  position : Nat
  required : Bool
  place : Cursor

/-- Whether a key that begins at the place cannot reach up to here. -/
def KeyStart.isStale (k : KeyStart) (c : Cursor) : Bool :=
  k.place.line < c.line || k.place.index + 1024 < c.index

/-- What is known between two tokens: the rest of the text and the tokens before it; where a key could
have begun in the innermost collection and in the flow collections around it; the columns of the open
block collections, innermost first; and whether a key may begin here. -/
structure Lexer where
  cursor : Cursor
  tokens : Array Token := #[]
  key? : Option KeyStart := none
  outer : List (Option KeyStart) := []
  columns : List Nat := []
  keyAllowed : Bool := true

namespace Lexer

/-- Whether the lexer is within a flow collection. -/
def inFlow (l : Lexer) : Bool := !l.outer.isEmpty

/-- The least column of what belongs to the innermost block collection. -/
def limit (l : Lexer) : Nat := l.columns.head?.elim 0 (· + 1)

/-- Adds a token whose text ends at a cursor. -/
def emit (l : Lexer) (t : Token) (after : Cursor) : Lexer :=
  { l with tokens := l.tokens.push t, cursor := after }

/-- Adds a token of some characters. -/
def emitMany (n : Nat) (t : Token) (l : Lexer) : Lexer := l.emit t (l.cursor.skipMany n)

/-- Says whether a key may begin after this. -/
def allowKey (allowed : Bool) (l : Lexer) : Lexer := { l with keyAllowed := allowed }

/-- Opens a block collection in a column, before the token at a position, unless there is one in that
column or further right. -/
def openBlock (column position : Nat) (t : Token) (l : Lexer) : Lexer :=
  if l.inFlow || column < l.limit then l
  else
    { l with
      tokens := l.tokens.insertIdxIfInBounds position t
      columns := column :: l.columns }

/-- Closes the innermost block collections whose columns are not kept. -/
def closeBlocks (kept : Nat → Bool) (l : Lexer) : Lexer :=
  if l.inFlow then l
  else
    { l with
      tokens := l.tokens ++ (l.columns.takeWhile (!kept ·)).map fun _ => Token.blockEnd
      columns := l.columns.dropWhile (!kept ·) }

/-- Closes all block collections. -/
def closeAll (l : Lexer) : Lexer := l.closeBlocks fun _ => false

/-- Gives up the place where a key could have begun; none where there had to be a key. -/
def dropKey? (l : Lexer) : Option Lexer :=
  if l.key?.any (·.required) then none else some { l with key? := none }

/-- Gives up the places that have become stale. -/
def dropStale? (l : Lexer) : Option Lexer :=
  let fresh (k? : Option KeyStart) := k?.filter (!·.isStale l.cursor)
  if (l.key? :: l.outer).any (·.any fun k => k.required && k.isStale l.cursor) then none
  else some { l with key? := fresh l.key?, outer := l.outer.map fresh }

/-- Keeps this place as one where a key can begin, if one can. -/
def markKey? (l : Lexer) : Option Lexer :=
  if !l.keyAllowed then some l
  else do
    let l ← l.dropKey?
    let required := !l.inFlow && l.columns.head? == some l.cursor.column
    some { l with key? := some ⟨l.tokens.size, required, l.cursor⟩ }

/-- Moves over blanks, comments and line breaks, and over marks of byte order that begin a line.
Tabs count as blanks only where no block could begin. -/
def skipGapFor (fuel : Nat) (l : Lexer) : Lexer :=
  match fuel with
  | 0 => l
  | fuel + 1 =>
    let c := if l.cursor.column = 0 && l.cursor.sees orderMark then l.cursor.skip else l.cursor
    let tabs := l.inFlow || !l.keyAllowed
    let c := (c.skipWhile fun d => d == ' ' || tabs && d == '\t').skipComment
    if c.atBreak then
      skipGapFor fuel { l with cursor := c.skipBreak, keyAllowed := l.keyAllowed || !l.inFlow }
    else { l with cursor := c }

/-- Moves to the next token and closes the block collections that end before it. -/
def skipGap? (l : Lexer) : Option Lexer := do
  let l ← (l.skipGapFor (l.cursor.rest.length + 1)).dropStale?
  some (l.closeBlocks (· ≤ l.cursor.column))

/-- Reads a directive. -/
def directive? (l : Lexer) : Option Lexer := do
  let (t, after) ← l.cursor.directive?
  some (((← l.closeAll.dropKey?).emit t after).allowKey false)

/-- Reads the mark at which a document begins or ends. -/
def mark? (t : Token) (l : Lexer) : Option Lexer := do
  some (((← l.closeAll.dropKey?).emitMany 3 t).allowKey false)

/-- Opens a flow collection. -/
def openFlow? (t : Token) (l : Lexer) : Option Lexer := do
  let l ← l.markKey?
  some ({ l with key? := none, outer := l.key? :: l.outer }.emitMany 1 t |>.allowKey true)

/-- Closes a flow collection. -/
def closeFlow? (t : Token) (l : Lexer) : Option Lexer := do
  let l ← l.dropKey?
  let l := match l.outer with
    | [] => l
    | key? :: outer => { l with key?, outer }
  some ((l.emitMany 1 t).allowKey false)

/-- Reads a comma. -/
def comma? (l : Lexer) : Option Lexer := do
  some (((← l.dropKey?).emitMany 1 .comma).allowKey true)

/-- Opens a block collection here for an indicator, where one may begin. -/
def openHere? (t : Token) (l : Lexer) : Option Lexer :=
  if l.inFlow || l.keyAllowed then some (l.openBlock l.cursor.column l.tokens.size t) else none

/-- Reads the dash before an item. -/
def dash? (l : Lexer) : Option Lexer := do
  let l ← (← l.openHere? .blockSequence).dropKey?
  some ((l.emitMany 1 .item).allowKey true)

/-- Reads the question mark before a key. -/
def question? (l : Lexer) : Option Lexer := do
  let l ← (← l.openHere? .blockMapping).dropKey?
  some ((l.emitMany 1 .key).allowKey (!l.inFlow))

/-- Reads the colon before a value. What stands where a key could have begun is now known to be
one. -/
def colon? (l : Lexer) : Option Lexer :=
  match l.key? with
  | some k =>
    let l := { l with tokens := l.tokens.insertIdxIfInBounds k.position .key, key? := none }
    let l := l.openBlock k.place.column k.position .blockMapping
    some ((l.emitMany 1 .value).allowKey false)
  | none => do
    let l ← l.openHere? .blockMapping
    some ((l.emitMany 1 .value).allowKey (!l.inFlow))

/-- Reads an alias or an anchor. -/
def name? (t : String → Token) (l : Lexer) : Option Lexer := do
  let (name, after) ← l.cursor.skip.anchorName?
  some (((← l.markKey?).emit (t name) after).allowKey false)

/-- Reads a tag, which a blank, a line break or, within a flow collection, a comma ends. -/
def tag? (l : Lexer) : Option Lexer := do
  let (t, after) ← l.cursor.tag?
  if !endsWord after.peek? && !(l.inFlow && after.sees ',') then none
  else some (((← l.markKey?).emit t after).allowKey false)

/-- Reads a block scalar. -/
def block? (style : ScalarStyle) (l : Lexer) : Option Lexer := do
  let (s, after) ← readBlock? (style == .literal) l.limit l.cursor
  some (((← l.dropKey?).emit (.scalar style s) after).allowKey true)

/-- Reads a quoted scalar. -/
def quoted? (style : ScalarStyle) (quote : Char) (l : Lexer) : Option Lexer := do
  let (s, after) ← readQuoted? quote l.cursor
  some (((← l.markKey?).emit (.scalar style s) after).allowKey false)

/-- Reads a plain scalar. After a line break that ends it, a key may begin. -/
def plain? (l : Lexer) : Option Lexer := do
  let p ← readPlain? l.inFlow l.limit l.cursor
  some (((← l.markKey?).emit (.scalar .plain (String.ofList p.text)) p.after).allowKey p.broken)

/-- Reads the token that begins here. -/
def next? (l : Lexer) : Option Lexer :=
  let c := l.cursor
  let word := endsWord c.skip.peek?
  if c.column = 0 && c.sees '%' then l.directive?
  else if c.atMark '-' then l.mark? .documentStart
  else if c.atMark '.' then l.mark? .documentEnd
  else match c.peek? with
    | some '[' => l.openFlow? .flowSequence
    | some ']' => l.closeFlow? .flowSequenceEnd
    | some '{' => l.openFlow? .flowMapping
    | some '}' => l.closeFlow? .flowMappingEnd
    | some ',' => l.comma?
    | some '-' => if word then l.dash? else l.plain?
    | some '?' => if l.inFlow || word then l.question? else l.plain?
    | some ':' => if l.inFlow || word then l.colon? else l.plain?
    | some '*' => l.name? .reference
    | some '&' => l.name? .anchor
    | some '!' => l.tag?
    | some '|' => if l.inFlow then none else l.block? .literal
    | some '>' => if l.inFlow then none else l.block? .folded
    | some '\'' => l.quoted? .singleQuoted '\''
    | some '"' => l.quoted? .doubleQuoted '"'
    | _ => l.plain?

/-- Reads tokens up to the end of the text. -/
def runFor? (fuel : Nat) (l : Lexer) : Option (Array Token) :=
  match fuel with
  | 0 => none
  | fuel + 1 => do
    let l ← l.skipGap?
    if l.cursor.atEnd then (l.closeAll.dropKey?).map (·.tokens) else runFor? fuel (← l.next?)

end Lexer

/-- Whether a character may stand in a document. -/
def isPermitted (c : Char) : Bool :=
  let n := c.toNat
  n == 9 || n == 10 || n == 13 || (0x20 ≤ n && n ≤ 0x7E) || n == 0x85 || (0xA0 ≤ n && n ≤ 0xFFFD) ||
    0x10000 ≤ n

/-- The tokens of a text. -/
def Token.scan? (s : String) : Option (List Token) :=
  let cs := s.toList
  if cs.all isPermitted then
    ((Lexer.mk { rest := cs } #[] none [] [] true).runFor? (cs.length + 1)).map (·.toList)
  else none

end GuardedDispatch.Yaml
