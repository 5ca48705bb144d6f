import GuardedDispatch.Yaml.Cursor

/-!
# Reading scalars

A scalar is written plainly, in single or double quotes, or as a block of lines. Line breaks inside
plain and quoted scalars fold: a line feed is a space, further ones stay, and separators stay as they
are. Every reader gives the text and the cursor after it, and is `none` where the text breaks the
rules.
-/

namespace GuardedDispatch.Yaml

/-- How a scalar is written. -/
inductive ScalarStyle where
  | plain
  | singleQuoted
  | doubleQuoted
  | literal
  | folded
  deriving DecidableEq, Repr, Inhabited

/-- The indicators that delimit flow collections. -/
def isFlowIndicator (c : Char) : Bool := c == ',' || c == '[' || c == ']' || c == '{' || c == '}'

/-- The characters of one word of a plain scalar: up to a blank, a colon that ends a key, or, within
a flow collection, one of its indicators. -/
def plainWord? (flow : Bool) : List Char → Option (List Char)
  | [] => some []
  | c :: rest =>
    let next := rest.head?
    if isGapChar c then some []
    else if flow && c == ':' && next.any (fun d => isFlowIndicator d || d == '?') then none
    else if c == ':' && endsWord next then some []
    else if flow && isFlowIndicator c then some []
    else (plainWord? flow rest).map (c :: ·)

/-- A plain scalar that was read: its text, whether a line break ended it, and where it ends. -/
structure PlainRead where
  text : List Char
  broken : Bool
  after : Cursor

/-- Reads the words of a plain scalar, given the fold before the next one; lines that begin left of
`limit` do not belong to it. -/
def readPlainFor? (fuel : Nat) (flow : Bool) (limit : Nat) (text : List Char) (f : Fold) :
    Option PlainRead :=
  match fuel with
  | 0 => none
  | fuel + 1 =>
    let c := f.after
    if c.atDocumentMark || c.sees '#' then some ⟨text, f.broken, c⟩
    else do
      let word ← plainWord? flow c.rest
      let after := c.skipMany word.length
      if word.isEmpty then some ⟨text, f.broken, after⟩
      else
        let text := text ++ f.text ++ word
        if !after.peek?.any isGapChar then some ⟨text, false, after⟩
        else
          let f ← Fold.read? limit { after }
          if !flow && f.after.column < limit then some ⟨text, f.broken, f.after⟩
          else readPlainFor? fuel flow limit text f

/-- Whether a plain scalar can begin here. -/
def startsPlain (flow : Bool) (c : Cursor) : Bool :=
  match c.rest with
  | [] => false
  | d :: rest =>
    if d == '-' then !(rest.head?.any isBlankChar)
    else if d == '?' || d == ':' then !flow && !endsWord rest.head?
    else !(isGapChar d || isFlowIndicator d || "#&*!|>'\"%@`".toList.contains d)

/-- Reads a plain scalar. -/
def readPlain? (flow : Bool) (limit : Nat) (c : Cursor) : Option PlainRead :=
  if startsPlain flow c then readPlainFor? (c.rest.length + 1) flow limit [] { after := c }
  else none

/-- The value of a hexadecimal digit. -/
def hexDigit? (c : Char) : Option Nat :=
  if c.isDigit then some (c.toNat - '0'.toNat)
  else if 'a' ≤ c ∧ c ≤ 'f' then some (c.toNat - 'a'.toNat + 10)
  else if 'A' ≤ c ∧ c ≤ 'F' then some (c.toNat - 'A'.toNat + 10)
  else none

/-- The character with a hexadecimal code; surrogates and what lies beyond Unicode have none. -/
def codedChar? (digits : List Char) : Option Char := do
  let n ← digits.foldlM (fun n d => (hexDigit? d).map (n * 16 + ·)) 0
  if n.isValidChar then some (Char.ofNat n) else none

/-- The character that a letter after a backslash stands for. -/
def escapeLetter? (c : Char) : Option Char :=
  ([('0', Char.ofNat 0), ('a', Char.ofNat 7), ('b', Char.ofNat 8), ('t', '\t'), ('\t', '\t'),
    ('n', '\n'), ('v', Char.ofNat 11), ('f', Char.ofNat 12), ('r', '\r'), ('e', Char.ofNat 27),
    (' ', ' '), ('"', '"'), ('/', '/'), ('\\', '\\'), ('N', Char.ofNat 0x85),
    ('_', Char.ofNat 0xA0), ('L', Char.ofNat 0x2028), ('P', Char.ofNat 0x2029)] :
    List (Char × Char)).lookup c

/-- The number of hexadecimal digits after a letter that asks for a code. -/
def codeLength? (c : Char) : Option Nat := [('x', 2), ('u', 4), ('U', 8)].lookup c

/-- Reads an escape after its backslash. -/
def readEscape? (c : Cursor) : Option (Char × Cursor) := do
  let letter ← c.peek?
  match codeLength? letter with
  | some n =>
    let digits := c.skip.rest.take n
    if digits.length < n then none
    else (codedChar? digits).map (·, c.skip.skipMany n)
  | none => (escapeLetter? letter).map (·, c.skip)

/-- Reads the rest of a quoted scalar after its opening quote. A backslash before a line break takes
the break away. -/
def readQuotedFor? (fuel : Nat) (quote : Char) (text : List Char) (c : Cursor) :
    Option (String × Cursor) :=
  match fuel, c.peek? with
  | fuel + 1, some d =>
    if c.atDocumentMark then none
    else if d == '\\' && quote == '"' then
      if c.skip.atBreak then do
        let fold ← Fold.read? 0 { broken := true, after := c.skip.skipBreak }
        readQuotedFor? fuel quote (text ++ fold.text) fold.after
      else do
        let (e, c) ← readEscape? c.skip
        readQuotedFor? fuel quote (text ++ [e]) c
    else if d == quote then
      if quote == '\'' && c.skip.sees quote then
        readQuotedFor? fuel quote (text ++ [d]) c.skip.skip
      else some (String.ofList text, c.skip)
    else if isGapChar d then do
      let fold ← Fold.read? 0 { after := c }
      readQuotedFor? fuel quote (text ++ fold.text) fold.after
    else readQuotedFor? fuel quote (text ++ [d]) c.skip
  | _, _ => none

/-- Reads a scalar in quotes. -/
def readQuoted? (quote : Char) (c : Cursor) : Option (String × Cursor) :=
  readQuotedFor? (c.rest.length + 1) quote [] c.skip

/-- What becomes of the line breaks at the end of a block scalar. -/
inductive Chomping where
  | strip
  | clip
  | keep
  deriving DecidableEq, Repr

/-- The chomping that an indicator asks for. -/
def Chomping.ofChar? (c : Char) : Option Chomping := [('-', strip), ('+', keep)].lookup c

/-- The indentation that an indicator asks for. -/
def indentation? (c : Char) : Option Nat :=
  if '1' ≤ c ∧ c ≤ '9' then some (c.toNat - '0'.toNat) else none

/-- Reads the indicators of a block scalar, which may come in either order. -/
def blockHeader (c : Cursor) : Chomping × Option Nat × Cursor :=
  match c.peek?.bind Chomping.ofChar?, c.peek?.bind indentation? with
  | some chomping, _ =>
    match c.skip.peek?.bind indentation? with
    | some n => (chomping, some n, c.skip.skip)
    | none => (chomping, none, c.skip)
  | none, some n =>
    match c.skip.peek?.bind Chomping.ofChar? with
    | some chomping => (chomping, some n, c.skip.skip)
    | none => (.clip, some n, c.skip)
  | none, none => (.clip, none, c)

/-- Moves over empty lines, keeping their breaks, up to a line with content at or beyond the
indentation; without an indentation it also finds the widest line. -/
def blockBreaksFor? (fuel : Nat) (indent? : Option Nat) (widest : Nat) (breaks : List Char)
    (c : Cursor) : Option (Nat × List Char × Cursor) :=
  match fuel with
  | 0 => none
  | fuel + 1 =>
    let spaces := (c.rest.takeWhile (· == ' ')).length
    let c := c.skipMany (indent?.elim spaces fun n => min spaces (n - c.column))
    let widest := max widest c.column
    if c.sees '\t' && indent?.all (c.column < ·) then none
    else if c.atBreak then blockBreaksFor? fuel indent? widest (breaks ++ c.breakText) c.skipBreak
    else some (widest, breaks, c)

/-- Moves over empty lines. -/
def blockBreaks? (indent? : Option Nat) (c : Cursor) : Option (Nat × List Char × Cursor) :=
  blockBreaksFor? (c.rest.length + 1) indent? 0 [] c

/-- What is known of a block scalar between two of its lines: its text so far, the break after its
last line, the breaks of the empty lines since, and whether the last line began with a blank. -/
structure BlockText where
  text : List Char := []
  owed : List Char := []
  empties : List Char := []
  afterBlank : Bool := false

/-- Adds a line that ends with a break. In a folded scalar a line feed between two lines that do not
begin with a blank is a space, or nothing before empty lines. -/
def BlockText.addLine (b : BlockText) (literal : Bool) (line ending : List Char) : BlockText :=
  let startsBlank := line.head?.any isBlankChar
  let joins := !literal && b.owed == ['\n'] && !b.afterBlank && !startsBlank
  let link := if joins then (if b.empties.isEmpty then [' '] else []) else b.owed
  { text := b.text ++ link ++ b.empties ++ line, owed := ending, afterBlank := startsBlank }

/-- The text with the line breaks at its end that the chomping leaves. -/
def BlockText.finish (b : BlockText) (chomping : Chomping) : String :=
  let last := if chomping == .strip then [] else b.owed
  let rest := if chomping == .keep then b.empties else []
  String.ofList (b.text ++ last ++ rest)

/-- Reads the lines of a block scalar. -/
def blockLinesFor? (fuel : Nat) (literal : Bool) (indent : Nat) (b : BlockText) (c : Cursor) :
    Option (BlockText × Cursor) :=
  match fuel with
  | 0 => none
  | fuel + 1 =>
    if c.column != indent || c.atEnd then some (b, c)
    else do
      let line := c.rest.takeWhile (!isBreakChar ·)
      let after := c.skipMany line.length
      let b := b.addLine literal line after.breakText
      let (_, empties, next) ← blockBreaks? (some indent) after.skipBreak
      blockLinesFor? fuel literal indent { b with empties } next

/-- Reads a block scalar in a place whose content begins at `limit` or further right. -/
def readBlock? (literal : Bool) (limit : Nat) (c : Cursor) : Option (String × Cursor) := do
  let (chomping, asked?, c) := blockHeader c.skip
  let c ← c.endLine?
  let asked? := asked?.map fun n => if limit = 0 then n else limit - 1 + n
  let (widest, empties, c) ← blockBreaks? asked? c
  let indent := asked?.getD (max 1 (max limit widest))
  let (b, c) ← blockLinesFor? (c.rest.length + 1) literal indent { empties } c
  some (b.finish chomping, c)

end GuardedDispatch.Yaml
