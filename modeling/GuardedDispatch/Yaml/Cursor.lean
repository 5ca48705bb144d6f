/-!
# Places in a text

A cursor stands before the rest of a text and knows how many characters came before, and its line
and column, all counted from zero. Moving it over characters keeps them right. Blanks are spaces and
tabs. A carriage return with a line feed is one line break, as are either of them alone, the next
line control, the line separator and the paragraph separator.
-/

namespace GuardedDispatch.Yaml

/-- Whether a character is a space or a tab. -/
def isBlankChar (c : Char) : Bool := c == ' ' || c == '\t'

/-- Whether a character is a break that is kept as it is: a line or a paragraph separator. -/
def isSeparatorChar (c : Char) : Bool := c.toNat == 0x2028 || c.toNat == 0x2029

/-- Whether a character breaks a line. -/
def isBreakChar (c : Char) : Bool :=
  c == '\n' || c == '\r' || c.toNat == 0x85 || isSeparatorChar c

/-- Whether a character is a blank or breaks a line. -/
def isGapChar (c : Char) : Bool := isBlankChar c || isBreakChar c

/-- Whether a word ends here: before a blank, a line break or the end. -/
def endsWord (c? : Option Char) : Bool := c?.all isGapChar

/-- Whether a line ends here: before a line break or the end. -/
def endsLine (c? : Option Char) : Bool := c?.all isBreakChar

/-- The mark of byte order, which may begin a line. -/
def orderMark : Char := Char.ofNat 0xFEFF

/-- The rest of a text and where in the text it begins. -/
structure Cursor where
  rest : List Char
  index : Nat := 0
  line : Nat := 0
  column : Nat := 0

namespace Cursor

/-- The next character. -/
def peek? (c : Cursor) : Option Char := c.rest.head?

/-- Whether the text ends here. -/
def atEnd (c : Cursor) : Bool := c.rest.isEmpty

/-- Whether a given character is next. -/
def sees (c : Cursor) (d : Char) : Bool := c.peek? == some d

/-- Whether a line break is next. -/
def atBreak (c : Cursor) : Bool := c.peek?.any isBreakChar

/-- Moves over some characters of the line. -/
def skipMany (n : Nat) (c : Cursor) : Cursor :=
  { c with rest := c.rest.drop n, index := c.index + n, column := c.column + n }

/-- Moves over one character of the line. -/
def skip (c : Cursor) : Cursor := c.skipMany 1

/-- Moves over all characters of a kind. -/
def skipWhile (p : Char → Bool) (c : Cursor) : Cursor := c.skipMany (c.rest.takeWhile p).length

/-- Moves over spaces and tabs. -/
def skipBlanks (c : Cursor) : Cursor := c.skipWhile isBlankChar

/-- Moves over a comment, up to the end of its line. -/
def skipComment (c : Cursor) : Cursor := if c.sees '#' then c.skipWhile (!isBreakChar ·) else c

/-- Moves over a line break, if there is one. -/
def skipBreak (c : Cursor) : Cursor :=
  let moved (n : Nat) : Cursor := ⟨c.rest.drop n, c.index + n, c.line + 1, 0⟩
  match c.rest with
  | '\r' :: '\n' :: _ => moved 2
  | d :: _ => if isBreakChar d then moved 1 else c
  | [] => c

/-- What a text keeps of the line break that is next: a separator, else a line feed. -/
def breakText (c : Cursor) : List Char :=
  match c.peek? with
  | some d => if isSeparatorChar d then [d] else if isBreakChar d then ['\n'] else []
  | none => []

/-- Moves to the next line past blanks and a comment; none if anything else stands there. -/
def endLine? (c : Cursor) : Option Cursor :=
  let c := c.skipBlanks.skipComment
  if endsLine c.peek? then some c.skipBreak else none

/-- Whether a line begins here with three of the given character as a word of their own. -/
def atMark (c : Cursor) (mark : Char) : Bool :=
  match c.column, c.rest with
  | 0, x :: y :: z :: rest => [x, y, z] == [mark, mark, mark] && endsWord rest.head?
  | _, _ => false

/-- Whether a document begins or ends here. -/
def atDocumentMark (c : Cursor) : Bool := c.atMark '-' || c.atMark '.'

end Cursor

/-- Blanks and line breaks between two words of a scalar: the blanks before the first break, whether
there is a break, what the text keeps of the first one and of the others, and where they end. -/
structure Fold where
  blanks : List Char := []
  broken : Bool := false
  first : List Char := []
  others : List Char := []
  after : Cursor

namespace Fold

/-- The text that a fold stands for: its blanks; or a space for a single line feed; or what is kept of
the breaks, without a line feed that comes first. -/
def text (f : Fold) : List Char :=
  if !f.broken then f.blanks
  else if f.first == ['\n'] then (if f.others.isEmpty then [' '] else f.others)
  else f.first ++ f.others

/-- Moves over one blank or break. -/
def step (f : Fold) (c : Char) : Fold :=
  if isBlankChar c then
    if f.broken then { f with after := f.after.skip }
    else { f with blanks := f.blanks ++ [c], after := f.after.skip }
  else if f.broken then
    { f with others := f.others ++ f.after.breakText, after := f.after.skipBreak }
  else { f with broken := true, first := f.after.breakText, after := f.after.skipBreak }

/-- Moves over blanks and line breaks. A tab that stands left of `limit` in a later line is
refused. -/
def readFor? (fuel limit : Nat) (f : Fold) : Option Fold :=
  match fuel, f.after.peek? with
  | fuel + 1, some c =>
    if !isGapChar c then some f
    else if c == '\t' && f.broken && f.after.column < limit then none
    else readFor? fuel limit (f.step c)
  | _, _ => some f

/-- Moves over blanks and line breaks. -/
def read? (limit : Nat) (f : Fold) : Option Fold := f.readFor? (f.after.rest.length + 1) limit

end Fold

end GuardedDispatch.Yaml
