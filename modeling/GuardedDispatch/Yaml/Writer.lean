import GuardedDispatch.Text.Quoted
import GuardedDispatch.Yaml.Meaning

/-!
# Writing YAML documents

Mappings and sequences are written as blocks, two columns further right a level, sequences below
their key in its own column. A text of several lines is written literally. Any other is written
plainly where it can be read back as that text and nothing else, and otherwise in single quotes.
A text that those would change is written in double quotes, in which every character can be escaped.
-/

namespace GuardedDispatch.Yaml

/-- Words that some readers take for truth values or for nothing. -/
def telling : List String :=
  ["y", "yes", "n", "no", "on", "off", "true", "false", "null", "nil", "~"]

/-- Whether a text could be taken for a number. -/
def looksNumeric (s : String) : Bool :=
  let digits := match s.toList with
    | '-' :: cs | '+' :: cs => cs
    | cs => cs
  !hasLeadingZero digits && ((unsignedOf? digits).isSome || (doubleOf? s).isSome)

/-- Whether a text could be taken for something else than itself. -/
def isAmbiguous (s : String) : Bool :=
  s.toList.head?.all Char.isDigit || telling.contains s.toLower || looksNumeric s

/-- Whether a character is written as it is. -/
def isShown (c : Char) : Bool :=
  let n := c.toNat
  c == '\n' || (0x20 ≤ n && n ≤ 0x7E) || (0xA0 ≤ n && n ≤ 0xFFFD && n != 0xFEFF)

/-- Whether a character of one kind stands before one of another kind. -/
def hasPair (p q : Char → Bool) (cs : List Char) : Bool :=
  (cs.zip cs.tail).any fun (c, d) => p c && q d

/-- Whether a text can be read as it is written, line by line. -/
def fitsLines (cs : List Char) : Bool := cs.all isShown && !hasPair (· == ' ') isBreakChar cs

/-- Whether a text can be written literally. -/
def fitsLiteral (cs : List Char) : Bool := fitsLines cs && cs.getLast?.any (· != ' ')

/-- Whether a text can be written in single quotes. -/
def fitsQuotes (cs : List Char) : Bool := fitsLines cs && !hasPair isBreakChar (· == ' ') cs

/-- Whether a text begins with a space, an indicator or the mark of a document. -/
def beginsWithIndicator : List Char → Bool
  | [] => false
  | c :: rest =>
    c == ' ' || "#,[]\x7b\x7d&*!|>'\"%@`".toList.contains c ||
      "?:-".toList.contains c && endsWord rest.head? ||
      ["---", "..."].any fun mark => mark.toList.isPrefixOf (c :: rest)

/-- Whether a text of one line can be written plainly: it holds no colon that would end a key and no
comment. -/
def fitsPlain (cs : List Char) : Bool :=
  !beginsWithIndicator cs && cs.all isShown && !cs.any isBreakChar && cs.getLast? != some ' ' &&
    cs.getLast? != some ':' && !hasPair (· == ':') (· == ' ') cs && !hasPair (· == ' ') (· == '#') cs

/-- The letters for the characters that have a short escape. -/
def escapeLetters : List (Char × Char) :=
  "0abtnvfre\"\\NLP".toList.filterMap fun letter => (escapeLetter? letter).map (·, letter)

/-- A code in hexadecimal digits, filled up with zeros. -/
def codeDigits (width n : Nat) : List Char :=
  let digits := (Text.hexDigits n).map Char.toUpper
  List.replicate (width - digits.length) '0' ++ digits

/-- A character in double quotes. -/
def escaped (c : Char) : List Char :=
  match escapeLetters.lookup c with
  | some letter => ['\\', letter]
  | none =>
    let n := c.toNat
    if isShown c then [c]
    else if n ≤ 0xFF then '\\' :: 'x' :: codeDigits 2 n
    else if n ≤ 0xFFFF then '\\' :: 'u' :: codeDigits 4 n
    else '\\' :: 'U' :: codeDigits 8 n

/-- A text in double quotes. -/
def doubleQuoted (cs : List Char) : List Char := '"' :: cs.flatMap escaped ++ ['"']

/-- A text in single quotes; a quote inside is written twice. -/
def singleQuoted (cs : List Char) : List Char :=
  '\'' :: (cs.flatMap fun c => if c == '\'' then [c, c] else [c]) ++ ['\'']

/-- The indicators of a literal text: its indentation, where its first line does not show it, and what
becomes of the breaks at its end. -/
def literalHeader (cs : List Char) : List Char :=
  let indentation := if cs.head?.any fun c => c == ' ' || isBreakChar c then ['2'] else []
  let breaks := (cs.reverse.takeWhile isBreakChar).length
  let chomping := if breaks = 0 then ['-'] else if breaks = 1 && cs.length != 1 then [] else ['+']
  '|' :: indentation ++ chomping ++ ['\n']

/-- A text as a scalar. -/
def textScalar (s : String) : List Char :=
  let cs := s.toList
  if cs.contains '\n' then
    if fitsLiteral cs then literalHeader cs ++ cs else doubleQuoted cs
  else if !isAmbiguous s && fitsPlain cs then cs
  else if fitsQuotes cs then singleQuoted cs
  else doubleQuoted cs

/-- A text as a key, which stands on one line. -/
def keyScalar (s : String) : List Char :=
  if s.toList.any isBreakChar then doubleQuoted s.toList else textScalar s

/-- The lines of a text, each with the break that ends it. -/
def splitLines : List Char → List (List Char)
  | [] => []
  | c :: rest =>
    if isBreakChar c then [c] :: splitLines rest
    else match splitLines rest with
      | [] => [[c]]
      | line :: more => (c :: line) :: more

/-- Splitting a text into lines loses nothing. -/
theorem flatten_splitLines (cs : List Char) : (splitLines cs).flatten = cs := by
  induction cs with
  | nil => rfl
  | cons c rest ih =>
    rw [splitLines]
    split
    · simp [ih]
    · split
      · rename_i h
        simp [h] at ih
        simp [← ih]
      · rename_i line more h
        simpa [h] using ih

/-- The lines of a scalar; the last one, too, ends with a break. -/
def scalarLines (cs : List Char) : List (List Char) :=
  splitLines (if cs.getLast?.any isBreakChar then cs else cs ++ ['\n'])

/-- A line two columns further right; an empty one stays as it is. -/
def indented (line : List Char) : List Char :=
  if line.head?.all isBreakChar then line else ' ' :: ' ' :: line

/-- Lines with something before the first of them and the others two columns further right. -/
def hung (before : List Char) : List (List Char) → List (List Char)
  | [] => []
  | first :: more => (before ++ first) :: more.map indented

/-- A key with its colon. -/
def keyText : Node → List Char
  | .scalar .plain _ s => s.toList ++ [':']
  | .scalar _ _ s => keyScalar s ++ [':']
  | _ => [':']

/-- A number as a scalar, given its digits. -/
def numberScalar {f : Number.Format} (layout : Number.DecimalLayout) (x : Number.Binary f) :
    String :=
  match x with
  | .nan => ".nan"
  | .infinite negative => if negative then "-.inf" else ".inf"
  | x => x.shortestText layout

mutual

/-- The lines of a block node. -/
def blockLines : Node → List (List Char)
  | .scalar .plain _ s => scalarLines s.toList
  | .scalar _ _ s => scalarLines (textScalar s)
  | .sequence [] => scalarLines ['[', ']']
  | .mapping [] => scalarLines ['{', '}']
  | .sequence items => itemLines items
  | .mapping entries => entryLines entries
  | .reference _ => []

/-- The lines of the items of a sequence. -/
def itemLines : List Node → List (List Char)
  | [] => []
  | item :: rest => hung ['-', ' '] (blockLines item) ++ itemLines rest

/-- The lines of the entries of a mapping. -/
def entryLines : List (Node × Node) → List (List Char)
  | [] => []
  | (key, value) :: rest =>
    let lines := blockLines value
    let own := keyText key
    (match value with
      | .sequence (_ :: _) => (own ++ ['\n']) :: lines
      | .mapping (_ :: _) => (own ++ ['\n']) :: lines.map indented
      | _ => hung (own ++ [' ']) lines) ++ entryLines rest

end

/-- The text of a document. -/
def write (node : Node) : String := String.ofList (blockLines node).flatten

end GuardedDispatch.Yaml
