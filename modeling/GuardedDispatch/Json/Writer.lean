import GuardedDispatch.Json.Value
import GuardedDispatch.Number.Shortest

/-!
# Compact JSON text

Values are written without blanks. Within strings the quote, the backslash and the controls are
escaped and everything else stands for itself; a double precision number always shows a point or
an exponent, so that it reads back as one.
-/

namespace GuardedDispatch.Json

/-- Four hexadecimal digits. -/
def unitDigits (n : Nat) : List Char :=
  [n / 4096 % 16, n / 256 % 16, n / 16 % 16, n % 16].map Nat.digitChar

/-- The written form of one character inside a string. -/
def stringChar (c : Char) : List Char :=
  if c = '"' then ['\\', '"']
  else if c = '\\' then ['\\', '\\']
  else if c = '\n' then ['\\', 'n']
  else if c = '\r' then ['\\', 'r']
  else if c = '\t' then ['\\', 't']
  else if c.toNat = 8 then ['\\', 'b']
  else if c.toNat = 12 then ['\\', 'f']
  else if c.toNat < 32 then '\\' :: 'u' :: unitDigits c.toNat
  else [c]

/-- A string as a JSON text. -/
def stringText (s : String) : String :=
  String.ofList ('"' :: s.toList.flatMap stringChar ++ ['"'])

/-- A double precision number as a JSON text; what is not a finite number is null. -/
def realText (x : Number.Double) : String :=
  match x with
  | .finite .. => x.shortestText Number.Binary.exchangedLayout
  | _ => "null"

mutual

/-- The compact text of a value. -/
def compact : Json → String
  | .null => "null"
  | .bool b => if b then "true" else "false"
  | .whole n => toString n
  | .real x => realText x
  | .text s => stringText s
  | .list items => "[" ++ compactItems items ++ "]"
  | .object members => "\x7b" ++ compactMembers members ++ "\x7d"

/-- The items of a list, separated by commas. -/
def compactItems : List Json → String
  | [] => ""
  | [v] => compact v
  | v :: rest => compact v ++ "," ++ compactItems rest

/-- The members of an object, separated by commas. -/
def compactMembers : List (String × Json) → String
  | [] => ""
  | [(n, v)] => stringText n ++ ":" ++ compact v
  | (n, v) :: rest => stringText n ++ ":" ++ compact v ++ "," ++ compactMembers rest

end

end GuardedDispatch.Json
