import GuardedDispatch.Json.Value
import GuardedDispatch.Number.Decimal

/-!
# Reading JSON text

One value is read from the front of the characters and the rest is handed back, with fuel that is
the number of characters: every step consumes at least one. A number without point and exponent
that fits sixty-four bits is a whole number, every other number a double precision one: its first
digits, as many as fit sixty-four bits, are rounded, and then scaled by a power of ten, which rounds
again.
-/

namespace GuardedDispatch.Json

/-- The blanks that may stand between tokens. -/
def isGap (c : Char) : Bool := c == ' ' || c == '\n' || c == '\t' || c == '\r'

/-- Drops blanks from the front. -/
def skipGap (cs : List Char) : List Char := cs.dropWhile isGap

/-- The value of a hexadecimal digit. -/
def hexValue? (c : Char) : Option Nat :=
  if c.isDigit then some (c.toNat - '0'.toNat)
  else if 'a' ≤ c ∧ c ≤ 'f' then some (c.toNat - 'a'.toNat + 10)
  else if 'A' ≤ c ∧ c ≤ 'F' then some (c.toNat - 'A'.toNat + 10)
  else none

/-- Four hexadecimal digits and the rest. -/
def readUnit? : List Char → Option (Nat × List Char)
  | a :: b :: c :: d :: rest => do
    let n ← hexValue? a
    let m ← hexValue? b
    let k ← hexValue? c
    let l ← hexValue? d
    some (((n * 16 + m) * 16 + k) * 16 + l, rest)
  | _ => none

/-- The character that a one-letter escape stands for. -/
def escapeLetter? (c : Char) : Option Char :=
  match c with
  | '"' => some '"'
  | '\\' => some '\\'
  | '/' => some '/'
  | 'b' => some (Char.ofNat 8)
  | 'f' => some (Char.ofNat 12)
  | 'n' => some '\n'
  | 'r' => some '\r'
  | 't' => some '\t'
  | _ => none

/-- The characters of a string up to its closing quote; two escaped surrogates form one
character. -/
def readString? : Nat → List Char → List Char → Option (String × List Char)
  | 0, _, _ => none
  | fuel + 1, acc, cs =>
    match cs with
    | '"' :: rest => some (String.ofList acc.reverse, rest)
    | '\\' :: 'u' :: rest => do
      let (n, rest) ← readUnit? rest
      if 0xD800 ≤ n ∧ n < 0xDC00 then
        match rest with
        | '\\' :: 'u' :: rest =>
          let (m, rest) ← readUnit? rest
          if 0xDC00 ≤ m ∧ m < 0xE000 then
            readString? fuel (Char.ofNat (0x10000 + (n - 0xD800) * 1024 + (m - 0xDC00)) :: acc) rest
          else none
        | _ => none
      else readString? fuel (Char.ofNat n :: acc) rest
    | '\\' :: c :: rest => do
      let e ← escapeLetter? c
      readString? fuel (e :: acc) rest
    | c :: rest => readString? fuel (c :: acc) rest
    | [] => none

/-- The characters a number may be made of. -/
def isNumberChar (c : Char) : Bool :=
  c.isDigit || c == '-' || c == '+' || c == '.' || c == 'e' || c == 'E'

/-- Appends digits to a number as long as it fits sixty-four bits, and counts those that are left. -/
def appendDigits (n : Nat) : List Char → Nat × Nat
  | [] => (n, 0)
  | c :: rest =>
    let m := n * 10 + (c.toNat - '0'.toNat)
    if m < Nat.pow 2 64 then appendDigits m rest else (n, rest.length + 1)

/-- What digits are appended to stays within sixty-four bits. -/
theorem appendDigits_lt {n : Nat} (h : n < Nat.pow 2 64) (cs : List Char) :
    (appendDigits n cs).1 < Nat.pow 2 64 := by
  induction cs generalizing n with
  | nil => exact h
  | cons c rest ih =>
    simp only [appendDigits]
    split
    · exact ih ‹_›
    · exact h

/-- The double precision number nearest to a power of ten. -/
def powerOfTen (n : Nat) : Number.Double := Number.Decimal.toBinary .double ⟨false, 1, n⟩

/-- The greatest power of ten that double precision holds. -/
def topPower : Nat := 308

/-- A number of whole digits scaled by a power of ten; none if it is too great. -/
def scaled? (negative : Bool) (digits : Nat) (exponent : Int) : Option Number.Double :=
  let x : Number.Double := .ofRatio negative digits 1
  let n := exponent.natAbs
  if digits = 0 then some x
  else if 0 ≤ exponent then
    if topPower < n then none
    else match x * powerOfTen n with
      | .infinite _ => none
      | y => some y
  else if n ≤ topPower then some (x / powerOfTen n)
  else if n ≤ 2 * topPower then some (x / powerOfTen topPower / powerOfTen (n - topPower))
  else some (.finite negative 0)

/-- The exponent that follows the digits of a number; zero if there is none. -/
def exponentOf? : List Char → Option Int
  | [] => some 0
  | mark :: rest =>
    let (down, digits) :=
      match rest with
      | '-' :: digits => (true, digits)
      | '+' :: digits => (false, digits)
      | digits => (false, digits)
    if !(mark == 'e' || mark == 'E') || digits.isEmpty || !digits.all Char.isDigit then none
    else
      let n := Number.Decimal.ofDigits digits
      some (if down then -(n : Int) else n)

/-- The number that a run of number characters writes. -/
def numberOf? (cs : List Char) : Option Json := do
  let (negative, body) := match cs with
    | '-' :: rest => (true, rest)
    | rest => (false, rest)
  let whole := body.takeWhile Char.isDigit
  let afterWhole := body.dropWhile Char.isDigit
  let (places?, afterPlaces) :=
    match afterWhole with
    | '.' :: rest => (some (rest.takeWhile Char.isDigit), rest.dropWhile Char.isDigit)
    | rest => (none, rest)
  let exponent ← exponentOf? afterPlaces
  let (digits, extra) := appendDigits 0 whole
  if whole.isEmpty || (whole.head? == some '0' && 1 < whole.length) || places? == some [] then none
  else if afterWhole.isEmpty && extra = 0 && !negative then some (.whole digits)
  else if afterWhole.isEmpty && extra = 0 && 0 < digits && digits ≤ Nat.pow 2 63 then
    some (.whole (-(digits : Int)))
  else
    let places := places?.getD []
    let (digits, left) := appendDigits digits places
    let exponent := exponent + extra - (places.length - left : Nat)
    (scaled? negative digits exponent).map .real

mutual

/-- One value from the front of the characters. -/
def readValue? : Nat → List Char → Option (Json × List Char)
  | 0, _ => none
  | fuel + 1, cs =>
    match skipGap cs with
    | 'n' :: 'u' :: 'l' :: 'l' :: rest => some (.null, rest)
    | 't' :: 'r' :: 'u' :: 'e' :: rest => some (.bool true, rest)
    | 'f' :: 'a' :: 'l' :: 's' :: 'e' :: rest => some (.bool false, rest)
    | '"' :: rest => (readString? (rest.length + 1) [] rest).map fun (s, rest) => (.text s, rest)
    | '[' :: rest =>
      match skipGap rest with
      | ']' :: rest => some (.list [], rest)
      | rest => (readItems? fuel rest).map fun (items, rest) => (.list items, rest)
    | '\x7b' :: rest =>
      match skipGap rest with
      | '\x7d' :: rest => some (.object [], rest)
      | rest => (readMembers? fuel rest).map fun (members, rest) => (.record members, rest)
    | rest => (numberOf? (rest.takeWhile isNumberChar)).map (·, rest.dropWhile isNumberChar)

/-- The items of a list up to its closing bracket. -/
def readItems? : Nat → List Char → Option (List Json × List Char)
  | 0, _ => none
  | fuel + 1, cs => do
    let (v, rest) ← readValue? fuel cs
    match skipGap rest with
    | ',' :: rest => (readItems? fuel rest).map fun (vs, rest) => (v :: vs, rest)
    | ']' :: rest => some ([v], rest)
    | _ => none

/-- The members of an object up to its closing brace. -/
def readMembers? : Nat → List Char → Option (List (String × Json) × List Char)
  | 0, _ => none
  | fuel + 1, cs => do
    match skipGap cs with
    | '"' :: rest =>
      let (name, rest) ← readString? (rest.length + 1) [] rest
      match skipGap rest with
      | ':' :: rest =>
        let (v, rest) ← readValue? fuel rest
        match skipGap rest with
        | ',' :: rest => (readMembers? fuel rest).map fun (ms, rest) => ((name, v) :: ms, rest)
        | '\x7d' :: rest => some ([(name, v)], rest)
        | _ => none
      | _ => none
    | _ => none

end

/-- The value that a whole text writes. -/
def read? (s : String) : Option Json := do
  let cs := s.toList
  let (v, rest) ← readValue? (cs.length + 1) cs
  if (skipGap rest).isEmpty then some v else none

end GuardedDispatch.Json
