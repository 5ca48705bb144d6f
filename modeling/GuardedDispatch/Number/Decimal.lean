import GuardedDispatch.Number.Binary

/-!
# Decimal numerals and fixed-place text

A decimal numeral is an exact number: reading it as a binary number rounds once. Writing a binary
number with a fixed count of places starts from its exact value as well, and a tie goes to the
even last digit.
-/

namespace GuardedDispatch.Number

/-- An exact decimal number `digits * 10 ^ exponent` with a sign. -/
structure Decimal where
  negative : Bool
  digits : Nat
  exponent : Int
  deriving DecidableEq, Repr

namespace Decimal

/-- The binary number nearest to a decimal one. Magnitudes that certainly leave the format's range
are settled by their exponent alone, so no power of ten is larger than the format can need. -/
def toBinary (f : Format) (d : Decimal) : Binary f :=
  let top := d.exponent + digitCount d.digits
  if d.digits = 0 then .finite d.negative 0
  else if (f.topExponent : Int) < top then .infinite d.negative
  else if top < -(f.stepBits : Int) then .finite d.negative 0
  else if 0 ≤ d.exponent then .ofRatio d.negative (d.digits * Nat.pow 10 d.exponent.toNat) 1
  else .ofRatio d.negative d.digits (Nat.pow 10 (-d.exponent).toNat)

/-- The number that a run of decimal digits writes. -/
def ofDigits (cs : List Char) : Nat :=
  cs.foldl (fun n c => n * 10 + (c.toNat - '0'.toNat)) 0

/-- Reads `12`, `12.5`, `.5`, `12.`, each with an optional exponent such as `e-3`; the digits before
or after the point may be missing, not both. -/
def readUnsigned? (negative : Bool) (cs : List Char) : Option Decimal :=
  let whole := cs.takeWhile Char.isDigit
  let afterWhole := cs.dropWhile Char.isDigit
  let (places, afterPlaces) :=
    match afterWhole with
    | '.' :: rest => (rest.takeWhile Char.isDigit, rest.dropWhile Char.isDigit)
    | rest => ([], rest)
  if whole.isEmpty && places.isEmpty then none
  else
    let number (e : Int) : Decimal :=
      ⟨negative, ofDigits (whole ++ places), e - places.length⟩
    match afterPlaces with
    | [] => some (number 0)
    | c :: rest =>
      if c != 'e' && c != 'E' then none
      else
        let (down, power) :=
          match rest with
          | '-' :: ds => (true, ds)
          | '+' :: ds => (false, ds)
          | ds => (false, ds)
        if power.isEmpty || !power.all Char.isDigit then none
        else some (number (if down then -(ofDigits power : Int) else ofDigits power))

end Decimal

/-- A natural number in decimal with at least `width` digits. -/
def padded (width n : Nat) : String :=
  let digits := Nat.toDigits 10 n
  String.ofList (List.replicate (width - digits.length) '0' ++ digits)

namespace Binary

variable {f : Format}

/-- The number with exactly `places` decimal places, rounded from its exact value. -/
def fixedText (places : Nat) : Binary f → String
  | .nan => "NaN"
  | .infinite s => if s then "-inf" else "inf"
  | .finite s n =>
    let unit := Nat.pow 10 places
    let scaled := nearestEven (n * unit) f.one
    let body :=
      if places = 0 then toString scaled
      else toString (scaled / unit) ++ "." ++ padded places (scaled % unit)
    if s then "-" ++ body else body

end Binary

end GuardedDispatch.Number
