import GuardedDispatch.Number.Decimal

/-!
# The shortest decimal that reads back

A binary number stands for every real number that rounds to it. Its shortest text is the decimal
with the fewest digits among those, and of several the one nearest to the number itself. The
neighbours of the number on the grid of `n`-digit decimals are tested for `n = 1, 2, …`, all in
exact natural arithmetic.
-/

namespace GuardedDispatch.Number

/-- Digits `d₁ … dₙ` with the point after the first `point` of them: `0.d₁ … dₙ * 10 ^ point`. -/
structure Digits where
  digits : Nat
  point : Int
  deriving DecidableEq, Repr

/-- How a decimal is laid out: positional where `lowest < point ≤ highest`, else with an exponent,
which shows a plus sign if told so. -/
structure DecimalLayout where
  lowest : Int
  highest : Int
  showsPlus : Bool := false
  deriving DecidableEq, Repr

namespace Binary

variable {f : Format}

/-- Whether `num / den` steps rounds to the magnitude `steps`; the ends count for an even
significand. -/
def roundsTo (f : Format) (steps num den : Nat) : Bool :=
  let up := f.quantum steps
  let down := f.quantum (steps - 1)
  let below := (2 * steps - down) * den
  let above := (2 * steps + up) * den
  if steps / up % 2 = 0 then decide (below ≤ 2 * num ∧ 2 * num ≤ above)
  else decide (below < 2 * num ∧ 2 * num < above)

/-- The decimal exponent `k` with `10 ^ (k - 1) ≤ value < 10 ^ k` for a value below one: zeros are
counted after the point, `found` so far. -/
def leadingZeros (fuel steps one found : Nat) : Nat :=
  match fuel with
  | 0 => found
  | fuel + 1 => if one ≤ steps * 10 then found else leadingZeros fuel (steps * 10) one (found + 1)

/-- The position of the decimal point relative to the first significant digit. -/
def decimalPoint (f : Format) (steps : Nat) : Int :=
  if f.one ≤ steps then digitCount (steps / f.one)
  else -(leadingZeros f.stepBits steps f.one 0 : Int)

/-- The decimal with `n` digits nearest to the magnitude among those that read back. -/
def nearestOnGrid? (f : Format) (steps : Nat) (point : Int) (n : Nat) : Option Nat :=
  let unit := point - n
  let num := if 0 ≤ unit then 1 else Nat.pow 10 (-unit).toNat
  let den := if 0 ≤ unit then Nat.pow 10 unit.toNat else 1
  let low := steps * num / (den * f.one)
  let near (d : Nat) : Bool := roundsTo f steps (d * den * f.one) num
  let rounded := nearestEven (steps * num) (den * f.one)
  if near rounded then some rounded
  else if near low then some low
  else if near (low + 1) then some (low + 1)
  else none

/-- The first grid that holds a decimal which reads back, from `n` digits on. -/
def shortestFrom (f : Format) (steps : Nat) (point : Int) (n fuel : Nat) : Digits :=
  match fuel with
  | 0 => ⟨steps / f.one, point⟩
  | fuel + 1 =>
    match nearestOnGrid? f steps point n with
    | some d => if d = Nat.pow 10 n then ⟨1, point + 1⟩ else ⟨d, point⟩
    | none => shortestFrom f steps point (n + 1) fuel

/-- The shortest digits of a positive magnitude. -/
def shortestDigits (f : Format) (steps : Nat) : Digits :=
  shortestFrom f steps (decimalPoint f steps) 1 (f.precision + 1)

/-- Digits as text: positional with at least one place, or with an exponent. -/
def digitsText (layout : DecimalLayout) (d : Digits) : String :=
  let text := Nat.toDigits 10 d.digits
  if layout.lowest < d.point ∧ d.point ≤ layout.highest then
    if d.point ≤ 0 then
      "0." ++ String.ofList (List.replicate (-d.point).toNat '0' ++ text)
    else
      let k := d.point.toNat
      let whole := text.take k ++ List.replicate (k - text.length) '0'
      let places := text.drop k
      String.ofList whole ++ "." ++ (if places.isEmpty then "0" else String.ofList places)
  else
    let mantissa :=
      match text with
      | [] => "0"
      | [c] => String.ofList [c]
      | c :: rest => String.ofList (c :: '.' :: rest)
    let plus := if layout.showsPlus && 0 < d.point then "+" else ""
    s!"{mantissa}e{plus}{d.point - 1}"

/-- The shortest text of a number that reads back as that number. -/
def shortestText (layout : DecimalLayout) : Binary f → String
  | .nan => "NaN"
  | .infinite s => if s then "-inf" else "inf"
  | .finite s n =>
    let body := if n = 0 then "0.0" else digitsText layout (shortestDigits f n)
    if s then "-" ++ body else body

/-- Diagnostic text is positional from one ten-thousandth up to below ten to the sixteenth. -/
def diagnosticLayout : DecimalLayout := ⟨-4, 16, false⟩

/-- Exchanged numbers are positional from one hundred-thousandth on, and exponents are signed. -/
def exchangedLayout : DecimalLayout := ⟨-5, 16, true⟩

/-- Stored double precision numbers are positional from one hundred-thousandth on. -/
def storedDoubleLayout : DecimalLayout := ⟨-5, 16, false⟩

/-- Stored single precision numbers are positional from one millionth up to below ten to the
thirteenth. -/
def storedSingleLayout : DecimalLayout := ⟨-6, 13, false⟩

end Binary

end GuardedDispatch.Number
