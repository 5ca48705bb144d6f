import GuardedDispatch.Number.Rounding

/-!
# Binary floating-point numbers

A format fixes how many significant bits a number keeps, how fine its smallest step is and where
the finite numbers end. Every finite number of a format is a whole multiple of its smallest step,
so a finite number is kept as a sign and that multiple, and all arithmetic is exact arithmetic on
natural numbers followed by one rounding to the nearest representable multiple, ties to even.
-/

namespace GuardedDispatch.Number

/-- A binary format: significant bits, the smallest step `2 ^ -stepBits`, and the power of two at
which magnitudes become infinite. -/
structure Format where
  precision : Nat
  stepBits : Nat
  topExponent : Nat
  deriving DecidableEq, Repr

namespace Format

/-- Single precision: 24 significant bits, steps of `2 ^ -149`, finite below `2 ^ 128`. -/
def single : Format := ⟨24, 149, 128⟩

/-- Double precision: 53 significant bits, steps of `2 ^ -1074`, finite below `2 ^ 1024`. -/
def double : Format := ⟨53, 1074, 1024⟩

/-- The number one, counted in steps. -/
def one (f : Format) : Nat := Nat.pow 2 f.stepBits

/-- The first magnitude that is no longer finite, counted in steps. -/
def ceiling (f : Format) : Nat := Nat.pow 2 (f.topExponent + f.stepBits)

/-- The distance between neighbouring representable magnitudes around `steps`. -/
def quantum (f : Format) (steps : Nat) : Nat := Nat.pow 2 (steps.log2 + 1 - f.precision)

/-- The representable magnitude nearest to `num / den` steps, with unbounded range. -/
def roundSteps (f : Format) (num den : Nat) : Nat :=
  let q := f.quantum (num / den)
  nearestEven num (den * q) * q

/-- Rounding gives a whole multiple of the local quantum. -/
theorem quantum_dvd_roundSteps (f : Format) (num den : Nat) :
    f.quantum (num / den) ∣ f.roundSteps num den :=
  Nat.dvd_mul_left _ _

/-- Zero steps stay zero. -/
@[simp] theorem roundSteps_zero (f : Format) (den : Nat) : f.roundSteps 0 den = 0 := by
  simp [roundSteps]

end Format

/-- A number of a binary format: not a number, an infinity, or a signed count of steps. -/
inductive Binary (f : Format) where
  | nan
  | infinite (negative : Bool)
  | finite (negative : Bool) (steps : Nat)
  deriving DecidableEq, Repr

/-- Single precision numbers hold rates and thresholds. -/
abbrev Single := Binary .single

/-- Double precision numbers hold multipliers and computed delays. -/
abbrev Double := Binary .double

namespace Binary

variable {f g : Format}

/-- A magnitude counted in steps, infinite from the format's ceiling on. -/
def ofSteps (negative : Bool) (steps : Nat) : Binary f :=
  if f.ceiling ≤ steps then .infinite negative else .finite negative steps

/-- The number nearest to the quotient `num / den`. -/
def ofRatio (negative : Bool) (num den : Nat) : Binary f :=
  ofSteps negative (f.roundSteps (num * f.one) den)

/-- The number nearest to a natural number. -/
def ofNat (n : Nat) : Binary f := ofRatio false n 1

instance : Inhabited (Binary f) := ⟨.nan⟩

instance (n : Nat) : OfNat (Binary f) n := ⟨ofNat n⟩

/-- Whether the number is not a number. -/
def isNan : Binary f → Bool
  | .nan => true
  | _ => false

/-- The sign bit; not a number counts as positive. -/
def negative : Binary f → Bool
  | .nan => false
  | .infinite s => s
  | .finite s _ => s

/-- The position of a number on the extended line, in steps; none for not a number. -/
def position? : Binary f → Option Int
  | .nan => none
  | .infinite s => some (if s then -(f.ceiling : Int) else f.ceiling)
  | .finite s n => some (if s then -(n : Int) else n)

/-- `x` is at least `y`; false as soon as one of them is not a number. -/
def atLeast (x y : Binary f) : Bool :=
  match x.position?, y.position? with
  | some a, some b => b ≤ a
  | _, _ => false

/-- `x` is greater than `y`; false as soon as one of them is not a number. -/
def greater (x y : Binary f) : Bool :=
  match x.position?, y.position? with
  | some a, some b => b < a
  | _, _ => false

/-- Numerical equality: both zeros are equal, and not a number equals nothing. -/
def sameNumber (x y : Binary f) : Bool :=
  match x.position?, y.position? with
  | some a, some b => a == b
  | _, _ => false

/-- The greater of two numbers; an operand that is not a number is passed over. -/
def maxNumber (x y : Binary f) : Binary f :=
  if x.isNan then y else if y.isNan then x else if y.greater x then y else x

/-- The lesser of two numbers; an operand that is not a number is passed over. -/
def minNumber (x y : Binary f) : Binary f :=
  if x.isNan then y else if y.isNan then x else if x.greater y then y else x

/-- The product, rounded once; zero times infinity is not a number. -/
def mul (x y : Binary f) : Binary f :=
  match x, y with
  | .nan, _ | _, .nan => .nan
  | .infinite s, .infinite t => .infinite (s != t)
  | .infinite s, .finite t n | .finite t n, .infinite s =>
    if n = 0 then .nan else .infinite (s != t)
  | .finite s m, .finite t n => ofSteps (s != t) (f.roundSteps (m * n) f.one)

instance : Mul (Binary f) := ⟨mul⟩

/-- The quotient, rounded once; a zero divisor gives an infinity, or nothing for zero by zero. -/
def div (x y : Binary f) : Binary f :=
  match x, y with
  | .nan, _ | _, .nan => .nan
  | .infinite _, .infinite _ => .nan
  | .infinite s, .finite t _ => .infinite (s != t)
  | .finite s _, .infinite t => .finite (s != t) 0
  | .finite s m, .finite t n =>
    if n = 0 then
      if m = 0 then .nan else .infinite (s != t)
    else ofSteps (s != t) (f.roundSteps (m * f.one) n)

instance : Div (Binary f) := ⟨div⟩

/-- `acc * base ^ n` by repeated squaring, taking the exponent's bits from the lowest. -/
def powerFrom (acc base : Binary f) (n : Nat) : Binary f :=
  let acc := if n % 2 = 1 then acc * base else acc
  if n / 2 = 0 then acc else powerFrom acc (base * base) (n / 2)
  termination_by n
  decreasing_by omega

/-- The `n`-th power by repeated squaring, each product rounded. -/
def power (x : Binary f) (n : Nat) : Binary f := powerFrom 1 x n

/-- The whole part cut to `0 .. limit`: negative numbers and not a number give zero. -/
def truncateTo (limit : Nat) : Binary f → Nat
  | .nan => 0
  | .infinite s => if s then 0 else limit
  | .finite s n => if s then 0 else min (n / f.one) limit

/-- The nearest number of another format. -/
def convert : Binary f → Binary g
  | .nan => .nan
  | .infinite s => .infinite s
  | .finite s n => ofRatio s n f.one

end Binary

end GuardedDispatch.Number
