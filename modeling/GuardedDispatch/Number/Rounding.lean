/-!
# Rounding a quotient to the nearest whole number

Every inexact result of the library is one exact quotient of natural numbers that is rounded once.
A quotient half way between two whole numbers goes to the even one.
-/

namespace GuardedDispatch.Number

/-- The whole number nearest to `num / den`; of two equally near ones the even one. -/
def nearestEven (num den : Nat) : Nat :=
  let low := num / den
  let twice := 2 * (num % den)
  if twice < den then low
  else if den < twice then low + 1
  else low + low % 2

/-- A quotient that is already whole is kept. -/
theorem nearestEven_mul_right (n : Nat) {den : Nat} (h : 0 < den) :
    nearestEven (n * den) den = n := by
  simp [nearestEven, Nat.mul_div_cancel _ h, h]

/-- Nothing is nearest to nothing. -/
@[simp] theorem nearestEven_zero (den : Nat) : nearestEven 0 den = 0 := by
  unfold nearestEven
  simp

/-- The rounded quotient is never below the truncated one. -/
theorem div_le_nearestEven (num den : Nat) : num / den ≤ nearestEven num den := by
  simp only [nearestEven]
  split
  · exact Nat.le_refl _
  · split <;> omega

/-- The rounded quotient is at most one above the truncated one. -/
theorem nearestEven_le_succ (num den : Nat) : nearestEven num den ≤ num / den + 1 := by
  simp only [nearestEven]
  split
  · omega
  · split <;> omega

/-- The number of decimal digits of a natural number; zero has one. -/
def digitCount (n : Nat) : Nat := (Nat.toDigits 10 n).length

end GuardedDispatch.Number
