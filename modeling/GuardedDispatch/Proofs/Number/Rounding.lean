import GuardedDispatch.Number.Binary
import Mathlib.Algebra.GroupWithZero.Nat

/-!
# Rounding keeps the order

The grid of a format becomes coarser as magnitudes grow, but every power of two is on the grid on
both of its sides. So rounding keeps the order of two magnitudes: within one quantum because the
nearest multiple does, and across quanta because a power of two lies between them. Of numbers that
are no less than one, products and powers keep the order as well, and an overflow is never undone.
-/

namespace GuardedDispatch.Number

/-! ### The nearest whole number -/

private theorem nearestEven_mono (den : Nat) {a b : Nat} (h : a ≤ b) :
    nearestEven a den ≤ nearestEven b den := by
  obtain hlt | heq := Nat.lt_or_eq_of_le (Nat.div_le_div_right h : a / den ≤ b / den)
  · calc
      nearestEven a den ≤ a / den + 1 := nearestEven_le_succ a den
      _ ≤ b / den := hlt
      _ ≤ nearestEven b den := div_le_nearestEven b den
  · -- With the same whole part the remainders are in order.
    have hmod : a % den ≤ b % den := by
      have ha := Nat.div_add_mod a den
      have hb := Nat.div_add_mod b den
      rw [heq] at ha
      omega
    grind [nearestEven]

private theorem nearestEven_le {a k den : Nat} (hden : 0 < den) (h : a ≤ k * den) :
    nearestEven a den ≤ k :=
  nearestEven_mul_right k hden ▸ nearestEven_mono den h

private theorem le_nearestEven {a k den : Nat} (hden : 0 < den) (h : k * den ≤ a) :
    k ≤ nearestEven a den :=
  nearestEven_mul_right k hden ▸ nearestEven_mono den h

namespace Format

variable {f : Format}

/-! ### The grid -/

private theorem quantum_eq (f : Format) (steps : Nat) :
    f.quantum steps = 2 ^ (steps.log2 + 1 - f.precision) := Nat.pow_eq

private theorem quantum_pos (f : Format) (steps : Nat) : 0 < f.quantum steps :=
  Nat.pow_pos Nat.two_pos

private theorem one_pos (f : Format) : 0 < f.one := Nat.pow_pos Nat.two_pos

/-- One is finite if the format goes beyond it. -/
theorem one_lt_ceiling (h : 0 < f.topExponent) : f.one < f.ceiling :=
  Nat.pow_lt_pow_right Nat.one_lt_two (Nat.lt_add_of_pos_left h)

private theorem quantum_dvd_two_pow {steps k : Nat} (h : steps.log2 + 1 - f.precision ≤ k) :
    f.quantum steps ∣ 2 ^ k := by
  rw [quantum_eq]
  exact Nat.pow_dvd_pow 2 h

private theorem log2_mono {m n : Nat} (h : m ≤ n) : m.log2 ≤ n.log2 := by
  obtain rfl | hm := Nat.eq_zero_or_pos m
  · exact Nat.zero_le _
  · rw [Nat.le_log2 (by omega)]
    exact Nat.le_trans (Nat.log2_self_le (by omega)) h

private theorem quantum_dvd_quantum {m n : Nat} (h : m ≤ n) : f.quantum m ∣ f.quantum n := by
  have hlog := log2_mono h
  rw [f.quantum_eq n]
  exact quantum_dvd_two_pow (by omega)

private theorem roundSteps_mul_right {n den : Nat} (hden : 0 < den) (hgrid : f.quantum n ∣ n) :
    f.roundSteps (n * den) den = n := by
  obtain ⟨k, hk⟩ := hgrid
  have hq := f.quantum_pos n
  have hscaled : n * den = k * (den * f.quantum n) := by
    rw [Nat.mul_comm den, ← Nat.mul_assoc, Nat.mul_comm k, ← hk]
  rw [roundSteps, Nat.mul_div_cancel _ hden, hscaled,
    nearestEven_mul_right k (Nat.mul_pos hden hq), Nat.mul_comm k]
  exact hk.symm

private theorem roundSteps_le_two_pow {num den k : Nat} (hden : 0 < den)
    (hgrid : f.quantum (num / den) ∣ 2 ^ k) (h : num ≤ 2 ^ k * den) :
    f.roundSteps num den ≤ 2 ^ k := by
  obtain ⟨j, hj⟩ := hgrid
  have hq := f.quantum_pos (num / den)
  have hle : num ≤ j * (den * f.quantum (num / den)) := by
    rw [Nat.mul_comm den, ← Nat.mul_assoc, Nat.mul_comm j, ← hj]
    exact h
  calc
    f.roundSteps num den ≤ j * f.quantum (num / den) :=
      Nat.mul_le_mul_right _ (nearestEven_le (Nat.mul_pos hden hq) hle)
    _ = 2 ^ k := by rw [Nat.mul_comm, ← hj]

private theorem two_pow_le_roundSteps {num den k : Nat} (hden : 0 < den)
    (hgrid : f.quantum (num / den) ∣ 2 ^ k) (h : 2 ^ k * den ≤ num) :
    2 ^ k ≤ f.roundSteps num den := by
  obtain ⟨j, hj⟩ := hgrid
  have hq := f.quantum_pos (num / den)
  have hle : j * (den * f.quantum (num / den)) ≤ num := by
    rw [Nat.mul_comm den, ← Nat.mul_assoc, Nat.mul_comm j, ← hj]
    exact h
  calc
    2 ^ k = j * f.quantum (num / den) := by rw [Nat.mul_comm, ← hj]
    _ ≤ f.roundSteps num den :=
      Nat.mul_le_mul_right _ (le_nearestEven (Nat.mul_pos hden hq) hle)

private theorem roundSteps_mono (hf : 0 < f.precision) {a b den : Nat} (hden : 0 < den)
    (h : a ≤ b) :
    f.roundSteps a den ≤ f.roundSteps b den := by
  have hdiv : a / den ≤ b / den := Nat.div_le_div_right h
  by_cases heq : (a / den).log2 = (b / den).log2
  · have hq : f.quantum (a / den) = f.quantum (b / den) := by
      rw [quantum_eq, quantum_eq, heq]
    rw [roundSteps, roundSteps, hq]
    exact Nat.mul_le_mul_right _ (nearestEven_mono _ h)
  · -- A power of two lies between the two, on the grids of both.
    have hb : b / den ≠ 0 := by
      intro hzero
      rw [hzero, Nat.le_zero] at hdiv
      exact heq (by rw [hdiv, hzero])
    have hlog : (a / den).log2 < (b / den).log2 := Nat.lt_of_le_of_ne (log2_mono hdiv) heq
    have habove : a ≤ 2 ^ (b / den).log2 * den := by
      have hlt : a / den < 2 ^ (b / den).log2 :=
        Nat.lt_of_lt_of_le Nat.lt_log2_self (Nat.pow_le_pow_right Nat.two_pos hlog)
      exact Nat.le_of_lt ((Nat.div_lt_iff_lt_mul hden).mp hlt)
    have hbelow : 2 ^ (b / den).log2 * den ≤ b :=
      (Nat.le_div_iff_mul_le hden).mp (Nat.log2_self_le hb)
    calc
      f.roundSteps a den ≤ 2 ^ (b / den).log2 :=
        roundSteps_le_two_pow hden (quantum_dvd_two_pow (by omega)) habove
      _ ≤ f.roundSteps b den :=
        two_pow_le_roundSteps hden (quantum_dvd_two_pow (by omega)) hbelow

private theorem quantum_one_dvd (hf : 0 < f.precision) : f.quantum f.one ∣ f.one := by
  have hone : f.one = 2 ^ f.stepBits := Nat.pow_eq
  rw [hone]
  exact quantum_dvd_two_pow (by rw [Nat.log2_two_pow]; omega)

end Format

namespace Binary

variable {f : Format} {x x' y y' : Binary f}

/-! ### Zero and one -/

/-- No steps are zero. -/
theorem ofSteps_zero (negative : Bool) : (ofSteps negative 0 : Binary f) = finite negative 0 :=
  if_neg (Nat.not_le.mpr (Nat.pow_pos Nat.two_pos))

/-- The number nearest to zero is zero. -/
theorem ofNat_zero : (ofNat 0 : Binary f) = finite false 0 := by
  rw [ofNat, ofRatio, Nat.zero_mul, Format.roundSteps_zero, ofSteps_zero]

/-- The number nearest to one is one. -/
theorem ofNat_one (hf : 0 < f.precision) : (ofNat 1 : Binary f) = ofSteps false f.one := by
  have hone : 1 * f.one = f.one * 1 := Nat.mul_comm 1 f.one
  rw [ofNat, ofRatio, hone,
    Format.roundSteps_mul_right Nat.one_pos (Format.quantum_one_dvd hf)]

/-- A finite multiple of zero is zero, of one sign or the other. -/
theorem zero_mul_finite (s t : Bool) (n : Nat) :
    (finite s 0 * finite t n : Binary f) = finite (s != t) 0 := by
  change ofSteps (s != t) (f.roundSteps (0 * n) f.one) = _
  rw [Nat.zero_mul, Format.roundSteps_zero, ofSteps_zero]

/-! ### Powers by squaring -/

private theorem powerFrom_of_last {acc base : Binary f} {n : Nat} (h : n / 2 = 0) :
    powerFrom acc base n = if n % 2 = 1 then acc * base else acc := by
  rw [powerFrom, if_pos h]

private theorem powerFrom_of_more {acc base : Binary f} {n : Nat} (h : n / 2 ≠ 0) :
    powerFrom acc base n =
      powerFrom (if n % 2 = 1 then acc * base else acc) (base * base) (n / 2) := by
  rw [powerFrom, if_neg h]

/-! ### Numbers that a format has -/

/-- A number that the format has: a finite one is on its grid and below its end. -/
def Held : Binary f → Prop
  | .nan | .infinite _ => True
  | .finite _ n => f.quantum n ∣ n ∧ n < f.ceiling

instance : DecidablePred (Held (f := f))
  | .nan | .infinite _ => isTrue trivial
  | .finite _ _ => inferInstanceAs (Decidable (_ ∧ _))

/-! ### The order of numbers from one on -/

/-- Both numbers are at least one, and the first is at most the second. -/
inductive Ascends : Binary f → Binary f → Prop
  | finite {m n : Nat} (hone : f.one ≤ m) (hle : m ≤ n) :
      Ascends (finite false m) (finite false n)
  | beyond {m : Nat} (hone : f.one ≤ m) : Ascends (finite false m) (infinite false)
  | top : Ascends (infinite false) (infinite false)

namespace Ascends

private theorem ofSteps {m n : Nat} (hone : f.one ≤ m) (hle : m ≤ n) :
    Ascends (.ofSteps false m : Binary f) (.ofSteps false n) := by
  unfold Binary.ofSteps
  split
  · next hm =>
    rw [if_pos (Nat.le_trans hm hle)]
    exact .top
  · split
    · exact .beyond hone
    · exact .finite hone hle

/-- What is at least an infinity is one. -/
theorem eq_infinite (h : Ascends (infinite false) y) : y = infinite false := by
  cases h
  rfl

private theorem left (h : Ascends x y) : Ascends x x := by
  cases h with
  | finite hone hle | beyond hone => exact .finite hone (Nat.le_refl _)
  | top => exact .top

/-- So is the second. -/
theorem right (h : Ascends x y) : Ascends y y := by
  cases h with
  | finite hone hle => exact .finite (Nat.le_trans hone hle) (Nat.le_refl _)
  | beyond hone | top => exact .top

private theorem le_infinite (h : Ascends x x) : Ascends x (infinite false) := by
  cases h with
  | finite hone hle => exact .beyond hone
  | top => exact .top

private theorem one_le_product (hf : 0 < f.precision) {m n : Nat} (hm : f.one ≤ m)
    (hn : f.one ≤ n) :
    f.one ≤ f.roundSteps (m * n) f.one := by
  have hone := f.one_pos
  calc
    f.one = f.roundSteps (f.one * f.one) f.one :=
      (Format.roundSteps_mul_right hone (Format.quantum_one_dvd hf)).symm
    _ ≤ f.roundSteps (m * n) f.one :=
      Format.roundSteps_mono hf hone (Nat.mul_le_mul hm hn)

private theorem finite_mul (hf : 0 < f.precision) {m m' n n' : Nat} (hm : f.one ≤ m) (hmm : m ≤ m')
    (hn : f.one ≤ n) (hnn : n ≤ n') :
    Ascends (Binary.finite false m * Binary.finite false n : Binary f)
      (Binary.finite false m' * Binary.finite false n') :=
  .ofSteps (one_le_product hf hm hn)
    (Format.roundSteps_mono hf f.one_pos (Nat.mul_le_mul hmm hnn))

private theorem infinite_mul (h : Ascends x x) : infinite false * x = infinite false := by
  cases h with
  | @finite m n hone hle =>
    have hne : m ≠ 0 := Nat.ne_of_gt (Nat.lt_of_lt_of_le f.one_pos hone)
    change (if m = 0 then nan else infinite (false != false)) = infinite false
    rw [if_neg hne]
    rfl
  | top => rfl

private theorem mul_infinite (h : Ascends x x) : x * infinite false = infinite false := by
  cases h with
  | finite hone hle => exact infinite_mul (.finite hone hle)
  | top => rfl

private theorem mul_self (hf : 0 < f.precision) (hx : Ascends x x) (hy : Ascends y y) :
    Ascends (x * y) (x * y) := by
  cases hx with
  | top =>
    rw [hy.infinite_mul]
    exact .top
  | finite hm hmm =>
    cases hy with
    | top =>
      rw [mul_infinite (.finite hm hmm)]
      exact .top
    | finite hn hnn => exact finite_mul hf hm hmm hn hnn

private theorem mul (hf : 0 < f.precision) (hx : Ascends x x') (hy : Ascends y y') :
    Ascends (x * y) (x' * y') := by
  have hself := mul_self hf hx.left hy.left
  -- With an infinite factor the greater product is infinite.
  cases hx with
  | beyond hm | top =>
    rw [hy.right.infinite_mul]
    exact hself.le_infinite
  | finite hm hmm =>
    cases hy with
    | beyond hn | top =>
      rw [mul_infinite (.finite (Nat.le_trans hm hmm) (Nat.le_refl _))]
      exact hself.le_infinite
    | finite hn hnn => exact finite_mul hf hm hmm hn hnn

private theorem powerFrom (hf : 0 < f.precision) (hx : Ascends x x') (hy : Ascends y y') (n : Nat) :
    Ascends (Binary.powerFrom x y n) (Binary.powerFrom x' y' n) := by
  induction n using Nat.strongRecOn generalizing x x' y y' with
  | ind n ih =>
    have hacc : Ascends (if n % 2 = 1 then x * y else x) (if n % 2 = 1 then x' * y' else x') := by
      split
      · exact hx.mul hf hy
      · exact hx
    by_cases hlast : n / 2 = 0
    · rw [powerFrom_of_last hlast, powerFrom_of_last hlast]
      exact hacc
    · rw [powerFrom_of_more hlast, powerFrom_of_more hlast]
      exact ih (n / 2) (by omega) hacc (hy.mul hf hy)

/-- Powers keep the order. -/
theorem power (hf : 0 < f.precision) (hx : Ascends x x') (n : Nat) :
    Ascends (x.power n) (x'.power n) := by
  have hone : Ascends (1 : Binary f) 1 := by
    change Ascends (ofNat 1) (ofNat 1)
    rw [ofNat_one hf]
    exact .ofSteps (Nat.le_refl _) (Nat.le_refl _)
  exact hone.powerFrom hf hx n

end Ascends

/-! ### Comparisons with numbers from one on -/

private theorem greater_finite {m n : Nat} :
    (finite false m : Binary f).greater (finite false n) = true ↔ n < m := by
  simp [greater, position?]

private theorem infinite_greater_finite {n : Nat} (hn : n < f.ceiling) :
    (infinite false : Binary f).greater (finite false n) = true := by
  simpa [greater, position?] using hn

private theorem not_negative_greater {n : Nat} (hx : x.negative = true) :
    x.greater (finite false n) = false := by
  cases x with
  | nan => rfl
  | infinite s | finite s m =>
    subst hx
    simp [greater, position?]

private theorem one_greater_negative (hx : x.negative = true) :
    (finite false f.one : Binary f).greater x = true := by
  have hone := f.one_pos
  cases x with
  | nan => cases hx
  | infinite s | finite s m =>
    subst hx
    simp only [greater, position?, Bool.false_eq_true, if_true, if_false, decide_eq_true_eq]
    omega

private theorem not_one_greater_infinite :
    (finite false f.one : Binary f).greater (infinite false) = false := by
  have hle : f.one ≤ f.ceiling := Nat.pow_le_pow_right Nat.two_pos (Nat.le_add_left _ _)
  simpa [greater, position?] using hle

/-- The greater of one and a number from one on is that number. -/
theorem Ascends.maxNumber_one (hx : Ascends x x) :
    x.maxNumber (.finite false f.one) = x := by
  have hnot : (Binary.finite false f.one).greater x = false := by
    cases hx with
    | top => exact not_one_greater_infinite
    | finite hone hle =>
      exact Bool.eq_false_iff.mpr fun h ↦ Nat.not_lt.mpr hone (greater_finite.mp h)
  have hnan : x.isNan = false := by
    cases hx <;> rfl
  rw [maxNumber, hnan, hnot]
  rfl

/-- The greater of one and any other number is one. -/
theorem maxNumber_one_cases (x : Binary f) :
    x.maxNumber (finite false f.one) = finite false f.one ∨ Ascends x x := by
  have hone (hnan : x.isNan = false) (h : (finite false f.one).greater x = true) :
      x.maxNumber (finite false f.one) = finite false f.one := by
    rw [maxNumber, hnan, h]
    rfl
  cases x with
  | nan => exact .inl rfl
  | infinite s =>
    cases s with
    | true => exact .inl (hone rfl (one_greater_negative rfl))
    | false => exact .inr .top
  | finite s n =>
    cases s with
    | true => exact .inl (hone rfl (one_greater_negative rfl))
    | false =>
      obtain hless | hmore := Nat.lt_or_ge n f.one
      · exact .inl (hone rfl (greater_finite.mpr hless))
      · exact .inr (.finite hmore (Nat.le_refl n))

/-- A number from one on that is not greater than a finite one is at most that. -/
theorem Ascends.of_not_greater {n : Nat} (hx : Ascends x x) (hn : n < f.ceiling)
    (h : x.greater (.finite false n) = false) : Ascends x (.finite false n) := by
  cases hx with
  | top =>
    rw [infinite_greater_finite hn] at h
    cases h
  | @finite m _ hm _ =>
    refine .finite hm (Nat.not_lt.mp fun hlt ↦ ?_)
    rw [greater_finite.mpr hlt] at h
    cases h

/-- A number that the format has is greater than another one from one on exactly if it is at least
the next one, a quantum further. -/
theorem ascends_of_greater {n : Nat} (hx : x.Held) (hone : f.one ≤ n) (hgrid : f.quantum n ∣ n)
    (h : x.greater (finite false n) = true) :
    Ascends (finite false (n + f.quantum n)) x := by
  have hnext : f.one ≤ n + f.quantum n := by omega
  cases x with
  | nan => cases h
  | infinite s =>
    cases s with
    | false => exact .beyond hnext
    | true =>
      rw [not_negative_greater rfl] at h
      cases h
  | finite s m =>
    cases s with
    | true =>
      rw [not_negative_greater rfl] at h
      cases h
    | false =>
      have hlt : n < m := greater_finite.mp h
      -- The grid around the greater number is no finer than around the other one.
      have hgrid' : f.quantum n ∣ m :=
        Nat.dvd_trans (Format.quantum_dvd_quantum (Nat.le_of_lt hlt)) hx.1
      refine .finite hnext ?_
      obtain ⟨j, hj⟩ := hgrid
      obtain ⟨k, hk⟩ := hgrid'
      have hjk : j < k := Nat.lt_of_mul_lt_mul_left (hj ▸ hk ▸ hlt : _ < f.quantum n * k)
      calc
        n + f.quantum n = f.quantum n * (j + 1) := by rw [Nat.mul_succ, ← hj]
        _ ≤ f.quantum n * k := Nat.mul_le_mul_left _ hjk
        _ = m := hk.symm

end Binary

end GuardedDispatch.Number
