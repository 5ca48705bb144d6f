import GuardedDispatch.Config.Setting

/-!
# Scalars that are read back

A truth value, a natural number and a text are read back from the scalar that stands for them. A
number with a fraction is written in decimal digits, and it is kept if those digits stand for it.
-/

namespace GuardedDispatch.Yaml

open Number

/-! ### Natural numbers -/

private theorem digitIn?_ten_of_isDigit {c : Char} (h : c.isDigit = true) :
    digitIn? 10 c = some (c.toNat - '0'.toNat) := by
  have hle : c.toNat ≤ 57 := by
    simp only [Char.isDigit, Bool.and_eq_true, decide_eq_true_eq] at h
    exact h.2
  have hlt : c.toNat - '0'.toNat < 10 := by
    change c.toNat - 48 < 10
    omega
  rw [digitIn?, if_pos h, if_pos hlt]

private theorem foldlM_digitIn?_ten {cs : List Char} (h : ∀ c ∈ cs, c.isDigit = true) (n : Nat) :
    cs.foldlM (fun n c ↦ (digitIn? 10 c).map (n * 10 + ·)) n = some (Nat.ofDigitChars 10 cs n) := by
  induction cs generalizing n with
  | nil => rfl
  | cons c rest ih =>
    rw [List.foldlM_cons, digitIn?_ten_of_isDigit (h c List.mem_cons_self), Nat.ofDigitChars_cons,
      Nat.mul_comm 10 n]
    exact ih (fun d hd ↦ h d (List.mem_cons_of_mem c hd)) _

private theorem isDigit_of_mem_decimal {n : Nat} {c : Char} (h : c ∈ Nat.toDigits 10 n) :
    c.isDigit = true :=
  Nat.isDigit_of_mem_toDigits (by decide) (by decide) h

private theorem naturalIn?_toDigits (n : Nat) : naturalIn? 10 (Nat.toDigits 10 n) = some n := by
  have hne : (Nat.toDigits 10 n).isEmpty = false :=
    List.isEmpty_eq_false_iff.mpr Nat.toDigits_ne_nil
  rw [naturalIn?, hne]
  exact (foldlM_digitIn?_ten (fun _ ↦ isDigit_of_mem_decimal) 0).trans
    (congrArg some Nat.ofDigitChars_ten_toDigits)

private theorem exists_head?_toDigits {n : Nat} (h : 0 < n) :
    ∃ c, (Nat.toDigits 10 n).head? = some c ∧ c ≠ '0' := by
  induction n using Nat.strongRecOn with
  | ind n ih =>
    obtain hlt | hge := Nat.lt_or_ge n 10
    · rw [Nat.toDigits_of_lt_base hlt]
      exact ⟨_, rfl, mt Nat.digitChar_eq_zero.mp (Nat.ne_of_gt h)⟩
    · obtain ⟨c, hhead, hc⟩ := ih (n / 10) (by omega) (by omega)
      rw [Nat.toDigits_of_base_le (by decide) hge, List.head?_append, hhead]
      exact ⟨c, rfl, hc⟩

private theorem hasLeadingZero_toDigits (n : Nat) : hasLeadingZero (Nat.toDigits 10 n) = false := by
  obtain rfl | hpos := Nat.eq_zero_or_pos n
  · decide
  · obtain ⟨c, hhead, hc⟩ := exists_head?_toDigits hpos
    unfold hasLeadingZero
    split
    · next hcs =>
      rw [hcs, List.head?_cons] at hhead
      exact absurd (Option.some.inj hhead).symm hc
    · rfl

private theorem unsignedOf?_of_isDigit {cs : List Char} (h : ∀ c ∈ cs, c.isDigit = true) :
    unsignedOf? cs = if hasLeadingZero cs then none else naturalIn? 10 cs := by
  have hsecond (c d : Char) (rest : List Char) (hcs : cs = c :: d :: rest) : d.isDigit = true :=
    h d (hcs ▸ List.mem_cons_of_mem c List.mem_cons_self)
  unfold unsignedOf?
  split
  · exact absurd (hsecond _ _ _ rfl) (by decide)
  · exact absurd (hsecond _ _ _ rfl) (by decide)
  · exact absurd (hsecond _ _ _ rfl) (by decide)
  · rfl

/-- A natural number is read back from its text. -/
theorem naturalOf?_toString (n : Nat) : naturalOf? (toString n) = some n := by
  have hdigits : (toString n).toList = Nat.toDigits 10 n := by
    rw [Nat.toString_eq_ofList_toDigits, String.toList_ofList]
  rw [naturalOf?, hdigits]
  split
  · next cs hcs =>
    have hplus : '+'.isDigit = true := isDigit_of_mem_decimal (hcs ▸ List.mem_cons_self)
    exact absurd hplus (by decide)
  · rw [unsignedOf?_of_isDigit fun _ ↦ isDigit_of_mem_decimal, hasLeadingZero_toDigits,
      if_neg Bool.false_ne_true, naturalIn?_toDigits]

/-- A natural number up to a greatest one is read back. -/
theorem Node.natural?_plain {n greatest : Nat} (h : n ≤ greatest) :
    (Node.plain (toString n)).natural? greatest = some n := by
  change (naturalOf? (toString n)).filter (· ≤ greatest) = _
  rw [naturalOf?_toString, Option.filter_some, if_pos (decide_eq_true h)]

/-- What stands for a number does not stand for nothing. -/
theorem isNull_of_naturalOf? {s : String} {n : Nat} (h : naturalOf? s = some n) :
    (s.isEmpty || isNull s) = false := by
  cases hnone : s.isEmpty || isNull s with
  | false => rfl
  | true =>
    have hwords : ∀ w ∈ ["", "~", "null", "Null", "NULL"], naturalOf? w = none := by decide
    have hmem : s ∈ ["", "~", "null", "Null", "NULL"] := by
      rw [List.mem_cons]
      exact (Bool.or_eq_true_iff.mp hnone).imp String.isEmpty_iff.mp List.contains_iff_mem.mp
    rw [hwords s hmem] at h
    cases h

/-! ### Truth values -/

/-- A truth value is read back from its text. -/
@[simp] theorem flagOf?_toString (on : Bool) : flagOf? (toString on) = some on := by
  cases on <;> decide

/-! ### Numbers with a fraction -/

/-- Whether a double precision number is read back from its digits. -/
def KeepsDouble (x : Double) : Prop :=
  doubleOf? (numberScalar Binary.storedDoubleLayout x) = some x

instance (x : Double) : Decidable (KeepsDouble x) := inferInstanceAs (Decidable (_ = _))

/-- Whether a single precision number is read back from its digits, which are read in double
precision first. -/
def KeepsSingle (x : Single) : Prop :=
  (doubleOf? (numberScalar Binary.storedSingleLayout x)).map (·.convert) = some x

instance (x : Single) : Decidable (KeepsSingle x) := inferInstanceAs (Decidable (_ = _))

end GuardedDispatch.Yaml
