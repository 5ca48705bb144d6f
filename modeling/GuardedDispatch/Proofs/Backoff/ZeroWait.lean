import GuardedDispatch.Policy.Retry
import GuardedDispatch.Proofs.Number.Rounding
import GuardedDispatch.Proofs.Pipeline.Attempts

/-!
# Waits that start from nothing

A wait that starts from nothing should stay nothing, however it is multiplied. It does as long as
the power of the multiplier is finite. Where the power overflows, nothing times infinity is not a
number, and what is not a number becomes the greatest duration there is. Products of numbers from
one on keep their order, so there is one greatest multiplier of which no power overflows within the
attempts that are told apart, and the waits of a backoff all stay nothing up to it and no further.
-/

namespace GuardedDispatch

open Number

namespace Backoff

variable {b : Backoff} {x : Double} {attempt : Nat}

/-! ### Tame multipliers -/

/-- What the first wait is multiplied by after an attempt. -/
def growth (b : Backoff) (attempt : Nat) : Double :=
  (b.multiplier.maxNumber 1).power (min attempt 30 - 1)

/-- The steps of the greatest tame multiplier. -/
def tameSteps : Nat := 5584481757983934 * 2 ^ 1057

/-- The greatest multiplier that is tame: none of its powers up to the twenty-ninth overflows. It is
a little more than `2 ^ 35.3`. -/
def greatestTame : Double := .finite false tameSteps

private theorem greatestTame_is_last :
    Format.double.one ≤ tameSteps ∧ greatestTame.Held ∧
      (∀ n < 30, greatestTame.power n ≠ .infinite false) ∧
      (Binary.finite false (tameSteps + Format.double.quantum tameSteps) : Double).power 29 =
        .infinite false := by
  decide +kernel

private theorem one_le_tameSteps : Format.double.one ≤ tameSteps := greatestTame_is_last.1

private theorem held_greatestTame :
    Format.double.quantum tameSteps ∣ tameSteps ∧ tameSteps < Format.double.ceiling :=
  greatestTame_is_last.2.1

private theorem one_eq : (1 : Double) = .finite false Format.double.one := by
  have hbelow := Format.one_lt_ceiling (f := .double) (by decide)
  exact (Binary.ofNat_one (by decide)).trans (if_neg (Nat.not_le.mpr hbelow))

private theorem maxNumber_one_cases (x : Double) :
    x.maxNumber 1 = .finite false Format.double.one ∨ x.maxNumber 1 = x ∧ x.Ascends x := by
  rw [one_eq]
  exact x.maxNumber_one_cases.imp_right fun h ↦ ⟨h.maxNumber_one, h⟩

private theorem maxNumber_one_ascends (x : Double) : (x.maxNumber 1).Ascends (x.maxNumber 1) := by
  obtain hx | ⟨hx, hself⟩ := maxNumber_one_cases x
  · rw [hx]
    exact .finite (Nat.le_refl _) (Nat.le_refl _)
  · rw [hx]
    exact hself

private theorem ascends_greatestTame (h : x.greater greatestTame = false) :
    (x.maxNumber 1).Ascends greatestTame := by
  obtain hx | ⟨hx, hself⟩ := maxNumber_one_cases x
  · rw [hx]
    exact .finite (Nat.le_refl _) one_le_tameSteps
  · rw [hx]
    exact hself.of_not_greater held_greatestTame.2 h

/-! ### Growth -/

private theorem growth_cases (b : Backoff) (attempt : Nat) :
    (∃ n, b.growth attempt = .finite false n) ∨ b.growth attempt = .infinite false := by
  have h := (maxNumber_one_ascends b.multiplier).power (by decide) (min attempt 30 - 1)
  rw [← growth] at h
  generalize b.growth attempt = g at h ⊢
  cases h with
  | finite hone hle => exact .inl ⟨_, rfl⟩
  | top => exact .inr rfl

private theorem growth_ne_infinite (h : b.multiplier.greater greatestTame = false) :
    b.growth attempt ≠ .infinite false := by
  intro hinfinite
  have hle := (ascends_greatestTame h).power (by decide) (min attempt 30 - 1)
  rw [← growth, hinfinite] at hle
  exact greatestTame_is_last.2.2.1 _ (by omega) hle.eq_infinite

private theorem growth_thirty (hheld : b.multiplier.Held)
    (h : b.multiplier.greater greatestTame = true) : b.growth 30 = .infinite false := by
  have hnext := Binary.ascends_of_greater hheld one_le_tameSteps held_greatestTame.1 h
  have hself : b.multiplier.maxNumber 1 = b.multiplier := by
    rw [one_eq]
    exact hnext.right.maxNumber_one
  have hle := hnext.power (by decide) 29
  rw [greatestTame_is_last.2.2.2] at hle
  rw [growth, hself]
  exact hle.eq_infinite

/-! ### Waits -/

private theorem uncapped_of_zero (hzero : b.initial = 0) :
    b.uncapped attempt = if b.growth attempt = .infinite false then wordMax else 0 := by
  change ((Binary.ofNat b.initial * b.growth attempt).minNumber
    (.ofNat wordMax)).truncateTo wordMax = _
  rw [hzero, Binary.ofNat_zero]
  obtain ⟨n, hn⟩ | hinfinite := b.growth_cases attempt
  · rw [hn, Binary.zero_mul_finite, if_neg nofun]
    decide +kernel
  · rw [hinfinite, if_pos rfl]
    decide +kernel

private theorem delayAfter_of_zero (hzero : b.initial = 0) :
    b.delayAfter attempt =
      if 0 < attempt ∧ b.growth attempt = .infinite false then
        min wordMax (b.max?.getD wordMax)
      else 0 := by
  obtain rfl | hpos := Nat.eq_zero_or_pos attempt
  · rw [delayAfter_zero, if_neg (fun h ↦ Nat.lt_irrefl 0 h.1)]
  · rw [delayAfter, if_neg (Nat.ne_of_gt hpos), uncapped_of_zero hzero]
    by_cases hinfinite : b.growth attempt = .infinite false
    · rw [if_pos hinfinite, if_pos ⟨hpos, hinfinite⟩]
      cases b.max? with
      | none => exact (Nat.min_self _).symm
      | some cap => rfl
    · rw [if_neg hinfinite, if_neg (fun h ↦ hinfinite h.2)]
      cases b.max? with
      | none => rfl
      | some cap => exact Nat.zero_min cap

/-- Every wait stays nothing exactly if the maximum is nothing or the multiplier is tame. -/
theorem delayAfter_eq_zero_iff (hzero : b.initial = 0) (hheld : b.multiplier.Held) :
    (∀ attempt, b.delayAfter attempt = 0) ↔
      b.max? = some 0 ∨ b.multiplier.greater greatestTame = false := by
  constructor
  · intro hnothing
    by_contra hneither
    obtain ⟨hmax, hwild⟩ := not_or.mp hneither
    have hwait := hnothing 30
    rw [delayAfter_of_zero hzero, growth_thirty hheld (Bool.not_eq_false _ ▸ hwild),
      if_pos ⟨by decide, rfl⟩] at hwait
    cases hcap : b.max? with
    | none =>
      rw [hcap] at hwait
      exact absurd hwait (by decide)
    | some cap =>
      rw [hcap, Option.getD_some] at hwait
      obtain hword | rfl := Nat.min_eq_zero_iff.mp hwait
      · exact absurd hword (by decide)
      · exact hmax hcap
  · rintro (hcap | htame) attempt
    · exact Nat.le_zero.mp (b.delayAfter_le_max attempt 0 hcap)
    · rw [delayAfter_of_zero hzero, if_neg fun h ↦ growth_ne_infinite htame h.2]

end Backoff

/-! ### Retry loops and pipelines -/

/-- No attempt is followed by a pause that takes time. -/
def RetryConfig.NeverPauses (config : RetryConfig) : Prop :=
  ∀ (ε α : Type) (name : String) (eligible : PolicyFailure ε → Bool) (attempt : Nat)
    (result : Except (PolicyFailure ε) α) (wait : Nat),
    Retry.judge name config eligible attempt result = .again wait → wait = 0

/-- No run of a pipeline asks for sleep. -/
def PipelinePolicy.NeverSleeps (policy : PipelinePolicy) : Prop :=
  ∀ (σ μ π : Type) (around : Surroundings σ μ π) (env : σ) (stats : PipelineStats)
    (context : ProcessingContext μ) (payload : π),
    (policy.run around.filled.recorded (env, []) stats context payload).1.2.filterMap
      Deed.slept? = []

private theorem RetryConfig.neverPauses {config : RetryConfig}
    (h : ∀ attempt, config.backoff.delayAfter attempt = 0) : config.NeverPauses := by
  intro ε α name eligible attempt result wait hagain
  cases result with
  | ok value => cases hagain
  | error e =>
    simp only [Retry.judge] at hagain
    split at hagain
    · cases hagain
    · split at hagain
      · cases hagain
      · cases hagain
        exact h attempt

private theorem PipelinePolicy.neverSleeps {policy : PipelinePolicy}
    (h : ∀ attempt, policy.backoff.delayAfter attempt = 0) : policy.NeverSleeps := by
  intro σ μ π around env stats context payload
  obtain ⟨result, deeds, -, hdeeds, hahead⟩ := PipelineRun.ahead_runFor policy around env
    { stats with processed := stats.processed + 1 }
    (PipelineRun.stepsLeft_begin_le context payload (around.now env)) (.refl context) []
  have hcourse : Course policy context result context.attempt .validate deeds := hahead
  have heq : (policy.run around.filled.recorded (env, []) stats context payload).1.2 = deeds :=
    hdeeds
  rw [heq, hcourse.slept_eq, List.filter_eq_nil_iff]
  intro wait hwait
  obtain ⟨i, -, rfl⟩ := List.mem_map.mp hwait
  simp [h]

namespace Backoff

/-- Waits that start from nothing stay nothing exactly if they are capped at nothing or the
multiplier is tame: a number that is not greater than the greatest tame multiplier, or none at all.
Then neither retry loops nor pipelines wait. Otherwise the wait is nothing as long as the growth is
finite, and from an infinite growth on it is the greatest duration, or the maximum. -/
theorem waits_stay_zero_iff_tame (b : Backoff) (hzero : b.initial = 0)
    (hheld : b.multiplier.Held) :
    (∀ attempt, b.delayAfter attempt =
      if 0 < attempt ∧ b.growth attempt = .infinite false then
        min wordMax (b.max?.getD wordMax)
      else 0) ∧
    ((∀ attempt, b.delayAfter attempt = 0) ↔
      b.max? = some 0 ∨ b.multiplier.greater greatestTame = false) ∧
    (b.max? = some 0 ∨ b.multiplier.greater greatestTame = false →
      (∀ config : RetryConfig, config.backoff = b → config.NeverPauses) ∧
      ∀ policy : PipelinePolicy, policy.backoff = b → policy.NeverSleeps) := by
  have hiff := delayAfter_eq_zero_iff hzero hheld
  refine ⟨fun attempt ↦ delayAfter_of_zero hzero, hiff, fun htame ↦ ⟨?_, ?_⟩⟩
  · rintro config rfl
    exact RetryConfig.neverPauses (hiff.mpr htame)
  · rintro policy rfl
    exact PipelinePolicy.neverSleeps (hiff.mpr htame)

/-- A multiplier whose second power overflows: about `10 ^ 200`. -/
@[irreducible] def wildMultiplier : Double := .ofNat (10 ^ 200)

/-- A large multiplier that is tame. -/
@[irreducible] def tenBillion : Double := .ofNat (10 ^ 10)

/-- A wait of nothing becomes the maximum after the third attempt, where the power of a multiplier
overflows. Under a tame multiplier no retry loop waits. -/
theorem capped_wait_after_overflow :
    wildMultiplier.Held ∧ tenBillion.Held ∧
      (⟨0, wildMultiplier, some 250⟩ : Backoff).delayAfter 2 = 0 ∧
      (⟨0, wildMultiplier, some 250⟩ : Backoff).delayAfter 3 = 250 ∧
      RetryConfig.NeverPauses ⟨100, exponential 0 tenBillion⟩ := by
  have hwild : wildMultiplier.Held := by decide +kernel
  have hten : tenBillion.Held := by decide +kernel
  have htame : tenBillion.greater greatestTame = false := by decide +kernel
  obtain ⟨hdelay, -⟩ := waits_stay_zero_iff_tame ⟨0, wildMultiplier, some 250⟩ rfl hwild
  obtain ⟨-, -, hloops⟩ := waits_stay_zero_iff_tame (exponential 0 tenBillion) rfl hten
  refine ⟨hwild, hten, (hdelay 2).trans ?_, (hdelay 3).trans ?_, (hloops (.inr htame)).1 _ rfl⟩
  · decide +kernel
  · decide +kernel

/-- A wait that starts from nothing does not always stay nothing. -/
theorem zero_wait_not_always_zero :
    ¬ ∀ b : Backoff, b.initial = 0 → ∀ attempt, b.delayAfter attempt = 0 := by
  intro hall
  have hendless : (exponential 0 wildMultiplier).delayAfter 3 = wordMax := by decide +kernel
  have hnothing : (exponential 0 wildMultiplier).delayAfter 3 = 0 := hall _ rfl 3
  exact absurd (hendless.symm.trans hnothing) (by decide)

end Backoff

end GuardedDispatch
