import GuardedDispatch.Proofs.Breaker.Generations
import GuardedDispatch.Proofs.Number.Rounding

/-!
# A breaker whose calls go well

As long as every call that is completed succeeded within the time that counts as slow, there is
nothing in the window that a rate could count. A rate of nothing stays below every threshold that is
above zero, so a closed breaker with such thresholds is opened by hand or not at all.
-/

namespace GuardedDispatch

open Number

/-! ### Rates of nothing -/

namespace Number.Binary

variable {f : Format}

/-- A zero of either sign, or not a number: what is left of zero under any product or quotient. -/
inductive Vanishes : Binary f → Prop
  | undefined : Vanishes nan
  | zero (negative : Bool) : Vanishes (finite negative 0)

private theorem Vanishes.mul {x : Binary f} (hx : x.Vanishes) (y : Binary f) :
    (x * y).Vanishes := by
  cases hx with
  | undefined => exact .undefined
  | zero s =>
    cases y with
    | nan => exact .undefined
    | infinite t => exact .undefined
    | finite t n =>
      change (ofSteps (s != t) (f.roundSteps (0 * n) f.one)).Vanishes
      rw [Nat.zero_mul, Format.roundSteps_zero, ofSteps_zero]
      exact .zero _

private theorem Vanishes.div {x : Binary f} (hx : x.Vanishes) (y : Binary f) :
    (x / y).Vanishes := by
  cases hx with
  | undefined => exact .undefined
  | zero s =>
    cases y with
    | nan => exact .undefined
    | infinite t => exact .zero _
    | finite t n =>
      change (if n = 0 then nan else ofSteps (s != t) (f.roundSteps (0 * f.one) n)).Vanishes
      split
      · exact .undefined
      · rw [Nat.zero_mul, Format.roundSteps_zero, ofSteps_zero]
        exact .zero _

private theorem Vanishes.not_atLeast {x t : Binary f} (hx : x.Vanishes) (ht : t.greater 0 = true) :
    x.atLeast t = false := by
  change t.greater (ofNat 0) = true at ht
  rw [ofNat_zero, greater] at ht
  cases hx with
  | undefined => rfl
  | zero s =>
    cases hq : t.position? with
    | none => rw [atLeast, hq]; rfl
    | some b =>
      rw [hq] at ht
      have hpos : 0 < b := of_decide_eq_true ht
      rw [atLeast, hq]
      cases s <;> exact decide_eq_false (Int.not_le.mpr hpos)

end Number.Binary

private theorem vanishes_ratePercent_zero (total : Nat) : (ratePercent 0 total).Vanishes := by
  have hnothing : (Binary.ofNat 0 : Single).Vanishes := by
    rw [Binary.ofNat_zero]
    exact .zero false
  rw [ratePercent]
  split
  · exact hnothing
  · exact (hnothing.mul _).div _

/-! ### Windows without a blemish -/

/-- A window in which nothing failed and nothing was slow. -/
structure Window.Spotless (w : Window) : Prop where
  failed_eq : w.failed = 0
  slow_eq : w.slow = 0

namespace Window.Spotless

private theorem record {w : Window} (h : w.Spotless) : (w.record ⟨false, false⟩).Spotless := by
  have hevict : w.evict.Spotless := by
    rw [evict]
    split
    · exact h
    · exact ⟨by rw [h.failed_eq, Nat.zero_sub], by rw [h.slow_eq, Nat.zero_sub]⟩
  rw [Window.record]
  split
  · exact ⟨hevict.failed_eq, hevict.slow_eq⟩
  · exact ⟨h.failed_eq, h.slow_eq⟩

end Window.Spotless

namespace BreakerConfig

/-- Settings whose rates have to be above zero to open the breaker. -/
structure NeedsCause (c : BreakerConfig) : Prop where
  failureRate_pos : c.failureRateThreshold.greater 0 = true
  slowCallRate_pos : c.slowCallRateThreshold.greater 0 = true

private theorem NeedsCause.not_exceededBy {c : BreakerConfig} (hc : c.NeedsCause) {w : Window}
    (hw : w.Spotless) : c.exceededBy w = false := by
  rw [exceededBy, Window.failureRate, Window.slowRate, hw.failed_eq, hw.slow_eq,
    (vanishes_ratePercent_zero _).not_atLeast hc.failureRate_pos,
    (vanishes_ratePercent_zero _).not_atLeast hc.slowCallRate_pos]
  rfl

/-- The settings are left as they are, and a call that is completed succeeded within the time from
which on it would count as slow. -/
def GoesWell (c : BreakerConfig) : BreakerAction → Prop
  | .complete _ duration failed => failed = false ∧ duration ≤ c.slowCallDuration
  | .reconfigure _ => False
  | _ => True

instance (c : BreakerConfig) : DecidablePred c.GoesWell
  | .complete .. => inferInstanceAs (Decidable (_ ∧ _))
  | .reconfigure _ => isFalse id
  | .request | .release _ | .reset | .trip | .wait _ => isTrue trivial

private theorem outcome_of_goesWell {c : BreakerConfig} {p : CallPermit} {duration : Nat}
    {failed : Bool}
    (h : c.GoesWell (.complete p duration failed)) :
    c.outcome duration failed = ⟨false, false⟩ := by
  obtain ⟨rfl, hduration⟩ := h
  rw [outcome, decide_eq_false (Nat.not_lt.mpr hduration)]

end BreakerConfig

/-! ### Runs in which every call goes well -/

namespace Breaker

variable {b : Breaker}

private theorem spotless_enter (h : b.window.Spotless) (target : CircuitState) (now : Nat) :
    (b.enter target now).window.Spotless := by
  by_cases ht : target = .closed
  · simp only [enter, ht, if_true]
    exact ⟨rfl, rfl⟩
  · simp only [enter, ht, if_false]
    exact h

private theorem spotless_request (h : b.window.Spotless) (now : Nat) :
    (b.request now).1.window.Spotless := by
  have hr := b.requested_request now
  generalize b.request now = answer at hr ⊢
  cases hr with
  | granted | waiting | probed | spent => exact h
  | began => exact b.spotless_enter h .halfOpen now

private theorem spotless_judge (h : b.window.Spotless) (now : Nat) :
    (b.judge ⟨false, false⟩ now).window.Spotless := by
  have hj := b.judged_judge ⟨false, false⟩ now
  generalize b.judge ⟨false, false⟩ now = b' at hj ⊢
  cases hj with
  | recorded => exact h.record
  | tripped => exact (b.withOutcome _).spotless_enter h.record .opened now
  | probed | ignored => exact h
  | decided => exact (b.withProbe _).spotless_enter h _ now

private theorem state_judge_of_closed (h : b.window.Spotless) (hc : b.config.NeedsCause)
    (hs : b.state = .closed) (now : Nat) : (b.judge ⟨false, false⟩ now).state = .closed := by
  rw [judge_of_closed_stays hs]
  · exact hs
  · rintro ⟨-, hexceeds⟩
    rw [hc.not_exceededBy h.record] at hexceeds
    cases hexceeds

end Breaker

namespace Ledger

variable {l : Ledger} {c : BreakerConfig} {a : BreakerAction}

/-- A breaker with given settings in whose window nothing failed and nothing was slow. -/
structure Unblemished (c : BreakerConfig) (l : Ledger) : Prop where
  config_eq : l.breaker.config = c
  spotless : l.breaker.window.Spotless

/-- A new breaker is unblemished. -/
theorem unblemished_new (name : String) (c : BreakerConfig) (start : Nat) :
    (new name c start).Unblemished c :=
  ⟨rfl, rfl, rfl⟩

private theorem Unblemished.breaker_complete (h : l.Unblemished c) {p : CallPermit} {duration : Nat}
    {failed : Bool} (ha : c.GoesWell (.complete p duration failed)) :
    (l.apply (.complete p duration failed)).breaker = l.breaker.tally ⟨false, false⟩ ∨
      (l.apply (.complete p duration failed)).breaker =
        (l.breaker.tally ⟨false, false⟩).judge ⟨false, false⟩ l.now := by
  change l.breaker.complete p duration failed l.now = _ ∨
    l.breaker.complete p duration failed l.now = _
  have houtcome : l.breaker.config.outcome duration failed = ⟨false, false⟩ := by
    rw [h.config_eq]
    exact BreakerConfig.outcome_of_goesWell ha
  by_cases hg : p.generation = l.breaker.generation
  · rw [Breaker.complete_of_current hg, houtcome]
    exact .inr rfl
  · rw [Breaker.complete_of_stale hg, houtcome]
    exact .inl rfl

/-- Every action of a run that goes well leaves the breaker unblemished. -/
theorem Unblemished.apply (h : l.Unblemished c) (ha : c.GoesWell a) :
    (l.apply a).Unblemished c := by
  cases a with
  | request =>
    have hspotless := l.breaker.spotless_request h.spotless l.now
    have hconfig := l.breaker.config_request l.now
    simp only [Ledger.apply]
    split
    · next b p hb =>
      rw [hb] at hspotless hconfig
      exact ⟨hconfig.trans h.config_eq, hspotless⟩
    · next b hb =>
      rw [hb] at hspotless hconfig
      exact ⟨hconfig.trans h.config_eq, hspotless⟩
  | complete p duration failed =>
    obtain hb | hb := h.breaker_complete ha
    · exact ⟨hb ▸ h.config_eq, hb ▸ h.spotless⟩
    · refine ⟨?_, ?_⟩
      · rw [hb, Breaker.config_judge]
        exact h.config_eq
      · rw [hb]
        exact (l.breaker.tally _).spotless_judge h.spotless l.now
  | release p =>
    refine ⟨(l.breaker.config_release p).trans h.config_eq, ?_⟩
    change (l.breaker.release p).window.Spotless
    unfold Breaker.release
    split <;> exact h.spotless
  | reset => exact ⟨h.config_eq, l.breaker.spotless_enter h.spotless .closed l.now⟩
  | trip => exact ⟨h.config_eq, l.breaker.spotless_enter h.spotless .opened l.now⟩
  | reconfigure config => exact ha.elim
  | wait duration => exact ⟨h.config_eq, h.spotless⟩

/-- A run that goes well leaves the breaker unblemished. -/
theorem Unblemished.run (h : l.Unblemished c) {actions : List BreakerAction}
    (ha : ∀ a ∈ actions, c.GoesWell a) : (l.run actions).Unblemished c := by
  induction actions generalizing l with
  | nil => exact h
  | cons a rest ih =>
    obtain ⟨hfirst, hrest⟩ := List.forall_mem_cons.mp ha
    exact ih (h.apply hfirst) hrest

/-- An unblemished breaker that is closed stays so, unless it is opened by hand. -/
theorem Unblemished.state_apply (h : l.Unblemished c) (hc : c.NeedsCause) (ha : c.GoesWell a)
    (hs : l.breaker.state = .closed) (hnot : a ≠ .trip) : (l.apply a).breaker.state = .closed := by
  cases a with
  | request =>
    simp only [Ledger.apply, Breaker.request_of_closed hs]
    exact hs
  | complete p duration failed =>
    obtain hb | hb := h.breaker_complete ha
    · rw [hb]
      exact hs
    · rw [hb]
      exact (l.breaker.tally _).state_judge_of_closed h.spotless (h.config_eq ▸ hc) hs l.now
  | release p =>
    change (l.breaker.release p).state = .closed
    unfold Breaker.release
    split <;> exact hs
  | reset => rfl
  | trip => exact absurd rfl hnot
  | reconfigure config => exact ha.elim
  | wait duration => exact hs

end Ledger

end GuardedDispatch
