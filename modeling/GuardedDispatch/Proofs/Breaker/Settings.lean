import GuardedDispatch.Proofs.Breaker.Operations

/-!
# The settings that outcomes are judged under

A breaker judges every outcome under the settings in effect when the outcome is reported. Its
windows are kept as large as those settings say. Settings that differ in nothing that judging reads
leave a breaker in the same state, whichever of them are in effect.
-/

namespace GuardedDispatch

open Number

private theorem Number.Binary.atLeast_of_sameNumber {f : Format} {x y : Binary f}
    (h : x.sameNumber y = true) (r : Binary f) : r.atLeast x = r.atLeast y := by
  unfold sameNumber at h
  split at h
  · next a b ha hb =>
    simp only [atLeast, ha, hb, eq_of_beq h]
  · exact absurd h Bool.false_ne_true

namespace BreakerConfig

/-- Settings that judge every outcome alike: they have the same slow-call threshold, window size,
minimum of calls and number of probes, and reach the same verdict on every window. -/
structure JudgesLike (a b : BreakerConfig) : Prop where
  slowCallDuration_eq : a.slowCallDuration = b.slowCallDuration
  windowSize_eq : a.windowSize = b.windowSize
  minimumCalls_eq : a.minimumCalls = b.minimumCalls
  halfOpenCalls_eq : a.halfOpenCalls = b.halfOpenCalls
  exceededBy_eq : ∀ w, a.exceededBy w = b.exceededBy w

namespace JudgesLike

variable {a b c : BreakerConfig}

/-- Settings judge like themselves. -/
theorem refl (a : BreakerConfig) : a.JudgesLike a := ⟨rfl, rfl, rfl, rfl, fun _ ↦ rfl⟩

/-- Judging alike goes both ways. -/
theorem symm (h : a.JudgesLike b) : b.JudgesLike a :=
  ⟨h.1.symm, h.2.symm, h.3.symm, h.4.symm, fun w ↦ (h.5 w).symm⟩

/-- Judging alike is passed on. -/
theorem trans (h : a.JudgesLike b) (h' : b.JudgesLike c) : a.JudgesLike c :=
  ⟨h.1.trans h'.1, h.2.trans h'.2, h.3.trans h'.3, h.4.trans h'.4,
    fun w ↦ (h.5 w).trans (h'.5 w)⟩

private theorem of_agrees (h : a.agrees b = true) : a.JudgesLike b := by
  simp only [agrees, Bool.and_eq_true, beq_iff_eq] at h
  obtain ⟨⟨⟨⟨⟨⟨hf, hs⟩, hd⟩, hw⟩, hm⟩, _⟩, hp⟩ := h
  have hsize : a.windowSize = b.windowSize := by rw [windowSize, windowSize, hw]
  exact
    { slowCallDuration_eq := hd
      windowSize_eq := hsize
      minimumCalls_eq := by rw [minimumCalls, minimumCalls, hm, hsize]
      halfOpenCalls_eq := by rw [halfOpenCalls, halfOpenCalls, hp]
      exceededBy_eq := fun w ↦ by
        rw [exceededBy, exceededBy, Binary.atLeast_of_sameNumber hf, Binary.atLeast_of_sameNumber hs] }

end JudgesLike

end BreakerConfig

namespace Breaker

variable {b : Breaker}

/-- What reconfiguring puts into effect judges like the settings asked for. -/
theorem config_reconfigure (b : Breaker) (c : BreakerConfig) :
    (b.reconfigure c).config.JudgesLike c := by
  by_cases h : b.config.agrees c = true
  · rw [reconfigure, if_pos h]
    exact .of_agrees h
  · rw [reconfigure, if_neg h]
    exact .refl c

/-- Putting settings into effect puts them or numerically equal ones into effect. -/
theorem config_reconfigure_eq_or_agrees (b : Breaker) (c : BreakerConfig) :
    (b.reconfigure c).config = c ∨ (b.reconfigure c).config.agrees c = true := by
  by_cases h : b.config.agrees c = true
  · rw [Breaker.reconfigure, if_pos h]
    exact .inr h
  · rw [Breaker.reconfigure, if_neg h]
    exact .inl rfl

/-- Putting settings into effect leaves the generation and the state. -/
theorem generation_reconfigure (b : Breaker) (c : BreakerConfig) :
    (b.reconfigure c).generation = b.generation ∧ (b.reconfigure c).state = b.state := by
  unfold reconfigure
  split <;> exact ⟨rfl, rfl⟩

/-- The breaker with other settings and all else as it is. -/
def under (b : Breaker) (c : BreakerConfig) : Breaker := { b with config := c }

private theorem enter_under {c : BreakerConfig} (h : b.config.JudgesLike c)
    (target : CircuitState) (now : Nat) :
    (b.under c).enter target now = (b.enter target now).under c := by
  simp only [enter, under, h.windowSize_eq, h.halfOpenCalls_eq]

private theorem judge_under {c : BreakerConfig} (h : b.config.JudgesLike c) (o : Outcome)
    (now : Nat) : (b.under c).judge o now = (b.judge o now).under c := by
  have hwindow : (b.withOutcome o).config.JudgesLike c := h
  have hprobes : (b.withProbe o).config.JudgesLike c := h
  have hj := b.judged_judge o now
  generalize b.judge o now = b' at hj ⊢
  cases hj with
  | recorded hs ht =>
    rw [h.minimumCalls_eq, h.exceededBy_eq] at ht
    exact judge_of_closed_stays (b := b.under c) hs ht
  | tripped hs ht =>
    rw [← enter_under hwindow]
    rw [h.minimumCalls_eq, h.exceededBy_eq] at ht
    exact judge_of_closed_trips (b := b.under c) hs ht
  | probed hs hl =>
    rw [h.halfOpenCalls_eq] at hl
    exact judge_of_halfOpen_stays (b := b.under c) hs hl
  | decided hs hl =>
    rw [← enter_under hprobes, h.exceededBy_eq]
    rw [h.halfOpenCalls_eq] at hl
    exact judge_of_halfOpen_decides (b := b.under c) hs hl
  | ignored hs => exact judge_of_opened (b := b.under c) hs o

/-- Under settings that judge alike a call's completion has the same effect. -/
theorem complete_under {c : BreakerConfig} (h : b.config.JudgesLike c) (p : CallPermit)
    (duration : Nat) (failed : Bool) (now : Nat) :
    (b.under c).complete p duration failed now = (b.complete p duration failed now).under c := by
  have ho : c.outcome duration failed = b.config.outcome duration failed := by
    rw [BreakerConfig.outcome, BreakerConfig.outcome, h.slowCallDuration_eq]
  by_cases hg : p.generation = b.generation
  · rw [complete_of_current hg, complete_of_current (b := b.under c) hg]
    change ((b.tally (c.outcome duration failed)).under c).judge (c.outcome duration failed) now = _
    rw [ho]
    exact judge_under (b := b.tally (b.config.outcome duration failed)) h _ now
  · rw [complete_of_stale hg, complete_of_stale (b := b.under c) hg]
    change (b.tally (c.outcome duration failed)).under c = _
    rw [ho]

/-! ### Windows that fit the settings -/

/-- Both windows are tallied and as large as the settings say. -/
structure Fits (b : Breaker) : Prop where
  window_tallied : b.window.Tallied
  probes_tallied : b.probes.Tallied
  window_capacity : b.window.capacity = b.config.windowSize
  probes_capacity : b.probes.capacity = b.config.halfOpenCalls

/-- A new breaker's windows fit. -/
theorem fits_new (name : String) (config : BreakerConfig) (now : Nat) :
    (new name config now).Fits where
  window_tallied := Window.tallied_empty _
  probes_tallied := Window.tallied_empty _
  window_capacity := rfl
  probes_capacity := rfl

/-- A window that fits always has room to record. -/
theorem Fits.window_pos (h : b.Fits) : 0 < b.window.capacity := by
  rw [h.window_capacity]
  exact b.config.windowSize_pos

/-- Probes that fit always have room to record. -/
theorem Fits.probes_pos (h : b.Fits) : 0 < b.probes.capacity := by
  rw [h.probes_capacity]
  exact b.config.halfOpenCalls_pos

/-- The windows fit after a change of state. -/
theorem Fits.enter (h : b.Fits) (target : CircuitState) (now : Nat) :
    (b.enter target now).Fits where
  window_tallied := by
    simp only [Breaker.enter]
    split
    · exact Window.tallied_empty _
    · exact h.window_tallied
  probes_tallied := Window.tallied_empty _
  window_capacity := by
    simp only [Breaker.enter]
    split
    · rfl
    · exact h.window_capacity
  probes_capacity := rfl

/-- The windows fit with one more outcome. -/
theorem Fits.withOutcome (h : b.Fits) (o : Outcome) : (b.withOutcome o).Fits :=
  { h with
    window_tallied := h.window_tallied.record h.window_pos o
    window_capacity := (Window.capacity_record _ _).trans h.window_capacity }

/-- The windows fit with one more probe. -/
theorem Fits.withProbe (h : b.Fits) (o : Outcome) : (b.withProbe o).Fits :=
  { h with
    probes_tallied := h.probes_tallied.record h.probes_pos o
    probes_capacity := (Window.capacity_record _ _).trans h.probes_capacity }

private theorem Fits.judge (h : b.Fits) (o : Outcome) (now : Nat) : (b.judge o now).Fits := by
  have hj := b.judged_judge o now
  generalize b.judge o now = b' at hj ⊢
  cases hj with
  | recorded hs ht => exact h.withOutcome o
  | tripped hs ht => exact (h.withOutcome o).enter _ _
  | probed hs hl => exact h.withProbe o
  | decided hs hl => exact (h.withProbe o).enter _ _
  | ignored hs => exact h

/-- The windows fit after a call's completion. -/
theorem Fits.complete (h : b.Fits) (p : CallPermit) (duration : Nat) (failed : Bool) (now : Nat) :
    (b.complete p duration failed now).Fits := by
  have ht : (b.tally (b.config.outcome duration failed)).Fits := { h with }
  by_cases hg : p.generation = b.generation
  · rw [complete_of_current hg]
    exact ht.judge _ now
  · rw [complete_of_stale hg]
    exact ht

/-- Reconfiguring makes the windows fit the new settings. -/
theorem Fits.reconfigure (h : b.Fits) (c : BreakerConfig) : (b.reconfigure c).Fits := by
  unfold Breaker.reconfigure
  split
  · exact h
  · exact
      { window_tallied := Window.tallied_resized _ c.windowSize_pos
        probes_tallied := Window.tallied_resized _ c.halfOpenCalls_pos
        window_capacity := Window.capacity_resized _ c.windowSize_pos
        probes_capacity := Window.capacity_resized _ c.halfOpenCalls_pos }

/-- Putting settings into effect cuts the window down to the size that they ask for. -/
theorem Fits.outcomes_reconfigure (h : b.Fits) (c : BreakerConfig) :
    (b.reconfigure c).window.outcomes = b.window.outcomes.rtake c.windowSize := by
  by_cases hagrees : b.config.agrees c = true
  · rw [Breaker.reconfigure, if_pos hagrees, rtake_of_length_le]
    rw [← (BreakerConfig.JudgesLike.of_agrees hagrees).windowSize_eq, ← h.window_capacity]
    exact h.window_tallied.size_le
  · rw [Breaker.reconfigure, if_neg hagrees]
    exact Window.outcomes_resized _ c.windowSize_pos

/-! ### Changes that record nothing -/

/-- The number of outcomes a breaker counted in its life. -/
def recorded (b : Breaker) : Nat := b.successful + b.failed

/-- Counting an outcome counts one. -/
@[simp] theorem recorded_tally (b : Breaker) (o : Outcome) :
    (b.tally o).recorded = b.recorded + 1 := by
  cases ho : o.failed
  · simp only [recorded, tally, ho, Bool.not_false, Bool.toNat_true, Bool.toNat_false]
    omega
  · simp only [recorded, tally, ho, Bool.not_true, Bool.toNat_true, Bool.toNat_false]
    omega

/-- Judging an outcome counts nothing. -/
@[simp] theorem recorded_judge (b : Breaker) (o : Outcome) (now : Nat) :
    (b.judge o now).recorded = b.recorded := by
  have hj := b.judged_judge o now
  generalize b.judge o now = b' at hj ⊢
  cases hj <;> rfl

/-- A completed call is counted once. -/
@[simp] theorem recorded_complete (b : Breaker) (p : CallPermit) (duration : Nat) (failed : Bool)
    (now : Nat) : (b.complete p duration failed now).recorded = b.recorded + 1 := by
  by_cases hg : p.generation = b.generation
  · rw [complete_of_current hg, recorded_judge, recorded_tally]
  · rw [complete_of_stale hg, recorded_tally]

/-- A change of a breaker that leaves its generation, its state and its window as they are. -/
structure SameWindow (b b' : Breaker) : Prop where
  generation_eq : b'.generation = b.generation
  state_eq : b'.state = b.state
  window_eq : b'.window = b.window

/-- A change of a breaker to a later generation, which begins without outcomes if it is closed. -/
structure Anew (b b' : Breaker) : Prop where
  generation_lt : b.generation < b'.generation
  outcomes_eq : b'.state = .closed → b'.window.outcomes = []

/-- Entering a state begins a later generation. -/
theorem anew_enter (b : Breaker) (target : CircuitState) (now : Nat) :
    b.Anew (b.enter target now) := by
  refine ⟨Nat.lt_succ_self _, fun hs ↦ ?_⟩
  have ht : target = .closed := hs
  simp only [enter, if_pos ht]

/-- A change of a breaker that records no outcome and keeps the settings. -/
structure Quiet (b b' : Breaker) : Prop where
  config_eq : b'.config = b.config
  recorded_eq : b'.recorded = b.recorded
  fits : b.Fits → b'.Fits
  sameWindow_or_anew : b.SameWindow b' ∨ b.Anew b'

/-- Leaving a breaker as it is counts as quiet. -/
theorem Quiet.refl (b : Breaker) : b.Quiet b := ⟨rfl, rfl, id, .inl ⟨rfl, rfl, rfl⟩⟩

/-- Entering a state is quiet. -/
theorem quiet_enter (b : Breaker) (target : CircuitState) (now : Nat) :
    b.Quiet (b.enter target now) :=
  ⟨rfl, rfl, fun h ↦ h.enter target now, .inr (b.anew_enter target now)⟩

/-- Asking for permission is quiet. -/
theorem quiet_request (b : Breaker) (now : Nat) : b.Quiet (b.request now).1 := by
  have hr := b.requested_request now
  generalize b.request now = answer at hr ⊢
  cases hr with
  | granted hs => exact .refl b
  | began hs hd =>
    exact ⟨rfl, rfl, fun h ↦ { h.enter .halfOpen now with },
      .inr { b.anew_enter .halfOpen now with }⟩
  | waiting hs hd => exact ⟨rfl, rfl, fun h ↦ { h with }, .inl ⟨rfl, rfl, rfl⟩⟩
  | probed hs hl => exact ⟨rfl, rfl, fun h ↦ { h with }, .inl ⟨rfl, rfl, rfl⟩⟩
  | spent hs hl => exact ⟨rfl, rfl, fun h ↦ { h with }, .inl ⟨rfl, rfl, rfl⟩⟩

/-- Giving a permit back is quiet. -/
theorem quiet_release (b : Breaker) (p : CallPermit) : b.Quiet (b.release p) := by
  unfold release
  split
  · exact ⟨rfl, rfl, fun h ↦ { h with }, .inl ⟨rfl, rfl, rfl⟩⟩
  · exact .refl b

/-- Putting other settings into effect records nothing. -/
theorem recorded_reconfigure (b : Breaker) (c : BreakerConfig) :
    (b.reconfigure c).recorded = b.recorded := by
  unfold reconfigure
  split <;> rfl

end Breaker

end GuardedDispatch
