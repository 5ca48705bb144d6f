import GuardedDispatch.Proofs.Breaker.Window

/-!
# What each operation of a breaker does

One equation for each case of each operation: a request that finds the breaker closed, waiting,
due, probing or spent, and a completion that is stale, is recorded, or decides a state. The cases
of a request and of a judgement are also gathered in a relation each. Everything that is said about
runs of a breaker is derived from these.

The verdict on a window is restated over a list of outcomes, so that it can be asked of a history.
-/

namespace GuardedDispatch

namespace BreakerConfig

/-- The outcome that a completed call counts as. -/
def outcome (c : BreakerConfig) (duration : Nat) (failed : Bool) : Outcome :=
  ⟨failed, decide (c.slowCallDuration < duration)⟩

/-- Whether the failure rate or the slow rate over some outcomes reaches its threshold. -/
def exceededOver (c : BreakerConfig) (os : List Outcome) : Bool :=
  (ratePercent (os.countP (·.failed)) os.length).atLeast c.failureRateThreshold ||
    (ratePercent (os.countP (·.slow)) os.length).atLeast c.slowCallRateThreshold

/-- Whether a history's latest outcomes, as many as the window takes, are enough to be judged and
exceed a threshold. -/
def Trips (c : BreakerConfig) (history : List Outcome) : Prop :=
  c.minimumCalls ≤ (history.rtake c.windowSize).length ∧
    c.exceededOver (history.rtake c.windowSize) = true

instance (c : BreakerConfig) (history : List Outcome) : Decidable (c.Trips history) :=
  inferInstanceAs (Decidable (_ ∧ _))

/-- A window always has room for an outcome. -/
theorem windowSize_pos (c : BreakerConfig) : 0 < c.windowSize := Nat.le_max_left _ _

private theorem minimumCalls_pos (c : BreakerConfig) : 0 < c.minimumCalls :=
  Nat.le_min.mpr ⟨Nat.le_max_left _ _, c.windowSize_pos⟩

/-- A half-open round has a probe. -/
theorem halfOpenCalls_pos (c : BreakerConfig) : 0 < c.halfOpenCalls := Nat.le_max_left _ _

/-- The verdict on a tallied window is the verdict on what it holds. -/
theorem exceededBy_eq_exceededOver (c : BreakerConfig) {w : Window} (h : w.Tallied) :
    c.exceededBy w = c.exceededOver w.outcomes := by
  rw [exceededBy, exceededOver, Window.failureRate, Window.slowRate, h.failed_eq, h.slow_eq]
  rfl

/-- No history trips a breaker before it has begun. -/
theorem not_trips_nil (c : BreakerConfig) : ¬ c.Trips [] := by
  intro h
  have hmin := h.1
  rw [List.rtake_nil, List.length_nil] at hmin
  have hpos := c.minimumCalls_pos
  omega

end BreakerConfig

namespace Breaker

variable {b : Breaker} {now : Nat} {p : CallPermit} {duration : Nat} {failed : Bool}

/-! ### Requests -/

/-- A breaker whose wait is over: the next request begins a half-open round. -/
def Due (b : Breaker) (now : Nat) : Prop := b.config.waitInOpenState ≤ now - b.enteredAt

/-- A closed breaker grants every request and stays as it is. -/
theorem request_of_closed (h : b.state = .closed) : b.request now = (b, some b.permit) := by
  simp [request, wake, h]

/-- An open breaker refuses requests while it waits. -/
theorem request_of_waiting (h : b.state = .opened) (hw : ¬ b.Due now) :
    b.request now = ({ b with notPermitted := b.notPermitted + 1 }, none) := by
  have hwake : b.wake now = b := by
    rw [wake, if_neg]
    exact fun hb ↦ hw hb.2
  simp [request, hwake, h]

/-- An open breaker whose wait is over issues the first probe of a new round. -/
theorem request_of_due (h : b.state = .opened) (hw : b.Due now) :
    b.request now =
      ({ b.enter .halfOpen now with probesIssued := 1 }, some ⟨b.generation + 1, .halfOpen⟩) := by
  have hwake : b.wake now = b.enter .halfOpen now := by
    rw [wake, if_pos ⟨h, hw⟩]
  simp [request, hwake, enter, permit, b.config.halfOpenCalls_pos]

/-- A half-open breaker with probes left issues one. -/
theorem request_of_probing (h : b.state = .halfOpen)
    (hl : b.probesIssued < b.config.halfOpenCalls) :
    b.request now = ({ b with probesIssued := b.probesIssued + 1 }, some b.permit) := by
  simp [request, wake, h, hl, permit]

/-- A half-open breaker that has issued all its probes refuses requests. -/
theorem request_of_spent (h : b.state = .halfOpen)
    (hl : ¬ b.probesIssued < b.config.halfOpenCalls) :
    b.request now = ({ b with notPermitted := b.notPermitted + 1 }, none) := by
  simp [request, wake, h, hl]

/-- What a request can make of a breaker, and the permit it is granted. -/
inductive Requested (b : Breaker) (now : Nat) : Breaker × Option CallPermit → Prop
  | granted (hs : b.state = .closed) : Requested b now (b, some b.permit)
  | began (hs : b.state = .opened) (hd : b.Due now) :
      Requested b now
        ({ b.enter .halfOpen now with probesIssued := 1 }, some ⟨b.generation + 1, .halfOpen⟩)
  | waiting (hs : b.state = .opened) (hd : ¬ b.Due now) :
      Requested b now ({ b with notPermitted := b.notPermitted + 1 }, none)
  | probed (hs : b.state = .halfOpen) (hl : b.probesIssued < b.config.halfOpenCalls) :
      Requested b now ({ b with probesIssued := b.probesIssued + 1 }, some b.permit)
  | spent (hs : b.state = .halfOpen) (hl : ¬ b.probesIssued < b.config.halfOpenCalls) :
      Requested b now ({ b with notPermitted := b.notPermitted + 1 }, none)

/-- A request does one of the five. -/
theorem requested_request (b : Breaker) (now : Nat) : b.Requested now (b.request now) := by
  cases hs : b.state with
  | closed =>
    rw [request_of_closed hs]
    exact .granted hs
  | opened =>
    by_cases hd : b.Due now
    · rw [request_of_due hs hd]
      exact .began hs hd
    · rw [request_of_waiting hs hd]
      exact .waiting hs hd
  | halfOpen =>
    by_cases hl : b.probesIssued < b.config.halfOpenCalls
    · rw [request_of_probing hs hl]
      exact .probed hs hl
    · rw [request_of_spent hs hl]
      exact .spent hs hl

/-! ### Completions -/

/-- Counting an outcome changes the lifetime counters only. -/
@[simp] theorem config_tally (b : Breaker) (o : Outcome) : (b.tally o).config = b.config := rfl

/-- An outcome of another generation is only counted. -/
theorem complete_of_stale (h : p.generation ≠ b.generation) :
    b.complete p duration failed now = b.tally (b.config.outcome duration failed) := by
  simp [complete, tally, BreakerConfig.outcome, h]

/-- An outcome of the current generation is counted and judged. -/
theorem complete_of_current (h : p.generation = b.generation) :
    b.complete p duration failed now =
      (b.tally (b.config.outcome duration failed)).judge (b.config.outcome duration failed)
        now := by
  simp [complete, tally, BreakerConfig.outcome, h]

/-- The breaker with one more outcome in its window. -/
def withOutcome (b : Breaker) (o : Outcome) : Breaker := { b with window := b.window.record o }

/-- The breaker with one more outcome among its probes. -/
def withProbe (b : Breaker) (o : Outcome) : Breaker := { b with probes := b.probes.record o }

/-- A closed breaker opens if the window then holds enough outcomes and exceeds a threshold. -/
theorem judge_of_closed_trips (h : b.state = .closed) {o : Outcome}
    (ht : b.config.minimumCalls ≤ (b.window.record o).size ∧
      b.config.exceededBy (b.window.record o) = true) :
    b.judge o now = (b.withOutcome o).enter .opened now := by
  simp [judge, h, ht, withOutcome]

/-- Otherwise a closed breaker records the outcome and stays closed. -/
theorem judge_of_closed_stays (h : b.state = .closed) {o : Outcome}
    (ht : ¬ (b.config.minimumCalls ≤ (b.window.record o).size ∧
      b.config.exceededBy (b.window.record o) = true)) :
    b.judge o now = b.withOutcome o := by
  simp only [judge, h, withOutcome, if_neg ht]

/-- The last probe of a round decides between open and closed. -/
theorem judge_of_halfOpen_decides (h : b.state = .halfOpen) {o : Outcome}
    (hl : b.config.halfOpenCalls ≤ (b.probes.record o).size) :
    b.judge o now =
      (b.withProbe o).enter
        (if b.config.exceededBy (b.probes.record o) then .opened else .closed) now := by
  simp only [judge, h, withProbe, if_pos hl]

/-- Any other probe is recorded. -/
theorem judge_of_halfOpen_stays (h : b.state = .halfOpen) {o : Outcome}
    (hl : ¬ b.config.halfOpenCalls ≤ (b.probes.record o).size) :
    b.judge o now = b.withProbe o := by
  simp only [judge, h, withProbe, if_neg hl]

/-- An open breaker records nothing. -/
theorem judge_of_opened (h : b.state = .opened) (o : Outcome) : b.judge o now = b := by
  simp only [judge, h]

/-- What judging an outcome can make of a breaker. -/
inductive Judged (b : Breaker) (o : Outcome) (now : Nat) : Breaker → Prop
  | recorded (hs : b.state = .closed)
      (ht : ¬ (b.config.minimumCalls ≤ (b.window.record o).size ∧
        b.config.exceededBy (b.window.record o) = true)) : Judged b o now (b.withOutcome o)
  | tripped (hs : b.state = .closed)
      (ht : b.config.minimumCalls ≤ (b.window.record o).size ∧
        b.config.exceededBy (b.window.record o) = true) :
      Judged b o now ((b.withOutcome o).enter .opened now)
  | probed (hs : b.state = .halfOpen)
      (hl : ¬ b.config.halfOpenCalls ≤ (b.probes.record o).size) : Judged b o now (b.withProbe o)
  | decided (hs : b.state = .halfOpen)
      (hl : b.config.halfOpenCalls ≤ (b.probes.record o).size) :
      Judged b o now
        ((b.withProbe o).enter
          (if b.config.exceededBy (b.probes.record o) then .opened else .closed) now)
  | ignored (hs : b.state = .opened) : Judged b o now b

/-- Judging an outcome does one of the five. -/
theorem judged_judge (b : Breaker) (o : Outcome) (now : Nat) : b.Judged o now (b.judge o now) := by
  cases hs : b.state with
  | closed =>
    by_cases ht : b.config.minimumCalls ≤ (b.window.record o).size ∧
        b.config.exceededBy (b.window.record o) = true
    · rw [judge_of_closed_trips hs ht]
      exact .tripped hs ht
    · rw [judge_of_closed_stays hs ht]
      exact .recorded hs ht
  | opened =>
    rw [judge_of_opened hs]
    exact .ignored hs
  | halfOpen =>
    by_cases hl : b.config.halfOpenCalls ≤ (b.probes.record o).size
    · rw [judge_of_halfOpen_decides hs hl]
      exact .decided hs hl
    · rw [judge_of_halfOpen_stays hs hl]
      exact .probed hs hl

/-! ### Releases -/

/-- Giving back a probe of the current round lets it be issued again. -/
theorem release_of_current (hs : p.state = .halfOpen) (hg : p.generation = b.generation) :
    b.release p = { b with probesIssued := b.probesIssued - 1 } := by
  rw [release, if_pos ⟨hs, hg⟩]

/-- Giving back any other permit changes nothing. -/
theorem release_of_other (h : ¬ (p.state = .halfOpen ∧ p.generation = b.generation)) :
    b.release p = b := by
  rw [release, if_neg h]

/-! ### Settings -/

/-- Asking for permission keeps the settings. -/
@[simp] theorem config_request (b : Breaker) (now : Nat) :
    (b.request now).1.config = b.config := by
  have hr := b.requested_request now
  generalize b.request now = answer at hr ⊢
  cases hr <;> rfl

/-- Judging an outcome keeps the settings. -/
@[simp] theorem config_judge (b : Breaker) (o : Outcome) (now : Nat) :
    (b.judge o now).config = b.config := by
  have hj := b.judged_judge o now
  generalize b.judge o now = b' at hj ⊢
  cases hj <;> rfl

/-- Completing a call keeps the settings. -/
@[simp] theorem config_complete (b : Breaker) (p : CallPermit) (duration : Nat) (failed : Bool)
    (now : Nat) : (b.complete p duration failed now).config = b.config := by
  by_cases hg : p.generation = b.generation
  · rw [complete_of_current hg, config_judge, config_tally]
  · rw [complete_of_stale hg, config_tally]

/-- Giving back a permit keeps the settings. -/
@[simp] theorem config_release (b : Breaker) (p : CallPermit) :
    (b.release p).config = b.config := by
  unfold release
  split <;> rfl

end Breaker

end GuardedDispatch
