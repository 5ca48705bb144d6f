import GuardedDispatch.Proofs.Breaker.Healthy
import GuardedDispatch.Proofs.Config.Endpoints

/-!
# Limits of checked configurations

The check of policy sections lets through exactly those whose numbers are within their limits,
also where a section is switched off. It is made of the defaults and of the sections of every
connector that is mentioned, so the sections of every kind of connector have passed it, whether or
not the kind is mentioned. A breaker that is built from them works with the numbers as they are
written, and opens only for a cause.
-/

namespace GuardedDispatch

open Number

/-! ### Faults of members and sections -/

namespace Member

variable {σ τ : Type} {name : String} {x : σ}

/-- A member is at fault unless its value is valid. -/
theorem faultUnless_eq_nil_iff {valid : Bool} : faultUnless name valid = [] ↔ valid = true := by
  cases valid <;> simp [faultUnless]

/-- A count is free of faults if it is no less than the least value and no greater than the greatest
one. -/
theorem faults_count_eq_nil_iff {width : Width} {get : σ → Nat} {set : σ → Nat → σ} {least : Nat}
    {greatest? : Option Nat} :
    (count name width get set least greatest?).faults x = [] ↔
      least ≤ get x ∧ ∀ n, greatest? = some n → get x ≤ n := by
  refine faultUnless_eq_nil_iff.trans ?_
  rw [Bool.and_eq_true, decide_eq_true_iff]
  cases greatest? <;> simp

/-- A factor is free of faults if it is not below one. -/
theorem faults_factor_eq_nil_iff {get : σ → Double} {set : σ → Double → σ} :
    (factor name get set).faults x = [] ↔ (1 : Double).greater (get x) = false := by
  rw [factor, faultUnless_eq_nil_iff, Bool.not_eq_true']

/-- A description makes no difference to faults. -/
@[simp] theorem faults_described (m : Member σ) (description : String) :
    (m.described description).faults x = m.faults x := rfl

/-- A section within a section is at fault where it is at fault itself. -/
theorem faults_nested_eq_nil_iff [Section τ] {record : String} {get : σ → τ} {set : σ → τ → σ} :
    (nested name record get set).faults x = [] ↔ Section.faults (get x) = [] :=
  List.map_eq_nil_iff

end Member

private theorem Number.Binary.exists_position?_ofNat {f : Format} (n : Nat) :
    ∃ place, (ofNat n : Binary f).position? = some place := by
  rw [ofNat, ofRatio, ofSteps]
  split <;> exact ⟨_, rfl⟩

/-- A percentage of something: above zero and at most a hundred. -/
def IsShare (x : Single) : Prop := x.greater 0 = true ∧ (100 : Single).atLeast x = true

/-- A percentage is free of faults if it is a share. -/
theorem Member.faults_percentage_eq_nil_iff {σ : Type} {name : String} {get : σ → Single}
    {set : σ → Single → σ} {x : σ} :
    (percentage name get set).faults x = [] ↔ IsShare (get x) := by
  refine faultUnless_eq_nil_iff.trans ?_
  rw [Bool.and_eq_true, Bool.not_eq_true', IsShare]
  refine and_congr_right fun hpos ↦ ?_
  obtain ⟨hundred, hhundred⟩ : ∃ place, (100 : Single).position? = some place :=
    Binary.exists_position?_ofNat 100
  rw [Binary.greater, Binary.atLeast, hhundred]
  cases hx : (get x).position? with
  | none =>
    rw [Binary.greater, hx] at hpos
    cases hpos
  | some n => exact decide_eq_false_iff_not.trans (Int.not_lt.trans decide_eq_true_iff.symm)

/-- A section is free of faults if all its members are. -/
theorem Section.faults_eq_nil_iff {σ : Type} [Section σ] {x : σ} :
    Section.faults x = [] ↔ ∀ m ∈ Section.members (σ := σ), m.faults x = [] :=
  List.flatMap_eq_nil_iff

/-! ### Policy sections -/

namespace PolicySettings

variable {p : PolicySettings}

/-- Sections whose numbers are each within their limits. -/
structure WithinLimits (p : PolicySettings) : Prop where
  failureRate_share : IsShare p.breaker.config.failureRateThreshold
  slowCallRate_share : IsShare p.breaker.config.slowCallRateThreshold
  window_pos : 1 ≤ p.breaker.config.slidingWindowSize
  minimum_pos : 1 ≤ p.breaker.config.minimumNumberOfCalls
  probes_pos : 1 ≤ p.breaker.config.callsInHalfOpenState
  attempts_pos : 1 ≤ p.retry.config.maxAttempts
  attempts_le : p.retry.config.maxAttempts ≤ 100
  multiplier_not_below_one : (1 : Double).greater p.retry.config.backoff.multiplier = false
  slots_pos : 1 ≤ p.bulkhead.config.maxConcurrent
  permits_pos : 1 ≤ p.rateLimiter.config.limit
  period_pos : 1 ≤ p.rateLimiter.config.period
  deadline_pos : 1 ≤ p.timeLimiter.config.timeout

/-- The sections are free of faults exactly if their numbers are within their limits. -/
theorem faults_eq_nil_iff : Section.faults p = [] ↔ p.WithinLimits := by
  rw [Section.faults_eq_nil_iff]
  simp only [Section.members, List.forall_mem_cons, Member.faults_nested_eq_nil_iff,
    Section.faults_eq_nil_iff, Member.faults_described, Member.faults_percentage_eq_nil_iff,
    Member.faults_count_eq_nil_iff, Member.faults_factor_eq_nil_iff]
  simp only [Member.flag, Member.optionalCount, reduceCtorEq, false_implies, implies_true,
    Option.some.injEq, forall_eq', maxAttemptsAllowed, List.not_mem_nil, and_true, true_and,
    Nat.zero_le]
  constructor
  · rintro ⟨⟨hfailure, hslow, hwindow, hminimum, hprobes⟩, ⟨⟨hpos, hle⟩, hmultiplier⟩, hslots,
      ⟨hpermits, hperiod⟩, hdeadline⟩
    exact ⟨hfailure, hslow, hwindow, hminimum, hprobes, hpos, hle, hmultiplier, hslots, hpermits,
      hperiod, hdeadline⟩
  · intro h
    exact ⟨⟨h.failureRate_share, h.slowCallRate_share, h.window_pos, h.minimum_pos, h.probes_pos⟩,
      ⟨⟨h.attempts_pos, h.attempts_le⟩, h.multiplier_not_below_one⟩, h.slots_pos,
      ⟨h.permits_pos, h.period_pos⟩, h.deadline_pos⟩

/-- Sections are accepted exactly if their numbers are within their limits and the breaker's window
takes the calls that it must hold to be judged. -/
theorem check_eq_ok_iff :
    p.check = .ok () ↔ p.WithinLimits ∧
      p.breaker.config.minimumNumberOfCalls ≤ p.breaker.config.slidingWindowSize := by
  rw [← faults_eq_nil_iff, check]
  cases Section.faults p with
  | nil =>
    dsimp only
    split
    · next hshort =>
      exact ⟨nofun, fun h ↦ absurd h.2 (Nat.not_le.mpr hshort)⟩
    · next hfits => exact ⟨fun _ ↦ ⟨rfl, Nat.not_lt.mp hfits⟩, fun _ ↦ rfl⟩
  | cons path rest => exact ⟨nofun, fun h ↦ nomatch h.1⟩

private theorem WithinLimits.effective (h : p.WithinLimits)
    (hfits : p.breaker.config.minimumNumberOfCalls ≤ p.breaker.config.slidingWindowSize) :
    p.breaker.config.windowSize = p.breaker.config.slidingWindowSize ∧
      p.breaker.config.minimumCalls = p.breaker.config.minimumNumberOfCalls ∧
      p.breaker.config.halfOpenCalls = p.breaker.config.callsInHalfOpenState := by
  have hwindow : p.breaker.config.windowSize = p.breaker.config.slidingWindowSize :=
    Nat.max_eq_right h.window_pos
  refine ⟨hwindow, ?_, Nat.max_eq_right h.probes_pos⟩
  rw [BreakerConfig.minimumCalls, hwindow, Nat.max_eq_right h.minimum_pos, Nat.min_eq_left hfits]

private theorem WithinLimits.needsCause (h : p.WithinLimits) : p.breaker.config.NeedsCause :=
  ⟨h.failureRate_share.1, h.slowCallRate_share.1⟩

end PolicySettings

/-- A section that is in effect is switched on. -/
theorem whenEnabled_eq_some_iff {α : Type} {enabled : Bool} {config config' : α} :
    whenEnabled enabled config = some config' ↔ enabled = true ∧ config = config' := by
  cases enabled <;> simp [whenEnabled]

namespace Configuration

private theorem check_resolved {c : Configuration} (h : c.check = .ok ()) (t : ConnectorType) :
    (c.resolved t).check = .ok () := by
  obtain ⟨hdefaults, hconnectors, -⟩ := check_eq_ok_iff.mp h
  cases hs : c.connectors t with
  | none =>
    rw [resolved, hs]
    exact hdefaults
  | some s => exact (hconnectors t s hs).2

/-- The policies of an accepted configuration work as they are written. Whatever the kind of
connector, mentioned or not, its sections are within their limits, switched on or off, and its
breaker's window takes the calls that are needed to judge it. So a breaker that is built from them
has the window, the least number of calls and the number of probes that are written; and as long as
its settings stay and every completed call succeeded within the time that counts as slow, nothing
but opening it by hand makes it leave the closed state. -/
theorem accepted_policies_work_as_written (c : Configuration) (h : c.check = .ok ())
    (t : ConnectorType) :
    ((c.resolved t).WithinLimits ∧ (c.resolved t).breaker.config.minimumNumberOfCalls ≤
      (c.resolved t).breaker.config.slidingWindowSize) ∧
    ∀ config, (c.policyFor t).breaker? = some config →
      config = (c.resolved t).breaker.config ∧
      (config.windowSize = config.slidingWindowSize ∧
        config.minimumCalls = config.minimumNumberOfCalls ∧
        config.halfOpenCalls = config.callsInHalfOpenState) ∧
      ∀ (name : String) (start : Nat) (actions : List BreakerAction) (a : BreakerAction),
        (∀ b ∈ actions ++ [a], config.GoesWell b) →
        ((Ledger.new name config start).run actions).breaker.state = .closed → a ≠ .trip →
        (((Ledger.new name config start).run actions).apply a).breaker.state = .closed := by
  obtain ⟨hlimits, hfits⟩ := PolicySettings.check_eq_ok_iff.mp (check_resolved h t)
  refine ⟨⟨hlimits, hfits⟩, fun config hconfig ↦ ?_⟩
  obtain ⟨-, rfl⟩ := whenEnabled_eq_some_iff.mp hconfig
  refine ⟨rfl, hlimits.effective hfits, fun name start actions a hwell hclosed hnot ↦ ?_⟩
  obtain ⟨hbefore, hlast⟩ := List.forall_mem_append.mp hwell
  exact ((Ledger.unblemished_new name _ start).run hbefore).state_apply hlimits.needsCause
    (hlast a List.mem_cons_self) hclosed hnot

/-- Breaker settings that judge from the first call on, by the last two, and that a single probe
closes again at once. -/
def strictBreaker : BreakerConfig :=
  { failureRateThreshold := 1, slowCallDuration := 20, slidingWindowSize := 2
    minimumNumberOfCalls := 1, waitInOpenState := 0, callsInHalfOpenState := 1 }

/-- A configuration with these settings for one kind of connector. -/
def strict : Configuration :=
  ({} : Configuration).putConnector .queue
    { policies? := some { breaker? := some { config := strictBreaker } } }

/-- A breaker that is opened by hand and closed again by its probe, and then asked once more. -/
def triedOut : List BreakerAction :=
  [.trip, .request, .complete ⟨2, .halfOpen⟩ 20 false, .request]

/-- Tried out, the breaker stays closed after one more call that goes well. -/
theorem strict_breaker_stays_closed :
    strict.check = .ok () ∧ (strict.policyFor .queue).breaker? = some strictBreaker ∧
      strictBreaker.windowSize = 2 ∧ strictBreaker.minimumCalls = 1 ∧
      ((Ledger.new "queue-circuit-breaker" strictBreaker 0).run triedOut).breaker.state = .closed ∧
      (((Ledger.new "queue-circuit-breaker" strictBreaker 0).run triedOut).apply
        (.complete ⟨3, .closed⟩ 20 false)).breaker.state = .closed := by
  have hcheck : strict.check = .ok () := eq_ok_of_isOk (by decide +kernel)
  have hbreaker : (strict.policyFor .queue).breaker? = some strictBreaker := rfl
  have hwell : ∀ b ∈ triedOut ++ [.complete ⟨3, .closed⟩ 20 false], strictBreaker.GoesWell b := by
    decide
  have hclosed :
      ((Ledger.new "queue-circuit-breaker" strictBreaker 0).run triedOut).breaker.state =
        .closed := by
    decide +kernel
  obtain ⟨-, hworks⟩ := accepted_policies_work_as_written strict hcheck .queue
  obtain ⟨-, ⟨hwindow, hminimum, -⟩, hstays⟩ := hworks strictBreaker hbreaker
  exact ⟨hcheck, hbreaker, hwindow, hminimum, hclosed,
    hstays "queue-circuit-breaker" 0 triedOut _ hwell hclosed (by decide)⟩

end Configuration

end GuardedDispatch
