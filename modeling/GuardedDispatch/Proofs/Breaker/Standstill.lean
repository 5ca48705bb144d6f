import GuardedDispatch.Proofs.Breaker.HalfOpen

/-!
# When a half-open round comes to a standstill

A round ends by its last outcome. Once no permit of the round is out, a further outcome needs a
further probe, and whether one is issued hangs on the outcomes reported so far and the number of
probes then in effect: other settings, put into effect during the round, can make that number one
that is already reached. Nothing but a change by hand or yet other settings then ends the round.
-/

namespace GuardedDispatch.Ledger

variable {l : Ledger}

private theorem grants_iff_of_halfOpen (hs : l.breaker.state = .halfOpen) :
    l.Grants ↔ l.breaker.probesIssued < l.breaker.config.halfOpenCalls := by
  by_cases hl : l.breaker.probesIssued < l.breaker.config.halfOpenCalls
  · simp only [Grants, Breaker.request_of_probing hs hl, Option.isSome_some, hl]
  · simp only [Grants, Breaker.request_of_spent hs hl, Option.isSome_none, hl]
    decide

/-- A half-open round of which no permit is out and no probe is left. -/
structure Stalled (generation : Nat) (l : Ledger) : Prop where
  state_eq : l.breaker.state = .halfOpen
  generation_eq : l.breaker.generation = generation
  outstanding_eq : l.outstanding = 0
  spent : ¬ l.breaker.probesIssued < l.breaker.config.halfOpenCalls

private theorem Stalled.stale {g : Nat} (h : l.Stalled g) {p : CallPermit} (hp : p ∈ l.pending) :
    p.generation ≠ l.breaker.generation := by
  intro he
  exact List.countP_eq_zero.mp h.outstanding_eq p hp (decide_eq_true he)

/-- A stalled round stays stalled unless the breaker is set by hand or given other settings. -/
theorem Stalled.apply {g : Nat} (h : l.Stalled g) {a : BreakerAction} (hk : l.LeavesAlone a)
    (ha : l.SettlesOnce a) : (l.apply a).Stalled g := by
  cases a with
  | request =>
    have he : l.apply .request =
        { l with breaker := { l.breaker with notPermitted := l.breaker.notPermitted + 1 } } := by
      simp only [Ledger.apply, Breaker.request_of_spent h.state_eq h.spent]
    rw [he]
    exact { h with }
  | complete p duration failed =>
    have hg := h.stale ha
    rw [apply_complete_of_stale hg]
    exact { h with outstanding_eq := (outstanding_erase_stale hg).trans h.outstanding_eq }
  | release p =>
    have hg := h.stale ha
    rw [Ledger.apply, Breaker.release_of_other fun hb ↦ hg hb.2]
    exact { h with outstanding_eq := (outstanding_erase_stale hg).trans h.outstanding_eq }
  | reset => exact absurd hk id
  | trip => exact absurd hk id
  | reconfigure config => exact absurd hk id
  | wait duration => exact { h with }

/-- A half-open round of which no permit is out grants a request exactly if fewer outcomes were
reported in it than probes are in effect. Otherwise it stands still until the breaker is set by
hand or given other settings. It always grants one if the number of probes was kept during
rounds. -/
theorem halfOpen_grants_iff_outcomes_missing (name : String) (c : BreakerConfig) (start : Nat)
    (actions : List BreakerAction) (hf : (new name c start).Follows SettlesOnce actions)
    (hs : ((new name c start).run actions).breaker.state = .halfOpen)
    (ho : ((new name c start).run actions).outstanding = 0) :
    let l := (new name c start).run actions
    (l.Grants ↔ l.history.length < l.breaker.config.halfOpenCalls) ∧
    (¬ l.Grants → ∀ more, l.Follows (fun m a ↦ m.LeavesAlone a ∧ m.SettlesOnce a) more →
      (l.run more).breaker.state = .halfOpen ∧
        (l.run more).breaker.generation = l.breaker.generation ∧ ¬ (l.run more).Grants) ∧
    ((new name c start).Follows KeepsProbeCount actions → l.Grants) := by
  intro l
  replace hs : l.breaker.state = .halfOpen := hs
  replace ho : l.outstanding = 0 := ho
  obtain ⟨h, ha⟩ : l.Sound ∧ l.Accounted := Follows.accounted name c start hf
  have hissued : l.breaker.probesIssued = l.history.length := by
    rw [ha hs, ho, Nat.add_zero]
  have hgrants : l.Grants ↔ l.history.length < l.breaker.config.halfOpenCalls := by
    rw [grants_iff_of_halfOpen hs, hissued]
  refine ⟨hgrants, ?_, ?_⟩
  · intro hn more hmore
    have hstart : l.Stalled l.breaker.generation :=
      ⟨hs, rfl, ho, mt (grants_iff_of_halfOpen hs).mpr hn⟩
    have hend : (l.run more).Stalled l.breaker.generation :=
      hmore.keeps (fun m a hm hr ↦ hm.apply hr.1 hr.2) hstart
    exact ⟨hend.state_eq, hend.generation_eq,
      mt (grants_iff_of_halfOpen hend.state_eq).mp hend.spent⟩
  · intro hk
    have hq : l.Gathered := Follows.gathered name c start (hk.and hf)
    exact hgrants.mpr (hq.undecided hs)

/-- Two of three probes come back, the settings are changed to one probe and back, and the third
probe comes back. -/
def restoredRun : List BreakerAction :=
  [.trip, .request, .request, .complete ⟨2, .halfOpen⟩ 5 false, .complete ⟨2, .halfOpen⟩ 5 false,
    .reconfigure { eager with callsInHalfOpenState := 1 }, .reconfigure eager, .request,
    .complete ⟨2, .halfOpen⟩ 5 false]

/-- Under the settings it began with, a round of which all probes succeeded may never end. -/
theorem halfOpen_stalls_under_restored_settings :
    let l := (new "eager" eager 0).run restoredRun
    ((new "eager" eager 0).Follows SettlesOnce restoredRun ∧ l.breaker.state = .halfOpen ∧
      l.outstanding = 0) ∧
      l.breaker.config = eager ∧ ¬ l.Grants ∧ ¬ (l.run [.wait 60000, .request]).Grants := by
  have hf : (new "eager" eager 0).Follows SettlesOnce restoredRun := by decide +kernel
  have hs : ((new "eager" eager 0).run restoredRun).breaker.state = .halfOpen := by
    decide +kernel
  have ho : ((new "eager" eager 0).run restoredRun).outstanding = 0 := by decide +kernel
  obtain ⟨hgrants, hstays, _⟩ :=
    halfOpen_grants_iff_outcomes_missing "eager" eager 0 restoredRun hf hs ho
  have hn := mt hgrants.mp (by decide +kernel)
  have hlater := hstays hn [.wait 60000, .request] ⟨⟨trivial, trivial⟩, ⟨trivial, trivial⟩, trivial⟩
  exact ⟨⟨hf, hs, ho⟩, by decide +kernel, hn, hlater.2.2⟩

/-- Two of three probes come back, then two probes are to decide. -/
def shrinkingRun : List BreakerAction :=
  [.trip, .request, .request, .complete ⟨2, .halfOpen⟩ 5 false, .complete ⟨2, .halfOpen⟩ 5 false,
    .reconfigure { eager with callsInHalfOpenState := 2 }]

/-- A half-open breaker of which no permit is out does not always grant a request. -/
theorem halfOpen_stalls_after_fewer_probes :
    ¬ ∀ (name : String) (c : BreakerConfig) (start : Nat) (actions : List BreakerAction),
      (new name c start).Follows SettlesOnce actions →
      ((new name c start).run actions).breaker.state = .halfOpen →
      ((new name c start).run actions).outstanding = 0 →
      ((new name c start).run actions).Grants := by
  intro hall
  have hgrants := hall "eager" eager 0 shrinkingRun (by decide +kernel) (by decide +kernel)
    (by decide +kernel)
  have hrefused : ¬ ((new "eager" eager 0).run shrinkingRun).Grants := by decide +kernel
  exact hrefused hgrants

end GuardedDispatch.Ledger
