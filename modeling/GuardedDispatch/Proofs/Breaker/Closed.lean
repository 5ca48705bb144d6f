import GuardedDispatch.Proofs.Breaker.Generations

/-!
# A closed breaker and the history of its generation

The window is maintained one outcome at a time. While a breaker is closed under unchanged settings
it nevertheless equals the latest part of the whole history of its generation, and the breaker
opens at the first outcome at which that history, judged anew, exceeds a threshold.
-/

namespace GuardedDispatch.Ledger

/-- A closed breaker remembers the latest part of a history that never tripped it. -/
structure Remembers (l : Ledger) : Prop where
  outcomes_eq : l.breaker.state = .closed →
    l.breaker.window.outcomes = l.history.rtake l.breaker.config.windowSize
  calm : l.breaker.state = .closed →
    ∀ past, past <+: l.history → ¬ l.breaker.config.Trips past

variable {l : Ledger}

private theorem remembers_of_state {s : CircuitState} (hs : l.breaker.state = s)
    (hne : s ≠ .closed := by decide) : l.Remembers :=
  have hn : l.breaker.state ≠ .closed := hs ▸ hne
  ⟨fun h ↦ absurd h hn, fun h ↦ absurd h hn⟩

private theorem Sound.remembers_enter (h : l.Sound) (target : CircuitState) (now : Nat) :
    Remembers { l with breaker := l.breaker.enter target now } where
  outcomes_eq := by
    intro hs
    have ht : target = .closed := hs
    rw [h.history_enter, List.rtake_nil]
    simp only [Breaker.enter, if_pos ht]
  calm := by
    intro _ past hp
    rw [h.history_enter, List.prefix_nil] at hp
    rw [hp]
    exact l.breaker.config.not_trips_nil

private theorem Remembers.outcomes_record (hr : l.Remembers) (h : l.Sound)
    (hs : l.breaker.state = .closed) (o : Outcome) :
    (l.breaker.window.record o).outcomes = (l.history ++ [o]).rtake l.breaker.config.windowSize := by
  rw [h.window_tallied.outcomes_record h.window_pos, h.window_capacity, hr.outcomes_eq hs,
    rtake_rtake_append]

/-- The verdict on the window after an outcome is the verdict on the history with it. -/
theorem Remembers.verdict_iff (hr : l.Remembers) (h : l.Sound)
    (hs : l.breaker.state = .closed) (o : Outcome) :
    (l.breaker.config.minimumCalls ≤ (l.breaker.window.record o).size ∧
      l.breaker.config.exceededBy (l.breaker.window.record o) = true) ↔
        l.breaker.config.Trips (l.history ++ [o]) := by
  rw [BreakerConfig.exceededBy_eq_exceededOver _ (h.window_tallied.record h.window_pos o),
    Window.size, hr.outcomes_record h hs]
  rfl

private theorem Remembers.complete_current (hr : l.Remembers) (h : l.Sound)
    (hs : l.breaker.state = .closed) {p : CallPermit}
    (hg : p.generation = l.breaker.generation) (duration : Nat) (failed : Bool) :
    (l.apply (.complete p duration failed)).Remembers ∧
      (l.apply (.complete p duration failed)).breaker.window.outcomes =
        (l.history ++ [l.breaker.config.outcome duration failed]).rtake
          l.breaker.config.windowSize ∧
      (l.apply (.complete p duration failed)).breaker.state =
        if l.breaker.config.Trips (l.history ++ [l.breaker.config.outcome duration failed]) then
          .opened
        else .closed := by
  rw [apply_complete_of_current hg]
  generalize l.breaker.config.outcome duration failed = o
  have hout := hr.outcomes_record h hs o
  by_cases ht : l.breaker.config.Trips (l.history ++ [o])
  · have hv := (hr.verdict_iff h hs o).mpr ht
    rw [Breaker.judge_of_closed_trips (b := l.breaker.tally o) hs hv, if_pos ht]
    exact ⟨remembers_of_state (s := .opened) rfl, hout, rfl⟩
  · have hv := mt (hr.verdict_iff h hs o).mp ht
    rw [Breaker.judge_of_closed_stays (b := l.breaker.tally o) hs hv, if_neg ht]
    have hhist : history (log { l with breaker := (l.breaker.tally o).withOutcome o } p o) =
        l.history ++ [o] := outcomesOf_append_same hg _ _
    refine ⟨⟨?_, ?_⟩, hout, hs⟩
    · intro _
      rw [hhist]
      exact hout
    · intro _ past hpast
      rw [hhist, List.prefix_concat_iff] at hpast
      obtain rfl | hpast := hpast
      · exact ht
      · exact hr.calm hs past hpast

private theorem Remembers.complete_stale (hr : l.Remembers) {p : CallPermit}
    (hg : p.generation ≠ l.breaker.generation) (duration : Nat) (failed : Bool) :
    (l.apply (.complete p duration failed)).Remembers := by
  rw [apply_complete_of_stale hg]
  generalize l.breaker.config.outcome duration failed = o
  have hhist : history (log { l with breaker := l.breaker.tally o } p o) = l.history :=
    outcomesOf_append_other hg _ _
  refine ⟨?_, ?_⟩
  · rw [hhist]
    exact hr.outcomes_eq
  · rw [hhist]
    exact hr.calm

private theorem Sound.remembers_complete (h : l.Sound)
    (hs : l.breaker.state ≠ .closed) {p : CallPermit} (hp : p ∈ l.issued)
    (hg : p.generation = l.breaker.generation) (duration : Nat) (failed : Bool) :
    (l.apply (.complete p duration failed)).Remembers := by
  rw [apply_complete_of_current hg]
  generalize l.breaker.config.outcome duration failed = o
  have ht : Sound { l with breaker := l.breaker.tally o } := { h with }
  have hj := (l.breaker.tally o).judged_judge o l.now
  generalize (l.breaker.tally o).judge o l.now = b' at hj ⊢
  cases hj with
  | recorded hst hv => exact absurd hst hs
  | tripped hst hv => exact absurd hst hs
  | probed hst hl => exact remembers_of_state hst
  | decided hst hl => exact ((ht.withProbe o).log hp o).remembers_enter _ _
  | ignored hst => exact remembers_of_state hst

/-- Every allowed action keeps what a breaker remembers in step with the history. -/
theorem Remembers.apply (hr : l.Remembers) (h : l.Sound) {a : BreakerAction}
    (hk : l.KeepsSettings a) (ha : l.CompletesOnce a) : (l.apply a).Remembers := by
  cases a with
  | request =>
    obtain ⟨_, he⟩ | ⟨_, he⟩ | ⟨hs, _, he⟩ | ⟨hs, he⟩ := apply_request_cases l
    · rw [he]
      exact { hr with }
    · rw [he]
      exact remembers_of_state (s := .halfOpen) rfl
    · rw [he]
      exact remembers_of_state hs
    · rw [he]
      exact remembers_of_state rfl hs
  | complete p duration failed =>
    by_cases hg : p.generation = l.breaker.generation
    · by_cases hs : l.breaker.state = .closed
      · exact (hr.complete_current h hs hg duration failed).1
      · exact h.remembers_complete hs (CompletesOnce.mem_issued ha) hg duration failed
    · exact hr.complete_stale hg duration failed
  | release p =>
    rw [Ledger.apply, Breaker.release]
    split
    · exact { hr with }
    · exact { hr with }
  | reset => exact h.remembers_enter .closed l.now
  | trip => exact h.remembers_enter .opened l.now
  | reconfigure config => exact absurd hk id
  | wait duration => exact { hr with }

private theorem Follows.remembers (name : String) (c : BreakerConfig) (start : Nat)
    {actions : List BreakerAction}
    (hf : (new name c start).Follows (fun l a ↦ l.KeepsSettings a ∧ l.CompletesOnce a) actions) :
    ((new name c start).run actions).Sound ∧ ((new name c start).run actions).Remembers ∧
      ((new name c start).run actions).breaker.config = c := by
  apply hf.keeps (I := fun l ↦ l.Sound ∧ l.Remembers ∧ l.breaker.config = c)
  · rintro l a ⟨h, hr, hc⟩ ⟨hk, ha⟩
    exact ⟨h.apply_of_completesOnce ha, hr.apply h hk ha, (config_apply hk).trans hc⟩
  · refine ⟨sound_new name c start, ⟨fun _ ↦ (List.rtake_nil _).symm, ?_⟩, rfl⟩
    intro _ past hp
    rw [List.prefix_nil.mp hp]
    exact c.not_trips_nil

/-- What opens a closed breaker: a trip by hand, or an outcome of the current generation that makes
its history exceed a threshold. -/
def Opens (c : BreakerConfig) (l : Ledger) : BreakerAction → Prop
  | .trip => True
  | .complete p duration failed =>
    p.generation = l.breaker.generation ∧ c.Trips (l.history ++ [c.outcome duration failed])
  | _ => False

/-- Nothing else moves a closed breaker out of closed. -/
theorem Remembers.state_apply (hr : l.Remembers) (h : l.Sound) (hs : l.breaker.state = .closed)
    {a : BreakerAction} (hk : l.KeepsSettings a) :
    (Opens l.breaker.config l a → (l.apply a).breaker.state = .opened) ∧
      (¬ Opens l.breaker.config l a → (l.apply a).breaker.state = .closed) := by
  cases a with
  | request =>
    refine ⟨False.elim, fun _ ↦ ?_⟩
    simp only [Ledger.apply, Breaker.request_of_closed hs, issue, hs]
  | complete p duration failed =>
    by_cases hg : p.generation = l.breaker.generation
    · rw [(hr.complete_current h hs hg duration failed).2.2]
      refine ⟨fun ho ↦ if_pos ho.2, fun ho ↦ if_neg fun ht ↦ ho ⟨hg, ht⟩⟩
    · rw [apply_complete_of_stale hg]
      exact ⟨fun ho ↦ absurd ho.1 hg, fun _ ↦ hs⟩
  | release p =>
    refine ⟨False.elim, fun _ ↦ ?_⟩
    rw [Ledger.apply, Breaker.release]
    split
    · exact hs
    · exact hs
  | reset => exact ⟨False.elim, fun _ ↦ rfl⟩
  | trip => exact ⟨fun _ ↦ rfl, fun ho ↦ absurd trivial ho⟩
  | reconfigure config => exact absurd hk id
  | wait duration => exact ⟨False.elim, fun _ ↦ hs⟩

/-- While a breaker is closed its window is the latest part of its generation's history, counted
correctly, and no part of that history tripped it before; it opens at the first outcome that does,
or by hand, and at nothing else. -/
theorem closed_window_is_latest_history (name : String) (c : BreakerConfig) (start : Nat)
    (actions : List BreakerAction)
    (hf : (new name c start).Follows (fun l a ↦ l.KeepsSettings a ∧ l.CompletesOnce a) actions)
    (hs : ((new name c start).run actions).breaker.state = .closed) :
    let l := (new name c start).run actions
    let w := l.breaker.window
    let latest := l.history.rtake (max 1 c.slidingWindowSize)
    (w.outcomes = latest ∧ w.failed = latest.countP (·.failed) ∧
      w.slow = latest.countP (·.slow)) ∧
    (∀ o rest, w.outcomes = o :: rest → o.failed.toNat ≤ w.failed ∧ o.slow.toNat ≤ w.slow) ∧
    (∀ past, past <+: l.history → ¬ c.Trips past) ∧
    (w.size < c.minimumCalls ∨
      w.failureRate.atLeast c.failureRateThreshold = false ∧
        w.slowRate.atLeast c.slowCallRateThreshold = false) ∧
    (∀ p duration failed, p.generation = l.breaker.generation →
      (l.apply (.complete p duration failed)).breaker.window.outcomes =
        (l.history ++ [c.outcome duration failed]).rtake (max 1 c.slidingWindowSize)) ∧
    ∀ a, l.KeepsSettings a → l.CompletesOnce a →
      (Opens c l a → (l.apply a).breaker.state = .opened) ∧
        (¬ Opens c l a → (l.apply a).breaker.state = .closed) := by
  intro l w latest
  obtain ⟨h, hr, hc⟩ : l.Sound ∧ l.Remembers ∧ l.breaker.config = c :=
    Follows.remembers name c start hf
  replace hs : l.breaker.state = .closed := hs
  have hout := hr.outcomes_eq hs
  have hcalm := hr.calm hs
  have hcomplete (p : CallPermit) (hg : p.generation = l.breaker.generation) (duration : Nat)
      (failed : Bool) := (hr.complete_current h hs hg duration failed).2.1
  have hmoves (a : BreakerAction) (hk : l.KeepsSettings a) := hr.state_apply h hs hk
  rw [hc] at hout hcalm hmoves
  simp only [hc] at hcomplete
  change w.outcomes = latest at hout
  refine ⟨⟨hout, ?_, ?_⟩, fun o rest ↦ h.window_tallied.oldest_counted, hcalm, ?_, ?_, ?_⟩
  · rw [← hout]
    exact h.window_tallied.failed_eq
  · rw [← hout]
    exact h.window_tallied.slow_eq
  · by_cases hmin : c.minimumCalls ≤ w.size
    · right
      have hex : c.exceededBy w = false := by
        rw [c.exceededBy_eq_exceededOver h.window_tallied, hout]
        rw [Window.size, hout] at hmin
        exact Bool.eq_false_iff.mpr fun he ↦ hcalm _ (List.prefix_refl _) ⟨hmin, he⟩
      exact Bool.or_eq_false_iff.mp hex
    · exact Or.inl (Nat.lt_of_not_le hmin)
  · intro p duration failed hg
    exact hcomplete p hg duration failed
  · intro a hk _
    exact hmoves a hk

/-- A window of two outcomes that trips above sixty percent. -/
def narrow : BreakerConfig :=
  { failureRateThreshold := 60, slidingWindowSize := 2, minimumNumberOfCalls := 2 }

/-- A permit that outlives its generation, then three outcomes, of which the window keeps two. -/
def evictingRun : List BreakerAction :=
  [.request, .reset, .request, .request, .request,
    .complete ⟨0, .closed⟩ 5 true, .complete ⟨1, .closed⟩ 5 false,
    .complete ⟨1, .closed⟩ 5 true, .complete ⟨1, .closed⟩ 5 false]

/-- After an eviction the window holds the latest two outcomes of its generation. -/
theorem closed_window_after_eviction :
    let l := (new "narrow" narrow 0).run evictingRun
    ((new "narrow" narrow 0).Follows (fun l a ↦ l.KeepsSettings a ∧ l.CompletesOnce a)
      evictingRun ∧ l.breaker.state = .closed) ∧
      l.history = [⟨false, false⟩, ⟨true, false⟩, ⟨false, false⟩] ∧
      l.breaker.window.outcomes = [⟨true, false⟩, ⟨false, false⟩] ∧
      l.breaker.window.failed = 1 := by
  have hf : (new "narrow" narrow 0).Follows (fun l a ↦ l.KeepsSettings a ∧ l.CompletesOnce a)
      evictingRun := by decide +kernel
  have hs : ((new "narrow" narrow 0).run evictingRun).breaker.state = .closed := by
    decide +kernel
  have h := closed_window_is_latest_history "narrow" narrow 0 evictingRun hf hs
  refine ⟨⟨hf, hs⟩, by decide +kernel, h.1.1.trans (by decide +kernel),
    h.1.2.1.trans (by decide +kernel)⟩

end GuardedDispatch.Ledger
