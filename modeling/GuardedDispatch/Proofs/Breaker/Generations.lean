import GuardedDispatch.Proofs.Breaker.Ledger
import GuardedDispatch.Proofs.Breaker.Settings

/-!
# Permits and generations

What holds along every run in which permits are used only if they were issued: no permit is ahead
of the breaker's generation, a permit of the current generation was issued in the current state,
both windows are tallied and as large as the settings say. A change of state therefore begins with
an empty history and no permit out.
-/

namespace GuardedDispatch

/-- An outcome under a permit of the generation is its latest one. -/
theorem outcomesOf_append_same {g : Nat} {p : CallPermit} (h : p.generation = g)
    (log : List (CallPermit × Outcome)) (o : Outcome) :
    outcomesOf g (log ++ [(p, o)]) = outcomesOf g log ++ [o] := by
  simp [outcomesOf, h]

/-- An outcome under a permit of another generation is none of its outcomes. -/
theorem outcomesOf_append_other {g : Nat} {p : CallPermit} (h : p.generation ≠ g)
    (log : List (CallPermit × Outcome)) (o : Outcome) :
    outcomesOf g (log ++ [(p, o)]) = outcomesOf g log := by
  simp [outcomesOf, h]

/-- A generation without completed permits has no outcomes. -/
theorem outcomesOf_eq_nil {g : Nat} {log : List (CallPermit × Outcome)}
    (h : ∀ e ∈ log, e.1.generation ≠ g) : outcomesOf g log = [] := by
  simpa [outcomesOf] using h

namespace Ledger

/-- A rule that allows no more than another is followed only where the other is. -/
theorem Follows.mono {rule rule' : Ledger → BreakerAction → Prop}
    (h : ∀ l a, rule l a → rule' l a) {l : Ledger} {actions : List BreakerAction}
    (hf : l.Follows rule actions) : l.Follows rule' actions := by
  induction actions generalizing l with
  | nil => exact hf
  | cons a rest ih => exact ⟨h l a hf.1, ih hf.2⟩

/-- A run that follows two rules follows both at once. -/
theorem Follows.and {rule rule' : Ledger → BreakerAction → Prop} {l : Ledger}
    {actions : List BreakerAction} (hf : l.Follows rule actions) (hf' : l.Follows rule' actions) :
    l.Follows (fun m a ↦ rule m a ∧ rule' m a) actions := by
  induction actions generalizing l with
  | nil => exact hf
  | cons a rest ih => exact ⟨⟨hf.1, hf'.1⟩, ih hf.2 hf'.2⟩

/-- What every allowed action keeps holds at the end of a run. -/
theorem Follows.keeps {rule : Ledger → BreakerAction → Prop} {I : Ledger → Prop}
    (hstep : ∀ l a, I l → rule l a → I (l.apply a)) {l : Ledger} {actions : List BreakerAction}
    (hf : l.Follows rule actions) (hl : I l) : I (l.run actions) := by
  induction actions generalizing l with
  | nil => exact hl
  | cons a rest ih => exact ih hf.2 (hstep l a hl hf.1)

/-- What every action keeps holds at the end of every run. -/
theorem run_keeps {I : Ledger → Prop} (hstep : ∀ l a, I l → I (l.apply a)) {l : Ledger} (h : I l)
    (actions : List BreakerAction) : I (l.run actions) := by
  induction actions generalizing l with
  | nil => exact h
  | cons a rest ih => exact ih (hstep l a h)

/-- What holds of a breaker and its permits in every run. -/
structure Sound (l : Ledger) : Prop extends l.breaker.Fits where
  generation_le : ∀ p ∈ l.issued, p.generation ≤ l.breaker.generation
  state_eq : ∀ p ∈ l.issued, p.generation = l.breaker.generation → p.state = l.breaker.state
  completed_issued : ∀ e ∈ l.completed, e.1 ∈ l.issued
  pending_issued : ∀ p ∈ l.pending, p ∈ l.issued

/-- A new breaker is sound. -/
theorem sound_new (name : String) (config : BreakerConfig) (start : Nat) :
    (new name config start).Sound where
  toFits := Breaker.fits_new name config start
  generation_le _ hp := nomatch hp
  state_eq _ hp := nomatch hp
  completed_issued _ he := nomatch he
  pending_issued _ hp := nomatch hp

variable {l : Ledger}

/-! ### Changes that keep a ledger sound -/

private theorem Sound.enter (h : l.Sound) (target : CircuitState) (now : Nat) :
    Sound { l with breaker := l.breaker.enter target now } where
  toFits := h.toFits.enter target now
  generation_le p hp := Nat.le_succ_of_le (h.generation_le p hp)
  state_eq p hp he := by
    have hle := h.generation_le p hp
    change p.generation = l.breaker.generation + 1 at he
    omega
  completed_issued := h.completed_issued
  pending_issued := h.pending_issued

private theorem Sound.issue (h : l.Sound) (probes : Nat) :
    Sound ({ l with breaker := { l.breaker with probesIssued := probes } }.issue
      l.breaker.permit) where
  toFits := { h.toFits with }
  generation_le p hp := by
    obtain rfl | hp := List.mem_cons.mp hp
    · exact Nat.le_refl _
    · exact h.generation_le p hp
  state_eq p hp he := by
    obtain rfl | hp := List.mem_cons.mp hp
    · rfl
    · exact h.state_eq p hp he
  completed_issued e he := List.mem_cons_of_mem _ (h.completed_issued e he)
  pending_issued p hp := by
    obtain rfl | hp := List.mem_cons.mp hp
    · exact List.mem_cons_self
    · exact List.mem_cons_of_mem _ (h.pending_issued p hp)

/-- Noting an outcome under an issued permit keeps a ledger sound. -/
theorem Sound.log (h : l.Sound) {p : CallPermit} (hp : p ∈ l.issued) (o : Outcome) :
    (l.log p o).Sound :=
  { h with
    completed_issued := by
      intro e he
      obtain he | he := List.mem_append.mp he
      · exact h.completed_issued e he
      · rw [List.mem_singleton.mp he]
        exact hp
    pending_issued := fun q hq ↦ h.pending_issued q (List.mem_of_mem_erase hq) }

/-- Recording an outcome in the window keeps a ledger sound. -/
theorem Sound.withOutcome (h : l.Sound) (o : Outcome) :
    Sound { l with breaker := l.breaker.withOutcome o } :=
  { h with toFits := h.toFits.withOutcome o }

/-- Recording an outcome among the probes keeps a ledger sound. -/
theorem Sound.withProbe (h : l.Sound) (o : Outcome) :
    Sound { l with breaker := l.breaker.withProbe o } :=
  { h with toFits := h.toFits.withProbe o }

/-- Judging an outcome keeps a ledger sound. -/
theorem Sound.judge (h : l.Sound) (o : Outcome) (now : Nat) :
    Sound { l with breaker := l.breaker.judge o now } := by
  have hj := l.breaker.judged_judge o now
  generalize l.breaker.judge o now = b' at hj ⊢
  cases hj with
  | recorded hs ht => exact h.withOutcome o
  | tripped hs ht => exact (h.withOutcome o).enter _ _
  | probed hs hl => exact h.withProbe o
  | decided hs hl => exact (h.withProbe o).enter _ _
  | ignored hs => exact h

/-! ### What each action does to a ledger -/

/-- A request is granted while closed, begins a round when it is due, takes a probe of the round
while one is left, and is refused otherwise. -/
theorem apply_request_cases (l : Ledger) :
    (l.breaker.state = .closed ∧ l.apply .request = l.issue l.breaker.permit) ∨
    (l.breaker.state = .opened ∧
      l.apply .request =
        issue { l with breaker := { l.breaker.enter .halfOpen l.now with probesIssued := 1 } }
          (l.breaker.enter .halfOpen l.now).permit) ∨
    (l.breaker.state = .halfOpen ∧ l.breaker.probesIssued < l.breaker.config.halfOpenCalls ∧
      l.apply .request =
        issue { l with breaker := { l.breaker with probesIssued := l.breaker.probesIssued + 1 } }
          l.breaker.permit) ∨
    (l.breaker.state ≠ .closed ∧
      l.apply .request =
        { l with breaker := { l.breaker with notPermitted := l.breaker.notPermitted + 1 } }) := by
  have hr := l.breaker.requested_request l.now
  simp only [apply]
  generalize l.breaker.request l.now = answer at hr ⊢
  cases hr with
  | granted hs => exact .inl ⟨hs, rfl⟩
  | began hs hd => exact .inr (.inl ⟨hs, rfl⟩)
  | waiting hs hd => exact .inr (.inr (.inr ⟨by rw [hs]; decide, rfl⟩))
  | probed hs hl => exact .inr (.inr (.inl ⟨hs, hl, rfl⟩))
  | spent hs hl => exact .inr (.inr (.inr ⟨by rw [hs]; decide, rfl⟩))

/-- Completing a stale permit is noted and counted. -/
theorem apply_complete_of_stale {p : CallPermit} (hp : p.generation ≠ l.breaker.generation)
    (duration : Nat) (failed : Bool) :
    l.apply (.complete p duration failed) =
      log { l with breaker := l.breaker.tally (l.breaker.config.outcome duration failed) } p
        (l.breaker.config.outcome duration failed) := by
  rw [apply, Breaker.complete_of_stale hp]

/-- Completing a permit of the current generation is noted, counted and judged. -/
theorem apply_complete_of_current {p : CallPermit} (hp : p.generation = l.breaker.generation)
    (duration : Nat) (failed : Bool) :
    l.apply (.complete p duration failed) =
      log
        { l with
          breaker := (l.breaker.tally (l.breaker.config.outcome duration failed)).judge
            (l.breaker.config.outcome duration failed) l.now }
        p (l.breaker.config.outcome duration failed) := by
  rw [apply, Breaker.complete_of_current hp]

/-- Unless other settings are put into effect they stay as they are. -/
theorem config_apply {a : BreakerAction} (hk : l.KeepsSettings a) :
    (l.apply a).breaker.config = l.breaker.config := by
  cases a with
  | request =>
    rw [← l.breaker.config_request l.now, apply]
    split
    · next hr => rw [hr]; rfl
    · next hr => rw [hr]
  | complete p duration failed => exact l.breaker.config_complete p duration failed l.now
  | release p => exact l.breaker.config_release p
  | reset => rfl
  | trip => rfl
  | reconfigure config => exact absurd hk id
  | wait duration => rfl

/-- Every allowed action keeps a ledger sound. -/
theorem Sound.apply (h : l.Sound) {a : BreakerAction}
    (ha : ∀ p duration failed, a = .complete p duration failed → p ∈ l.issued) :
    (l.apply a).Sound := by
  cases a with
  | request =>
    obtain ⟨_, he⟩ | ⟨_, he⟩ | ⟨_, _, he⟩ | ⟨_, he⟩ := apply_request_cases l
    · rw [he]
      exact h.issue l.breaker.probesIssued
    · rw [he]
      exact (h.enter .halfOpen l.now).issue 1
    · rw [he]
      exact h.issue _
    · rw [he]
      exact { h with }
  | complete p duration failed =>
    have hp := ha p duration failed rfl
    have ht : Sound { l with
      breaker := l.breaker.tally (l.breaker.config.outcome duration failed) } := { h with }
    by_cases hg : p.generation = l.breaker.generation
    · rw [apply_complete_of_current hg]
      exact (ht.judge _ _).log hp _
    · rw [apply_complete_of_stale hg]
      exact ht.log hp _
  | release p =>
    have hr : Sound { l with pending := l.pending.erase p } :=
      { h with pending_issued := fun q hq ↦ h.pending_issued q (List.mem_of_mem_erase hq) }
    by_cases hc : p.state = .halfOpen ∧ p.generation = l.breaker.generation
    · rw [Ledger.apply, Breaker.release_of_current hc.1 hc.2]
      exact { hr with }
    · rw [Ledger.apply, Breaker.release_of_other hc]
      exact hr
  | reset => exact h.enter .closed l.now
  | trip => exact h.enter .opened l.now
  | reconfigure config =>
    have hr := l.breaker.generation_reconfigure config
    exact
      { h with
        toFits := h.toFits.reconfigure config
        generation_le := fun p hp ↦ hr.1 ▸ h.generation_le p hp
        state_eq := fun p hp he ↦ (h.state_eq p hp (he.trans hr.1)).trans hr.2.symm }
  | wait duration => exact { h with }

/-- A permit that may be completed was issued. -/
theorem CompletesOnce.mem_issued {p : CallPermit} {duration : Nat} {failed : Bool}
    (h : l.CompletesOnce (.complete p duration failed)) : p ∈ l.issued :=
  List.count_pos_iff.mp (Nat.lt_of_le_of_lt (Nat.zero_le _) h)

/-- Completing each permit at most once keeps a ledger sound. -/
theorem Sound.apply_of_completesOnce (h : l.Sound) {a : BreakerAction} (ha : l.CompletesOnce a) :
    (l.apply a).Sound := by
  apply h.apply
  rintro p duration failed rfl
  exact CompletesOnce.mem_issued ha

/-- Settling each permit at most once keeps a ledger sound. -/
theorem Sound.apply_of_settlesOnce (h : l.Sound) {a : BreakerAction} (ha : l.SettlesOnce a) :
    (l.apply a).Sound := by
  apply h.apply
  rintro p duration failed rfl
  exact h.pending_issued p ha

/-! ### Fresh generations -/

/-- A state that was just entered has no history. -/
theorem Sound.history_enter (h : l.Sound) (target : CircuitState) (now : Nat) :
    history { l with breaker := l.breaker.enter target now } = [] := by
  apply outcomesOf_eq_nil
  intro e he
  have hle := h.generation_le e.1 (h.completed_issued e he)
  change e.1.generation ≠ l.breaker.generation + 1
  omega

/-- A state that was just entered has no permit out. -/
theorem Sound.pending_enter (h : l.Sound) {p : CallPermit} (hp : p ∈ l.pending) :
    p.generation ≠ l.breaker.generation + 1 := by
  have hle := h.generation_le p (h.pending_issued p hp)
  omega

end Ledger

end GuardedDispatch
