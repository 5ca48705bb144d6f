import GuardedDispatch.Proofs.Breaker.Generations

/-!
# The probes of a half-open round

A half-open breaker counts the probes it issued and collects the outcomes of those that came back.
As long as each permit is settled once, the probes issued are the outcomes of the round and the
permits still out, whatever settings are put into effect. The round is decided by the number of
outcomes collected, which agrees with the number reported as long as the number of probes in effect
stays the same.
-/

namespace GuardedDispatch.Ledger

variable {l : Ledger}

/-! ### Permits that are out -/

private theorem countP_erase_counted {P : CallPermit → Bool} {p : CallPermit}
    {ps : List CallPermit} (hp : p ∈ ps) (hP : P p = true) :
    (ps.erase p).countP P + 1 = ps.countP P := by
  rw [(List.perm_cons_erase hp).countP_eq P, List.countP_cons, if_pos hP]

private theorem countP_erase_passed {P : CallPermit → Bool} {p : CallPermit}
    {ps : List CallPermit} (hP : P p = false) : (ps.erase p).countP P = ps.countP P := by
  by_cases hp : p ∈ ps
  · rw [(List.perm_cons_erase hp).countP_eq P, List.countP_cons, hP]
    rfl
  · rw [List.erase_of_not_mem hp]

private theorem outstanding_erase_current {p : CallPermit} (hp : p ∈ l.pending)
    (hg : p.generation = l.breaker.generation) :
    outstanding { l with pending := l.pending.erase p } + 1 = l.outstanding :=
  countP_erase_counted hp (decide_eq_true hg)

/-- Settling a permit of another generation leaves as many out. -/
theorem outstanding_erase_stale {p : CallPermit} (hg : p.generation ≠ l.breaker.generation) :
    outstanding { l with pending := l.pending.erase p } = l.outstanding :=
  countP_erase_passed (decide_eq_false hg)

private theorem outstanding_issue (l : Ledger) :
    (l.issue l.breaker.permit).outstanding = l.outstanding + 1 :=
  List.countP_cons_of_pos (decide_eq_true rfl)

private theorem Sound.outstanding_enter (h : l.Sound) (target : CircuitState) (now : Nat) :
    outstanding { l with breaker := l.breaker.enter target now } = 0 := by
  rw [outstanding, List.countP_eq_zero]
  intro p hp
  exact fun he ↦ h.pending_enter hp (of_decide_eq_true he)

/-! ### Every probe issued is reported or out -/

/-- In a half-open round the probes issued are those reported and those still out. -/
def Accounted (l : Ledger) : Prop :=
  l.breaker.state = .halfOpen → l.breaker.probesIssued = l.history.length + l.outstanding

/-- Outside of a half-open round there is nothing to account for. -/
theorem accounted_of_state {s : CircuitState} (hs : l.breaker.state = s)
    (hne : s ≠ .halfOpen := by decide) : l.Accounted :=
  fun h ↦ absurd (hs.symm.trans h) hne

private theorem Sound.accounted_enter (h : l.Sound) (target : CircuitState) (now : Nat) :
    Accounted { l with breaker := l.breaker.enter target now } := by
  intro _
  rw [h.history_enter, h.outstanding_enter]
  rfl

private theorem Accounted.complete (hc : l.Accounted) (h : l.Sound) {p : CallPermit}
    (hp : p ∈ l.pending) (duration : Nat) (failed : Bool) :
    (l.apply (.complete p duration failed)).Accounted := by
  by_cases hg : p.generation = l.breaker.generation
  · rw [apply_complete_of_current hg]
    generalize l.breaker.config.outcome duration failed = o
    have ht : Sound { l with breaker := l.breaker.tally o } := { h with }
    have hi := h.pending_issued p hp
    have hj := (l.breaker.tally o).judged_judge o l.now
    generalize (l.breaker.tally o).judge o l.now = b' at hj ⊢
    cases hj with
    | recorded hs hv => exact accounted_of_state hs
    | tripped hs hv => exact ((ht.withOutcome o).log hi o).accounted_enter _ _
    | probed hs hl =>
      intro _
      -- the permit is no longer out, and its outcome is reported
      have hhist : history (log { l with breaker := (l.breaker.tally o).withProbe o } p o) =
          l.history ++ [o] := outcomesOf_append_same hg _ _
      have hout := outstanding_erase_current hp hg
      rw [hhist, List.length_append, List.length_singleton]
      change l.breaker.probesIssued =
        l.history.length + 1 + outstanding { l with pending := l.pending.erase p }
      rw [hc hs]
      omega
    | decided hs hl => exact ((ht.withProbe o).log hi o).accounted_enter _ _
    | ignored hs => exact accounted_of_state hs
  · rw [apply_complete_of_stale hg]
    generalize l.breaker.config.outcome duration failed = o
    intro hs
    have hhist : history (log { l with breaker := l.breaker.tally o } p o) = l.history :=
      outcomesOf_append_other hg _ _
    rw [hhist]
    change l.breaker.probesIssued =
      l.history.length + outstanding { l with pending := l.pending.erase p }
    rw [hc hs, outstanding_erase_stale hg]

private theorem Accounted.release (hc : l.Accounted) (h : l.Sound) {p : CallPermit}
    (hp : p ∈ l.pending) : (l.apply (.release p)).Accounted := by
  by_cases hg : p.generation = l.breaker.generation
  · have hs := h.state_eq p (h.pending_issued p hp) hg
    by_cases hh : p.state = .halfOpen
    · rw [apply, Breaker.release_of_current hh hg]
      intro _
      have hout := outstanding_erase_current hp hg
      have hcount := hc (hs.symm.trans hh)
      change l.breaker.probesIssued - 1 =
        l.history.length + outstanding { l with pending := l.pending.erase p }
      omega
    · rw [apply, Breaker.release_of_other fun hb ↦ hh hb.1]
      exact accounted_of_state hs.symm hh
  · rw [apply, Breaker.release_of_other fun hb ↦ hg hb.2]
    intro hs
    change l.breaker.probesIssued =
      l.history.length + outstanding { l with pending := l.pending.erase p }
    rw [outstanding_erase_stale hg]
    exact hc hs

/-- Every allowed action keeps the probes accounted for. -/
theorem Accounted.apply (hc : l.Accounted) (h : l.Sound) {a : BreakerAction}
    (ha : l.SettlesOnce a) : (l.apply a).Accounted := by
  cases a with
  | request =>
    obtain ⟨hs, he⟩ | ⟨_, he⟩ | ⟨hs, _, he⟩ | ⟨_, he⟩ := apply_request_cases l
    · rw [he]
      exact accounted_of_state hs
    · rw [he]
      intro _
      have hhist := h.history_enter .halfOpen l.now
      have hout := h.outstanding_enter .halfOpen l.now
      have hone := outstanding_issue
        { l with breaker := { l.breaker.enter .halfOpen l.now with probesIssued := 1 } }
      change 1 = List.length (history { l with breaker := l.breaker.enter .halfOpen l.now }) +
        _
      rw [hhist, List.length_nil, Nat.zero_add]
      exact (hone.trans (congrArg (· + 1) hout)).symm
    · rw [he]
      intro _
      have hone := outstanding_issue
        { l with breaker := { l.breaker with probesIssued := l.breaker.probesIssued + 1 } }
      have hcount := hc hs
      change l.breaker.probesIssued + 1 = l.history.length + _
      rw [hcount, Nat.add_assoc]
      exact congrArg (l.history.length + ·) hone.symm
    · rw [he]
      exact hc
  | complete p duration failed => exact hc.complete h ha duration failed
  | release p => exact hc.release h ha
  | reset => exact h.accounted_enter .closed l.now
  | trip => exact h.accounted_enter .opened l.now
  | reconfigure config =>
    rw [Ledger.apply, Breaker.reconfigure]
    split
    · exact hc
    · exact hc
  | wait duration => exact hc

/-! ### Rounds under one number of probes -/

/-- The outcomes collected in a half-open round are all of its outcomes, they are too few to
decide it, and no more probes were issued than decide it. -/
structure Gathered (l : Ledger) : Prop where
  outcomes_eq : l.breaker.state = .halfOpen → l.breaker.probes.outcomes = l.history
  undecided : l.breaker.state = .halfOpen →
    l.history.length < l.breaker.config.halfOpenCalls
  issued_le : l.breaker.state = .halfOpen →
    l.breaker.probesIssued ≤ l.breaker.config.halfOpenCalls

private theorem gathered_of_state {s : CircuitState} (hs : l.breaker.state = s)
    (hne : s ≠ .halfOpen := by decide) : l.Gathered :=
  have hn : l.breaker.state ≠ .halfOpen := hs ▸ hne
  ⟨fun h ↦ absurd h hn, fun h ↦ absurd h hn, fun h ↦ absurd h hn⟩

private theorem Sound.gathered_enter (h : l.Sound) (target : CircuitState) (now : Nat) :
    Gathered { l with breaker := l.breaker.enter target now } where
  outcomes_eq _ := by
    rw [h.history_enter]
    rfl
  undecided _ := by
    rw [h.history_enter]
    exact l.breaker.config.halfOpenCalls_pos
  issued_le _ := Nat.zero_le _

private theorem Gathered.outcomes_record (hq : l.Gathered) (h : l.Sound)
    (hs : l.breaker.state = .halfOpen) (o : Outcome) :
    (l.breaker.probes.record o).outcomes = l.history ++ [o] := by
  have hroom : l.breaker.probes.size < l.breaker.probes.capacity := by
    rw [Window.size, hq.outcomes_eq hs, h.probes_capacity]
    exact hq.undecided hs
  rw [Window.outcomes_record_of_room hroom, hq.outcomes_eq hs]

private theorem Gathered.complete_decides (hq : l.Gathered) (h : l.Sound)
    (hs : l.breaker.state = .halfOpen) {p : CallPermit} (hg : p.generation = l.breaker.generation)
    {duration : Nat} {failed : Bool} {o : Outcome}
    (ho : o = l.breaker.config.outcome duration failed)
    (hl : (l.history ++ [o]).length = l.breaker.config.halfOpenCalls) :
    l.apply (.complete p duration failed) =
      log
        { l with
          breaker := ((l.breaker.tally o).withProbe o).enter
            (if l.breaker.config.exceededOver (l.history ++ [o]) then .opened else .closed)
            l.now }
        p o := by
  have hout := hq.outcomes_record h hs o
  have hsize : l.breaker.config.halfOpenCalls ≤ (l.breaker.probes.record o).size := by
    rw [Window.size, hout, hl]
  have hverdict := l.breaker.config.exceededBy_eq_exceededOver
    (h.probes_tallied.record h.probes_pos o)
  rw [hout] at hverdict
  rw [apply_complete_of_current hg, ← ho,
    Breaker.judge_of_halfOpen_decides (b := l.breaker.tally o) hs hsize, ← hverdict]
  rfl

private theorem Gathered.complete_stays (hq : l.Gathered) (h : l.Sound)
    (hs : l.breaker.state = .halfOpen) {p : CallPermit} (hg : p.generation = l.breaker.generation)
    {duration : Nat} {failed : Bool} {o : Outcome}
    (ho : o = l.breaker.config.outcome duration failed)
    (hl : (l.history ++ [o]).length ≠ l.breaker.config.halfOpenCalls) :
    l.apply (.complete p duration failed) =
      log { l with breaker := (l.breaker.tally o).withProbe o } p o := by
  have hsize : ¬ l.breaker.config.halfOpenCalls ≤ (l.breaker.probes.record o).size := by
    have hlt := hq.undecided hs
    rw [Window.size, hq.outcomes_record h hs o]
    rw [List.length_append, List.length_singleton] at hl ⊢
    omega
  rw [apply_complete_of_current hg, ← ho,
    Breaker.judge_of_halfOpen_stays (b := l.breaker.tally o) hs hsize]

private theorem Gathered.complete (hq : l.Gathered) (h : l.Sound) {p : CallPermit}
    (hp : p ∈ l.issued)
    (duration : Nat) (failed : Bool) : (l.apply (.complete p duration failed)).Gathered := by
  generalize ho : l.breaker.config.outcome duration failed = o
  have ht : Sound { l with breaker := l.breaker.tally o } := { h with }
  by_cases hg : p.generation = l.breaker.generation
  · rw [apply_complete_of_current hg, ho]
    have hj := (l.breaker.tally o).judged_judge o l.now
    generalize (l.breaker.tally o).judge o l.now = b' at hj ⊢
    cases hj with
    | recorded hs hv => exact gathered_of_state hs
    | tripped hs hv => exact ((ht.withOutcome o).log hp o).gathered_enter _ _
    | probed hs hl =>
      have hhist : history (Ledger.log
          { l with breaker := (l.breaker.tally o).withProbe o } p o) = l.history ++ [o] :=
        outcomesOf_append_same hg _ _
      have hout := hq.outcomes_record h hs o
      refine ⟨fun _ ↦ ?_, fun _ ↦ ?_, fun _ ↦ hq.issued_le hs⟩
      · rw [hhist]
        exact hout
      · rw [hhist, ← hout]
        exact Nat.lt_of_not_le hl
    | decided hs hl => exact ((ht.withProbe o).log hp o).gathered_enter _ _
    | ignored hs => exact gathered_of_state hs
  · rw [apply_complete_of_stale hg, ho]
    have hhist : history (Ledger.log { l with breaker := l.breaker.tally o } p o) = l.history :=
      outcomesOf_append_other hg _ _
    refine ⟨?_, ?_, hq.issued_le⟩
    · rw [hhist]
      exact hq.outcomes_eq
    · rw [hhist]
      exact hq.undecided

/-- Every action on issued permits that keeps the number of probes keeps a round gathered. -/
theorem Gathered.apply (hq : l.Gathered) (h : l.Sound) {a : BreakerAction}
    (hk : l.KeepsProbeCount a)
    (ha : ∀ p duration failed, a = .complete p duration failed → p ∈ l.issued) :
    (l.apply a).Gathered := by
  cases a with
  | request =>
    obtain ⟨hs, he⟩ | ⟨_, he⟩ | ⟨hs, hlt, he⟩ | ⟨_, he⟩ := apply_request_cases l
    · rw [he]
      exact { hq with }
    · have hg := h.gathered_enter .halfOpen l.now
      rw [he]
      exact ⟨hg.outcomes_eq, hg.undecided, fun _ ↦ l.breaker.config.halfOpenCalls_pos⟩
    · rw [he]
      exact ⟨hq.outcomes_eq, hq.undecided, fun _ ↦ hlt⟩
    · rw [he]
      exact { hq with }
  | complete p duration failed => exact hq.complete h (ha p duration failed rfl) duration failed
  | release p =>
    rw [Ledger.apply, Breaker.release]
    split
    · refine ⟨hq.outcomes_eq, hq.undecided, fun hs ↦ ?_⟩
      exact Nat.le_trans (Nat.sub_le _ _) (hq.issued_le hs)
    · exact { hq with }
  | reset => exact h.gathered_enter .closed l.now
  | trip => exact h.gathered_enter .opened l.now
  | reconfigure config =>
    rw [Ledger.apply, Breaker.reconfigure]
    split
    · exact hq
    · refine ⟨fun hs ↦ ?_, fun hs ↦ ?_, fun hs ↦ ?_⟩
      · -- as many probes fit as before, and no more were collected
        have hfit : l.breaker.probes.outcomes.length ≤ config.halfOpenCalls := by
          rw [hk hs, ← h.probes_capacity]
          exact h.probes_tallied.size_le
        change (l.breaker.probes.resized config.halfOpenCalls).outcomes = l.history
        rw [Window.outcomes_resized _ config.halfOpenCalls_pos, rtake_of_length_le hfit]
        exact hq.outcomes_eq hs
      · exact Nat.lt_of_lt_of_eq (hq.undecided hs) (hk hs).symm
      · exact Nat.le_trans (hq.issued_le hs) (Nat.le_of_eq (hk hs).symm)
  | wait duration => exact { hq with }

/-! ### Whole runs -/

/-- In every run the probes of a half-open round are accounted for. -/
theorem Follows.accounted (name : String) (c : BreakerConfig) (start : Nat)
    {actions : List BreakerAction} (hf : (new name c start).Follows SettlesOnce actions) :
    ((new name c start).run actions).Sound ∧ ((new name c start).run actions).Accounted := by
  apply hf.keeps (I := fun l ↦ l.Sound ∧ l.Accounted)
  · rintro l a ⟨h, hc⟩ ha
    exact ⟨h.apply_of_settlesOnce ha, hc.apply h ha⟩
  · exact ⟨sound_new name c start, accounted_of_state (s := .closed) rfl⟩

/-- In every run that keeps the number of probes during a round the round is gathered. -/
theorem Follows.gathered (name : String) (c : BreakerConfig) (start : Nat)
    {actions : List BreakerAction}
    (hf : (new name c start).Follows (fun l a ↦ l.KeepsProbeCount a ∧ l.SettlesOnce a) actions) :
    ((new name c start).run actions).Gathered := by
  have hsound : ((new name c start).run actions).Sound ∧
      ((new name c start).run actions).Gathered := by
    apply hf.keeps (I := fun l ↦ l.Sound ∧ l.Gathered)
    · rintro l a ⟨h, hq⟩ ⟨hk, ha⟩
      refine ⟨h.apply_of_settlesOnce ha, hq.apply h hk ?_⟩
      rintro p duration failed rfl
      exact h.pending_issued p ha
    · exact ⟨sound_new name c start, gathered_of_state (s := .closed) rfl⟩
  exact hsound.2

private theorem KeepsSettings.keepsProbeCount {a : BreakerAction} (hk : l.KeepsSettings a) :
    l.KeepsProbeCount a := by
  cases a with
  | reconfigure config => exact absurd hk id
  | _ => trivial

private theorem Follows.config_eq {rule : Ledger → BreakerAction → Prop}
    (hrule : ∀ l a, rule l a → l.KeepsSettings a) {actions : List BreakerAction}
    (hf : l.Follows rule actions) : (l.run actions).breaker.config = l.breaker.config :=
  hf.keeps (I := fun m ↦ m.breaker.config = l.breaker.config)
    (fun _ a hm ha ↦ (config_apply (hrule _ a ha)).trans hm) rfl

private theorem Accounted.last_settled (ha : l.Accounted) (hq : l.Gathered)
    (hs : l.breaker.state = .halfOpen) {p : CallPermit} (hp : p ∈ l.pending)
    (hg : p.generation = l.breaker.generation)
    (hl : l.history.length + 1 = l.breaker.config.halfOpenCalls) :
    ∀ q ∈ l.pending.erase p, q.generation ≠ l.breaker.generation := by
  have hcount := ha hs
  have hissued := hq.issued_le hs
  have hone := outstanding_erase_current hp hg
  have hzero : outstanding { l with pending := l.pending.erase p } = 0 := by omega
  rw [outstanding, List.countP_eq_zero] at hzero
  intro q hmem he
  exact hzero q hmem (decide_eq_true he)

/-- A round of probes adds up: the probes issued are those that came back and those still out, the
outcome that makes the number full leaves none out, and it alone ends the round, by the rates over
all of the round's outcomes. -/
theorem halfOpen_round_adds_up (name : String) (c : BreakerConfig) (start : Nat)
    (actions : List BreakerAction)
    (hf : (new name c start).Follows (fun l a ↦ l.KeepsSettings a ∧ l.SettlesOnce a) actions)
    (hs : ((new name c start).run actions).breaker.state = .halfOpen) :
    let l := (new name c start).run actions
    l.breaker.probesIssued = l.breaker.probes.size + l.outstanding ∧
    l.breaker.probes.outcomes = l.history ∧
    l.breaker.probesIssued ≤ max 1 c.callsInHalfOpenState ∧
    ∀ p duration failed, p ∈ l.pending →
      let past := l.history ++ [c.outcome duration failed]
      let next := l.apply (.complete p duration failed)
      (next.breaker.state ≠ .halfOpen ↔
        p.generation = l.breaker.generation ∧ past.length = max 1 c.callsInHalfOpenState) ∧
      (next.breaker.state ≠ .halfOpen →
        (∀ q ∈ next.pending, q.generation ≠ l.breaker.generation) ∧
        (c.exceededOver past = true → next.breaker.state = .opened) ∧
        (c.exceededOver past = false →
          next.breaker.state = .closed ∧ next.breaker.window = { capacity := c.windowSize } ∧
            next.breaker.probesIssued = 0)) := by
  intro l
  replace hs : l.breaker.state = .halfOpen := hs
  obtain ⟨h, ha⟩ : l.Sound ∧ l.Accounted :=
    Follows.accounted name c start (hf.mono fun _ _ hr ↦ hr.2)
  have hq : l.Gathered := Follows.gathered name c start
    (hf.mono fun _ _ hr ↦ ⟨KeepsSettings.keepsProbeCount hr.1, hr.2⟩)
  have hc : l.breaker.config = c := hf.config_eq fun _ _ hr ↦ hr.1
  have hissued := hq.issued_le hs
  rw [hc] at hissued
  refine ⟨?_, hq.outcomes_eq hs, hissued, ?_⟩
  · rw [Window.size, hq.outcomes_eq hs]
    exact ha hs
  intro p duration failed hp past next
  have ho : c.outcome duration failed = l.breaker.config.outcome duration failed := by rw [hc]
  by_cases hg : p.generation = l.breaker.generation
  · by_cases hl : past.length = max 1 c.callsInHalfOpenState
    · have hlen : past.length = l.breaker.config.halfOpenCalls := by rw [hc]; exact hl
      have he : next = _ := hq.complete_decides h hs hg ho hlen
      have hnone := ha.last_settled hq hs hp hg (by rwa [List.length_append] at hlen)
      rw [hc] at he
      have hstate : next.breaker.state = if c.exceededOver past then .opened else .closed := by
        rw [he]
        rfl
      refine ⟨⟨fun _ ↦ ⟨hg, hl⟩, fun _ ↦ ?_⟩, fun _ ↦ ⟨?_, ?_, ?_⟩⟩
      · rw [hstate]
        split <;> decide
      · rw [he]
        exact hnone
      · intro hx
        rw [hstate, if_pos hx]
      · intro hx
        have hx' : ¬ c.exceededOver past = true := by rw [hx]; decide
        refine ⟨by rw [hstate, if_neg hx'], ?_, by rw [he]; rfl⟩
        rw [he, if_neg hx', ← hc]
        rfl
    · have hlen : past.length ≠ l.breaker.config.halfOpenCalls := by rw [hc]; exact hl
      have he : next = _ := hq.complete_stays h hs hg ho hlen
      have hstay : next.breaker.state = .halfOpen := by
        rw [he]
        exact hs
      exact ⟨⟨fun hn ↦ absurd hstay hn, fun hn ↦ absurd hn.2 hl⟩, fun hn ↦ absurd hstay hn⟩
  · have he : next = _ := apply_complete_of_stale hg duration failed
    have hstay : next.breaker.state = .halfOpen := by
      rw [he]
      exact hs
    exact ⟨⟨fun hn ↦ absurd hstay hn, fun hn ↦ absurd hn.1 hg⟩, fun hn ↦ absurd hstay hn⟩

/-- Three probes decide, and the breaker probes at once. -/
def eager : BreakerConfig := { waitInOpenState := 0, callsInHalfOpenState := 3 }

/-- A permit that outlives its generation, a probe given back, and two probes that come back. -/
def probingRun : List BreakerAction :=
  [.request, .trip, .request, .request, .release ⟨2, .halfOpen⟩, .request, .request,
    .complete ⟨2, .halfOpen⟩ 5 false, .complete ⟨0, .closed⟩ 5 true,
    .complete ⟨2, .halfOpen⟩ 5 true]

/-- With two of three probes back and one out, the failure of the last one opens the breaker. -/
theorem halfOpen_round_last_probe :
    let l := (new "eager" eager 0).run probingRun
    ((new "eager" eager 0).Follows (fun l a ↦ l.KeepsSettings a ∧ l.SettlesOnce a) probingRun ∧
      l.breaker.state = .halfOpen) ∧
      l.breaker.probesIssued = 2 + 1 ∧
      (l.apply (.complete ⟨2, .halfOpen⟩ 5 true)).breaker.state = .opened := by
  have hf : (new "eager" eager 0).Follows (fun l a ↦ l.KeepsSettings a ∧ l.SettlesOnce a)
      probingRun := by decide +kernel
  have hs : ((new "eager" eager 0).run probingRun).breaker.state = .halfOpen := by
    decide +kernel
  have h := halfOpen_round_adds_up "eager" eager 0 probingRun hf hs
  obtain ⟨hends, hleft⟩ := h.2.2.2 ⟨2, .halfOpen⟩ 5 true (by decide +kernel)
  have hn := hends.mpr (by decide +kernel)
  exact ⟨⟨hf, hs⟩, h.1.trans (by decide +kernel), (hleft hn).2.1 (by decide +kernel)⟩

end GuardedDispatch.Ledger
