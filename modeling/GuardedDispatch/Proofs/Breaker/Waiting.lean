import GuardedDispatch.Proofs.Breaker.Generations

/-!
# How long a breaker stays open

A breaker that opened, by an outcome or by hand, waits. Until its wait is over it refuses every
request and nothing that comes back moves it; the first request after that begins a half-open
round. Only a change by hand or other settings come between. The state shown to observers is the
state it is in all along.
-/

namespace GuardedDispatch

namespace Breaker

variable {b : Breaker} {now : Nat} {p : CallPermit}

/-- A breaker shows the state it is in. -/
def Mirrors (b : Breaker) : Prop := b.shown = b.state

private theorem Mirrors.request (h : b.Mirrors) (now : Nat) : (b.request now).1.Mirrors := by
  have hr := b.requested_request now
  generalize b.request now = answer at hr ⊢
  cases hr with
  | granted hs | waiting hs hd | probed hs hl | spent hs hl => exact h
  | began hs hd => rfl

private theorem Mirrors.judge (h : b.Mirrors) (o : Outcome) (now : Nat) :
    (b.judge o now).Mirrors := by
  have hj := b.judged_judge o now
  generalize b.judge o now = b' at hj ⊢
  cases hj with
  | recorded hs ht | probed hs hl | ignored hs => exact h
  | tripped hs ht | decided hs hl => rfl

private theorem complete_of_opened (hs : b.state = .opened) (p : CallPermit) (duration : Nat)
    (failed : Bool) (now : Nat) :
    b.complete p duration failed now = b.tally (b.config.outcome duration failed) := by
  by_cases hg : p.generation = b.generation
  · rw [complete_of_current hg]
    exact judge_of_opened (b := b.tally (b.config.outcome duration failed)) hs _
  · exact complete_of_stale hg

private theorem release_of_unprobed (h : b.probesIssued = 0) (p : CallPermit) :
    b.release p = b := by
  unfold release
  split
  · rw [h, Nat.zero_sub, ← h]
  · rfl

end Breaker

namespace Ledger

variable {l : Ledger} {c : BreakerConfig} {since generation : Nat}

/-- Every action leaves the shown state right. -/
theorem mirrors_apply (h : l.breaker.Mirrors) (a : BreakerAction) :
    (l.apply a).breaker.Mirrors := by
  cases a with
  | request =>
    have hr := h.request l.now
    simp only [apply]
    split
    · next heq =>
      rw [heq] at hr
      exact hr
    · next heq =>
      rw [heq] at hr
      exact hr
  | complete p duration failed =>
    by_cases hg : p.generation = l.breaker.generation
    · rw [apply_complete_of_current hg]
      exact Breaker.Mirrors.judge
        (b := l.breaker.tally (l.breaker.config.outcome duration failed)) h _ l.now
    · rw [apply_complete_of_stale hg]
      exact h
  | release p =>
    rw [apply, Breaker.release]
    split <;> exact h
  | reset | trip => rfl
  | reconfigure config =>
    rw [apply, Breaker.reconfigure]
    split <;> exact h
  | wait duration => exact h

/-! ### Opening -/

/-- The action opens the breaker: a new generation begins, and it is open. -/
def EntersOpen (l : Ledger) (a : BreakerAction) : Prop :=
  (l.apply a).breaker.state = .opened ∧
    (l.apply a).breaker.generation ≠ l.breaker.generation

instance (l : Ledger) (a : BreakerAction) : Decidable (l.EntersOpen a) :=
  inferInstanceAs (Decidable (_ ∧ _))

/-- An open breaker: its settings, since when it is open and in which generation; it has issued no
probe. -/
structure Waits (c : BreakerConfig) (since generation : Nat) (l : Ledger) : Prop where
  config_eq : l.breaker.config = c
  state_eq : l.breaker.state = .opened
  generation_eq : l.breaker.generation = generation
  entered_eq : l.breaker.enteredAt = since
  unprobed : l.breaker.probesIssued = 0
  since_le : since ≤ l.now

/-- What opens a breaker by an outcome or by hand. -/
def BringsOpen (l : Ledger) : BreakerAction → Prop
  | .trip => True
  | .complete p _ _ => p.generation = l.breaker.generation ∧ l.breaker.state ≠ .opened
  | _ => False

private theorem EntersOpen.waits {a : BreakerAction} (h : l.EntersOpen a) (hk : l.KeepsSettings a) :
    l.BringsOpen a ∧ Waits l.breaker.config l.now (l.breaker.generation + 1) (l.apply a) := by
  obtain ⟨hopen, hnew⟩ := h
  cases a with
  | request =>
    exfalso
    obtain ⟨_, he⟩ | ⟨_, he⟩ | ⟨_, _, he⟩ | ⟨_, he⟩ := apply_request_cases l
    · exact hnew (by rw [he]; rfl)
    · rw [he] at hopen
      cases hopen
    · exact hnew (by rw [he]; rfl)
    · exact hnew (by rw [he])
  | complete p duration failed =>
    by_cases hg : p.generation = l.breaker.generation
    · rw [apply_complete_of_current hg] at hopen hnew ⊢
      generalize l.breaker.config.outcome duration failed = o at hopen hnew ⊢
      have hj := (l.breaker.tally o).judged_judge o l.now
      generalize (l.breaker.tally o).judge o l.now = b' at hj hopen hnew ⊢
      cases hj with
      | recorded hs ht | probed hs hl | ignored hs => exact absurd rfl hnew
      | tripped hs ht =>
        have hclosed : l.breaker.state = .closed := hs
        exact ⟨⟨hg, by rw [hclosed]; decide⟩, rfl, rfl, rfl, rfl, rfl, Nat.le_refl _⟩
      | decided hs hl =>
        have hhalf : l.breaker.state = .halfOpen := hs
        exact ⟨⟨hg, by rw [hhalf]; decide⟩, rfl, hopen, rfl, rfl, rfl, Nat.le_refl _⟩
    · rw [apply_complete_of_stale hg] at hnew
      exact absurd rfl hnew
  | release p =>
    refine absurd ?_ hnew
    rw [apply, Breaker.release]
    split <;> rfl
  | reset => cases hopen
  | trip => exact ⟨trivial, rfl, rfl, rfl, rfl, rfl, Nat.le_refl _⟩
  | reconfigure config => exact absurd hk id
  | wait duration => exact absurd rfl hnew

/-! ### Waiting -/

/-- A breaker that waits is due once its wait is over. -/
theorem Waits.due_iff (h : l.Waits c since generation) :
    l.breaker.Due l.now ↔ since + c.waitInOpenState ≤ l.now := by
  have hle := h.since_le
  rw [Breaker.Due, h.config_eq, h.entered_eq]
  omega

private theorem Waits.request_early (h : l.Waits c since generation)
    (hearly : l.now < since + c.waitInOpenState) :
    l.breaker.request l.now =
      ({ l.breaker with notPermitted := l.breaker.notPermitted + 1 }, none) := by
  apply Breaker.request_of_waiting h.state_eq
  rw [h.due_iff]
  exact Nat.not_le_of_lt hearly

private theorem Waits.request_due (h : l.Waits c since generation)
    (hdue : since + c.waitInOpenState ≤ l.now) :
    l.breaker.request l.now =
      ({ l.breaker.enter .halfOpen l.now with probesIssued := 1 },
        some ⟨generation + 1, .halfOpen⟩) := by
  rw [Breaker.request_of_due h.state_eq (h.due_iff.mpr hdue), h.generation_eq]

/-- Requests are made before a moment. -/
def AsksBefore (moment : Nat) (l : Ledger) : BreakerAction → Prop
  | .request => l.now < moment
  | _ => True

instance (moment : Nat) (l : Ledger) : DecidablePred (l.AsksBefore moment)
  | .request => inferInstanceAs (Decidable (_ < _))
  | .complete .. | .release _ | .reset | .trip | .reconfigure _ | .wait _ => isTrue trivial

/-- A breaker goes on waiting until it is asked after its wait or changed by hand. -/
theorem Waits.apply (h : l.Waits c since generation) {a : BreakerAction} (hk : l.LeavesAlone a)
    (hbefore : l.AsksBefore (since + c.waitInOpenState) a) :
    (l.apply a).Waits c since generation := by
  cases a with
  | request =>
    simp only [Ledger.apply, h.request_early hbefore]
    exact { h with }
  | complete p duration failed =>
    simp only [Ledger.apply, Breaker.complete_of_opened h.state_eq]
    exact { h with }
  | release p =>
    simp only [Ledger.apply, Breaker.release_of_unprobed h.unprobed]
    exact { h with }
  | reset | trip | reconfigure config => exact absurd hk id
  | wait duration => exact { h with since_le := Nat.le_add_right_of_le h.since_le }

/-- Time does not run backwards. -/
theorem now_le_apply (l : Ledger) (a : BreakerAction) : l.now ≤ (l.apply a).now := by
  cases a with
  | request =>
    simp only [apply]
    split <;> exact Nat.le_refl _
  | wait duration => exact Nat.le_add_right _ _
  | complete _ _ _ | release _ | reset | trip | reconfigure _ => exact Nat.le_refl _

private theorem asksBefore_of_now_lt {moment : Nat} {actions : List BreakerAction}
    (h : (l.run actions).now < moment) : l.Follows (AsksBefore moment) actions := by
  induction actions generalizing l with
  | nil => trivial
  | cons a rest ih =>
    refine ⟨?_, ih h⟩
    have hnow : l.now ≤ ((l.apply a).run rest).now :=
      run_keeps (I := fun m ↦ l.now ≤ m.now) (fun m e hm ↦ hm.trans (m.now_le_apply e))
        (l.now_le_apply a) rest
    cases a with
    | request => exact Nat.lt_of_le_of_lt hnow h
    | complete _ _ _ | release _ | reset | trip | reconfigure _ | wait _ => trivial

/-- A breaker that opened waits until it is asked after its wait or changed by hand. -/
theorem Waits.run (h : l.Waits c since generation) {actions : List BreakerAction}
    (hk : l.Follows LeavesAlone actions)
    (hbefore : l.Follows (AsksBefore (since + c.waitInOpenState)) actions) :
    (l.run actions).Waits c since generation :=
  (hk.and hbefore).keeps (fun _ _ hm hr ↦ hm.apply hr.1 hr.2) h

/-- Open is closed to traffic for the whole wait and no longer. A breaker opens by hand or by an
outcome of its current generation. From then on, until it is changed by hand, every request before
the end of the wait is refused, which is counted and changes nothing else. Until it is asked after
its wait, what comes back leaves it open and is counted at most; then the request is granted, as
the first probe of a new half-open round without outcomes. The state shown is always the state. -/
theorem open_until_asked_after_wait (name : String) (c : BreakerConfig) (start : Nat)
    (earlier : List BreakerAction) (a : BreakerAction) (later : List BreakerAction)
    (hearlier : (new name c start).Follows KeepsSettings earlier)
    (ha : ((new name c start).run earlier).KeepsSettings a)
    (hopens : ((new name c start).run earlier).EntersOpen a)
    (hlater : (((new name c start).run earlier).apply a).Follows LeavesAlone later) :
    let l := (new name c start).run earlier
    let ends := l.now + c.waitInOpenState
    let m := (l.apply a).run later
    l.BringsOpen a ∧
    (m.now < ends →
      m.breaker.request m.now =
        ({ m.breaker with notPermitted := m.breaker.notPermitted + 1 }, none)) ∧
    ((l.apply a).Follows (AsksBefore ends) later →
      (m.breaker.state = .opened ∧ m.breaker.generation = l.breaker.generation + 1 ∧
        m.breaker.enteredAt = l.now) ∧
      (∀ p duration failed, m.breaker.complete p duration failed m.now =
        m.breaker.tally (c.outcome duration failed)) ∧
      (∀ p, m.breaker.release p = m.breaker) ∧
      (ends ≤ m.now → ∃ b, m.breaker.request m.now = (b, some ⟨b.generation, .halfOpen⟩) ∧
        b.state = .halfOpen ∧ b.generation = m.breaker.generation + 1 ∧ b.enteredAt = m.now ∧
        b.probesIssued = 1 ∧ b.probes = { capacity := c.halfOpenCalls })) ∧
    ∀ actions, ((new name c start).run actions).breaker.shown =
      ((new name c start).run actions).breaker.state := by
  intro l ends m
  have hc : l.breaker.config = c :=
    hearlier.keeps (I := fun l ↦ l.breaker.config = c) (fun _ _ hl hr ↦ (config_apply hr).trans hl)
      rfl
  obtain ⟨hbrings, hwaits⟩ := EntersOpen.waits hopens ha
  change l.BringsOpen a at hbrings
  replace hwaits : (l.apply a).Waits c l.now (l.breaker.generation + 1) := hc ▸ hwaits
  refine ⟨hbrings, ?_, ?_, ?_⟩
  · intro hearly
    exact (hwaits.run hlater (asksBefore_of_now_lt hearly)).request_early hearly
  · intro hbefore
    have hm : m.Waits c l.now (l.breaker.generation + 1) := hwaits.run hlater hbefore
    refine ⟨⟨hm.state_eq, hm.generation_eq, hm.entered_eq⟩, ?_, ?_, ?_⟩
    · intro p duration failed
      rw [Breaker.complete_of_opened hm.state_eq, hm.config_eq]
    · exact Breaker.release_of_unprobed hm.unprobed
    · intro hdue
      refine ⟨{ m.breaker.enter .halfOpen m.now with probesIssued := 1 }, ?_, rfl, rfl, rfl, rfl,
        ?_⟩
      · rw [hm.request_due hdue, ← hm.generation_eq]
        rfl
      · rw [← hm.config_eq]
        rfl
  · exact run_keeps (I := fun l ↦ l.breaker.Mirrors) (fun _ a h ↦ mirrors_apply h a) rfl

/-- A single failure opens the breaker for a tenth of a second. -/
def touchy : BreakerConfig :=
  { slidingWindowSize := 1, minimumNumberOfCalls := 1, waitInOpenState := 100 }

/-- Three calls under way, of which the first one is about to fail. -/
def touchyCalls : List BreakerAction := [.request, .request, .request, .wait 40]

/-- A request too early, a late success, a permit given back, and a request just before the end. -/
def impatient : List BreakerAction :=
  [.request, .wait 99, .complete ⟨0, .closed⟩ 5 false, .release ⟨0, .closed⟩, .request]

/-- The breaker opens at 40, refuses requests until 139, and grants one at 140. -/
theorem touchy_opens_for_its_wait :
    let l := (new "touchy" touchy 0).run touchyCalls
    let opened := l.apply (.complete ⟨0, .closed⟩ 5 true)
    ((new "touchy" touchy 0).Follows KeepsSettings touchyCalls ∧
      l.KeepsSettings (.complete ⟨0, .closed⟩ 5 true) ∧
      l.EntersOpen (.complete ⟨0, .closed⟩ 5 true) ∧
      opened.Follows LeavesAlone (impatient ++ [.wait 1])) ∧
      (opened.run impatient).breaker.notPermitted = 2 ∧
      ((opened.run impatient).breaker.request 139).2 = none ∧
      ((opened.run (impatient ++ [.wait 1])).breaker.request 140).2 = some ⟨2, .halfOpen⟩ := by
  intro l opened
  have hearlier : (new "touchy" touchy 0).Follows KeepsSettings touchyCalls := by decide +kernel
  have hopens : l.EntersOpen (.complete ⟨0, .closed⟩ 5 true) := by decide +kernel
  have hlater : opened.Follows LeavesAlone (impatient ++ [.wait 1]) := by decide +kernel
  obtain ⟨-, hrefused, -⟩ := open_until_asked_after_wait "touchy" touchy 0 touchyCalls
    (.complete ⟨0, .closed⟩ 5 true) impatient hearlier trivial hopens (by decide +kernel)
  obtain ⟨-, -, hgranted, -⟩ := open_until_asked_after_wait "touchy" touchy 0 touchyCalls
    (.complete ⟨0, .closed⟩ 5 true) _ hearlier trivial hopens hlater
  have hbefore : opened.Follows (AsksBefore (l.now + touchy.waitInOpenState))
      (impatient ++ [.wait 1]) := by decide +kernel
  have hdue : l.now + touchy.waitInOpenState ≤ (opened.run (impatient ++ [.wait 1])).now := by
    decide +kernel
  obtain ⟨-, -, -, hnext⟩ := hgranted hbefore
  obtain ⟨b, hb, -, hgeneration, -⟩ := hnext hdue
  have hearly : (opened.run impatient).now = 139 := by decide +kernel
  have hlate : (opened.run (impatient ++ [.wait 1])).now = 140 := by decide +kernel
  refine ⟨⟨hearlier, trivial, hopens, hlater⟩, by decide +kernel, ?_, ?_⟩
  · rw [← hearly]
    exact congrArg Prod.snd (hrefused (by decide +kernel))
  · have hfirst : (opened.run (impatient ++ [.wait 1])).breaker.generation = 1 := by
      decide +kernel
    rw [← hlate, hb, hgeneration, hfirst]

end Ledger

end GuardedDispatch
