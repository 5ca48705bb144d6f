import GuardedDispatch.Proofs.Connector.Dropped
import GuardedDispatch.Proofs.Connector.Noted

/-!
# A connector that drains

The close that finds a connector running leads: it stops admission, and it closes the backend once
no call is inside or the drain timeout is over. No other close ever does. No call enters after the
lead began, so the calls inside can only become fewer, and a backend that is closed with no call
inside is never asked to send again.

Time passes only while every close has to wait, and not beyond the moment at which one moves by
itself. Then the backend is closed at the earlier of the two moments that the lead waits for. If the
drain timeout is over later than the clock can tell, the lead breaks off and leaves the connector
closing for good.
-/

namespace GuardedDispatch.Traffic

variable {β : Type} {t : Traffic (Noted β)} {i due : Nat}

/-- How often the backend was asked to close. -/
def closes (t : Traffic (Noted β)) : Nat := t.hooks.count .closeStarted

/-- How often the backend was asked to send. -/
def sends (t : Traffic (Noted β)) : Nat := t.hooks.count .sendStarted

/-! ### The close that leads -/

/-- Whether the close that leads can stand here, if its drain timeout is over at `due`. -/
def Leads (t : Traffic (Noted β)) (due : Nat) : Closing → Prop
  | .arriving | .withdrawn => False
  | .draining deadline => deadline = due ∧ t.closes = 0
  | .brokenOff => t.closes ≤ 1
  | .releasing _ | .done => t.closes = 1 ∧ (t.connector.inFlight = 0 ∨ due ≤ t.now)

/-- A connector that is being closed, or is closed, by the close with a number. -/
structure ClosedBy (t : Traffic (Noted β)) (i due : Nat) : Prop where
  shut : t.connector.status ≠ .running
  leads : ∃ closing, t.closings[i]? = some closing ∧ t.Leads due closing
  others : ∀ j closing, j ≠ i → t.closings[j]? = some closing → ¬closing.IsUnfinished

/-- A connector of which the close that leads still drains. -/
structure Drains (t : Traffic (Noted β)) (i due : Nat) : Prop extends ClosedBy t i due where
  draining : t.closings[i]? = some (.draining due)

/-- A connector of which the close that leads broke off before it asked the backend to close. -/
structure Stranded (t : Traffic (Noted β)) (i due : Nat) : Prop extends ClosedBy t i due where
  broke : t.closings[i]? = some .brokenOff
  closes_eq : t.closes = 0

/-- A connector that no close began to close. -/
structure Unclosed (t : Traffic (Noted β)) : Prop where
  running : t.connector.status = .running
  closes_eq : t.closes = 0
  waiting : ∀ closing ∈ t.closings, closing = .arriving ∨ closing = .withdrawn

variable [Backend β]

private theorem closes_applyNoted (t : Traffic (Noted β)) {e : TrafficEvent β}
    (he : ∀ j, e ≠ .moveClosing j) : (t.applyNoted e).closes = t.closes := by
  obtain ⟨steps, hasks, hhooks⟩ := t.asks_applyNoted e
  rw [closes, hhooks, List.count_append, ← closes]
  cases hasks with
  | nothing e => rfl
  | sent hcall hat hstep => obtain rfl | rfl := hstep <;> rfl
  | probed hstep => obtain rfl | rfl := hstep <;> rfl
  | released hclosing hwhen | closed hclosing => exact absurd rfl (he _)

/-- What an event does to the closes: the one that is to take its step has to wait or takes it. At
every other event none takes a step, and the backend is not asked to close. -/
inductive Turned (t : Traffic (Noted β)) : TrafficEvent β → Traffic (Noted β) → Prop
  | waited (j : Nat) : Turned t (.moveClosing j) t
  | stepped {j : Nat} {closing closing' : Closing} {c : Connector (Noted β)}
      (hclosing : t.closings[j]? = some closing)
      (hstep : t.connector.CloseStep t.now closing c closing') :
      Turned t (.moveClosing j) { t with connector := c, closings := t.closings.set j closing' }
  | lived {e : TrafficEvent β} {t' : Traffic (Noted β)} (hother : ∀ j, e ≠ .moveClosing j)
      (hlives : t.LivesOn e.takes? t') (hcloses : t'.closes = t.closes) : Turned t e t'

/-- Every event turns the traffic so. -/
theorem turned_applyNoted (t : Traffic (Noted β)) (e : TrafficEvent β) :
    t.Turned e (t.applyNoted e) := by
  by_cases he : ∃ j, e = .moveClosing j
  · obtain ⟨j, rfl⟩ := he
    obtain hstays | ⟨closing, c, closing', hclosing, hstep, hmoved⟩ := t.applyNoted_moveClosing j
    · rw [hstays]
      exact .waited j
    · rw [hmoved]
      exact .stepped hclosing hstep
  · have hother : ∀ j, e ≠ .moveClosing j := fun j hj ↦ he ⟨j, hj⟩
    exact .lived hother (t.livesOn_applyNoted hother) (t.closes_applyNoted hother)

omit [Backend β] in
private theorem Leads.livesOn {t' : Traffic (Noted β)} {taken? : Option Nat} {closing : Closing}
    (h : t.Leads due closing) (hshut : t.connector.status ≠ .running) (hlives : t.LivesOn taken? t')
    (hcloses : t'.closes = t.closes) : t'.Leads due (closing.left taken? i) := by
  have hkept : t'.Leads due closing := by
    cases closing with
    | arriving | withdrawn => exact h
    | draining deadline => exact ⟨h.1, hcloses.trans h.2⟩
    | brokenOff => exact hcloses.trans_le h
    | releasing _ | done =>
      refine ⟨hcloses.trans h.1, h.2.imp (fun hzero ↦ ?_) hlives.now_le.trans'⟩
      exact Nat.le_zero.mp (hzero ▸ hlives.connector.inFlight_le hshut)
  unfold Closing.left
  split
  · cases closing with
    | arriving | withdrawn | brokenOff | done => exact hkept
    | draining deadline => exact hkept.2.trans_le (Nat.zero_le 1)
    | releasing _ => exact hkept.1.le
  · exact hkept

omit [Backend β] in
private theorem ClosedBy.livesOn {t' : Traffic (Noted β)} {taken? : Option Nat}
    (h : t.ClosedBy i due)
    (hlives : t.LivesOn taken? t') (hcloses : t'.closes = t.closes) : t'.ClosedBy i due := by
  obtain ⟨lead, hlead, hleads⟩ := h.leads
  refine ⟨hlives.connector.status_eq ▸ h.shut,
    ⟨_, hlives.closings.old hlead, hleads.livesOn h.shut hlives hcloses⟩, fun j closing hji hj ↦ ?_⟩
  obtain rfl | ⟨old, hold, rfl⟩ := hlives.closings.new hj
  · exact id
  · rw [Closing.isUnfinished_left]
    exact h.others j old hji hold

private theorem ClosedBy.leadStep (h : t.ClosedBy i due) {closing closing' : Closing}
    {c : Connector (Noted β)} (hclosing : t.closings[i]? = some closing)
    (hstep : t.connector.CloseStep t.now closing c closing') :
    ClosedBy { t with connector := c, closings := t.closings.set i closing' } i due := by
  obtain ⟨lead, hlead, hleads⟩ := h.leads
  obtain rfl := Option.some.inj (hlead.symm.trans hclosing)
  have hothers : ∀ j other, j ≠ i → (t.closings.set i closing')[j]? = some other →
      ¬other.IsUnfinished := by
    intro j other hji hj
    rw [List.getElem?_set_ne (Ne.symm hji)] at hj
    exact h.others j other hji hj
  have hnew : (t.closings.set i closing')[i]? = some closing' := getElem?_set_of_some hlead _
  cases hstep with
  | began hrun hfits | failed hrun hlate | returned hrun => exact hleads.elim
  | released hwhen =>
    obtain ⟨rfl, hzero⟩ := hleads
    refine ⟨h.shut, ⟨_, hnew, ?_, hwhen⟩, hothers⟩
    change (t.hooks ++ [HookStep.closeStarted]).count HookStep.closeStarted = 1
    rw [List.count_append, ← closes, hzero]
    rfl
  | closed hends =>
    refine ⟨(nomatch ·), ⟨_, hnew, ?_, hleads.2⟩, hothers⟩
    change (t.hooks ++ [HookStep.closeFinished]).count HookStep.closeStarted = 1
    rw [List.count_append, ← closes, hleads.1]
    rfl

/-- A close that does not lead finds that the connector does not run, and returns. -/
theorem ClosedBy.returned (h : t.ClosedBy i due) {j : Nat} (hji : j ≠ i)
    {closing closing' : Closing} {c : Connector (Noted β)} (hclosing : t.closings[j]? = some closing)
    (hstep : t.connector.CloseStep t.now closing c closing') :
    c = t.connector ∧ closing' = .done := by
  have hidle := h.others j closing hji hclosing
  cases hstep with
  | began hrun hfits | failed hrun hlate => exact absurd hrun h.shut
  | returned hrun => exact ⟨rfl, rfl⟩
  | released hwhen | closed hends => exact absurd trivial hidle

private theorem ClosedBy.otherStep (h : t.ClosedBy i due) {j : Nat} (hji : j ≠ i)
    {closing closing' : Closing} {c : Connector (Noted β)} (hclosing : t.closings[j]? = some closing)
    (hstep : t.connector.CloseStep t.now closing c closing') :
    ClosedBy { t with connector := c, closings := t.closings.set j closing' } i due := by
  obtain ⟨lead, hlead, hleads⟩ := h.leads
  obtain ⟨rfl, rfl⟩ := h.returned hji hclosing hstep
  refine ⟨h.shut, ⟨lead, ?_, ?_⟩, ?_⟩
  · rw [List.getElem?_set_ne hji, hlead]
  · cases lead <;> exact hleads
  · intro k other hki hk
    by_cases hjk : j = k
    · subst hjk
      rw [getElem?_set_of_some hclosing] at hk
      obtain rfl := Option.some.inj hk
      exact id
    · rw [List.getElem?_set_ne hjk] at hk
      exact h.others k other hki hk

/-- A connector that is being closed is closed by the same close after every event. -/
theorem ClosedBy.apply (h : t.ClosedBy i due) (e : TrafficEvent β) :
    (t.applyNoted e).ClosedBy i due := by
  have hturned := t.turned_applyNoted e
  generalize t.applyNoted e = t' at hturned ⊢
  cases hturned with
  | waited j => exact h
  | @stepped j closing closing' c hclosing hstep =>
    by_cases hji : j = i
    · subst hji
      exact h.leadStep hclosing hstep
    · exact h.otherStep hji hclosing hstep
  | lived hother hlives hcloses => exact h.livesOn hlives hcloses

/-- The close that takes its step while a connector runs begins to close it. -/
theorem Unclosed.begun (h : t.Unclosed) (hi : t.closings[i]? = some .arriving) :
    let due := t.now + t.connector.drainTimeout
    t.applyNoted (.moveClosing i) =
      { t with
        connector := t.connector.beginClosing
        closings := t.closings.set i (if due ≤ lastMoment then .draining due else .brokenOff) } := by
  intro due
  simp only [applyNoted, TrafficEvent.noted, Traffic.apply, hi, Option.bind_some,
    Connector.stepClosing?, h.running, if_true, due]

/-- The close that takes its step while a connector runs leads. -/
theorem Unclosed.closedBy (h : t.Unclosed) (hi : t.closings[i]? = some .arriving) :
    (t.applyNoted (.moveClosing i)).ClosedBy i (t.now + t.connector.drainTimeout) := by
  rw [h.begun hi]
  refine ⟨(nomatch ·), ⟨_, getElem?_set_of_some hi _, ?_⟩, fun j closing hji hj ↦ ?_⟩
  · split
    · exact ⟨rfl, h.closes_eq⟩
    · exact h.closes_eq.trans_le (Nat.zero_le 1)
  · rw [List.getElem?_set_ne (Ne.symm hji)] at hj
    obtain rfl | rfl := h.waiting closing (List.mem_of_getElem? hj)
    · exact id
    · exact id

private theorem Unclosed.drains (h : t.Unclosed) (hi : t.closings[i]? = some .arriving)
    (hfits : t.now + t.connector.drainTimeout ≤ lastMoment) :
    (t.applyNoted (.moveClosing i)).Drains i (t.now + t.connector.drainTimeout) where
  toClosedBy := h.closedBy hi
  draining := by
    rw [h.begun hi, if_pos hfits]
    exact getElem?_set_of_some hi _

private theorem Unclosed.stranded (h : t.Unclosed) (hi : t.closings[i]? = some .arriving)
    (hlate : lastMoment < t.now + t.connector.drainTimeout) :
    (t.applyNoted (.moveClosing i)).Stranded i (t.now + t.connector.drainTimeout) where
  toClosedBy := h.closedBy hi
  broke := by
    rw [h.begun hi, if_neg (Nat.not_le_of_lt hlate)]
    exact getElem?_set_of_some hi _
  closes_eq := by
    rw [h.begun hi]
    exact h.closes_eq

/-- While a connector runs no close began, until one takes its step. -/
theorem Unclosed.apply (h : t.Unclosed) (e : TrafficEvent β) :
    (t.applyNoted e).Unclosed ∨ ∃ i, e = .moveClosing i ∧ t.closings[i]? = some .arriving := by
  have hturned := t.turned_applyNoted e
  generalize t.applyNoted e = t' at hturned ⊢
  cases hturned with
  | waited j => exact .inl h
  | stepped hclosing hstep =>
    obtain rfl | rfl := h.waiting _ (List.mem_of_getElem? hclosing)
    · exact .inr ⟨_, rfl, hclosing⟩
    · cases hstep
  | lived hother hlives hcloses =>
    refine .inl ⟨hlives.connector.status_eq.trans h.running, hcloses.trans h.closes_eq,
      fun closing hclosing ↦ ?_⟩
    obtain ⟨j, hj⟩ := List.mem_iff_getElem?.mp hclosing
    obtain hnew | ⟨old, hold, rfl⟩ := hlives.closings.new hj
    · exact .inl hnew
    · unfold Closing.left
      obtain rfl | rfl := h.waiting old (List.mem_of_getElem? hold)
      · split
        · exact .inr rfl
        · exact .inl rfl
      · split <;> exact .inr rfl

/-- Nobody closed a new connector. Later that is so, or what holds once a close took its first step,
and is kept by every event, holds. -/
theorem unclosed_or {I : Traffic (Noted β) → Prop}
    (hbegan : ∀ (t : Traffic (Noted β)) i, t.Unclosed → t.closings[i]? = some .arriving →
      I (t.applyNoted (.moveClosing i)))
    (hstep : ∀ t e, I t → I (t.applyNoted e)) (backend : β) (config : StackConfig)
    (drainTimeout : Nat) (healthContext? : Option CallContext) (start : Nat)
    (events : List (TrafficEvent β)) :
    let t := (new ⟨backend, []⟩ config drainTimeout healthContext? start).runNoted events
    t.Unclosed ∨ I t := by
  refine runNoted_keeps (I := fun t ↦ t.Unclosed ∨ I t) (fun t e h ↦ ?_)
    (.inl ⟨rfl, rfl, fun _ hm ↦ absurd hm List.not_mem_nil⟩) events
  obtain h | h := h
  · obtain hopen | ⟨i, rfl, hi⟩ := h.apply e
    · exact .inl hopen
    · exact .inr (hbegan t i h hi)
  · exact .inr (hstep t e h)

private theorem unclosed_or_closedBy (backend : β) (config : StackConfig) (drainTimeout : Nat)
    (healthContext? : Option CallContext) (start : Nat) (events : List (TrafficEvent β)) :
    let t := (new ⟨backend, []⟩ config drainTimeout healthContext? start).runNoted events
    t.Unclosed ∨ ∃ i due, t.ClosedBy i due :=
  unclosed_or (I := fun t ↦ ∃ i due, t.ClosedBy i due)
    (fun _ i h hi ↦ ⟨i, _, h.closedBy hi⟩)
    (fun _ e ⟨i, due, h⟩ ↦ ⟨i, due, h.apply e⟩)
    backend config drainTimeout healthContext? start events

/-- A connector that is being closed is closed by the same close after every run. -/
theorem ClosedBy.run (h : t.ClosedBy i due) (events : List (TrafficEvent β)) :
    (t.runNoted events).ClosedBy i due :=
  runNoted_keeps (I := fun u ↦ u.ClosedBy i due) (fun _ e hu ↦ hu.apply e) h events

private theorem ClosedBy.lead_of_closes (h : t.ClosedBy i due) {e : TrafficEvent β}
    (he : (t.applyNoted e).closes ≠ t.closes) :
    e = .moveClosing i ∧ t.closes = 0 ∧ (t.connector.inFlight = 0 ∨ due ≤ t.now) := by
  obtain ⟨lead, hlead, hleads⟩ := h.leads
  obtain ⟨steps, hasks, hhooks⟩ := t.asks_applyNoted e
  rw [closes, hhooks, List.count_append, ← closes] at he
  cases hasks with
  | nothing e | closed hclosing => exact absurd rfl he
  | sent hcall hat hstep | probed hstep => obtain rfl | rfl := hstep <;> exact absurd rfl he
  | @released j deadline hclosing hwhen =>
    by_cases hji : j = i
    · subst hji
      obtain rfl := Option.some.inj (hlead.symm.trans hclosing)
      obtain ⟨rfl, hzero⟩ := hleads
      exact ⟨rfl, hzero, hwhen⟩
    · exact absurd trivial (h.others j _ hji hclosing)

/-- A lead that broke off stays where it is, and the backend is not asked to close any more. -/
theorem Stranded.apply (h : t.Stranded i due) (e : TrafficEvent β) :
    (t.applyNoted e).Stranded i due := by
  have hclosed := h.toClosedBy.apply e
  have hturned := t.turned_applyNoted e
  generalize t.applyNoted e = t' at hclosed hturned ⊢
  cases hturned with
  | waited j => exact h
  | @stepped j closing closing' c hclosing hstep =>
    have hji : j ≠ i := by
      rintro rfl
      obtain rfl := Option.some.inj (h.broke.symm.trans hclosing)
      cases hstep
    obtain ⟨rfl, -⟩ := h.returned hji hclosing hstep
    exact ⟨hclosed, (List.getElem?_set_ne hji).trans h.broke, h.closes_eq⟩
  | lived hother hlives hcloses =>
    refine ⟨hclosed, ?_, hcloses.trans h.closes_eq⟩
    rw [hlives.closings.old h.broke, Closing.left]
    split <;> rfl

/-- A lead that broke off stays where it is in every run. -/
theorem Stranded.run (h : t.Stranded i due) (events : List (TrafficEvent β)) :
    (t.runNoted events).Stranded i due :=
  runNoted_keeps (I := fun u ↦ u.Stranded i due) (fun _ e hu ↦ hu.apply e) h events

/-! ### After the drain -/

/-- A connector that is being closed and has no call inside. -/
structure Vacant (t : Traffic (Noted β)) : Prop where
  balanced : t.Balanced
  shut : t.connector.status ≠ .running
  empty : t.connector.inFlight = 0

omit [Backend β] in
private theorem Vacant.places_eq (h : t.Vacant) : t.places = [] :=
  List.eq_nil_of_length_eq_zero (h.balanced.inFlight_eq.symm.trans h.empty)

/-- Nobody comes inside any more. -/
theorem Vacant.apply (h : t.Vacant) (e : TrafficEvent β) : (t.applyNoted e).Vacant := by
  obtain ⟨hshut, hle⟩ := t.shut_apply h.shut (e.noted t.hooks)
  exact ⟨h.balanced.apply _, hshut, Nat.le_zero.mp (h.empty ▸ hle)⟩

/-- Nobody is there who could send. -/
theorem Vacant.sends_apply (h : t.Vacant) (e : TrafficEvent β) :
    (t.applyNoted e).sends = t.sends := by
  obtain ⟨steps, hasks, hhooks⟩ := t.asks_applyNoted e
  rw [sends, hhooks, List.count_append, ← sends]
  cases hasks with
  | nothing e | released hclosing hwhen | closed hclosing => rfl
  | probed hstep => obtain rfl | rfl := hstep <;> rfl
  | @sent j call inner step hcall hat hstep =>
    have hplace : inner.phase ∈ t.places := by
      refine List.mem_filterMap.mpr
        ⟨some call, List.mem_of_getElem? (Option.join_eq_some_iff.mp hcall), ?_⟩
      rw [Option.bind_some, ConnectorCall.place?, hat]
    rw [h.places_eq] at hplace
    cases hplace

/-- Nobody sends any more. -/
theorem Vacant.sends_run (h : t.Vacant) (events : List (TrafficEvent β)) :
    (t.runNoted events).sends = t.sends :=
  (runNoted_keeps (I := fun u ↦ u.Vacant ∧ u.sends = t.sends)
    (fun _ e hu ↦ ⟨hu.1.apply e, (hu.1.sends_apply e).trans hu.2⟩) ⟨h, rfl⟩ events).2

/-! ### The moment of closing -/

/-- Whether some time may pass: every close has to wait, and none moves by itself before. -/
def LetsPass (t : Traffic (Noted β)) (duration : Nat) : Prop :=
  ∀ closing ∈ t.closings, t.connector.stepClosing? t.now closing = none ∧
    ∀ moment, closing.wakeAt? = some moment → t.now + duration ≤ moment

/-- A run in which time passes only while it may. -/
def Punctual : Traffic (Noted β) → List (TrafficEvent β) → Prop
  | _, [] => True
  | t, e :: rest => (0 < e.duration → t.LetsPass e.duration) ∧ Punctual (t.applyNoted e) rest

/-- The first moment of a run at which something holds, if it ever does. -/
def moment? (p : Traffic (Noted β) → Bool) : Traffic (Noted β) → List (TrafficEvent β) → Option Nat
  | t, [] => if p t then some t.now else none
  | t, e :: rest => if p t then some t.now else moment? p (t.applyNoted e) rest

private theorem now_le_of_moment? {p : Traffic (Noted β) → Bool} {events : List (TrafficEvent β)}
    {moment : Nat} (h : moment? p t events = some moment) : t.now ≤ moment := by
  induction events generalizing t with
  | nil =>
    rw [moment?] at h
    split at h <;> cases h
    exact Nat.le_refl _
  | cons e rest ih =>
    rw [moment?] at h
    split at h
    · cases h
      exact Nat.le_refl _
    · have hle := ih h
      rw [now_applyNoted] at hle
      omega

omit [Backend β] in
private theorem Drains.closes_eq (h : t.Drains i due) : t.closes = 0 := by
  obtain ⟨lead, hlead, hleads⟩ := h.leads
  obtain rfl := Option.some.inj (hlead.symm.trans h.draining)
  exact hleads.2

/-- A lead that drains goes on to drain, unless it is taken away, or takes its step and need not
wait. -/
theorem Drains.apply (h : t.Drains i due) (e : TrafficEvent β) :
    (t.applyNoted e).Drains i due ∨ (t.applyNoted e).Stranded i due ∨
      e = .moveClosing i ∧ (t.applyNoted e).closes = 1 ∧
        (t.connector.inFlight = 0 ∨ due ≤ t.now) := by
  have hclosed := h.toClosedBy.apply e
  have hturned := t.turned_applyNoted e
  generalize t.applyNoted e = t' at hclosed hturned ⊢
  cases hturned with
  | waited j => exact .inl h
  | @stepped j closing closing' c hclosing hstep =>
    by_cases hji : j = i
    · subst hji
      obtain rfl := Option.some.inj (h.draining.symm.trans hclosing)
      obtain ⟨lead, hlead, hleads⟩ := hclosed.leads
      obtain rfl := Option.some.inj (hlead.symm.trans (getElem?_set_of_some hclosing closing'))
      cases hstep with
      | released hwhen => exact .inr (.inr ⟨rfl, hleads.1, hwhen⟩)
    · exact .inl ⟨hclosed, (List.getElem?_set_ne hji).trans h.draining⟩
  | lived hother hlives hcloses =>
    have hleft := hlives.closings.old h.draining
    by_cases htaken : e.takes? = some i
    · rw [Closing.left, if_pos htaken] at hleft
      exact .inr (.inl ⟨hclosed, hleft, hcloses.trans h.closes_eq⟩)
    · rw [Closing.left, if_neg htaken] at hleft
      exact .inl ⟨hclosed, hleft⟩

/-- Whether the backend was asked to close. -/
def isReleased (t : Traffic (Noted β)) : Bool := 0 < t.closes

/-- Whether no call is inside. -/
def isEmpty (t : Traffic (Noted β)) : Bool := t.connector.inFlight == 0

private theorem Stranded.moment?_released (h : t.Stranded i due) (events : List (TrafficEvent β)) :
    moment? isReleased t events = none := by
  induction events generalizing t with
  | nil => rw [moment?, isReleased, h.closes_eq]; rfl
  | cons e rest ih =>
    rw [moment?, isReleased, h.closes_eq]
    exact ih (h.apply e)

private theorem LetsPass.of_drains {duration : Nat} (hpass : t.LetsPass duration)
    (h : t.Drains i due) :
    t.connector.inFlight ≠ 0 ∧ t.now + duration ≤ due := by
  obtain ⟨hwait, hnext⟩ := hpass _ (List.mem_of_getElem? h.draining)
  exact ⟨(Connector.stepClosing?_draining_eq_none.mp hwait).1, hnext due rfl⟩

private theorem Drains.moment?_of_ready (h : t.Drains i due)
    (hready : t.connector.inFlight = 0 ∨ due ≤ t.now) {events : List (TrafficEvent β)}
    (hpunctual : t.Punctual events) {moment : Nat}
    (hreleased : moment? isReleased t events = some moment) : moment = t.now := by
  induction events generalizing t with
  | nil =>
    rw [moment?, isReleased, h.closes_eq] at hreleased
    cases hreleased
  | cons e rest ih =>
    rw [moment?, isReleased, h.closes_eq] at hreleased
    replace hreleased : moment? isReleased (t.applyNoted e) rest = some moment := hreleased
    -- A lead that need not wait stays so: no call enters, and no time passes before it moves.
    have hstill : (t.applyNoted e).now = t.now := by
      rw [now_applyNoted]
      by_contra hpasses
      obtain ⟨hin, hdue⟩ := (hpunctual.1 (by omega)).of_drains h
      obtain hzero | hle := hready
      · exact hin hzero
      · omega
    obtain hdrains | hstranded | ⟨-, hone, -⟩ := h.apply e
    · have hready' : (t.applyNoted e).connector.inFlight = 0 ∨ due ≤ (t.applyNoted e).now := by
        refine hready.imp (fun hzero ↦ ?_) (hstill ▸ ·)
        exact Nat.le_zero.mp (hzero ▸ (t.shut_apply h.shut _).2)
      exact (ih hdrains hready' hpunctual.2 hreleased).trans hstill
    · rw [hstranded.moment?_released] at hreleased
      cases hreleased
    · have hnow : moment? isReleased (t.applyNoted e) rest = some (t.applyNoted e).now := by
        cases rest <;> rw [moment?, isReleased, hone] <;> rfl
      rw [hnow] at hreleased
      exact (Option.some.inj hreleased).symm.trans hstill

private theorem Drains.earlier?_of_ready (h : t.Drains i due) (hearly : t.now ≤ due)
    (hready : t.connector.inFlight = 0 ∨ due ≤ t.now) {events : List (TrafficEvent β)}
    (hpunctual : t.Punctual events) {moment : Nat}
    (hreleased : moment? isReleased t events = some moment) :
    Stack.earlier? (moment? isEmpty t events) (some due) = some moment := by
  obtain rfl := h.moment?_of_ready hready hpunctual hreleased
  by_cases hzero : t.connector.inFlight = 0
  · have hempty : moment? isEmpty t events = some t.now := by
      cases events <;> rw [moment?, isEmpty, hzero] <;> rfl
    rw [hempty, Stack.earlier?, Nat.min_eq_left hearly]
  · have hdue : due = t.now := Nat.le_antisymm (hready.resolve_left hzero) hearly
    cases hempty : moment? isEmpty t events with
    | none =>
      rw [hdue]
      rfl
    | some m => rw [hdue, Stack.earlier?, Nat.min_eq_right (now_le_of_moment? hempty)]

private theorem Drains.moment?_released (h : t.Drains i due) (hearly : t.now ≤ due)
    {events : List (TrafficEvent β)} (hpunctual : t.Punctual events) {moment : Nat}
    (hreleased : moment? isReleased t events = some moment) :
    Stack.earlier? (moment? isEmpty t events) (some due) = some moment := by
  induction events generalizing t with
  | nil =>
    rw [moment?, isReleased, h.closes_eq] at hreleased
    cases hreleased
  | cons e rest ih =>
    by_cases hready : t.connector.inFlight = 0 ∨ due ≤ t.now
    · exact h.earlier?_of_ready hearly hready hpunctual hreleased
    · -- Neither of the two moments has come, so both searches go on with the rest of the run.
      have hin : t.isEmpty = false := beq_false_of_ne (not_or.mp hready).1
      have hnot : t.isReleased = false := by rw [isReleased, h.closes_eq]; rfl
      rw [moment?, hnot] at hreleased
      rw [moment?, hin]
      obtain hdrains | hstranded | ⟨-, -, hwhen⟩ := h.apply e
      · refine ih hdrains ?_ hpunctual.2 hreleased
        rw [now_applyNoted]
        obtain hzero | hpos := Nat.eq_zero_or_pos e.duration
        · omega
        · exact ((hpunctual.1 hpos).of_drains h).2
      · replace hreleased : moment? isReleased (t.applyNoted e) rest = some moment := hreleased
        rw [hstranded.moment?_released] at hreleased
        cases hreleased
      · exact absurd hwhen hready

/-- A lead that nobody takes away does not break off once it drains. -/
theorem ClosedBy.whole_apply (h : t.ClosedBy i due) (hwhole : t.closings[i]? ≠ some .brokenOff)
    {e : TrafficEvent β} (hkept : e ≠ .dropClosing i) :
    (t.applyNoted e).closings[i]? ≠ some .brokenOff := by
  obtain ⟨lead, hlead, hleads⟩ := h.leads
  have hturned := t.turned_applyNoted e
  generalize t.applyNoted e = t' at hturned ⊢
  cases hturned with
  | waited j => exact hwhole
  | @stepped j closing closing' c hclosing hstep =>
    by_cases hji : j = i
    · subst hji
      obtain rfl := Option.some.inj (hlead.symm.trans hclosing)
      rw [getElem?_set_of_some hlead]
      cases hstep with
      | began hrun hfits | failed hrun hlate | returned hrun => exact hleads.elim
      | released hwhen | closed hends => exact (nomatch ·)
    · rw [List.getElem?_set_ne hji]
      exact hwhole
  | lived hother hlives hcloses =>
    rw [hlives.closings.old hlead, Closing.left, if_neg (hkept <| e.takes?_eq_some.mp ·), ← hlead]
    exact hwhole

/-- A lead that nobody takes away does not break off in a run once it drains. -/
theorem ClosedBy.whole_run (h : t.ClosedBy i due) (hwhole : t.closings[i]? ≠ some .brokenOff)
    {events : List (TrafficEvent β)} (hkept : .dropClosing i ∉ events) :
    (t.runNoted events).closings[i]? ≠ some .brokenOff := by
  induction events generalizing t with
  | nil => exact hwhole
  | cons e rest ih =>
    obtain ⟨hne, hrest⟩ := not_or.mp (List.mem_cons.not.mp hkept)
    exact ih (h.apply e) (h.whole_apply hwhole (Ne.symm hne)) hrest

/-- While every close has to wait, the backend was asked to close exactly if no call is inside or
the drain timeout is over, unless the lead broke off. -/
theorem ClosedBy.closes_eq_one_iff (h : t.ClosedBy i due)
    (hwhole : t.closings[i]? ≠ some .brokenOff) (hsettled : t.LetsPass 0) :
    t.closes = 1 ↔ t.connector.inFlight = 0 ∨ due ≤ t.now := by
  obtain ⟨lead, hlead, hleads⟩ := h.leads
  cases lead with
  | arriving | withdrawn => exact hleads.elim
  | brokenOff => exact absurd hlead hwhole
  | draining deadline =>
    obtain ⟨rfl, hzero⟩ := hleads
    obtain ⟨hwait, -⟩ := hsettled _ (List.mem_of_getElem? hlead)
    obtain ⟨hin, hearly⟩ := Connector.stepClosing?_draining_eq_none.mp hwait
    rw [hzero]
    omega
  | releasing _ | done => exact ⟨fun _ ↦ hleads.2, fun _ ↦ hleads.1⟩

omit [Backend β] in
/-- The lead asks the backend to close once. -/
theorem ClosedBy.closes_le_one (h : t.ClosedBy i due) : t.closes ≤ 1 := by
  obtain ⟨lead, -, hleads⟩ := h.leads
  cases lead with
  | arriving | withdrawn => exact hleads.elim
  | brokenOff => exact hleads
  | draining deadline => exact hleads.2 ▸ Nat.zero_le 1
  | releasing _ | done => exact Nat.le_of_eq hleads.1

private theorem balanced_runNoted (h : t.Balanced) (events : List (TrafficEvent β)) :
    (t.runNoted events).Balanced :=
  runNoted_keeps (I := Balanced) (fun u e hu ↦ hu.apply (e.noted u.hooks)) h events

/-- A backend is closed once, by the first close of its connector, when no call is inside or the
drain timeout is over: while time passes only where it may, exactly at the earlier of the two
moments. It is closed as soon as one of them has come exactly if the clock can tell the moment at
which the drain timeout is over; if it cannot, the first close breaks off and the backend is never
closed. Every call that comes after that close began is answered as unavailable at once, and neither
the policies nor the backend learn of it. If no call was inside when the backend was closed, the
backend is never asked to send again. -/
theorem closed_once_at_end_of_drain (backend : β) (config : StackConfig) (drainTimeout : Nat)
    (healthContext? : Option CallContext) (start : Nat) (events : List (TrafficEvent β)) :
    let t := (new ⟨backend, []⟩ config drainTimeout healthContext? start).runNoted events
    t.bare = (new backend config drainTimeout healthContext? start).run events ∧
      t.closes ≤ 1 ∧ (t.connector.status = .running → t.closes = 0) ∧
      ∀ i, t.connector.status = .running → t.closings[i]? = some .arriving →
        let begun := t.applyNoted (.moveClosing i)
        let due := t.now + drainTimeout
        ∀ later,
          let u := begun.runNoted later
          (∀ e, (u.applyNoted e).closes ≠ u.closes →
            e = .moveClosing i ∧ (u.connector.inFlight = 0 ∨ due ≤ u.now) ∧
              (u.connector.inFlight = 0 → u.places = [] ∧
                ∀ more, ((u.applyNoted e).runNoted more).sends = u.sends)) ∧
            (begun.Punctual later → ∀ moment, moment? isReleased begun later = some moment →
              Stack.earlier? (moment? isEmpty begun later) (some due) = some moment) ∧
            (.dropClosing i ∉ later → u.LetsPass 0 →
              (u.closes = 1 ↔ due ≤ lastMoment ∧ (u.connector.inFlight = 0 ∨ due ≤ u.now))) ∧
            (lastMoment < due → u.closes = 0 ∧ u.closings[i]? = some .brokenOff) ∧
            ∀ j call, u.call? j = some call → call.stage = .arriving →
              call.request.kind = u.connector.kind → ∃ e : ConnectorFailure,
                e.kind = .unavailable ∧ u.applyNoted (.move j) =
                  { u with
                    connector := { u.connector with
                      callsTotal := u.connector.callsTotal + 1
                      callsFailed := u.connector.callsFailed + 1 }
                    calls := u.calls.set j (some { call with stage := .answered (.error e) }) } := by
  intro t
  have hlife := unclosed_or_closedBy backend config drainTimeout healthContext? start events
  have hunclosed (hrun : t.connector.status = .running) : t.Unclosed :=
    hlife.resolve_right fun ⟨_, _, hclosed⟩ ↦ hclosed.shut hrun
  have hbalanced : t.Balanced :=
    balanced_runNoted (balanced_new _ config drainTimeout healthContext? start) events
  have htimeout : t.connector.drainTimeout = drainTimeout :=
    runNoted_keeps (I := fun u ↦ u.connector.drainTimeout = drainTimeout)
      (fun u e hu ↦ (u.drainTimeout_apply (e.noted u.hooks)).trans hu) rfl events
  refine ⟨bare_runNoted _ events, ?_, fun hrun ↦ (hunclosed hrun).closes_eq, ?_⟩
  · obtain hopen | ⟨i, due, hclosed⟩ := hlife
    · exact Nat.le_succ_of_le (Nat.le_of_eq hopen.closes_eq)
    · exact hclosed.closes_le_one
  · intro i hrun hi begun due later u
    have hopen := hunclosed hrun
    have hdue : t.now + t.connector.drainTimeout = due := by rw [htimeout]
    have hclosed : u.ClosedBy i due := hdue ▸ (hopen.closedBy hi).run later
    have hdrains (hfits : due ≤ lastMoment) : begun.Drains i due :=
      hdue ▸ hopen.drains hi (hdue ▸ hfits)
    have hstranded (hlate : lastMoment < due) : begun.Stranded i due :=
      hdue ▸ hopen.stranded hi (hdue ▸ hlate)
    have hstart : begun.now ≤ due := by
      have hnow : begun.now = t.now := t.now_applyNoted (.moveClosing i)
      omega
    refine ⟨fun e he ↦ ?_, fun hpunctual moment hreleased ↦ ?_, fun hkept hsettled ↦ ?_,
      fun hlate ↦ ?_, fun j call hcall hat hkind ↦ u.apply_move_refused hclosed.shut hcall hat hkind⟩
    · obtain ⟨he, -, hwhen⟩ := hclosed.lead_of_closes he
      refine ⟨he, hwhen, fun hempty ↦ ?_⟩
      have hvacant : u.Vacant :=
        ⟨balanced_runNoted (hbalanced.apply _) later, hclosed.shut, hempty⟩
      exact ⟨hvacant.places_eq, fun more ↦
        ((hvacant.apply e).sends_run more).trans (hvacant.sends_apply e)⟩
    · by_cases hfits : due ≤ lastMoment
      · exact (hdrains hfits).moment?_released hstart hpunctual hreleased
      · rw [(hstranded (Nat.lt_of_not_le hfits)).moment?_released] at hreleased
        cases hreleased
    · by_cases hfits : due ≤ lastMoment
      · have hdraining := (hdrains hfits).draining
        have hwhole : begun.closings[i]? ≠ some .brokenOff := by
          rw [hdraining]
          exact (nomatch ·)
        have hleads := (hdrains hfits).toClosedBy
        rw [hclosed.closes_eq_one_iff (hleads.whole_run hwhole hkept) hsettled, and_iff_right hfits]
      · have hzero := ((hstranded (Nat.lt_of_not_le hfits)).run later).closes_eq
        exact ⟨fun hone ↦ (nomatch hzero.symm.trans hone), fun h ↦ absurd h.1 hfits⟩
    · have hbroken := (hstranded hlate).run later
      exact ⟨hbroken.closes_eq, hbroken.broke⟩

/-- A call that takes a hundred milliseconds is sent, and somebody comes to close. -/
def slowEvents : List (TrafficEvent MockBackend) :=
  [.arrive .sync (.http { method := .get, path := "/", query := [], headers := ∅, body? := none,
                          correlationId? := none }) { endpoint := "http://backend" },
    .move 0, .move 0, .move 0, .move 0, .close]

/-- A connector without policies that drains for thirty milliseconds, with the slow call inside. -/
def slow : Traffic (Noted MockBackend) :=
  (new ⟨{ kind := .http, latency? := some 100 }, []⟩ .passthrough 30 none 0).runNoted slowEvents

/-- The drain ends at its timeout, with the call still inside. -/
theorem closed_once_at_drain_timeout :
    let begun := slow.applyNoted (.moveClosing 0)
    let later : List (TrafficEvent MockBackend) := [.wait 30, .moveClosing 0]
    slow.connector.inFlight = 1 ∧ moment? isReleased begun later = some 30 ∧
      moment? isEmpty begun later = none ∧
      Stack.earlier? (moment? isEmpty begun later) (some 30) = some 30 := by
  intro begun later
  have hclosings : begun.closings = [.draining 30] := by decide +kernel
  have hinside : begun.connector.inFlight ≠ 0 ∧ begun.now = 0 := by decide +kernel
  have hpunctual : begun.Punctual later := by
    refine ⟨fun _ closing hclosing ↦ ?_, fun h ↦ absurd h (Nat.lt_irrefl 0), trivial⟩
    rw [hclosings] at hclosing
    obtain rfl := List.mem_singleton.mp hclosing
    refine ⟨Connector.stepClosing?_draining_eq_none.mpr ⟨hinside.1, by omega⟩, fun moment h ↦ ?_⟩
    cases h
    rw [hinside.2]
    exact Nat.le_refl _
  have hreleased : moment? isReleased begun later = some 30 := by decide +kernel
  obtain ⟨-, -, -, hlead⟩ := closed_once_at_end_of_drain
    { kind := .http, latency? := some 100 : MockBackend } .passthrough 30 none 0 slowEvents
  obtain ⟨-, hmoment, -⟩ := hlead 0 (by decide +kernel) (by decide +kernel) later
  exact ⟨by decide +kernel, hreleased, by decide +kernel, hmoment hpunctual 30 hreleased⟩

/-- A connector that nobody calls, with the longest drain timeout there is, and somebody comes to
close. -/
def patient : Traffic (Noted MockBackend) :=
  (new ⟨{ kind := .http }, []⟩ .passthrough (1000 * 2 ^ 64 - 1) none 0).runNoted [.close]

/-- With the longest drain timeout the backend is never closed, although no call is inside as the
close begins, and the connector never comes further than closing. -/
theorem never_closed_after_longest_drain :
    let begun := patient.applyNoted (.moveClosing 0)
    patient.connector.status = .running ∧ patient.closings[0]? = some .arriving ∧
      begun.connector.status = .closing ∧ begun.connector.inFlight = 0 ∧ begun.LetsPass 0 ∧
      ∀ later, (begun.runNoted later).closes = 0 := by
  intro begun
  have hclosings : patient.closings = [.arriving] := by decide +kernel
  have hbegun : begun.closings = [.brokenOff] := by decide +kernel
  have hopen : patient.Unclosed := by
    refine ⟨by decide +kernel, by decide +kernel, fun closing hclosing ↦ .inl ?_⟩
    rw [hclosings] at hclosing
    exact List.mem_singleton.mp hclosing
  have hstranded := hopen.stranded (i := 0) (by rw [hclosings]; rfl) (by decide +kernel)
  refine ⟨hopen.running, by rw [hclosings]; rfl, by decide +kernel, by decide +kernel,
    fun closing hclosing ↦ ?_, fun later ↦ (hstranded.run later).closes_eq⟩
  rw [hbegun] at hclosing
  obtain rfl := List.mem_singleton.mp hclosing
  exact ⟨rfl, fun _ hwake ↦ by cases hwake⟩

end GuardedDispatch.Traffic
