import GuardedDispatch.Proofs.Connector.Traffic

/-!
# The life of a connector

Only a step of a close gets a connector from running over closing to closed; whatever else happens,
it lives on, also when a close is taken away. Once it does not run it never runs again, and the calls
inside can only become fewer.
-/

namespace GuardedDispatch

/-! ### Steps of a close -/

namespace Connector

variable {β : Type} [Backend β] {c c' : Connector β} {closing closing' : Closing}
  {call call' : ConnectorCall} {now : Nat}

/-- What a step of a close does to the connector and to the close. -/
inductive CloseStep (now : Nat) (c : Connector β) : Closing → Connector β → Closing → Prop
  | began (hrun : c.status = .running) (hfits : now + c.drainTimeout ≤ lastMoment) :
      CloseStep now c .arriving c.beginClosing (.draining (now + c.drainTimeout))
  | failed (hrun : c.status = .running) (hlate : lastMoment < now + c.drainTimeout) :
      CloseStep now c .arriving c.beginClosing .brokenOff
  | returned (hrun : c.status ≠ .running) : CloseStep now c .arriving c .done
  | released {deadline : Nat} (hwhen : c.inFlight = 0 ∨ deadline ≤ now) :
      CloseStep now c (.draining deadline) { c with backend := (Backend.startClose c.backend).1 }
        (.releasing ((Backend.startClose c.backend).2.latency?.map (now + ·)))
  | closed {ends? : Option Nat} (hends : Stack.reached now ends? = true) :
      CloseStep now c (.releasing ends?)
        { c with backend := (Backend.finishClose c.backend).1, status := .closed } .done

/-- Every step of a close is one of the five. -/
theorem closeStep_of_stepClosing? (h : c.stepClosing? now closing = some (c', closing')) :
    c.CloseStep now closing c' closing' := by
  cases closing with
  | arriving =>
    simp only [stepClosing?] at h
    split at h
    · next hrun =>
      cases h
      split
      · next hfits => exact .began hrun hfits
      · next hlate => exact .failed hrun (Nat.lt_of_not_le hlate)
    · next hrun =>
      cases h
      exact .returned hrun
  | draining deadline =>
    simp only [stepClosing?] at h
    split at h
    · next hwhen =>
      cases h
      exact .released hwhen
    · cases h
  | releasing ends? =>
    simp only [stepClosing?] at h
    split at h
    · next hends =>
      cases h
      exact .closed hends
    · cases h
  | brokenOff | withdrawn | done => cases h

/-- A close that drains has to wait exactly while calls are inside and its time is not over. -/
theorem stepClosing?_draining_eq_none {deadline : Nat} :
    c.stepClosing? now (.draining deadline) = none ↔ c.inFlight ≠ 0 ∧ now < deadline := by
  simp only [stepClosing?]
  split
  · next hwhen =>
    constructor
    · intro h
      cases h
    · rintro ⟨hin, hearly⟩
      obtain hzero | hdue := hwhen
      · exact absurd hzero hin
      · exact absurd hearly (Nat.not_lt.mpr hdue)
  · next hwait =>
    obtain ⟨hin, hdue⟩ := not_or.mp hwait
    exact ⟨fun _ ↦ ⟨hin, Nat.lt_of_not_le hdue⟩, fun _ ↦ rfl⟩

/-! ### The life of a connector -/

/-- What becomes of a connector by itself: it neither begins to close nor is closed, and while it
does not run no call enters it. -/
structure LivesOn (c c' : Connector β) : Prop where
  status_eq : c'.status = c.status
  drainTimeout_eq : c'.drainTimeout = c.drainTimeout
  inFlight_le : c.status ≠ .running → c'.inFlight ≤ c.inFlight

omit [Backend β] in
private theorem LivesOn.refl (c : Connector β) : c.LivesOn c := ⟨rfl, rfl, fun _ ↦ Nat.le_refl _⟩

private theorem CallStep.livesOn (h : c.CallStep now call c' call') : c.LivesOn c' := by
  cases h with
  | misdirected hat hkind => exact .refl c
  | entered hat hkind hrun =>
    refine ⟨?_, ?_, fun hshut ↦ absurd hrun hshut⟩
    · unfold tuned
      split <;> rfl
    · unfold tuned
      split <;> rfl
  | refused hat hkind hrun => exact ⟨rfl, rfl, fun _ ↦ Nat.le_refl _⟩
  | moved hat hstep hopen => exact ⟨rfl, rfl, fun _ ↦ Nat.le_refl _⟩
  | concluded hat hstep hdone => exact ⟨rfl, rfl, fun _ ↦ Nat.sub_le _ _⟩

omit [Backend β] in
private theorem livesOn_dropCall (c : Connector β) (call : ConnectorCall) (now : Nat) :
    c.LivesOn (c.dropCall call now) := by
  unfold dropCall
  split
  · exact ⟨rfl, rfl, fun _ ↦ Nat.sub_le _ _⟩
  · exact .refl c

private theorem livesOn_stepProbe? {p p' : Probe} (h : c.stepProbe? now p = some (c', p')) :
    c.LivesOn c' := by
  cases hat : p.stage with
  | arriving =>
    simp only [stepProbe?, hat] at h
    split at h <;> cases h <;> exact ⟨rfl, rfl, fun _ ↦ Nat.le_refl _⟩
  | asking ticket ends? deadline? =>
    simp only [stepProbe?, hat] at h
    split at h
    · cases h
      exact ⟨rfl, rfl, fun _ ↦ Nat.le_refl _⟩
    · split at h <;> cases h
      exact .refl c
  | done healthy =>
    simp only [stepProbe?, hat] at h
    cases h

end Connector

/-- How much time an event takes. -/
def TrafficEvent.duration {β : Type} : TrafficEvent β → Nat
  | .wait duration => duration
  | _ => 0

/-- The close that an event takes away. -/
def TrafficEvent.takes? {β : Type} : TrafficEvent β → Option Nat
  | .dropClosing i => some i
  | _ => none

/-- Only taking a close away does. -/
theorem TrafficEvent.takes?_eq_some {β : Type} (e : TrafficEvent β) {i : Nat} :
    e.takes? = some i ↔ e = .dropClosing i := by
  cases e <;> simp [takes?]

/-! ### Closes that take no step -/

namespace Closing

/-- Whether a close has begun and not returned, be it that it never will. -/
def IsUnfinished : Closing → Prop
  | .draining _ | .releasing _ | .brokenOff => True
  | .arriving | .withdrawn | .done => False

/-- What becomes of the close with a number if it takes no step, where one may be taken away. -/
def left (taken? : Option Nat) (j : Nat) (closing : Closing) : Closing :=
  if taken? = some j then closing.takenAway else closing

/-- A close that takes no step begins as little as it returns. -/
theorem isUnfinished_left (taken? : Option Nat) (j : Nat) (closing : Closing) :
    (closing.left taken? j).IsUnfinished ↔ closing.IsUnfinished := by
  unfold left
  split
  · cases closing <;> exact .rfl
  · exact .rfl

/-- A close that takes no step does not return. -/
theorem left_eq_done_iff {taken? : Option Nat} {j : Nat} {closing : Closing} :
    closing.left taken? j = .done ↔ closing = .done := by
  unfold left
  split
  · cases closing <;> simp [takenAway]
  · exact .rfl

end Closing

/-- What becomes of closes of which none takes a step: one may be taken away, and others come. -/
structure ClosingsStay (taken? : Option Nat) (closings closings' : List Closing) : Prop where
  old : ∀ {j : Nat} {closing : Closing}, closings[j]? = some closing →
    closings'[j]? = some (closing.left taken? j)
  new : ∀ {j : Nat} {closing' : Closing}, closings'[j]? = some closing' →
    closing' = .arriving ∨ ∃ closing, closings[j]? = some closing ∧ closing' = closing.left taken? j

namespace ClosingsStay

private theorem refl (closings : List Closing) : ClosingsStay none closings closings where
  old hj := hj
  new hj := .inr ⟨_, hj, rfl⟩

private theorem append (closings : List Closing) :
    ClosingsStay none closings (closings ++ [.arriving]) where
  old hj := by
    rw [List.getElem?_append_left (List.getElem?_eq_some_iff.mp hj).1]
    exact hj
  new hj := by
    rw [List.getElem?_append] at hj
    split at hj
    · exact .inr ⟨_, hj, rfl⟩
    · exact .inl (List.mem_singleton.mp (List.mem_of_getElem? hj))

private theorem modify (closings : List Closing) (i : Nat) :
    ClosingsStay (some i) closings (closings.modify i Closing.takenAway) where
  old hj := by
    rw [List.getElem?_modify, hj]
    simp only [Closing.left, Option.some.injEq]
    rfl
  new hj := by
    rw [List.getElem?_modify] at hj
    obtain ⟨closing, hclosing, rfl⟩ := Option.map_eq_some_iff.mp hj
    refine .inr ⟨closing, hclosing, ?_⟩
    simp only [Closing.left, Option.some.injEq]

end ClosingsStay

namespace Traffic

variable {β : Type} [Backend β] {t : Traffic β}

/-- Traffic in which no close gets further, where one may be taken away. -/
structure LivesOn (t : Traffic β) (taken? : Option Nat) (t' : Traffic β) : Prop where
  connector : t.connector.LivesOn t'.connector
  now_le : t.now ≤ t'.now
  closings : ClosingsStay taken? t.closings t'.closings

/-- Only a step of a close gets a close further. -/
theorem livesOn_apply (t : Traffic β) {e : TrafficEvent β} (he : ∀ j, e ≠ .moveClosing j) :
    t.LivesOn e.takes? (t.apply e) := by
  have hstays : t.LivesOn none t := ⟨.refl _, Nat.le_refl _, .refl _⟩
  cases e with
  | move i =>
    simp only [apply]
    split
    · split
      · next hstep =>
        exact ⟨(Connector.callStep_of_stepCall? hstep).livesOn, Nat.le_refl _, .refl _⟩
      · exact hstays
    · exact hstays
  | drop i =>
    simp only [apply]
    split
    · exact ⟨Connector.livesOn_dropCall _ _ _, Nat.le_refl _, .refl _⟩
    · exact hstays
  | moveProbe i =>
    simp only [apply]
    split
    · next hstep =>
      obtain ⟨p, -, hstep⟩ := Option.bind_eq_some_iff.mp hstep
      exact ⟨Connector.livesOn_stepProbe? hstep, Nat.le_refl _, .refl _⟩
    · exact hstays
  | moveClosing j => exact absurd rfl (he j)
  | close => exact ⟨.refl _, Nat.le_refl _, .append _⟩
  | dropClosing j => exact ⟨.refl _, Nat.le_refl _, .modify _ j⟩
  | wait duration => exact ⟨.refl _, Nat.le_add_right _ _, .refl _⟩
  | arrive mode request context | probe context | observe | trip | reset | shift backend =>
    exact ⟨⟨rfl, rfl, fun _ ↦ Nat.le_refl _⟩, Nat.le_refl _, .refl _⟩

/-- A close that is to take a step takes it, or has to wait. -/
theorem apply_moveClosing (t : Traffic β) (j : Nat) :
    t.apply (.moveClosing j) = t ∨
      ∃ closing c closing', t.closings[j]? = some closing ∧
        t.connector.CloseStep t.now closing c closing' ∧
        t.apply (.moveClosing j) =
          { t with connector := c, closings := t.closings.set j closing' } := by
  simp only [apply]
  split
  · next c closing' hstep =>
    obtain ⟨closing, hclosing, hstep⟩ := Option.bind_eq_some_iff.mp hstep
    exact .inr ⟨closing, c, closing', hclosing, Connector.closeStep_of_stepClosing? hstep, rfl⟩
  · exact .inl rfl

/-- Time passes only while traffic waits. -/
theorem now_apply (t : Traffic β) (e : TrafficEvent β) : (t.apply e).now = t.now + e.duration := by
  cases e with
  | move i | drop i =>
    simp only [apply]
    split <;> try split
    all_goals rfl
  | moveClosing i | moveProbe i =>
    simp only [apply]
    split <;> rfl
  | arrive mode request context | close | dropClosing i | probe context | observe | trip | reset
  | shift backend | wait duration => rfl

/-- A connector that does not run never runs again, and no call enters it. -/
theorem shut_apply (h : t.connector.status ≠ .running) (e : TrafficEvent β) :
    (t.apply e).connector.status ≠ .running ∧
      (t.apply e).connector.inFlight ≤ t.connector.inFlight := by
  by_cases he : ∃ j, e = .moveClosing j
  · obtain ⟨j, rfl⟩ := he
    obtain hstays | ⟨closing, c, closing', -, hstep, hmoved⟩ := t.apply_moveClosing j
    · rw [hstays]
      exact ⟨h, Nat.le_refl _⟩
    · rw [hmoved]
      cases hstep with
      | began hrun hfits | failed hrun hlate => exact absurd hrun h
      | returned hrun | released hwhen => exact ⟨h, Nat.le_refl _⟩
      | closed hends => exact ⟨(nomatch ·), Nat.le_refl _⟩
  · have hlives := t.livesOn_apply fun j hj ↦ he ⟨j, hj⟩
    exact ⟨hlives.connector.status_eq ▸ h, hlives.connector.inFlight_le h⟩

/-- The drain timeout stays as it was set. -/
theorem drainTimeout_apply (t : Traffic β) (e : TrafficEvent β) :
    (t.apply e).connector.drainTimeout = t.connector.drainTimeout := by
  by_cases he : ∃ j, e = .moveClosing j
  · obtain ⟨j, rfl⟩ := he
    obtain hstays | ⟨closing, c, closing', -, hstep, hmoved⟩ := t.apply_moveClosing j
    · rw [hstays]
    · rw [hmoved]
      cases hstep with
      | began hrun hfits | failed hrun hlate | returned hrun | released hwhen | closed hends => rfl
  · exact (t.livesOn_apply fun j hj ↦ he ⟨j, hj⟩).connector.drainTimeout_eq

/-- A call that comes to a connector that does not run is answered at once: the connector counts it
and changes in nothing else. -/
theorem apply_move_refused (h : t.connector.status ≠ .running) {j : Nat} {call : ConnectorCall}
    (hcall : t.call? j = some call) (hat : call.stage = .arriving)
    (hkind : call.request.kind = t.connector.kind) :
    ∃ e : ConnectorFailure, e.kind = .unavailable ∧
      t.apply (.move j) =
        { t with
          connector := { t.connector with
            callsTotal := t.connector.callsTotal + 1
            callsFailed := t.connector.callsFailed + 1 }
          calls := t.calls.set j (some { call with stage := .answered (.error e) }) } := by
  let e := t.connector.enter.placed call.context call.mode t.connector.enter.refusal
  have hout : (!call.isInside && { call with stage := .answered (.error e) }.isInside) = false :=
    Bool.and_false _
  have hshut : t.connector.enter.status ≠ .running := h
  refine ⟨e, rfl, ?_⟩
  simp only [apply, hcall, Connector.stepCall?, hat, Request.expect, hkind, if_true, hshut,
    if_false, note]
  rw [hout]
  rfl

end Traffic

end GuardedDispatch
