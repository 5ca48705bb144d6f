import GuardedDispatch.Proofs.Connector.Draining

/-!
# When a close returns

The close that leads returns to its caller only after the backend was asked to close and the
connector is closed, and never if it fails or is taken away before. Every other close returns as soon
as it finds that the connector does not run, without waiting for the lead. So a close that returns
leaves the connector closed, unless another one has begun by then and not returned.
-/

namespace GuardedDispatch

namespace Traffic

variable {β : Type} {t : Traffic (Noted β)} {i j due : Nat} {e : TrafficEvent β}

/-- A connector that is closed, with its backend asked to close once. -/
structure ClosedOnce (t : Traffic (Noted β)) : Prop where
  status_eq : t.connector.status = .closed
  closes_eq : t.closes = 1

/-! ### The lead and the status -/

/-- A connector that is closed, or not yet, by the close with a number, as that close has returned,
or not yet. -/
structure Shutting (t : Traffic (Noted β)) (i due : Nat) : Prop extends ClosedBy t i due where
  closed_iff : t.connector.status = .closed ↔ t.closings[i]? = some .done

private theorem Shutting.closedOnce (h : t.Shutting i due) (hdone : t.closings[i]? = some .done) :
    t.ClosedOnce := by
  obtain ⟨lead, hlead, hleads⟩ := h.leads
  obtain rfl := Option.some.inj (hlead.symm.trans hdone)
  exact ⟨h.closed_iff.mpr hdone, hleads.1⟩

private theorem Shutting.done_or_closing (h : t.Shutting i due) :
    t.closings[i]? = some .done ∨ t.connector.status = .closing ∧ t.closes ≤ 1 ∧
      ∃ lead, t.closings[i]? = some lead ∧ lead.IsUnfinished := by
  obtain ⟨lead, hlead, hleads⟩ := h.leads
  have hclosing (hnot : lead ≠ .done) : t.connector.status = .closing := by
    cases hstatus : t.connector.status with
    | running => exact absurd hstatus h.shut
    | closing => rfl
    | closed => exact absurd (Option.some.inj (hlead.symm.trans (h.closed_iff.mp hstatus))) hnot
  cases lead with
  | arriving | withdrawn => exact hleads.elim
  | draining _ | releasing _ | brokenOff =>
    exact .inr ⟨hclosing (nomatch ·), h.closes_le_one, _, hlead, trivial⟩
  | done => exact .inl hlead

variable [Backend β]

private theorem Unclosed.shutting (h : t.Unclosed) (hi : t.closings[i]? = some .arriving) :
    (t.applyNoted (.moveClosing i)).Shutting i (t.now + t.connector.drainTimeout) := by
  refine ⟨h.closedBy hi, ?_⟩
  rw [h.begun hi, getElem?_set_of_some hi]
  refine ⟨(nomatch ·), fun hdone ↦ ?_⟩
  split at hdone <;> cases hdone

private theorem Shutting.leadStep (h : t.Shutting i due) {closing closing' : Closing}
    {c : Connector (Noted β)} (hclosing : t.closings[i]? = some closing)
    (hstep : t.connector.CloseStep t.now closing c closing') :
    c.status = .closed ↔ closing' = .done := by
  obtain ⟨lead, hlead, hleads⟩ := h.leads
  obtain rfl := Option.some.inj (hlead.symm.trans hclosing)
  cases hstep with
  | began hrun hfits | failed hrun hlate | returned hrun => exact hleads.elim
  | released hwhen =>
    refine ⟨fun hclosed ↦ ?_, (nomatch ·)⟩
    cases hlead.symm.trans (h.closed_iff.mp hclosed)
  | closed hends => exact ⟨fun _ ↦ rfl, fun _ ↦ rfl⟩

/-- A connector that is being shut is shut by the same close after every event. -/
theorem Shutting.apply (h : t.Shutting i due) (e : TrafficEvent β) :
    (t.applyNoted e).Shutting i due := by
  refine ⟨h.toClosedBy.apply e, ?_⟩
  have hturned := t.turned_applyNoted e
  generalize t.applyNoted e = t' at hturned ⊢
  cases hturned with
  | waited j => exact h.closed_iff
  | @stepped j closing closing' c hclosing hstep =>
    by_cases hji : j = i
    · subst hji
      rw [getElem?_set_of_some hclosing, Option.some.injEq]
      exact h.leadStep hclosing hstep
    · obtain ⟨rfl, -⟩ := h.returned hji hclosing hstep
      rw [List.getElem?_set_ne hji]
      exact h.closed_iff
  | lived hother hlives hcloses =>
    obtain ⟨lead, hlead, -⟩ := h.leads
    have hkept := h.closed_iff
    rw [hlead, Option.some.injEq] at hkept
    rw [hlives.connector.status_eq, hlives.closings.old hlead, Option.some.injEq,
      Closing.left_eq_done_iff]
    exact hkept

/-- A connector that is being shut is shut by the same close after every run. -/
theorem Shutting.run (h : t.Shutting i due) (events : List (TrafficEvent β)) :
    (t.runNoted events).Shutting i due :=
  runNoted_keeps (I := fun u ↦ u.Shutting i due) (fun _ e hu ↦ hu.apply e) h events

private theorem unclosed_or_shutting (backend : β) (config : StackConfig) (drainTimeout : Nat)
    (healthContext? : Option CallContext) (start : Nat) (events : List (TrafficEvent β)) :
    let t := (new ⟨backend, []⟩ config drainTimeout healthContext? start).runNoted events
    t.Unclosed ∨ ∃ i due, t.Shutting i due :=
  unclosed_or (I := fun t ↦ ∃ i due, t.Shutting i due)
    (fun _ i h hi ↦ ⟨i, _, h.shutting hi⟩)
    (fun _ e ⟨i, due, h⟩ ↦ ⟨i, due, h.apply e⟩)
    backend config drainTimeout healthContext? start events

private theorem done_applyNoted (hdone : t.closings[i]? = some .done) (e : TrafficEvent β) :
    (t.applyNoted e).closings[i]? = some .done := by
  have hturned := t.turned_applyNoted e
  generalize t.applyNoted e = t' at hturned ⊢
  cases hturned with
  | waited j => exact hdone
  | @stepped j closing closing' c hclosing hstep =>
    have hji : j ≠ i := by
      rintro rfl
      obtain rfl := Option.some.inj (hdone.symm.trans hclosing)
      cases hstep
    exact (List.getElem?_set_ne hji).trans hdone
  | lived hother hlives hcloses =>
    rw [hlives.closings.old hdone, Closing.left_eq_done_iff.mpr rfl]

/-- Once the lead returned, its connector is closed for good, and the backend is not asked to close
again. -/
theorem Shutting.closedOnce_run (h : t.Shutting i due) (hdone : t.closings[i]? = some .done)
    (events : List (TrafficEvent β)) : (t.runNoted events).ClosedOnce := by
  obtain ⟨hshutting, hstays⟩ :=
    runNoted_keeps (I := fun u ↦ u.Shutting i due ∧ u.closings[i]? = some .done)
      (fun _ e hu ↦ ⟨hu.1.apply e, done_applyNoted hu.2 e⟩) ⟨h, hdone⟩ events
  exact hshutting.closedOnce hstays

/-! ### The moment of returning -/

/-- An event with which a close returns to its caller. -/
structure Returns (t : Traffic (Noted β)) (e : TrafficEvent β) (j : Nat) : Prop where
  before : t.closings[j]? ≠ some .done
  after : (t.applyNoted e).closings[j]? = some .done

private theorem Returns.step (h : t.Returns e j) :
    e = .moveClosing j ∧ ∃ closing c, t.closings[j]? = some closing ∧
      t.connector.CloseStep t.now closing c .done ∧
      t.applyNoted e = { t with connector := c, closings := t.closings.set j .done } := by
  obtain ⟨hbefore, hafter⟩ := h
  have hturned := t.turned_applyNoted e
  generalize t.applyNoted e = t' at hafter hturned ⊢
  cases hturned with
  | waited k => exact absurd hafter hbefore
  | @stepped k closing closing' c hclosing hstep =>
    by_cases hkj : k = j
    · subst hkj
      obtain rfl := Option.some.inj ((getElem?_set_of_some hclosing closing').symm.trans hafter)
      exact ⟨rfl, closing, c, hclosing, hstep, rfl⟩
    · exact absurd ((List.getElem?_set_ne hkj).symm.trans hafter) hbefore
  | lived hother hlives hcloses =>
    obtain hnew | ⟨old, hold, hleft⟩ := hlives.closings.new hafter
    · cases hnew
    · obtain rfl := Closing.left_eq_done_iff.mp hleft.symm
      exact absurd hold hbefore

private theorem returns_of_shut (h : t.connector.status ≠ .running)
    (hj : t.closings[j]? = some .arriving) :
    t.Returns (.moveClosing j) j where
  before hdone := nomatch hj.symm.trans hdone
  after := by
    have hstep : t.connector.stepClosing? t.now .arriving = some (t.connector, .done) := if_neg h
    simp only [applyNoted, TrafficEvent.noted, Traffic.apply, hj, Option.bind_some, hstep]
    exact getElem?_set_of_some hj _

private theorem Shutting.of_returns (h : t.Shutting i due) (hreturns : t.Returns e j) :
    (∀ more, ((t.applyNoted e).runNoted more).ClosedOnce) ∨
      t.closings[j]? = some .arriving ∧
        t.applyNoted e = { t with closings := t.closings.set j .done } ∧
        t.connector.status = .closing ∧ t.closes ≤ 1 ∧
        ∃ k lead, k ≠ j ∧ t.closings[k]? = some lead ∧ lead.IsUnfinished := by
  obtain ⟨rfl, closing, c, hclosing, hstep, hmoved⟩ := hreturns.step
  by_cases hji : j = i
  · subst hji
    exact .inl ((h.apply _).closedOnce_run hreturns.after)
  · obtain ⟨rfl, -⟩ := h.returned hji hclosing hstep
    obtain hdone | ⟨hstatus, hcloses, lead, hlead, hway⟩ := h.done_or_closing
    · exact .inl ((h.apply _).closedOnce_run (done_applyNoted hdone _))
    · have hidle := h.others j closing hji hclosing
      cases closing with
      | arriving =>
        exact .inr ⟨hclosing, hmoved, hstatus, hcloses, i, lead, Ne.symm hji, hlead, hway⟩
      | withdrawn => cases hstep
      | done => exact absurd hclosing hreturns.before
      | draining _ | releasing _ | brokenOff => exact absurd trivial hidle

/-- A close that returns leaves the connector closed for good, with its backend asked to close once,
unless another close has begun by then and not returned, be it that it never will because it failed
or was taken away: then it returned at once and changed nothing, as every close does that finds that
the connector does not run. The close that finds the connector running never returns before the
connector is closed. -/
theorem closed_when_close_returns (backend : β) (config : StackConfig) (drainTimeout : Nat)
    (healthContext? : Option CallContext) (start : Nat) (events : List (TrafficEvent β)) :
    let t := (new ⟨backend, []⟩ config drainTimeout healthContext? start).runNoted events
    t.bare = (new backend config drainTimeout healthContext? start).run events ∧
      (∀ e j, t.Returns e j →
        (∀ more, ((t.applyNoted e).runNoted more).ClosedOnce) ∨
          t.closings[j]? = some .arriving ∧
            t.applyNoted e = { t with closings := t.closings.set j .done } ∧
            t.connector.status = .closing ∧ t.closes ≤ 1 ∧
            ∃ k lead, k ≠ j ∧ t.closings[k]? = some lead ∧ lead.IsUnfinished) ∧
      (∀ j, t.connector.status ≠ .running → t.closings[j]? = some .arriving →
        t.Returns (.moveClosing j) j) ∧
      ∀ i, t.connector.status = .running → t.closings[i]? = some .arriving →
        ∀ later e,
          let u := (t.applyNoted (.moveClosing i)).runNoted later
          u.Returns e i → ∀ more, ((u.applyNoted e).runNoted more).ClosedOnce := by
  intro t
  have hlife := unclosed_or_shutting backend config drainTimeout healthContext? start events
  refine ⟨bare_runNoted _ events, fun e j hreturns ↦ ?_, fun _ ↦ returns_of_shut, ?_⟩
  · obtain hopen | ⟨i, due, hshutting⟩ := hlife
    · -- While nobody began to close, a close that takes its step begins to, so none returns.
      obtain ⟨-, closing, c, hclosing, hstep, -⟩ := hreturns.step
      obtain rfl | rfl := hopen.waiting closing (List.mem_of_getElem? hclosing)
      · cases hstep with
        | returned hrun => exact absurd hopen.running hrun
      · cases hstep
    · exact hshutting.of_returns hreturns
  · intro i hrun hi later e u hreturns
    have hopen : t.Unclosed := hlife.resolve_right fun ⟨_, _, h⟩ ↦ h.shut hrun
    have hshutting := ((hopen.shutting hi).run later).apply e
    exact hshutting.closedOnce_run hreturns.after

/-- A second close comes while the first one waits for the slow call. -/
def overtaken : Traffic (Noted MockBackend) :=
  (new ⟨{ kind := .http, latency? := some 100 }, []⟩ .passthrough 30 none 0).runNoted
    (slowEvents ++ [.close, .moveClosing 0])

private theorem overtaken_returns : overtaken.Returns (.moveClosing 1) 1 :=
  returns_of_shut (by decide +kernel) (by decide +kernel)

private theorem status_overtaken :
    (overtaken.applyNoted (.moveClosing 1)).connector.status = .closing := by
  decide +kernel

/-- The second close returns while the first one drains; the first one returns when the connector is
closed. -/
theorem second_close_returns_before_first :
    let last := (slow.applyNoted (.moveClosing 0)).runNoted
      [.close, .moveClosing 1, .wait 30, .moveClosing 0]
    overtaken.Returns (.moveClosing 1) 1 ∧ overtaken.connector.status = .closing ∧
      last.Returns (.moveClosing 0) 0 ∧
      ∀ more, ((last.applyNoted (.moveClosing 0)).runNoted more).ClosedOnce := by
  intro last
  have hfirst : last.Returns (.moveClosing 0) 0 := ⟨by decide +kernel, by decide +kernel⟩
  obtain ⟨-, hreturns, -⟩ := closed_when_close_returns
    { kind := .http, latency? := some 100 : MockBackend } .passthrough 30 none 0
    (slowEvents ++ [.close, .moveClosing 0])
  obtain ⟨-, -, -, hlead⟩ := closed_when_close_returns
    { kind := .http, latency? := some 100 : MockBackend } .passthrough 30 none 0 slowEvents
  obtain hclosed | ⟨-, -, hclosing, -⟩ := hreturns _ 1 overtaken_returns
  · cases status_overtaken.symm.trans (hclosed []).status_eq
  · exact ⟨overtaken_returns, hclosing, hfirst,
      hlead 0 (by decide +kernel) (by decide +kernel) _ _ hfirst⟩

/-- Once the first close was taken away, the second one returns and the connector stays closing. -/
example :
    let t := (slow.applyNoted (.moveClosing 0)).runNoted
      [.close, .dropClosing 0, .moveClosing 1, .wait 100, .move 0, .moveClosing 0]
    t.closings = [.brokenOff, .done] ∧ t.connector.status = .closing ∧ t.closes = 0 := by
  decide +kernel

/-- A close can return while the connector is not closed and the backend was not asked to close. -/
theorem close_returns_while_draining :
    ¬ ∀ (backend : MockBackend) (config : StackConfig) (drainTimeout : Nat)
      (healthContext? : Option CallContext) (start : Nat) (events : List (TrafficEvent MockBackend))
      (e : TrafficEvent MockBackend) (j : Nat),
        let t := (new ⟨backend, []⟩ config drainTimeout healthContext? start).runNoted events
        t.Returns e j → (t.applyNoted e).ClosedOnce := by
  intro hall
  have hclosed := (hall _ _ _ _ _ _ _ _ overtaken_returns).status_eq
  cases status_overtaken.symm.trans hclosed

end Traffic

end GuardedDispatch
