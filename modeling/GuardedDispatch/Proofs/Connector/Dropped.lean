import GuardedDispatch.Connector.Mock
import GuardedDispatch.Proofs.Connector.Traffic
import GuardedDispatch.Proofs.Stack.Balance

/-!
# Calls that are taken away

Wherever a call inside a connector stands when it is taken away, it gives back what it holds: its
slot, its place in the queue or among the sleepers, its unused permission, and its place inside.
Nothing else changes but that a slot given back may be set aside for the next caller in the queue.

That what it gives back was there to be given follows from the balance of the stack with all calls
inside, which every event on a connector keeps.
-/

namespace GuardedDispatch

variable {ε α : Type}

/-! ### What a call leaves behind -/

/-- What is left of a bulkhead when a call that stands at a place is taken away: the slot it held,
or that was set aside for it, is handed on or free, and it is no longer in the queue. -/
inductive Bulkhead.Vacated (b : Bulkhead) : Phase ε α → Bulkhead → Prop
  | released {place : Phase ε α} {b' : Bulkhead} (hholds : place.holdsSlot = true)
      (hfreed : b.Freed b') : Vacated b place b'
  | passedOn {ticket : Nat} {w : Waiter} {b' : Bulkhead} (hw : b.waiter? ticket = some w)
      (hassigned : w.assigned = true) (hfreed : (b.withdraw ticket).Freed b') :
      Vacated b (.queued ticket) b'
  | left {ticket : Nat} {w : Waiter} (hw : b.waiter? ticket = some w)
      (hassigned : w.assigned = false) : Vacated b (.queued ticket) (b.withdraw ticket)
  | untouched {place : Phase ε α} (hidle : place.isIdle = true) : Vacated b place b

/-- What is left of a breaker when a call with a permission is taken away: a probe of the current
round may be issued again, and otherwise nothing changes. -/
def Breaker.GivenBack (b : Breaker) (p : CallPermit) (b' : Breaker) : Prop :=
  if p.state = .halfOpen ∧ p.generation = b.generation then
    0 < b.probesIssued ∧ b' = { b with probesIssued := b.probesIssued - 1 }
  else b' = b

/-- What is left of a rate limiter when a call that slept is taken away: one sleeper less, and what it
slept is added up. -/
def RateLimiter.Left (l : RateLimiter) (since now : Nat) (l' : RateLimiter) : Prop :=
  0 < l.waiting ∧
    l' = { l with
      waiting := l.waiting - 1
      totalWait := (l.totalWait + nanos (now - since)) % (wordMax + 1) }

/-- Since when a call that sleeps has waited for a permit. -/
def Phase.asleepSince? : Phase ε α → Option Nat
  | .throttled since _ => some since
  | _ => none

namespace Stack

variable {s : Stack} {c : Call ε α} {rest : List (Phase ε α)}

/-- What is left of a stack when a call that stands at a place is taken away. -/
structure Vacated (s : Stack) (place : Phase ε α) (now : Nat) (s' : Stack) : Prop where
  slot : ∀ b, s.bulkhead? = some b → ∃ b', s'.bulkhead? = some b' ∧ b.Vacated place b' ∧
    b'.waiting + place.ticket?.isSome.toNat = b.waiting
  sleep : ∀ l, s.rateLimiter? = some l → ∃ l', s'.rateLimiter? = some l' ∧
    place.asleepSince?.elim (l' = l) fun since ↦ l.Left since now l'
  permission : ∀ b, s.breaker? = some b → ∃ b', s'.breaker? = some b' ∧
    place.permit?.elim (b' = b) fun p ↦ b.GivenBack p b'
  retries : s'.retries? = s.retries?
  timeLimiter : s'.timeLimiter? = s.timeLimiter?

private theorem bulkhead?_drop (s : Stack) (hholds : c.phase.holdsSlot = true) (now : Nat) :
    (s.drop c now).bulkhead? = s.bulkhead?.map Bulkhead.freeSlot := by
  cases hat : c.phase with
  | arriving | queued ticket | finished r =>
    rw [hat] at hholds
    cases hholds
  | attempting a =>
    simp only [drop, hat]
    split
    · rfl
    · rfl
  | admitted | throttled since wakeAt | preparing number | pausing number wakeAt =>
    simp only [drop, hat]
    rfl

private theorem rateLimiter?_drop (s : Stack) (c : Call ε α) (now : Nat) :
    (s.drop c now).rateLimiter? =
      s.rateLimiter?.map fun l ↦ c.phase.asleepSince?.elim l (l.leaveSleep · now) := by
  cases hat : c.phase with
  | throttled since wakeAt =>
    simp only [drop, hat]
    rfl
  | attempting a =>
    simp only [drop, hat]
    split
    · exact Option.map_id'.symm
    · exact Option.map_id'.symm
  | arriving | queued ticket | admitted | preparing number | pausing number wakeAt | finished r =>
    simp only [drop, hat]
    exact Option.map_id'.symm

private theorem breaker?_drop (s : Stack) (c : Call ε α) (now : Nat) :
    (s.drop c now).breaker? =
      s.breaker?.map fun b ↦ c.phase.permit?.elim b fun p ↦ b.release p := by
  cases hat : c.phase with
  | attempting a =>
    simp only [drop, hat, Phase.permit?]
    split
    · next p hp =>
      rw [hp]
      rfl
    · next hp =>
      rw [hp]
      exact Option.map_id'.symm
  | arriving | queued ticket | admitted | throttled since wakeAt | preparing number
  | pausing number wakeAt | finished r =>
    simp only [drop, hat]
    exact Option.map_id'.symm

private theorem limits_drop (s : Stack) (c : Call ε α) (now : Nat) :
    (s.drop c now).retries? = s.retries? ∧ (s.drop c now).timeLimiter? = s.timeLimiter? := by
  cases hat : c.phase with
  | attempting a =>
    simp only [drop, hat]
    split
    · exact ⟨rfl, rfl⟩
    · exact ⟨rfl, rfl⟩
  | arriving | queued ticket | finished r => simp only [drop, hat, and_self]
  | admitted | throttled since wakeAt | preparing number | pausing number wakeAt =>
    simp only [drop, hat]
    exact ⟨rfl, rfl⟩

private theorem exists_vacated {b : Bulkhead} {holders : Nat} {tickets : List Nat}
    (hb : s.bulkhead? = some b) (hseats : b.Seats holders (c.phase.ticket?.toList ++ tickets))
    (now : Nat) : ∃ b', (s.drop c now).bulkhead? = some b' ∧ b.Vacated c.phase b' := by
  cases hat : c.phase with
  | arriving | finished r =>
    simp only [drop, hat]
    exact ⟨b, hb, .untouched rfl⟩
  | queued ticket =>
    rw [hat] at hseats
    obtain ⟨w, hw⟩ := hseats.exists_waiter List.mem_cons_self
    simp only [drop, hat]
    refine ⟨b.abandon ticket, congrArg (Option.map _) hb, ?_⟩
    rw [Bulkhead.abandon, hw]
    cases hassigned : w.assigned with
    | true =>
      simp only [hassigned, if_true]
      exact .passedOn hw hassigned (b.withdraw ticket).freed_freeSlot
    | false =>
      simp only [hassigned, Bool.false_eq_true, if_false]
      exact .left hw hassigned
  | admitted | throttled since wakeAt | preparing number | attempting a | pausing number wakeAt =>
    refine ⟨b.freeSlot, ?_, .released rfl b.freed_freeSlot⟩
    rw [s.bulkhead?_drop (hat ▸ rfl) now, hb]
    rfl

private theorem Balanced.vacated (h : s.Balanced (c.phase :: rest)) (now : Nat) :
    s.Vacated c.phase now (s.drop c now) := by
  have hrest := h.drop now
  rw [balanced_cons_iff] at h
  obtain ⟨hseated, hasleep, hlent⟩ := h
  refine ⟨fun b hb ↦ ?_, fun l hl ↦ ?_, fun b hb ↦ ?_, ?_, ?_⟩
  · obtain ⟨b', hb', hvacated⟩ := exists_vacated hb (hseated b hb) now
    refine ⟨b', hb', hvacated, ?_⟩
    rw [(hrest.seated b' hb').waiting_eq, (hseated b hb).waiting_eq, List.length_append,
      Nat.add_comm]
    cases c.phase.ticket? <;> rfl
  · refine ⟨_, by rw [s.rateLimiter?_drop c now, hl]; rfl, ?_⟩
    cases hat : c.phase with
    | throttled since wakeAt =>
      have hcount := hasleep l hl
      rw [hat] at hcount
      refine ⟨?_, rfl⟩
      rw [hcount]
      exact Nat.succ_pos _
    | arriving | queued ticket | admitted | preparing number | attempting a
    | pausing number wakeAt | finished r => rfl
  · refine ⟨_, by rw [s.breaker?_drop c now, hb]; rfl, ?_⟩
    cases hpermit : c.phase.permit? with
    | none => rfl
    | some p =>
      have howed := hlent b hb
      rw [hpermit] at howed
      simp only [Option.elim_some, Breaker.GivenBack]
      split
      · next hcurrent =>
        exact ⟨howed.probesIssued_pos hcurrent.1 hcurrent.2,
          Breaker.release_of_current hcurrent.1 hcurrent.2⟩
      · next hother => exact Breaker.release_of_other hother
  · exact (s.limits_drop c now).1
  · exact (s.limits_drop c now).2

end Stack

/-! ### The calls inside a connector -/

/-- The place of a call that is inside its connector. -/
def ConnectorCall.place? (call : ConnectorCall) : Option (Phase ConnectorFailure Response) :=
  match call.stage with
  | .guarded inner => some inner.phase
  | _ => none

namespace Connector

variable {β : Type} [Backend β] {c c' : Connector β} {call call' : ConnectorCall} {now n : Nat}
  {rest : List (Phase ConnectorFailure Response)}

omit [Backend β] in
private theorem balanced_tuned {places : List (Phase ConnectorFailure Response)}
    (h : c.stack.Balanced places) (context : CallContext) :
    (c.tuned context).stack.Balanced places := by
  unfold tuned
  split
  · exact h.mapBreaker fun b _ hb ↦ hb.reconfigure _
  · exact h

omit [Backend β] in
private theorem inFlight_tuned (c : Connector β) (context : CallContext) :
    (c.tuned context).inFlight = c.inFlight := by
  unfold tuned
  split
  · rfl
  · rfl

private theorem CallStep.balanced (h : c.CallStep now call c' call')
    (hb : c.stack.Balanced (call.place?.toList ++ rest)) :
    c'.stack.Balanced (call'.place?.toList ++ rest) := by
  cases h with
  | misdirected hat hkind | refused hat hkind hrun =>
    rw [ConnectorCall.place?, hat] at hb
    exact hb
  | entered hat hkind hrun =>
    rw [ConnectorCall.place?, hat] at hb
    have henter : c.enter.stack.Balanced rest := hb
    exact balanced_tuned ((Stack.balanced_cons_idle rfl).mpr henter) call.context
  | moved hat hstep hopen =>
    rw [ConnectorCall.place?, hat] at hb
    exact Stack.Balanced.moved hb (Stack.moved_of_step? hstep)
  | @concluded inner inner' stack backend hat hstep r hdone =>
    rw [ConnectorCall.place?, hat] at hb
    have hmoved := Stack.Balanced.moved hb (Stack.moved_of_step? hstep)
    have hidle : inner'.phase.isIdle = true := by
      cases hphase : inner'.phase with
      | finished r => rfl
      | arriving | queued ticket | admitted | throttled since wakeAt | preparing number
      | attempting a | pausing number wakeAt =>
        rw [hphase] at hdone
        cases hdone
    exact (Stack.balanced_cons_idle hidle).mp hmoved

private theorem CallStep.inFlight (h : c.CallStep now call c' call')
    (hn : c.inFlight = call.place?.toList.length + n) :
    c'.inFlight = call'.place?.toList.length + n := by
  cases h with
  | misdirected hat hkind =>
    rw [ConnectorCall.place?, hat] at hn
    exact hn
  | refused hat hkind hrun =>
    rw [ConnectorCall.place?, hat] at hn
    exact hn
  | entered hat hkind hrun =>
    rw [ConnectorCall.place?, hat] at hn
    rw [inFlight_tuned]
    change c.inFlight = 0 + n at hn
    change c.inFlight + 1 = 1 + n
    omega
  | moved hat hstep hopen =>
    rw [ConnectorCall.place?, hat] at hn
    exact hn
  | concluded hat hstep hdone =>
    rw [ConnectorCall.place?, hat] at hn
    change c.inFlight = 1 + n at hn
    change c.inFlight - 1 = 0 + n
    omega

private theorem calls_stepClosing? {closing closing' : Closing}
    (h : c.stepClosing? now closing = some (c', closing')) :
    (c'.stack = c.stack ∨ c'.stack = c.stack.close) ∧ c'.inFlight = c.inFlight := by
  cases closing with
  | arriving =>
    simp only [stepClosing?] at h
    split at h
    · cases h
      exact ⟨.inr rfl, rfl⟩
    · cases h
      exact ⟨.inl rfl, rfl⟩
  | draining deadline =>
    simp only [stepClosing?] at h
    split at h
    · cases h
      exact ⟨.inl rfl, rfl⟩
    · cases h
  | releasing ends? =>
    simp only [stepClosing?] at h
    split at h
    · cases h
      exact ⟨.inl rfl, rfl⟩
    · cases h
  | brokenOff | withdrawn | done => cases h

private theorem calls_stepProbe? {p p' : Probe} (h : c.stepProbe? now p = some (c', p')) :
    c'.stack = c.stack ∧ c'.inFlight = c.inFlight := by
  cases hat : p.stage with
  | arriving =>
    simp only [stepProbe?, hat] at h
    split at h
    · cases h
      exact ⟨rfl, rfl⟩
    · cases h
      exact ⟨rfl, rfl⟩
  | asking ticket ends? deadline? =>
    simp only [stepProbe?, hat] at h
    split at h
    · cases h
      exact ⟨rfl, rfl⟩
    · split at h
      · cases h
        exact ⟨rfl, rfl⟩
      · cases h
  | done healthy =>
    simp only [stepProbe?, hat] at h
    cases h

end Connector

/-! ### Traffic -/

namespace Traffic

variable {β : Type} [Backend β] {t : Traffic β} {i : Nat} {call : ConnectorCall}

/-- The places of the calls inside. -/
def places (t : Traffic β) : List (Phase ConnectorFailure Response) :=
  t.calls.filterMap (·.bind ConnectorCall.place?)

/-- The stack is balanced with the calls inside, and the connector counts them. -/
structure Balanced (t : Traffic β) : Prop where
  stack : t.connector.stack.Balanced t.places
  inFlight_eq : t.connector.inFlight = t.places.length

omit [Backend β] in
/-- The calls inside, with one call in front. -/
theorem places_perm (hcall : t.call? i = some call) :
    t.places.Perm (call.place?.toList ++
      (t.calls.eraseIdx i).filterMap (·.bind ConnectorCall.place?)) := by
  have hperm := (perm_cons_eraseIdx (Option.join_eq_some_iff.mp hcall)).filterMap
    (·.bind ConnectorCall.place?)
  rwa [filterMap_cons_toList] at hperm

omit [Backend β] in
private theorem places_set_perm (hcall : t.call? i = some call) (call'? : Option ConnectorCall) :
    ((t.calls.set i call'?).filterMap (·.bind ConnectorCall.place?)).Perm
      ((call'?.bind ConnectorCall.place?).toList ++
        (t.calls.eraseIdx i).filterMap (·.bind ConnectorCall.place?)) := by
  have hperm := (set_perm_cons_eraseIdx (Option.join_eq_some_iff.mp hcall) call'?).filterMap
    (·.bind ConnectorCall.place?)
  rwa [filterMap_cons_toList] at hperm

/-- A call that is taken away from inside leaves its number behind. -/
theorem apply_drop {inner : Call ConnectorFailure Response} (hcall : t.call? i = some call)
    (hat : call.stage = .guarded inner) :
    t.apply (.drop i) =
      { t with
        calls := t.calls.set i none
        connector := { t.connector with
          stack := t.connector.stack.drop inner t.now
          inFlight := t.connector.inFlight - 1 } } := by
  simp only [apply, hcall, Connector.dropCall, hat]
  rfl

private theorem places_drop {inner : Call ConnectorFailure Response} (hcall : t.call? i = some call)
    (hat : call.stage = .guarded inner) :
    t.places.Perm (inner.phase :: (t.apply (.drop i)).places) := by
  have hbefore := places_perm hcall
  rw [ConnectorCall.place?, hat] at hbefore
  rw [apply_drop hcall hat]
  exact hbefore.trans ((places_set_perm hcall none).symm.cons inner.phase)

/-- Nobody is inside a new connector. -/
theorem balanced_new (backend : β) (config : StackConfig) (drainTimeout : Nat)
    (healthContext? : Option CallContext) (start : Nat) :
    (new backend config drainTimeout healthContext? start).Balanced where
  stack := Stack.balanced_new _ config start
  inFlight_eq := rfl

private theorem Balanced.arrive (h : t.Balanced) (mode : SendMode) (request : Request)
    (context : CallContext) : (t.apply (.arrive mode request context)).Balanced := by
  have hplaces : (t.apply (.arrive mode request context)).places = t.places := by
    simp only [places, Traffic.apply, List.filterMap_append]
    exact List.append_nil _
  exact ⟨hplaces ▸ h.stack, hplaces ▸ h.inFlight_eq⟩

/-- A step of a call keeps traffic balanced. -/
theorem Balanced.move (h : t.Balanced) (i : Nat) : (t.apply (.move i)).Balanced := by
  simp only [Traffic.apply]
  split
  · next call hcall =>
    split
    · next c call' hstep =>
      have hstep := Connector.callStep_of_stepCall? hstep
      have hbefore := places_perm hcall
      have hafter := places_set_perm hcall (some call')
      refine ⟨(hstep.balanced (h.stack.perm hbefore)).perm hafter.symm, ?_⟩
      have hcount := h.inFlight_eq
      rw [hbefore.length_eq, List.length_append] at hcount
      have hnext := hstep.inFlight hcount
      rw [← List.length_append, ← Option.bind_some call' ConnectorCall.place?] at hnext
      exact hnext.trans hafter.length_eq.symm
    · exact h
  · exact h

/-- Taking a call away keeps traffic balanced. -/
theorem Balanced.drop (h : t.Balanced) (i : Nat) : (t.apply (.drop i)).Balanced := by
  cases hcall : t.call? i with
  | none =>
    simp only [Traffic.apply, hcall]
    exact h
  | some call =>
    cases hat : call.stage with
    | guarded inner =>
      have hplaces := places_drop hcall hat
      have hcount := h.inFlight_eq
      rw [hplaces.length_eq, List.length_cons] at hcount
      rw [apply_drop hcall hat] at hplaces hcount ⊢
      refine ⟨(h.stack.perm hplaces).drop t.now, ?_⟩
      change t.connector.inFlight - 1 = _
      omega
    | arriving | answered r =>
      have hbefore := places_perm hcall
      have hafter := places_set_perm hcall none
      have hcount := h.inFlight_eq
      rw [hbefore.length_eq] at hcount
      rw [ConnectorCall.place?, hat] at hbefore hcount
      simp only [Traffic.apply, hcall, Connector.dropCall, hat]
      exact ⟨(h.stack.perm hbefore).perm hafter.symm, hcount.trans hafter.length_eq.symm⟩

/-- Every event keeps traffic balanced. -/
theorem Balanced.apply (h : t.Balanced) (e : TrafficEvent β) : (t.apply e).Balanced := by
  cases e with
  | arrive mode request context => exact h.arrive mode request context
  | move i => exact h.move i
  | drop i => exact h.drop i
  | moveClosing i =>
    simp only [Traffic.apply]
    split
    · next c closing hstep =>
      obtain ⟨old, -, hstep⟩ := Option.bind_eq_some_iff.mp hstep
      obtain ⟨hstack, hcount⟩ := Connector.calls_stepClosing? hstep
      refine ⟨?_, hcount.trans h.inFlight_eq⟩
      obtain hstack | hstack := hstack
      · exact hstack ▸ h.stack
      · exact hstack ▸ h.stack.close
    · exact h
  | moveProbe i =>
    simp only [Traffic.apply]
    split
    · next c probe hstep =>
      obtain ⟨old, -, hstep⟩ := Option.bind_eq_some_iff.mp hstep
      obtain ⟨hstack, hcount⟩ := Connector.calls_stepProbe? hstep
      exact ⟨hstack ▸ h.stack, hcount.trans h.inFlight_eq⟩
    · exact h
  | observe => exact ⟨h.stack.observe t.now, h.inFlight_eq⟩
  | trip => exact ⟨h.stack.mapBreaker fun b _ hb ↦ hb.trip t.now, h.inFlight_eq⟩
  | reset => exact ⟨h.stack.mapBreaker fun b _ hb ↦ hb.reset t.now, h.inFlight_eq⟩
  | close | dropClosing i | probe context | shift backend | wait duration =>
    exact ⟨h.stack, h.inFlight_eq⟩

/-- Traffic is always balanced. -/
theorem balanced_run (backend : β) (config : StackConfig) (drainTimeout : Nat)
    (healthContext? : Option CallContext) (start : Nat) (events : List (TrafficEvent β)) :
    ((new backend config drainTimeout healthContext? start).run events).Balanced :=
  run_keeps (fun _ e h ↦ h.apply e)
    (balanced_new backend config drainTimeout healthContext? start) events

/-- A call that is taken away from inside a connector, wherever it stands, leaks nothing: it
vacates what it held of the policies and is no longer counted inside, nothing else of the traffic
changes, and the gauges and the slots account for exactly the calls that are left. -/
theorem dropped_call_leaks_nothing (backend : β) (config : StackConfig) (drainTimeout : Nat)
    (healthContext? : Option CallContext) (start : Nat) (events : List (TrafficEvent β)) (i : Nat)
    (call : ConnectorCall) (inner : Call ConnectorFailure Response)
    (hcall : ((new backend config drainTimeout healthContext? start).run events).call? i = some call)
    (hat : call.stage = .guarded inner) :
    let t := (new backend config drainTimeout healthContext? start).run events
    let t' := t.apply (.drop i)
    t.connector.stack.Vacated inner.phase t.now t'.connector.stack ∧
      t'.connector.inFlight + 1 = t.connector.inFlight ∧
      t' = { t with
        calls := t.calls.set i none
        connector := { t.connector with
          stack := t'.connector.stack
          inFlight := t'.connector.inFlight } } ∧
      t.places.Perm (inner.phase :: t'.places) ∧
      t'.connector.inFlight = t'.places.length ∧
      (∀ b, t'.connector.stack.bulkhead? = some b →
        b.waiting = (t'.places.filterMap Phase.ticket?).length ∧
          b.free + t'.places.countP Phase.holdsSlot + b.queue.countP (·.assigned) =
            b.config.maxConcurrent) ∧
      ∀ l, t'.connector.stack.rateLimiter? = some l →
        l.waiting = t'.places.countP Phase.isThrottled := by
  intro t t'
  have hbalanced : t.Balanced :=
    balanced_run backend config drainTimeout healthContext? start events
  have hafter : t'.Balanced := hbalanced.drop i
  have hplaces : t.places.Perm (inner.phase :: t'.places) := places_drop hcall hat
  have hdrop : t' = _ := apply_drop hcall hat
  refine ⟨?_, ?_, ?_, hplaces, hafter.inFlight_eq, fun b hb ↦ ?_, hafter.stack.asleep⟩
  · rw [hdrop]
    exact (hbalanced.stack.perm hplaces).vacated t.now
  · rw [hafter.inFlight_eq, hbalanced.inFlight_eq, hplaces.length_eq, List.length_cons]
  · rw [hdrop]
  · exact ⟨(hafter.stack.seated b hb).waiting_eq, (hafter.stack.seated b hb).slots_eq⟩

/-- A stack with one slot and a breaker that half-opens at once. -/
def oneSlot : StackConfig :=
  { StackConfig.passthrough with
    bulkhead? := some { maxConcurrent := 1 }
    breaker? := some { waitInOpenState := 0 } }

/-- A breaker that was tripped, and two calls: the first sends, and the second waits for its slot.
-/
def probingEvents : List (TrafficEvent MockBackend) :=
  let arrive : TrafficEvent MockBackend :=
    .arrive .sync (.http { method := .get, path := "/", query := [], headers := ∅, body? := none,
                           correlationId? := none }) { endpoint := "http://backend" }
  [.trip, arrive, arrive, .move 0, .move 0, .move 0, .move 0, .move 1, .move 1]

/-- Where the two calls stand: the first is a probe of the half-open breaker. -/
def probing : Traffic MockBackend :=
  (new { kind := .http, latency? := some 100 } oneSlot defaultDrainTimeout none 0).run probingEvents

omit [Backend β] in
/-- A call that is inside has a call of its stack under way. -/
private theorem exists_guarded (h : (t.call? i).map (·.isInside) = some true) :
    ∃ call inner, t.call? i = some call ∧ call.stage = .guarded inner := by
  obtain ⟨call, hcall, hinside⟩ := Option.map_eq_some_iff.mp h
  cases hat : call.stage with
  | guarded inner => exact ⟨call, inner, hcall, hat⟩
  | arriving | answered result =>
    rw [ConnectorCall.isInside, hat] at hinside
    cases hinside

/-- The probe is taken away: it may be issued again, and its slot is set aside for the call in the
queue. -/
theorem dropped_probe_leaks_nothing :
    ∃ call inner, probing.call? 0 = some call ∧ call.stage = .guarded inner ∧
      probing.connector.stack.Vacated inner.phase probing.now
        (probing.apply (.drop 0)).connector.stack ∧
      probing.connector.inFlight = 2 ∧ (probing.apply (.drop 0)).connector.inFlight = 1 ∧
      probing.breaker?.map (·.probesIssued) = some 1 ∧
      (probing.apply (.drop 0)).breaker?.map (·.probesIssued) = some 0 ∧
      (probing.apply (.drop 0)).connector.stack.bulkhead?.map (·.queue.map (·.assigned)) =
        some [true] := by
  have hinside : (probing.call? 0).map (·.isInside) = some true := by decide +kernel
  have hprobes : probing.breaker?.map (·.probesIssued) = some 1 := by decide +kernel
  have hreturned : (probing.apply (.drop 0)).breaker?.map (·.probesIssued) = some 0 := by
    decide +kernel
  have hqueue : (probing.apply (.drop 0)).connector.stack.bulkhead?.map
      (·.queue.map (·.assigned)) = some [true] := by
    decide +kernel
  have htwo : probing.connector.inFlight = 2 := by decide +kernel
  obtain ⟨call, inner, hcall, hat⟩ := exists_guarded hinside
  obtain ⟨hvacated, hcount, -⟩ := dropped_call_leaks_nothing
    { kind := .http, latency? := some 100 } oneSlot defaultDrainTimeout none 0 probingEvents 0
    call inner (by rw [← probing]; exact hcall) hat
  rw [← probing] at hvacated hcount
  exact ⟨call, inner, hcall, hat, hvacated, htwo, by omega, hprobes, hreturned, hqueue⟩

end Traffic

end GuardedDispatch
