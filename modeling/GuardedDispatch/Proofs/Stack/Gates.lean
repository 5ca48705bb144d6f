import GuardedDispatch.Proofs.Stack.Coherence
import Mathlib.Data.List.Induction
import Mathlib.Data.List.Infix

/-!
# The gates before an operation

A call's operation takes no step unless its call holds a slot, has consumed a permit and has the
breaker's permission for the very attempt, as far as the stack has these layers. A call takes one
slot and one permit, however many attempts it makes. One that is sent away by the outer layers
never comes to the inner ones, and one whose attempt is refused ends there.
-/

namespace GuardedDispatch

variable {σ ε α : Type}

/-! ### Refusals -/

namespace Stack

variable {op : Operation σ ε α} {now number : Nat} {s s' : Stack} {env env' : σ} {c c' : Call ε α}
  {b : Breaker}

/-- A call whose attempt is refused ends at once with the refusal, and its operation does nothing.
-/
theorem step?_of_refused (op : Operation σ ε α) (eligible : PolicyFailure ε → Bool) (env : σ)
    (hat : c.phase = .preparing number) (hb : s.breaker? = some b)
    (hr : (b.request now).2 = none) :
    ∃ s', s.step? op eligible now env c =
      some (s', env, { c with
        prepared := c.prepared + 1
        phase := .finished (.error (b.request now).1.refusal) }) := by
  have hsome : (s.step? op eligible now env c).isSome = true := by
    simp only [step?, hat, Option.isSome_some]
  obtain ⟨⟨s', env', c'⟩, hstep⟩ := Option.isSome_iff_exists.mp hsome
  cases moved_of_step? hstep with
  | refused hat' hb' hr' =>
    cases hb.symm.trans hb'
    rw [hr']
    exact ⟨_, hstep⟩
  | started hat' hp =>
    cases hp with
    | unguarded hb' =>
      rw [hb] at hb'
      cases hb'
    | granted hb' hr' =>
      cases hb.symm.trans hb'
      rw [hr'] at hr
      cases hr
  | unguarded hat' hb' | seated hat' hb' hr' | turnedAway hat' hb' hr' | queued hat' hb' hr'
  | claimed hat' hb' hr' | gaveUp hat' hb' hr' | unlimited hat' hl | granted hat' hl hr'
  | limited hat' hl hr' | slept hat' hl hr' | ended hat' hends hd | resumed hat' hdue =>
    rw [hat] at hat'
    cases hat'

/-- An attempt that is under way after a step was prepared before it, and permitted in it. -/
theorem Moved.began (h : Moved op now s env c s' env' c') {a : Attempt}
    (hat : c'.phase = .attempting a) :
    c.phase = .preparing a.number ∧ Entitled now s s' a.permit? := by
  cases h with
  | started hat' hp =>
    cases hat
    exact ⟨hat', hp⟩
  | ended hat' hends hd =>
    cases hd with
    | done hok hrejected => cases hat
    | again hr hrejected => cases hat
  | unguarded hat' hb' | seated hat' hb' hr' | turnedAway hat' hb' hr' | queued hat' hb' hr'
  | claimed hat' hb' hr' | gaveUp hat' hb' hr' | unlimited hat' hl | granted hat' hl hr'
  | limited hat' hl hr' | slept hat' hl hr' | refused hat' hb' hr' | resumed hat' hdue =>
    cases hat

end Stack

namespace Crowd

variable {t t₀ : Crowd σ ε α} {e : CrowdEvent σ ε α} {events : List (CrowdEvent σ ε α)} {i : Nat}
  {v v' : Visit σ ε α} {a : Attempt} {config : StackConfig}

/-! ### What an event does to one call -/

/-- What an event can make of the call with a number. -/
inductive Changed (t : Crowd σ ε α) (e : CrowdEvent σ ε α) (i : Nat) : Visit σ ε α → Prop
  | kept {v : Visit σ ε α} (hv : t.visits[i]? = some v) : Changed t e i v
  | arrived {options : CallOptions} {op : Operation σ ε α} {eligible : PolicyFailure ε → Bool}
      (hi : i = t.visits.length) (he : e = .arrive options op eligible) :
      Changed t e i { op, eligible, call := { options } }
  | moved {v : Visit σ ε α} {s' : Stack} {env' : σ} {log' : OperationLog} {c' : Call ε α}
      (he : e = .move i) (hv : t.visit? i = some v)
      (hstep : t.stack.step? (v.op.noted i) v.eligible t.now (t.env, t.log) v.call =
        some (s', (env', log'), c')) : Changed t e i (v.moved t.stack s' c')
  | dropped {v : Visit σ ε α} (he : e = .drop i) (hv : t.visit? i = some v) :
      Changed t e i { v with gone := true }

/-- An event does one of the four to the call with a number. -/
theorem changed_of_apply (h : (t.apply e).visits[i]? = some v') : t.Changed e i v' := by
  cases e with
  | arrive options op eligible =>
    simp only [apply] at h
    by_cases hi : i < t.visits.length
    · rw [List.getElem?_append_left hi] at h
      exact .kept h
    · rw [List.getElem?_append_right (Nat.le_of_not_lt hi), List.getElem?_singleton] at h
      split at h
      · cases h
        exact .arrived (by omega) rfl
      · cases h
  | move j =>
    obtain he | ⟨v, s', env', log', c', hv, hstep, he⟩ := t.apply_move j
    · rw [he] at h
      exact .kept h
    · rw [he] at h
      by_cases hj : j = i
      · subst hj
        rw [getElem?_set_of_some (visit?_eq_some.mp hv).1] at h
        cases h
        exact .moved rfl hv hstep
      · rw [List.getElem?_set_ne hj] at h
        exact .kept h
  | drop j =>
    simp only [apply] at h
    split at h
    · next v hv =>
      by_cases hj : j = i
      · subst hj
        rw [getElem?_set_of_some (visit?_eq_some.mp hv).1] at h
        cases h
        exact .dropped rfl hv
      · rw [List.getElem?_set_ne hj] at h
        exact .kept h
    · exact .kept h
  | close | trip | reset | reconfigure config | observe | shift env | wait duration => exact .kept h

/-- No event forgets a call. -/
theorem length_apply (t : Crowd σ ε α) (e : CrowdEvent σ ε α) :
    t.visits.length ≤ (t.apply e).visits.length := by
  cases e with
  | arrive options op eligible =>
    simp only [apply, List.length_append]
    exact Nat.le_add_right _ _
  | move i =>
    obtain he | ⟨v, s', env', log', c', hv, hstep, he⟩ := t.apply_move i
    · rw [he]
    · rw [he, List.length_set]
  | drop i =>
    simp only [apply]
    split
    · rw [List.length_set]
    · exact Nat.le_refl _
  | close | trip | reset | reconfigure config | observe | shift env | wait duration =>
    exact Nat.le_refl _

/-- A call that passed the rate limiter has passed it after every event. -/
theorem Coherent.permitted_apply (h : t.Coherent) (e : CrowdEvent σ ε α)
    (hv : t.visits[i]? = some v) (hp : v.call.standing.isPermitted = true) :
    ∃ v', (t.apply e).visits[i]? = some v' ∧ v'.call.standing.isPermitted = true := by
  have hlt := Nat.lt_of_lt_of_le (List.getElem?_eq_some_iff.mp hv).1 (t.length_apply e)
  obtain ⟨v', hv'⟩ : ∃ v', (t.apply e).visits[i]? = some v' := ⟨_, List.getElem?_eq_getElem hlt⟩
  refine ⟨v', hv', ?_⟩
  cases changed_of_apply hv' with
  | kept hw =>
    cases hv.symm.trans hw
    exact hp
  | arrived hi he =>
    have hlt := (List.getElem?_eq_some_iff.mp hv).1
    omega
  | moved he hw hstep =>
    obtain ⟨hw, -⟩ := visit?_eq_some.mp hw
    cases hv.symm.trans hw
    have hpasses := (Stack.moved_of_step? hstep).passes (h.regular v (List.mem_of_getElem? hv))
    exact hpasses.mono.2 hp
  | dropped he hw =>
    obtain ⟨hw, -⟩ := visit?_eq_some.mp hw
    cases hv.symm.trans hw
    exact hp

/-- A call that passed the rate limiter has passed it for good. -/
theorem Coherent.permitted_run (h : t.Coherent) (events : List (CrowdEvent σ ε α))
    (hv : t.visits[i]? = some v) (hp : v.call.standing.isPermitted = true) :
    ∃ v', (t.run events).visits[i]? = some v' ∧ v'.call.standing.isPermitted = true := by
  induction events generalizing t v with
  | nil => exact ⟨v, hv, hp⟩
  | cons e rest ih =>
    obtain ⟨w, hw, hpw⟩ := h.permitted_apply e hv hp
    exact ih (h.apply e) hw hpw

/-! ### Permission for the very attempt -/

/-- The call with a number is under way and has this attempt under way. -/
def IsAttempting (t : Crowd σ ε α) (i : Nat) (a : Attempt) : Prop :=
  ∃ v, t.visit? i = some v ∧ v.call.phase = .attempting a

/-- The call with a number is about to begin this attempt, and the breaker grants the permit that
the attempt has. -/
def Grants (t : Crowd σ ε α) (i : Nat) (a : Attempt) : Prop :=
  ∃ v b p, t.visit? i = some v ∧ v.call.phase = .preparing a.number ∧
    t.stack.breaker? = some b ∧ (b.request t.now).2 = some p ∧ a.permit? = some p

/-- In a run of events, the breaker granted the permit of this attempt at the step in which the call
with a number began it, and the call has had this attempt under way ever since. -/
def Began (t : Crowd σ ε α) (events : List (CrowdEvent σ ε α)) (i : Nat) (a : Attempt) : Prop :=
  ∃ earlier later, events = earlier ++ .move i :: later ∧ (t.run earlier).Grants i a ∧
    ∀ between, between <+: later → (t.run (earlier ++ .move i :: between)).IsAttempting i a

/-- An attempt that is under way after an event was so before, or a step of its call began it under
the breaker's permission. -/
theorem IsAttempting.of_apply (h : (t.apply e).IsAttempting i a) :
    t.IsAttempting i a ∨
      e = .move i ∧ (t.stack.breaker?.isSome = true → t.Grants i a) := by
  obtain ⟨v', hv', hat⟩ := h
  obtain ⟨hv', hgone⟩ := visit?_eq_some.mp hv'
  cases changed_of_apply hv' with
  | kept hv => exact .inl ⟨_, visit?_eq_some.mpr ⟨hv, hgone⟩, hat⟩
  | arrived hi he => cases hat
  | moved he hv hstep =>
    obtain ⟨hprepared, hp⟩ := (Stack.moved_of_step? hstep).began hat
    refine .inr ⟨he, fun hguarded ↦ ?_⟩
    cases hpermit : a.permit? with
    | none =>
      rw [hpermit] at hp
      cases hp with
      | unguarded hb =>
        rw [hb] at hguarded
        cases hguarded
    | some p =>
      rw [hpermit] at hp
      cases hp with
      | granted hb hr => exact ⟨_, _, p, hv, hprepared, hb, congrArg Prod.snd hr, hpermit⟩
  | dropped he hv => cases hgone

private theorem began_of_isAttempting (name : String) (env : σ) (start : Nat)
    (hguarded : config.breaker?.isSome = true)
    (h : ((new name config env start : Crowd σ ε α).run events).IsAttempting i a) :
    (new name config env start).Began events i a := by
  induction events using List.reverseRecOn with
  | nil =>
    obtain ⟨v, hv, -⟩ := h
    cases hv
  | append_singleton events e ih =>
    rw [run_append] at h
    obtain hbefore | ⟨rfl, hgrants⟩ := IsAttempting.of_apply h
    · obtain ⟨earlier, later, rfl, hgrant, hkeep⟩ := ih hbefore
      refine ⟨earlier, later ++ [e], by simp, hgrant, fun between hb ↦ ?_⟩
      obtain rfl | hb := List.prefix_concat_iff.mp hb
      · rw [← List.cons_append, ← List.append_assoc, run_append]
        exact h
      · exact hkeep between hb
    · refine ⟨events, [], rfl, hgrants ?_, fun between hb ↦ ?_⟩
      · exact (congrArg (·.2.2.2.1) (layout_run name config env start events)).trans hguarded
      · rw [List.prefix_nil.mp hb, run_append]
        exact h

/-! ### What an operation needs -/

/-- The call with a number is inside its retry policy, where it holds a slot, and it took one slot
and one permit in all, as far as the stack was built with these layers. -/
def IsInside (config : StackConfig) (t : Crowd σ ε α) (i : Nat) : Prop :=
  ∃ v, t.visit? i = some v ∧ v.call.phase.isInside = true ∧ v.call.phase.holdsSlot = true ∧
    (config.bulkhead?.isSome = true → v.slots = 1) ∧
    (config.rateLimiter?.isSome = true → v.permits = 1)

/-- What lets the operation of a call take a step after some events. It starts in the step in which
the breaker permits the attempt that begins with it, and finishes in an attempt that began so. -/
inductive Allowed (config : StackConfig) (t : Crowd σ ε α) (events : List (CrowdEvent σ ε α))
    (i : Nat) : OperationStep → Prop
  | start {a : Attempt} (hgrants : config.breaker?.isSome = true → (t.run events).Grants i a)
      (hbegins : (t.run (events ++ [.move i])).IsAttempting i a) :
      Allowed config t events i (.start a.number)
  | finish {a : Attempt} (hat : (t.run events).IsAttempting i a)
      (hbegan : config.breaker?.isSome = true → t.Began events i a) :
      Allowed config t events i (.finish a.ticket)

/-- A step of the call with a number would neither read nor change the retry policy and the
breaker. -/
def LeavesInner (t : Crowd σ ε α) (i : Nat) : Prop :=
  ∀ v, t.visit? i = some v → ∀ retries? breaker?,
    Stack.step? (v.op.noted i) v.eligible t.now { t.stack with retries?, breaker? }
        (t.env, t.log) v.call =
      (t.stack.step? (v.op.noted i) v.eligible t.now (t.env, t.log) v.call).map
        fun r ↦ ({ r.1 with retries?, breaker? }, r.2)

/-- A call inside its retry policy took one slot and one permit. -/
theorem isInside_run (name : String) (config : StackConfig) (env : σ) (start : Nat)
    (events : List (CrowdEvent σ ε α))
    (hv : ((new name config env start).run events).visit? i = some v)
    (hin : v.call.phase.isInside = true) :
    ((new name config env start).run events).IsInside config i := by
  have hlayout := layout_run name config env start events
  have hmem := List.mem_of_getElem? (visit?_eq_some.mp hv).1
  have hcharged := (coherent_run name config env start events).charged v hmem
  rw [hlayout] at hcharged
  have hslots := hcharged.slots
  have hpermits := hcharged.permits
  rw [Call.standing_of_isInside hin] at hslots hpermits
  refine ⟨v, hv, hin, ?_, hslots, hpermits⟩
  cases hat : v.call.phase with
  | preparing number | attempting a | pausing number wakeAt => rfl
  | arriving | queued ticket | admitted | throttled since wakeAt | finished r =>
    rw [hat] at hin
    cases hin

/-- What an event adds to the log is one step of the operation of a call that takes a step: it
starts the attempt that begins with it, or finishes the one under way. -/
theorem noted_apply (t : Crowd σ ε α) (e : CrowdEvent σ ε α) :
    (t.apply e).log = t.log ∨ ∃ i v a step, e = .move i ∧ t.visit? i = some v ∧
      (t.apply e).log = t.log ++ [(i, step)] ∧
      (step = .start a.number ∧ v.call.phase = .preparing a.number ∧
          (t.apply e).IsAttempting i a ∨
        step = .finish a.ticket ∧ v.call.phase = .attempting a) := by
  cases e with
  | move i =>
    obtain he | ⟨v, s', env', log', c', hv, hstep, he⟩ := t.apply_move i
    · exact .inl (congrArg Crowd.log he)
    · obtain ⟨hat, hgone⟩ := visit?_eq_some.mp hv
      rw [he]
      obtain ⟨hlog, -⟩ | ⟨a, hprepared, hafter, -, hlog, -⟩ | ⟨a, hat, hlog, -⟩ :=
        (Stack.moved_of_step? hstep).noted
      · exact .inl hlog
      · refine .inr ⟨i, v, a, _, rfl, hv, hlog, .inl ⟨rfl, hprepared, ?_⟩⟩
        exact ⟨_, visit?_eq_some.mpr ⟨getElem?_set_of_some hat _, hgone⟩, hafter⟩
      · exact .inr ⟨i, v, a, _, rfl, hv, hlog, .inr ⟨rfl, hat⟩⟩
  | drop i =>
    simp only [apply]
    split
    · exact .inl rfl
    · exact .inl rfl
  | arrive options op eligible | close | trip | reset | reconfigure config | observe | shift env
  | wait duration => exact .inl rfl

private theorem allowed_of_noted (name : String) (config : StackConfig) (env : σ) (start : Nat)
    (events : List (CrowdEvent σ ε α)) (e : CrowdEvent σ ε α) :
    (((new name config env start).run events).apply e).log =
        ((new name config env start).run events).log ∨
      ∃ i step, e = .move i ∧
        (((new name config env start).run events).apply e).log =
          ((new name config env start).run events).log ++ [(i, step)] ∧
        ((new name config env start).run events).IsInside config i ∧
        Allowed config (new name config env start) events i step := by
  obtain hlog | ⟨i, v, a, step, rfl, hv, hlog, hstep⟩ :=
    ((new name config env start).run events).noted_apply e
  · exact .inl hlog
  refine .inr ⟨i, step, rfl, hlog, ?_⟩
  obtain ⟨rfl, hprepared, hafter⟩ | ⟨rfl, hat⟩ := hstep
  · refine ⟨isInside_run name config env start events hv (hprepared ▸ rfl), ?_⟩
    have hbegins : ((new name config env start).run (events ++ [.move i])).IsAttempting i a := by
      rw [run_append]
      exact hafter
    refine .start (fun hguarded ↦ ?_) hbegins
    obtain hat | ⟨-, hgrants⟩ := hafter.of_apply
    · obtain ⟨w, hw, hat⟩ := hat
      cases hv.symm.trans hw
      rw [hprepared] at hat
      cases hat
    · have hlayout := layout_run name config env start events
      exact hgrants ((congrArg (·.2.2.2.1) hlayout).trans hguarded)
  · refine ⟨isInside_run name config env start events hv (hat ▸ rfl), .finish ⟨v, hv, hat⟩ ?_⟩
    exact fun hguarded ↦ began_of_isAttempting name env start hguarded ⟨v, hv, hat⟩

private theorem leavesInner_of_rejected (name : String) (config : StackConfig) (env : σ)
    (start : Nat)
    (earlier later : List (CrowdEvent σ ε α))
    (hv : ((new name config env start).run (earlier ++ later)).visits[i]? = some v)
    (hr : v.call.standing.isRejected = true) :
    ((new name config env start).run earlier).LeavesInner i := by
  intro w hw retries? breaker?
  obtain ⟨hw, -⟩ := visit?_eq_some.mp hw
  apply Stack.step?_outside
  by_contra hin
  have hpermitted : w.call.standing.isPermitted = true := by
    rw [Call.standing_of_isInside (Bool.not_eq_false _ |>.mp hin)]
    rfl
  obtain ⟨v', hv', hp⟩ :=
    (coherent_run name config env start earlier).permitted_run later hw hpermitted
  rw [run_append, hv'] at hv
  cases hv
  cases hs : v.call.standing with
  | turnedAway | limited =>
    rw [hs] at hp
    cases hp
  | before | admitted | inside | served ok =>
    rw [hs] at hr
    cases hr

private theorem taken_once (name : String) (config : StackConfig) (env : σ) (start : Nat)
    (events : List (CrowdEvent σ ε α)) (hv : v ∈ ((new name config env start).run events).visits) :
    (config.bulkhead?.isSome = true → v.slots ≤ 1 ∧ (0 < v.call.prepared → v.slots = 1)) ∧
      (config.rateLimiter?.isSome = true →
        v.permits ≤ 1 ∧ (0 < v.call.prepared → v.permits = 1)) := by
  have hcoherent := coherent_run name config env start events
  have hregular := hcoherent.regular v hv
  have hcharged := hcoherent.charged v hv
  rw [layout_run name config env start events] at hcharged
  refine ⟨fun hb ↦ ?_, fun hl ↦ ?_⟩
  · rw [hcharged.slots hb]
    exact ⟨Bool.toNat_le _, fun hp ↦ by rw [(hregular.passed_of_prepared hp).1]; rfl⟩
  · rw [hcharged.permits hl]
    exact ⟨Bool.toNat_le _, fun hp ↦ by rw [(hregular.passed_of_prepared hp).2]; rfl⟩

private theorem ended_of_refused {number : Nat} {b : Breaker} (hv : t.visit? i = some v)
    (hat : v.call.phase = .preparing number) (hb : t.stack.breaker? = some b)
    (hr : (b.request t.now).2 = none) :
    (t.apply (.move i)).log = t.log ∧
      ∃ v', (t.apply (.move i)).visits[i]? = some v' ∧ v'.call.begun = v.call.begun ∧
        v'.call.phase = .finished (.error (.circuitOpen b.name (b.request t.now).1.shown)) := by
  obtain ⟨s', hstep⟩ :=
    Stack.step?_of_refused (v.op.noted i) v.eligible (t.env, t.log) hat hb hr
  simp only [apply, hv, hstep]
  refine ⟨trivial, _, getElem?_set_of_some (visit?_eq_some.mp hv).1 _, rfl, ?_⟩
  have hname : (b.request t.now).1.name = b.name := by
    have hreq := b.requested_request t.now
    generalize b.request t.now = answer at hreq ⊢
    cases hreq <;> rfl
  rw [← hname]
  rfl

/-- The gates before an operation. In every crowd, after any events:

An operation takes a step only as its call takes one, inside its retry policy with the one slot and
the one permit it took, and only if the breaker permitted that very attempt. So it is, too, at any
other time while the attempt is under way. Slots that are held are neither free nor set aside.

No call takes more than one slot and one permit, and each that has an attempt prepared took both.
Calls that the outer layers reject have no attempt prepared and no step of their operation taken,
and none of their steps reads or changes the retry policy or the breaker. An attempt that the
breaker refuses, whichever of its call it is, takes no step of the operation and ends the call with
that refusal. -/
theorem operation_gated (name : String) (config : StackConfig) (env : σ) (start : Nat)
    (events : List (CrowdEvent σ ε α)) :
    let t₀ : Crowd σ ε α := new name config env start
    let t := t₀.run events
    (∀ e, (t.apply e).log = t.log ∨
      ∃ i step, e = .move i ∧ (t.apply e).log = t.log ++ [(i, step)] ∧ t.IsInside config i ∧
        Allowed config t₀ events i step) ∧
    (∀ i a, t.IsAttempting i a → t.IsInside config i ∧
      (config.breaker?.isSome = true → t₀.Began events i a)) ∧
    (∀ b, t.stack.bulkhead? = some b →
      b.free + t.places.countP Phase.holdsSlot + b.queue.countP (·.assigned) =
        b.config.maxConcurrent) ∧
    (∀ v ∈ t.visits,
      (config.bulkhead?.isSome = true →
        v.slots ≤ 1 ∧ (0 < v.call.prepared → v.slots = 1)) ∧
      (config.rateLimiter?.isSome = true →
        v.permits ≤ 1 ∧ (0 < v.call.prepared → v.permits = 1))) ∧
    (∀ i v, t.visits[i]? = some v → 0 < v.rejections →
      v.call.prepared = 0 ∧ (∀ x ∈ t.log, x.1 ≠ i) ∧
        ∀ earlier later, events = earlier ++ .move i :: later → (t₀.run earlier).LeavesInner i) ∧
    (∀ i v number b, t.visit? i = some v → v.call.phase = .preparing number →
      t.stack.breaker? = some b → (b.request t.now).2 = none →
      (t.apply (.move i)).log = t.log ∧
        ∃ v', (t.apply (.move i)).visits[i]? = some v' ∧ v'.call.begun = v.call.begun ∧
          v'.call.phase = .finished (.error (.circuitOpen b.name (b.request t.now).1.shown))) := by
  intro t₀ t
  have hcoherent : t.Coherent := coherent_run name config env start events
  refine ⟨allowed_of_noted name config env start events, fun i a hat ↦ ?_, fun b hb ↦ ?_,
    fun v hv ↦ taken_once name config env start events hv, fun i v hv hr ↦ ?_,
    fun i v number b hv hat hb hr ↦ ended_of_refused hv hat hb hr⟩
  · obtain ⟨v, hv, hphase⟩ := hat
    refine ⟨isInside_run name config env start events hv (hphase ▸ rfl), fun hguarded ↦ ?_⟩
    exact began_of_isAttempting name env start hguarded ⟨v, hv, hphase⟩
  · exact (hcoherent.balanced.seated b hb).slots_eq
  · have hmem := List.mem_of_getElem? hv
    have hrejected := (hcoherent.charged v hmem).rejected hr
    have hzero := Call.prepared_of_isRejected hrejected
    refine ⟨hzero, fun x hx hi ↦ ?_, ?_⟩
    · obtain ⟨w, hw, hbegun⟩ := hcoherent.noted x hx
      rw [hi] at hw
      cases hv.symm.trans hw
      have hle := (hcoherent.regular v hmem).begun_le
      rw [hzero] at hle
      exact hbegun (List.eq_nil_of_length_eq_zero (Nat.le_zero.mp hle))
    · rintro earlier later rfl
      exact leavesInner_of_rejected name config env start earlier (.move i :: later) hv hrejected

/-- An operation that takes ten milliseconds and succeeds. -/
def steady : Operation Unit Unit Unit where
  start env _ := (env, { latency? := some 10 })
  finish env _ := (env, .ok ())

/-- One slot, and two permits a second. -/
def narrowLayers : StackConfig :=
  ⟨some { maxConcurrent := 1, maxWait := 0 }, some { limit := 2, timeout := 0 }, some {}, some {},
    some {}⟩

/-- A stack with so little room. -/
def narrowStack : Crowd Unit Unit Unit := new "narrow" narrowLayers () 0

/-- One call has its attempt under way, and another was turned away. -/
def oneInside : List (CrowdEvent Unit Unit Unit) :=
  [.arrive {} steady fun _ ↦ true, .arrive {} steady fun _ ↦ true, .move 0, .move 1, .move 0,
    .move 0]

/-- The call ends; then the breaker is opened by hand and refuses a third call, and the rate limiter
rejects a fourth. -/
def fourGated : List (CrowdEvent Unit Unit Unit) :=
  oneInside ++ [.wait 10, .move 0, .trip, .arrive {} steady fun _ ↦ true, .move 2, .move 2,
    .move 2, .arrive {} steady fun _ ↦ true, .move 3, .move 3]

/-- Only the first of these operations ever starts, in an attempt that the breaker permitted. -/
theorem one_of_four_gated :
    ((narrowStack.run fourGated).log = [(0, .start 1), (0, .finish 0)] ∧
      (narrowStack.run fourGated).visits.map (fun v ↦ (v.slots, v.permits, v.rejections)) =
        [(1, 1, 0), (0, 0, 1), (1, 1, 0), (1, 0, 1)] ∧
      (narrowStack.run fourGated).calls.map (·.prepared) = [1, 0, 1, 0]) ∧
    (∃ a, (narrowStack.run oneInside).IsAttempting 0 a ∧ narrowStack.Began oneInside 0 a) ∧
    ∀ i v, (narrowStack.run fourGated).visits[i]? = some v → 0 < v.rejections →
      v.call.prepared = 0 ∧ ∀ x ∈ (narrowStack.run fourGated).log, x.1 ≠ i := by
  refine ⟨by decide +kernel, ?_, fun i v hv hr ↦ ?_⟩
  · have hbusy : ((narrowStack.run oneInside).visit? 0).any (·.call.phase.isAttempting) = true := by
      decide +kernel
    obtain ⟨v, hv, hat⟩ := (Option.any_eq_true _ _).mp hbusy
    obtain ⟨-, hbegan, -⟩ := operation_gated "narrow" narrowLayers () 0 oneInside
    cases hphase : v.call.phase with
    | attempting a =>
      have hattempting : (narrowStack.run oneInside).IsAttempting 0 a := ⟨v, hv, hphase⟩
      exact ⟨a, hattempting, (hbegan 0 a hattempting).2 rfl⟩
    | arriving | queued ticket | admitted | throttled since wakeAt | preparing number
    | pausing number wakeAt | finished r =>
      rw [hphase] at hat
      cases hat
  · obtain ⟨-, -, -, -, hrejected, -⟩ := operation_gated "narrow" narrowLayers () 0 fourGated
    obtain ⟨hzero, hlog, -⟩ := hrejected i v hv hr
    exact ⟨hzero, hlog⟩

end Crowd

end GuardedDispatch
