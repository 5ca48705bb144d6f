import GuardedDispatch.Proofs.Stack.Diary

/-!
# How often an operation is prepared

A call prepares its operation for each attempt before the breaker is asked. The diary of the call
says for which attempts the breaker gave its permission, so it says which preparations were in vain:
there is one at most, the call's last, and its refusal is the call's result.
-/

namespace GuardedDispatch

variable {σ ε α : Type}

namespace AttemptNote

/-- Whether the breaker permitted the attempt, which begins. -/
def isGranted : AttemptNote ε α → Bool
  | .began permit? => permit?.isSome
  | _ => false

/-- Whether the breaker refused the attempt. -/
def isRefused : AttemptNote ε α → Bool
  | .refused _ => true
  | _ => false

end AttemptNote

/-- Whether an entry is about an attempt that the breaker permitted. -/
def DiaryEntry.isGranted (x : DiaryEntry ε α) : Bool := x.note.isGranted

/-- Whether an entry is about an attempt that the breaker refused. -/
def DiaryEntry.isRefused (x : DiaryEntry ε α) : Bool := x.note.isRefused

/-- What the diary of a call under a breaker tells about its preparations: there is one for each
attempt that was permitted or refused, an attempt began whenever one was permitted, and a refusal is
the last that is told and the result of the call. -/
structure Call.Licensed (c : Call ε α) (d : List (DiaryEntry ε α)) : Prop where
  prepared_eq : c.prepared = d.countP (·.isGranted) + d.countP (·.isRefused)
  begun_eq : c.begun = (d.filter (·.isGranted)).map (·.time)
  refused_once : d.countP (·.isRefused) = 0 ∨ ∃ earlier time e,
    d = earlier ++ [⟨time, .refused e⟩] ∧ earlier.countP (·.isRefused) = 0 ∧
      c.phase = .finished (.error e)

namespace Call

variable {c c' : Call ε α} {d : List (DiaryEntry ε α)} {r : Except (PolicyFailure ε) α}

private theorem Licensed.unrefused (h : c.Licensed d) (hat : c.phase.result? = none) :
    d.countP (·.isRefused) = 0 := by
  obtain hnone | ⟨earlier, time, e, -, -, hover⟩ := h.refused_once
  · exact hnone
  · rw [hover] at hat
    cases hat

private theorem Licensed.of_same (h : c.Licensed d) (hat : c.phase.result? = none)
    (hprepared : c'.prepared = c.prepared) (hbegun : c'.begun = c.begun)
    {added : List (DiaryEntry ε α)}
    (hquiet : ∀ x ∈ added, x.isGranted = false ∧ x.isRefused = false) :
    c'.Licensed (d ++ added) := by
  have hgranted : ∀ x ∈ added, ¬x.isGranted = true :=
    fun x hx ↦ Bool.eq_false_iff.mp (hquiet x hx).1
  have hrefused : added.countP (·.isRefused) = 0 :=
    List.countP_eq_zero.mpr fun x hx ↦ Bool.eq_false_iff.mp (hquiet x hx).2
  refine ⟨?_, ?_, .inl ?_⟩
  · rw [hprepared, h.prepared_eq, List.countP_append, List.countP_append,
      List.countP_eq_zero.mpr hgranted, hrefused]
    rfl
  · rw [hbegun, h.begun_eq, List.filter_append, List.filter_eq_nil_iff.mpr hgranted,
      List.append_nil]
  · rw [List.countP_append, h.unrefused hat, hrefused]

private theorem Licensed.began (h : c.Licensed d) (hat : c.phase.result? = none) (now : Nat)
    (p : CallPermit) (hprepared : c'.prepared = c.prepared + 1)
    (hbegun : c'.begun = c.begun ++ [now]) : c'.Licensed (d ++ [⟨now, .began (some p)⟩]) := by
  have hgranted : DiaryEntry.isGranted (⟨now, .began (some p)⟩ : DiaryEntry ε α) = true := rfl
  have hrefused : DiaryEntry.isRefused (⟨now, .began (some p)⟩ : DiaryEntry ε α) = false := rfl
  refine ⟨?_, ?_, .inl ?_⟩
  · rw [hprepared, h.prepared_eq, List.countP_append, List.countP_append, List.countP_singleton,
      List.countP_singleton, hgranted, hrefused]
    exact Nat.add_right_comm _ _ _
  · rw [hbegun, h.begun_eq, List.filter_append, List.map_append, List.filter_singleton, hgranted]
    rfl
  · rw [List.countP_append, h.unrefused hat, List.countP_singleton, hrefused]
    rfl

private theorem Licensed.turnedDown (h : c.Licensed d) (hat : c.phase.result? = none) (now : Nat)
    (e : PolicyFailure ε) :
    ({ c with prepared := c.prepared + 1, phase := .finished (.error e) } : Call ε α).Licensed
      (d ++ [⟨now, .refused e⟩]) := by
  have hgranted : DiaryEntry.isGranted (⟨now, .refused e⟩ : DiaryEntry ε α) = false := rfl
  have hrefused : DiaryEntry.isRefused (⟨now, .refused e⟩ : DiaryEntry ε α) = true := rfl
  refine ⟨?_, ?_, .inr ⟨d, now, e, rfl, h.unrefused hat, rfl⟩⟩
  · rw [List.countP_append, List.countP_append, List.countP_singleton, List.countP_singleton,
      hgranted, hrefused, h.prepared_eq]
    rfl
  · rw [List.filter_append, List.map_append, List.filter_singleton, hgranted]
    exact h.begun_eq.trans (List.append_nil _).symm

end Call

namespace Stack

variable {op : Operation σ ε α} {eligible : PolicyFailure ε → Bool} {now : Nat} {s s' : Stack}
  {env env' : σ} {c c' : Call ε α} {d : List (DiaryEntry ε α)}

private theorem licensed_of_step? (hguarded : s.breaker?.isSome = true)
    (hstep : s.step? op eligible now env c = some (s', env', c')) (h : c.Licensed d) :
    c'.Licensed (d ++ ((s.note? op now env c).map (⟨now, ·⟩)).toList) := by
  have hquiet (hat : c.phase.result? = none) (hnote : s.note? op now env c = none)
      (hprepared : c'.prepared = c.prepared) (hbegun : c'.begun = c.begun) :
      c'.Licensed (d ++ ((s.note? op now env c).map (⟨now, ·⟩)).toList) := by
    rw [hnote]
    exact h.of_same hat hprepared hbegun fun _ hx ↦ nomatch hx
  cases moved_of_step? hstep with
  | unguarded hat hb | seated hat hb hr | turnedAway hat hb hr | queued hat hb hr
  | claimed hat hb hr | gaveUp hat hb hr =>
    exact hquiet (by rw [hat]; rfl) (note?_of_isOutside (hat ▸ rfl)) rfl rfl
  | unlimited hat hl | granted hat hl hr | limited hat hl hr | slept hat hl hr =>
    exact hquiet hat.result? (note?_of_isOutside hat.isOutside) rfl rfl
  | resumed hat hdue => exact hquiet (by rw [hat]; rfl) (note?_of_pausing hat) rfl rfl
  | started hat hp =>
    rw [note?_of_entitled hat hp, Option.map_some, Option.toList_some]
    cases hp with
    | unguarded hb =>
      rw [hb] at hguarded
      cases hguarded
    | granted hb hr => exact h.began (by rw [hat]; rfl) now _ rfl rfl
  | refused hat hb hr =>
    rw [note?_of_refused hat hb hr, Option.map_some, Option.toList_some]
    exact h.turnedDown (by rw [hat]; rfl) now _
  | @ended a r s' env' c' hat hends hd =>
    obtain ⟨inTime, r', hnote, -⟩ := ended_of_step? hat hstep
    rw [hnote, Option.map_some, Option.toList_some]
    have hsame : c'.prepared = c.prepared ∧ c'.begun = c.begun := by
      cases hd with
      | done hok hrejected | again hr hrejected => exact ⟨rfl, rfl⟩
    refine h.of_same (by rw [hat]; rfl) hsame.1 hsame.2 fun x hx ↦ ?_
    rw [List.mem_singleton.mp hx]
    exact ⟨rfl, rfl⟩

end Stack

namespace Crowd

variable {i : Nat} {v : Visit σ ε α}

/-- In every run under a breaker each call is licensed. -/
theorem licensed_run (name : String) (config : StackConfig) (env : σ) (start : Nat)
    (events : List (CrowdEvent σ ε α)) (hguarded : config.breaker?.isSome = true)
    (hv : ((new name config env start).run events).visits[i]? = some v) :
    v.call.Licensed ((new name config env start).diaryOf events i) := by
  refine diaryOf_keeps (I := fun _ _ _ d c ↦ c.Licensed d) ?_ ?_ ?_ rfl events hv
  · intro now op eligible options
    exact ⟨rfl, rfl, .inl rfl⟩
  · intro now now' op eligible d c hle h
    exact h
  · intro events i v d s' env' log' c' hv hstep h
    have hlayout := congrArg (·.2.2.2.1) (layout_run name config env start events)
    have hkept := Stack.licensed_of_step? (hlayout.trans hguarded) hstep h
    rw [Stack.note?_noted] at hkept
    exact hkept

/-- How often an operation is prepared. In every crowd under a breaker, after any events:

An attempt that the breaker refuses, whichever of its call it is, has its operation prepared, though
the operation takes no step and the refusal ends the call.

A call has prepared its operation as often as the breaker permitted or refused an attempt of it. One
refusal at most is among these, the last, and it is the result of the call. So a call has prepared
its operation as often as the breaker gave its permission exactly if it was never refused. -/
theorem prepared_eq_granted_iff (name : String) (config : StackConfig) (env : σ) (start : Nat)
    (events : List (CrowdEvent σ ε α)) :
    let t₀ : Crowd σ ε α := new name config env start
    let t := t₀.run events
    (∀ i (v : Visit σ ε α) number b, t.visit? i = some v → v.call.phase = .preparing number →
      t.stack.breaker? = some b → (b.request t.now).2 = none →
      (t.apply (.move i)).log = t.log ∧
        ∃ v', (t.apply (.move i)).visits[i]? = some v' ∧
          v'.call.prepared = v.call.prepared + 1 ∧ v'.call.begun = v.call.begun ∧
          v'.call.phase = .finished (.error (b.request t.now).1.refusal)) ∧
    (config.breaker?.isSome = true → ∀ i (v : Visit σ ε α), t.visits[i]? = some v →
      let d := t₀.diaryOf events i
      v.call.begun = (d.filter (·.isGranted)).map (·.time) ∧
        v.call.prepared = d.countP (·.isGranted) + d.countP (·.isRefused) ∧
        (d.countP (·.isRefused) = 0 ∨ ∃ earlier time e, d = earlier ++ [⟨time, .refused e⟩] ∧
          earlier.countP (·.isRefused) = 0 ∧ v.call.phase = .finished (.error e)) ∧
        (v.call.prepared = d.countP (·.isGranted) ↔ ∀ x ∈ d, x.isRefused = false)) := by
  intro t₀ t
  refine ⟨fun i v number b hv hat hb hr ↦ ?_, fun hguarded i v hv ↦ ?_⟩
  · obtain ⟨s', hstep⟩ :=
      Stack.step?_of_refused (v.op.noted i) v.eligible (t.env, t.log) hat hb hr
    simp only [apply, hv, hstep]
    exact ⟨trivial, _, getElem?_set_of_some (visit?_eq_some.mp hv).1 _, rfl, rfl, rfl⟩
  · intro d
    have hlicensed := licensed_run name config env start events hguarded hv
    refine ⟨hlicensed.begun_eq, hlicensed.prepared_eq, hlicensed.refused_once, ?_⟩
    rw [hlicensed.prepared_eq, Nat.add_eq_left, List.countP_eq_zero]
    exact forall₂_congr fun x hx ↦ iff_of_eq (Bool.not_eq_true _)

/-- An operation that succeeds at once. -/
def prompt : Operation Unit Unit Unit where
  start env _ := (env, { latency? := some 0 })
  finish env _ := (env, .ok ())

/-- A call that comes while the breaker is open prepares its operation, though the breaker gives no
permission and the operation takes no step. -/
theorem prepared_while_open :
    let t₀ : Crowd Unit Unit Unit :=
      new "orders" { StackConfig.passthrough with breaker? := some {} } () 0
    let events : List (CrowdEvent Unit Unit Unit) :=
      [.trip, .arrive {} prompt fun _ ↦ true, .move 0, .move 0, .move 0]
    (t₀.run events).calls.map (·.prepared) = [1] ∧ (t₀.run events).calls.map (·.begun) = [[]] ∧
      (t₀.run events).log = [] ∧ (t₀.diaryOf events 0).countP (·.isGranted) = 0 ∧
      (t₀.diaryOf events 0).countP (·.isRefused) = 1 := by
  decide +kernel

end Crowd

end GuardedDispatch
