import GuardedDispatch.Proofs.Stack.Diary

/-!
# What the time limiter counts

A time limiter counts the results of attempts, and tells a deadline that expired from an operation
that finished by the result alone. The diary of a run tells both apart, so it says which attempts
the counters are about: those that were cut off, and those whose operation failed with a time-out of
its own.
-/

namespace GuardedDispatch

variable {σ ε α : Type}

namespace AttemptNote

/-- Whether the deadline cut the attempt off. -/
def isCutOff : AttemptNote ε α → Bool
  | .ended inTime _ => !inTime
  | _ => false

/-- Whether the operation of the attempt finished. -/
def isInTime : AttemptNote ε α → Bool
  | .ended inTime _ => inTime
  | _ => false

/-- Whether the attempt ended with a time-out. -/
def isTimeout : AttemptNote ε α → Bool
  | .ended _ (.error e) => e.isTimeout
  | _ => false

/-- Whether the operation of the attempt finished with a time-out of its own. -/
def isOwnTimeout (note : AttemptNote ε α) : Bool := note.isInTime && note.isTimeout

private theorem toNat_isTimeout (note : AttemptNote ε α)
    (h : note.isCutOff = true → note.isTimeout = true) :
    note.isTimeout.toNat = note.isCutOff.toNat + note.isOwnTimeout.toNat := by
  cases note with
  | began permit? | refused e => rfl
  | ended inTime r =>
    cases inTime with
    | true => exact (Nat.zero_add _).symm
    | false => rw [h rfl]; rfl

end AttemptNote

/-! ### One step -/

/-- What a time limiter makes of a note: it counts the result of an attempt that ended. -/
def TimeLimiter.reading (l : TimeLimiter) : AttemptNote ε α → TimeLimiter
  | .ended _ r => l.count r
  | _ => l

private theorem TimeLimiter.counts_reading (l : TimeLimiter) (note : AttemptNote ε α) :
    (l.reading note).timedOut = l.timedOut + note.isTimeout.toNat ∧
      (l.reading note).completed + (l.reading note).timedOut =
        l.completed + l.timedOut + (note.isCutOff.toNat + note.isInTime.toNat) := by
  cases note with
  | began permit? | refused e => exact ⟨rfl, rfl⟩
  | ended inTime r =>
    cases r with
    | ok value => cases inTime <;> exact ⟨rfl, Nat.add_right_comm _ _ _⟩
    | error e =>
      cases htimeout : e.isTimeout with
      | true =>
        cases inTime <;>
          simp [reading, count, AttemptNote.isTimeout, AttemptNote.isCutOff, AttemptNote.isInTime,
            htimeout, Nat.add_assoc]
      | false =>
        cases inTime <;>
          simp [reading, count, AttemptNote.isTimeout, AttemptNote.isCutOff, AttemptNote.isInTime,
            htimeout, Nat.add_right_comm]

private theorem TimeLimiter.counts_foldl (l : TimeLimiter) (d : List (Nat × DiaryEntry ε α)) :
    let l' := d.foldl (fun l x ↦ l.reading x.2.note) l
    l'.timedOut = l.timedOut + d.countP (·.2.note.isTimeout) ∧
      l'.completed + l'.timedOut = l.completed + l.timedOut +
        (d.countP (·.2.note.isCutOff) + d.countP (·.2.note.isInTime)) := by
  induction d generalizing l with
  | nil => exact ⟨rfl, rfl⟩
  | cons x rest ih =>
    obtain ⟨htimeout, hended⟩ := l.counts_reading x.2.note
    obtain ⟨htimeouts, hall⟩ := ih (l.reading x.2.note)
    simp only [List.foldl_cons, countP_cons_toNat]
    omega

namespace Stack

variable {op : Operation σ ε α} {eligible : PolicyFailure ε → Bool} {now : Nat} {s s' : Stack}
  {env env' : σ} {c c' : Call ε α}

private theorem timeLimiter?_afterAttempt (eligible : PolicyFailure ε → Bool) (s : Stack)
    (c : Call ε α)
    (number now : Nat) (r : Except (PolicyFailure ε) α) :
    (s.afterAttempt eligible c number now r).1.timeLimiter? = s.timeLimiter? := by
  have hd := decided_afterAttempt eligible s c number now r
  generalize s.afterAttempt eligible c number now r = next at hd ⊢
  obtain ⟨s', c'⟩ := next
  cases hd with
  | done hok hrejected | again hr hrejected => rfl

private theorem timeLimiter?_of_step?
    (hstep : s.step? op eligible now env c = some (s', env', c')) :
    s'.timeLimiter? =
      s.timeLimiter?.map fun l ↦ (s.note? op now env c).elim l l.reading := by
  have hsame (h : s.note? op now env c = none) (h' : s'.timeLimiter? = s.timeLimiter?) :
      s'.timeLimiter? = s.timeLimiter?.map fun l ↦ (s.note? op now env c).elim l l.reading := by
    rw [h, h']
    exact Option.map_id'.symm
  cases moved_of_step? hstep with
  | unguarded hat hb | seated hat hb hr | turnedAway hat hb hr | queued hat hb hr
  | claimed hat hb hr | gaveUp hat hb hr => exact hsame (note?_of_isOutside (hat ▸ rfl)) rfl
  | unlimited hat hl | granted hat hl hr | limited hat hl hr | slept hat hl hr =>
    exact hsame (note?_of_isOutside hat.isOutside) rfl
  | resumed hat hdue => exact hsame (note?_of_pausing hat) rfl
  | started hat hp =>
    rw [note?_of_entitled hat hp]
    cases hp with
    | unguarded hb | granted hb hr => exact Option.map_id'.symm
  | refused hat hb hr =>
    rw [note?_of_refused hat hb hr]
    exact Option.map_id'.symm
  | ended hat hends hd =>
    obtain ⟨inTime, r, hnote, hafter⟩ := ended_of_step? hat hstep
    rw [hnote]
    exact (congrArg (·.1.timeLimiter?) hafter).trans (timeLimiter?_afterAttempt _ _ _ _ _ _)

private theorem cutOff_iff_of_note? {a : Attempt} (hat : c.phase = .attempting a)
    {note : AttemptNote ε α} (h : s.note? op now env c = some note) :
    ∃ r, note = .ended (reached now a.ends?) r ∧
      (reached now a.ends? = false →
        r = .error (.timedOut s.timeLimiterName ((s.timeout? c.options).getD 0))) := by
  simp only [note?, hat] at h
  split at h
  · next hdue =>
    cases h
    exact ⟨_, by rw [hdue], fun hearly ↦ absurd hdue (Bool.eq_false_iff.mp hearly)⟩
  · next hearly =>
    split at h
    · cases h
      exact ⟨_, by rw [Bool.eq_false_iff.mpr hearly], fun _ ↦ rfl⟩
    · cases h

private theorem isTimeout_of_note? {note : AttemptNote ε α} (h : s.note? op now env c = some note)
    (hcut : note.isCutOff = true) : note.isTimeout = true := by
  cases hat : c.phase with
  | arriving | queued ticket | admitted | throttled since wakeAt =>
    rw [note?_of_isOutside (hat ▸ rfl)] at h
    cases h
  | pausing number wakeAt =>
    rw [note?_of_pausing hat] at h
    cases h
  | finished r =>
    simp only [note?, hat] at h
    cases h
  | preparing number =>
    simp only [note?, hat] at h
    split at h
    · cases h
      cases hcut
    · split at h <;>
      · cases h
        cases hcut
  | attempting a =>
    obtain ⟨r, rfl, hr⟩ := cutOff_iff_of_note? hat h
    have hearly : reached now a.ends? = false := Bool.not_eq_true' _ ▸ hcut
    rw [hr hearly]
    rfl

end Stack

/-! ### A run -/

namespace Crowd

variable {t : Crowd σ ε α}

/-- An event changes the time limiter by what it adds to the diary. -/
theorem timeLimiter?_apply (t : Crowd σ ε α) (e : CrowdEvent σ ε α) :
    (t.apply e).stack.timeLimiter? =
      t.stack.timeLimiter?.map fun l ↦ (t.noting e).foldl (fun l x ↦ l.reading x.2.note) l := by
  cases e with
  | move i =>
    simp only [apply, noting]
    split
    · next v hv =>
      simp only [hv, Option.map_some, Option.getD_some, List.foldl_map]
      split
      · next s' env' log' c' hstep =>
        have hread := Stack.timeLimiter?_of_step? hstep
        rw [Stack.note?_noted] at hread
        rw [hread, entries]
        cases t.stack.note? v.op t.now t.env v.call <;> rfl
      · next hstep =>
        rw [entries_of_step?_eq_none hstep]
        exact Option.map_id'.symm
    · next hv =>
      rw [hv]
      exact Option.map_id'.symm
  | drop i =>
    simp only [apply]
    split
    · next v hv => exact (t.stack.inner_drop v.call t.now).2.2.trans Option.map_id'.symm
    · exact Option.map_id'.symm
  | arrive options op eligible | close | trip | reset | reconfigure config | observe | shift env
  | wait duration => exact Option.map_id'.symm

/-- A run changes the time limiter by its diary. -/
theorem timeLimiter?_run (t : Crowd σ ε α) (events : List (CrowdEvent σ ε α)) :
    (t.run events).stack.timeLimiter? =
      t.stack.timeLimiter?.map fun l ↦
        (t.diary events).foldl (fun l x ↦ l.reading x.2.note) l := by
  induction events generalizing t with
  | nil => exact Option.map_id'.symm
  | cons e rest ih =>
    change ((t.apply e).run rest).stack.timeLimiter? = _
    rw [ih, timeLimiter?_apply, Option.map_map]
    simp only [Function.comp_def, diary, List.foldl_append]

private theorem isTimeout_of_mem_diary {events : List (CrowdEvent σ ε α)} {x : Nat × DiaryEntry ε α}
    (hx : x ∈ t.diary events) (hcut : x.2.note.isCutOff = true) : x.2.note.isTimeout = true := by
  obtain ⟨earlier, later, v, -, -, hmem⟩ := exists_of_mem_diary hx
  obtain ⟨note, hnote, hentry⟩ := Option.map_eq_some_iff.mp (Option.mem_toList.mp hmem)
  rw [← hentry] at hcut ⊢
  exact Stack.isTimeout_of_note? hnote hcut

/-- What the time limiter counts. In every crowd, after any events:

An attempt that ends is noted as cut off exactly if its operation has not finished by then, and then
it fails with a time-out of the limiter.

The calls that the limiter reports as timed out are the attempts that its deadline cut off and those
whose operation finished with a time-out of its own, and as completed all others whose operation
finished. So the limiter reports the attempts that it cut off exactly if no operation finished with
a time-out. -/
theorem timedOut_iff_no_own_timeout (name : String) (config : StackConfig) (env : σ) (start : Nat)
    (events : List (CrowdEvent σ ε α)) :
    let t₀ : Crowd σ ε α := new name config env start
    let t := t₀.run events
    let d := t₀.diary events
    (∀ i (v : Visit σ ε α) a, t.visit? i = some v → v.call.phase = .attempting a →
      ∀ x ∈ t.entries v, ∃ r, x.note = .ended (Stack.reached t.now a.ends?) r ∧
        (Stack.reached t.now a.ends? = false → r = .error (.timedOut t.stack.timeLimiterName
          ((t.stack.timeout? v.call.options).getD 0)))) ∧
    ∀ l, t.stack.timeLimiter? = some l →
      l.timedOut = d.countP (·.2.note.isCutOff) + d.countP (·.2.note.isOwnTimeout) ∧
        l.completed + d.countP (·.2.note.isOwnTimeout) = d.countP (·.2.note.isInTime) ∧
        (l.timedOut = d.countP (·.2.note.isCutOff) ↔ ∀ x ∈ d, x.2.note.isOwnTimeout = false) := by
  intro t₀ t d
  refine ⟨fun i v a hv hat x hx ↦ ?_, fun l hl ↦ ?_⟩
  · obtain ⟨note, hnote, rfl⟩ := Option.map_eq_some_iff.mp (Option.mem_toList.mp hx)
    exact Stack.cutOff_iff_of_note? hat hnote
  · have hrun := timeLimiter?_run t₀ events
    rw [hl] at hrun
    obtain ⟨l₀, hl₀, hread⟩ := Option.map_eq_some_iff.mp hrun.symm
    obtain ⟨settings, -, rfl⟩ := Option.map_eq_some_iff.mp hl₀
    have hcounts := TimeLimiter.counts_foldl
      { name := name ++ "-time-limiter", config := settings } d
    rw [hread] at hcounts
    obtain ⟨htimedOut, hended⟩ := hcounts
    dsimp only at htimedOut hended
    have hsplit : d.countP (·.2.note.isTimeout) =
        d.countP (·.2.note.isCutOff) + d.countP (·.2.note.isOwnTimeout) :=
      countP_eq_add fun x hx ↦
        x.2.note.toNat_isTimeout fun hcut ↦ isTimeout_of_mem_diary hx hcut
    rw [hsplit, Nat.zero_add] at htimedOut
    refine ⟨htimedOut, by omega, ?_⟩
    rw [htimedOut, Nat.add_eq_left, List.countP_eq_zero]
    exact forall₂_congr fun x hx ↦ iff_of_eq (Bool.not_eq_true _)

/-- An operation that fails after ten milliseconds, because something it waited for took longer than
five. -/
def selfTimed : Operation Unit Unit Unit where
  start env _ := (env, { latency? := some 10 })
  finish env _ := (env, .error (.timedOut "inner" 5))

/-- Its failure is reported as a call that was cut off, though the deadline is ninety milliseconds
away when the operation finishes and no call was cut off. -/
theorem own_timeout_reported_as_cutOff :
    let t₀ : Crowd Unit Unit Unit :=
      new "orders" { StackConfig.passthrough with timeLimiter? := some { timeout := 100 } } () 0
    let events : List (CrowdEvent Unit Unit Unit) :=
      [.arrive {} selfTimed fun _ ↦ true, .move 0, .move 0, .move 0, .wait 10, .move 0]
    (t₀.run events).now = 10 ∧
      ((t₀.run events).stack.timeLimiter?.map TimeLimiter.stats) =
        some { completed := 0, timedOut := 1 } ∧
      (t₀.diary events).countP (·.2.note.isInTime) = 1 ∧
      (t₀.diary events).countP (·.2.note.isCutOff) = 0 := by
  decide +kernel

end Crowd

end GuardedDispatch
