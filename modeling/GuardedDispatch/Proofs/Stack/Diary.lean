import GuardedDispatch.Proofs.Stack.Gates

/-!
# A diary of the attempts

Nothing in a stack tells how the attempts of its calls ended. A diary of a run does: with every step
of a call it notes what becomes of an attempt, whose it is, and when. The notes of one call tell all
that was done with its attempts. What holds of a new call without notes and is kept by every step
with its note holds of each call with the notes that a run made of it.
-/

namespace GuardedDispatch

variable {σ ε α : Type}

/-- What a step of a call makes of an attempt: it begins, under a permit if there is a breaker, or
the breaker refuses it, or it ends with a result, in time or cut off by its deadline. -/
inductive AttemptNote (ε α : Type) where
  | began (permit? : Option CallPermit)
  | refused (failure : PolicyFailure ε)
  | ended (inTime : Bool) (result : Except (PolicyFailure ε) α)

/-- An entry of a diary: when it was made, and what it notes. -/
structure DiaryEntry (ε α : Type) where
  time : Nat
  note : AttemptNote ε α

/-! ### The note of a step -/

namespace Stack

variable {op : Operation σ ε α} {eligible : PolicyFailure ε → Bool} {now : Nat} {s s' : Stack}
  {env env' : σ} {c c' : Call ε α}

/-- What a step of a call makes of an attempt, if anything. -/
def note? (op : Operation σ ε α) (now : Nat) (s : Stack) (env : σ) (c : Call ε α) :
    Option (AttemptNote ε α) :=
  match c.phase with
  | .preparing _ =>
    match s.breaker? with
    | none => some (.began none)
    | some b =>
      match b.request now with
      | (_, some p) => some (.began (some p))
      | (b, none) => some (.refused b.refusal)
  | .attempting a =>
    if reached now a.ends? then some (.ended true (op.finish env a.ticket).2)
    else if reached now a.deadline? then
      some (.ended false (.error (.timedOut s.timeLimiterName ((s.timeout? c.options).getD 0))))
    else none
  | _ => none

/-- That an operation notes its own steps makes no difference to the diary. -/
theorem note?_noted (op : Operation σ ε α) (i now : Nat) (s : Stack) (env : σ) (log : OperationLog)
    (c : Call ε α) : s.note? (op.noted i) now (env, log) c = s.note? op now env c := rfl

/-- Nothing is noted of a call that has yet to pass the outer layers. -/
theorem note?_of_isOutside (h : c.phase.isOutside = true) : s.note? op now env c = none := by
  cases hat : c.phase with
  | arriving | queued ticket | admitted | throttled since wakeAt => simp only [note?, hat]
  | preparing number | attempting a | pausing number wakeAt | finished r =>
    rw [hat] at h
    cases h

/-- An attempt that can start is noted with its permit. -/
theorem note?_of_entitled {number : Nat} {permit? : Option CallPermit}
    (hat : c.phase = .preparing number) (hp : Entitled now s s' permit?) :
    s.note? op now env c = some (.began permit?) := by
  cases hp with
  | unguarded hb => simp only [note?, hat, hb]
  | granted hb hr => simp only [note?, hat, hb, hr]

/-- A refused attempt is noted with the refusal. -/
theorem note?_of_refused {number : Nat} {b b' : Breaker} (hat : c.phase = .preparing number)
    (hb : s.breaker? = some b) (hr : b.request now = (b', none)) :
    s.note? op now env c = some (.refused b'.refusal) := by
  simp only [note?, hat, hb, hr]

/-- Nothing is noted of a pause. -/
theorem note?_of_pausing {number wakeAt : Nat} (hat : c.phase = .pausing number wakeAt) :
    s.note? op now env c = none := by
  simp only [note?, hat]

/-- An attempt that ends is noted with its result, and what follows is decided by that. -/
theorem ended_of_step? {a : Attempt} (hat : c.phase = .attempting a)
    (h : s.step? op eligible now env c = some (s', env', c')) :
    ∃ inTime r, s.note? op now env c = some (.ended inTime r) ∧
      (s', c') = (s.counted a r.isOk now r).afterAttempt eligible c a.number now r := by
  simp only [step?, hat] at h
  simp only [note?, hat]
  split at h
  · next hdue =>
    cases h
    exact ⟨_, _, if_pos hdue, endAttempt_eq eligible s c a now _⟩
  · next hearly =>
    split at h
    · next hdue =>
      cases h
      exact ⟨_, _, (if_neg hearly).trans (if_pos hdue), endAttempt_eq eligible s c a now _⟩
    · cases h

end Stack

/-! ### The diary of a run -/

namespace Crowd

variable {t t₀ : Crowd σ ε α} {e : CrowdEvent σ ε α} {events : List (CrowdEvent σ ε α)} {i : Nat}
  {v v' : Visit σ ε α}

/-- What the step of a call would add to a diary. -/
def entries (t : Crowd σ ε α) (v : Visit σ ε α) : List (DiaryEntry ε α) :=
  ((t.stack.note? v.op t.now t.env v.call).map (⟨t.now, ·⟩)).toList

/-- What an event adds to a diary, with the number of the call. -/
def noting (t : Crowd σ ε α) : CrowdEvent σ ε α → List (Nat × DiaryEntry ε α)
  | .move i => (((t.visit? i).map t.entries).getD []).map (i, ·)
  | _ => []

/-- The diary of a run. -/
def diary (t : Crowd σ ε α) : List (CrowdEvent σ ε α) → List (Nat × DiaryEntry ε α)
  | [] => []
  | e :: rest => t.noting e ++ (t.apply e).diary rest

/-- What entries tell about the call with a number. -/
def about (i : Nat) (d : List (Nat × DiaryEntry ε α)) : List (DiaryEntry ε α) :=
  (d.filter (·.1 == i)).map (·.2)

/-- What the diary of a run tells about the call with a number. -/
def diaryOf (t : Crowd σ ε α) (events : List (CrowdEvent σ ε α)) (i : Nat) :
    List (DiaryEntry ε α) := about i (t.diary events)

private theorem diary_concat (t : Crowd σ ε α) (events : List (CrowdEvent σ ε α))
    (e : CrowdEvent σ ε α) :
    t.diary (events ++ [e]) = t.diary events ++ (t.run events).noting e := by
  induction events generalizing t with
  | nil => exact List.append_nil _
  | cons f rest ih =>
    rw [List.cons_append, diary, ih, diary, List.append_assoc]
    rfl

/-- Every entry was made by a step of its call at some point of the run. -/
theorem exists_of_mem_diary {x : Nat × DiaryEntry ε α} (hx : x ∈ t.diary events) :
    ∃ earlier later v, events = earlier ++ .move x.1 :: later ∧
      (t.run earlier).visit? x.1 = some v ∧ x.2 ∈ (t.run earlier).entries v := by
  induction events generalizing t with
  | nil => cases hx
  | cons e rest ih =>
    obtain hx | hx := List.mem_append.mp hx
    · cases e with
      | move i =>
        simp only [noting] at hx
        cases hv : t.visit? i with
        | none =>
          rw [hv] at hx
          cases hx
        | some v =>
          rw [hv, Option.map_some, Option.getD_some] at hx
          obtain ⟨y, hy, rfl⟩ := List.mem_map.mp hx
          exact ⟨[], rest, v, rfl, hv, hy⟩
      | arrive options op eligible | drop i | close | trip | reset | reconfigure config | observe
      | shift env | wait duration => cases hx
    · obtain ⟨earlier, later, v, rfl, hv, hmem⟩ := ih hx
      exact ⟨e :: earlier, later, v, rfl, hv, hmem⟩

private theorem about_append (i : Nat) (d d' : List (Nat × DiaryEntry ε α)) :
    about i (d ++ d') = about i d ++ about i d' := by
  rw [about, List.filter_append, List.map_append, about, about]

private theorem about_map (i j : Nat) (d : List (DiaryEntry ε α)) :
    about j (d.map (i, ·)) = if i = j then d else [] := by
  by_cases hij : i = j
  · simp [about, List.filter_map, Function.comp_def, hij]
  · simp [about, List.filter_map, Function.comp_def, hij]

/-- What an event makes of the call with a number, and what it adds to the diary of that call. -/
inductive Continued (t : Crowd σ ε α) (e : CrowdEvent σ ε α) (i : Nat) :
    Visit σ ε α → List (DiaryEntry ε α) → Prop
  | kept {v v' : Visit σ ε α} (hv : t.visits[i]? = some v) (hop : v'.op = v.op)
      (heligible : v'.eligible = v.eligible) (hcall : v'.call = v.call) : Continued t e i v' []
  | arrived (hi : t.visits[i]? = none) (options : CallOptions) (op : Operation σ ε α)
      (eligible : PolicyFailure ε → Bool) : Continued t e i { op, eligible, call := { options } } []
  | moved {v : Visit σ ε α} {s' : Stack} {env' : σ} {log' : OperationLog} {c' : Call ε α}
      (hv : t.visit? i = some v)
      (hstep : t.stack.step? (v.op.noted i) v.eligible t.now (t.env, t.log) v.call =
        some (s', (env', log'), c')) : Continued t e i (v.moved t.stack s' c') (t.entries v)

/-- A call that waits notes nothing. -/
theorem entries_of_step?_eq_none
    (h : t.stack.step? (v.op.noted i) v.eligible t.now (t.env, t.log) v.call = none) :
    t.entries v = [] := by
  have hnote : t.stack.note? v.op t.now t.env v.call = none := by
    cases hat : v.call.phase with
    | arriving | queued ticket | admitted | throttled since wakeAt =>
      exact Stack.note?_of_isOutside (hat ▸ rfl)
    | pausing number wakeAt => exact Stack.note?_of_pausing hat
    | finished r => simp only [Stack.note?, hat]
    | preparing number =>
      simp only [Stack.step?, hat] at h
      cases h
    | attempting a =>
      simp only [Stack.step?, hat] at h
      simp only [Stack.note?, hat]
      split at h
      · cases h
      · next hearly =>
        split at h
        · cases h
        · next hrunning => rw [if_neg hearly, if_neg hrunning]
  rw [entries, hnote]
  rfl

private theorem about_noting_of_ne (he : e ≠ .move i) : about i (t.noting e) = [] := by
  cases e with
  | move j =>
    rw [noting, about_map, if_neg]
    rintro rfl
    exact he rfl
  | arrive options op eligible | drop j | close | trip | reset | reconfigure config | observe
  | shift env | wait duration => rfl

/-- An event does one of the three to the call with a number. -/
theorem continued_of_apply (h : (t.apply e).visits[i]? = some v') :
    t.Continued e i v' (about i (t.noting e)) := by
  by_cases he : e = .move i
  · subst he
    simp only [apply] at h
    simp only [noting, about_map, if_true]
    split at h
    · next v hv =>
      rw [hv, Option.map_some, Option.getD_some]
      split at h
      · next s' env' log' c' hstep =>
        rw [getElem?_set_of_some (visit?_eq_some.mp hv).1] at h
        cases h
        exact .moved hv hstep
      · next hstep =>
        rw [entries_of_step?_eq_none hstep]
        exact .kept h rfl rfl rfl
    · next hv =>
      rw [hv, Option.map_none, Option.getD_none]
      exact .kept h rfl rfl rfl
  · rw [about_noting_of_ne he]
    cases changed_of_apply h with
    | kept hv => exact .kept hv rfl rfl rfl
    | arrived hi harrive =>
      exact .arrived (List.getElem?_eq_none (Nat.le_of_eq hi.symm)) _ _ _
    | moved hmove hv hstep => exact absurd hmove he
    | dropped hdrop hv => exact .kept (visit?_eq_some.mp hv).1 rfl rfl rfl

private theorem diaryOf_of_absent (hi : (t.run events).visits[i]? = none) : t.diaryOf events i =
    [] := by
  induction events using List.reverseRecOn with
  | nil => rfl
  | append_singleton events e ih =>
    rw [run_append] at hi
    have hbefore : (t.run events).visits[i]? = none := by
      rw [List.getElem?_eq_none_iff] at hi ⊢
      exact ((t.run events).length_apply e).trans hi
    rw [diaryOf, diary_concat, about_append, ← diaryOf, ih hbefore, List.nil_append]
    by_cases he : e = .move i
    · have hvisit : (t.run events).visit? i = none := by
        rw [visit?, hbefore]
        rfl
      rw [he, noting, hvisit]
      rfl
    · exact about_noting_of_ne he

/-- The clock does not go back. -/
theorem now_le_apply (t : Crowd σ ε α) (e : CrowdEvent σ ε α) : t.now ≤ (t.apply e).now := by
  cases e with
  | move i =>
    obtain he | ⟨v, s', env', log', c', hv, hstep, he⟩ := t.apply_move i
    · rw [he]
    · rw [he]
  | drop i =>
    simp only [apply]
    split
    · exact Nat.le_refl _
    · exact Nat.le_refl _
  | wait duration => exact Nat.le_add_right _ _
  | arrive options op eligible | close | trip | reset | reconfigure config | observe | shift env =>
    exact Nat.le_refl _

/-- What holds of every new call without notes, stays so as time passes, and is kept by every step
of a call with what that adds to the diary, holds of every call with its diary. -/
theorem diaryOf_keeps {I : Nat → Operation σ ε α → (PolicyFailure ε → Bool) →
      List (DiaryEntry ε α) → Call ε α → Prop}
    (hnew : ∀ now op eligible options, I now op eligible [] { options })
    (htime : ∀ now now' op eligible d c, now ≤ now' → I now op eligible d c →
      I now' op eligible d c)
    (hmove : ∀ events i v d s' env' log' c', (t₀.run events).visit? i = some v →
      (t₀.run events).stack.step? (v.op.noted i) v.eligible (t₀.run events).now
          ((t₀.run events).env, (t₀.run events).log) v.call = some (s', (env', log'), c') →
      I (t₀.run events).now v.op v.eligible d v.call →
      I (t₀.run events).now v.op v.eligible (d ++ (t₀.run events).entries v) c')
    (hstart : t₀.visits = []) (events : List (CrowdEvent σ ε α))
    (hv : (t₀.run events).visits[i]? = some v) :
    I (t₀.run events).now v.op v.eligible (t₀.diaryOf events i) v.call := by
  induction events using List.reverseRecOn generalizing v with
  | nil =>
    have hnone : t₀.visits[i]? = some v := hv
    rw [hstart] at hnone
    cases hnone
  | append_singleton events e ih =>
    rw [run_append] at hv ⊢
    rw [diaryOf, diary_concat, about_append, ← diaryOf]
    have hcontinued := continued_of_apply hv
    -- the entry bears the time before the event, the call is looked at after it
    refine htime _ _ _ _ _ _ ((t₀.run events).now_le_apply e) ?_
    generalize about i ((t₀.run events).noting e) = added at hcontinued
    cases hcontinued with
    | kept hw hop heligible hcall =>
      rw [List.append_nil, hop, heligible, hcall]
      exact ih hw
    | arrived hi options op eligible =>
      rw [List.append_nil, diaryOf_of_absent hi]
      exact hnew _ op eligible options
    | moved hw hstep => exact hmove events i _ _ _ _ _ _ hw hstep (ih (visit?_eq_some.mp hw).1)

end Crowd

end GuardedDispatch
