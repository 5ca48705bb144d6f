import GuardedDispatch.Policy.Stack

/-!
# Stacks under other names

The layers of a stack carry names, which are found again in the failures that they make. Giving the
layers other names changes nothing else: every operation of a layer, and every step of a call,
does the same under the other names, but for the names in the failures.
-/

namespace GuardedDispatch

variable {σ ε α : Type}

/-! ### Failures without names -/

/-- The failure with every name in it taken out. -/
def PolicyFailure.unnamed : PolicyFailure ε → PolicyFailure ε
  | .bulkheadFull _ w => .bulkheadFull "" w
  | .rateLimited _ t => .rateLimited "" t
  | .circuitOpen _ s => .circuitOpen "" s
  | .timedOut _ a => .timedOut "" a
  | .exhausted _ k last => .exhausted "" k last.unnamed
  | .inner e => .inner e

/-- Names tell nothing about whether a failure is a rejection. -/
@[simp] theorem PolicyFailure.isRejection_unnamed (e : PolicyFailure ε) :
    e.unnamed.isRejection = e.isRejection := by
  cases e <;> rfl

/-- Names tell nothing about whether a deadline expired. -/
@[simp] theorem PolicyFailure.isTimeout_unnamed (e : PolicyFailure ε) :
    e.unnamed.isTimeout = e.isTimeout := by
  cases e <;> rfl

/-- The phase without the names in the failure that it ended with. -/
def Phase.unnamed : Phase ε α → Phase ε α
  | .finished r => .finished (r.mapError PolicyFailure.unnamed)
  | phase => phase

/-- The call without the names in its failure. -/
def Call.unnamed (c : Call ε α) : Call ε α := { c with phase := c.phase.unnamed }

/-! ### Layers under other names -/

namespace Bulkhead

variable (b : Bulkhead) (name : String)

/-- The bulkhead under another name. -/
def renamed (b : Bulkhead) (name : String) : Bulkhead := { b with name }

private theorem parts_renamed : (b.renamed name).config = b.config ∧
    (b.renamed name).free = b.free ∧
    (b.renamed name).closed = b.closed ∧ (b.renamed name).queue = b.queue ∧
    (b.renamed name).waiting = b.waiting :=
  ⟨rfl, rfl, rfl, rfl, rfl⟩

/-- A slot is handed back the same under another name. -/
@[simp] theorem freeSlot_renamed : (b.renamed name).freeSlot = b.freeSlot.renamed name := by
  obtain ⟨-, -, hclosed, hqueue, -⟩ := b.parts_renamed name
  simp only [freeSlot, hclosed, hqueue]
  split <;> rfl

private theorem request_renamed (now : Nat) :
    (b.renamed name).request now = (b.request now).map (·.renamed name) id := by
  obtain ⟨hconfig, hfree, hclosed, hqueue, hwaiting⟩ := b.parts_renamed name
  simp only [request, hconfig, hfree, hclosed, hqueue, hwaiting]
  split
  · rfl
  · split
    · rfl
    · split <;> rfl

private theorem claim?_renamed (ticket now : Nat) :
    (b.renamed name).claim? ticket now =
      (b.claim? ticket now).map (Prod.map (·.renamed name) id) := by
  have hwaiter : (b.renamed name).waiter? ticket = b.waiter? ticket := rfl
  have hwithdraw : (b.renamed name).withdraw ticket = (b.withdraw ticket).renamed name := rfl
  obtain ⟨-, -, hclosed, -⟩ := b.parts_renamed name
  simp only [claim?, hwaiter, hwithdraw, hclosed, freeSlot_renamed]
  cases b.waiter? ticket with
  | none => rfl
  | some w =>
    simp only [Option.bind_eq_bind, Option.bind_some]
    split
    · split <;> rfl
    · split
      · rfl
      · split <;> rfl

private theorem abandon_renamed (ticket : Nat) :
    (b.renamed name).abandon ticket = (b.abandon ticket).renamed name := by
  have hwaiter : (b.renamed name).waiter? ticket = b.waiter? ticket := rfl
  have hwithdraw : (b.renamed name).withdraw ticket = (b.withdraw ticket).renamed name := rfl
  simp only [abandon, hwaiter, hwithdraw, freeSlot_renamed]
  split
  · split <;> rfl
  · rfl

end Bulkhead

namespace RateLimiter

/-- The limiter under another name. -/
def renamed (l : RateLimiter) (name : String) : RateLimiter := { l with name }

private theorem ask_renamed (l : RateLimiter) (name : String) (since now : Nat) :
    (l.renamed name).ask since now = (l.ask since now).map (·.renamed name) id := by
  have hbudget : (l.renamed name).budget = l.budget := rfl
  have hconfig : (l.renamed name).config = l.config := rfl
  simp only [ask, hbudget, hconfig]
  split <;> rfl

end RateLimiter

namespace Breaker

variable (b : Breaker) (name : String)

/-- The breaker under another name. -/
def renamed (b : Breaker) (name : String) : Breaker := { b with name }

private theorem parts_renamed : (b.renamed name).config = b.config ∧
    (b.renamed name).state = b.state ∧
    (b.renamed name).generation = b.generation ∧ (b.renamed name).enteredAt = b.enteredAt ∧
    (b.renamed name).window = b.window ∧ (b.renamed name).probes = b.probes ∧
    (b.renamed name).probesIssued = b.probesIssued :=
  ⟨rfl, rfl, rfl, rfl, rfl, rfl, rfl⟩

/-- A state is entered the same under another name. -/
@[simp] theorem enter_renamed (target : CircuitState) (now : Nat) :
    (b.renamed name).enter target now = (b.enter target now).renamed name :=
  rfl

/-- The half-open round begins the same under another name. -/
@[simp] theorem wake_renamed (now : Nat) :
    (b.renamed name).wake now = (b.wake now).renamed name := by
  obtain ⟨hconfig, hstate, -, hentered, -⟩ := b.parts_renamed name
  simp only [wake, hconfig, hstate, hentered, enter_renamed]
  split <;> rfl

private theorem request_renamed (now : Nat) :
    (b.renamed name).request now = (b.request now).map (·.renamed name) id := by
  obtain ⟨hconfig, hstate, -, -, -, -, hissued⟩ := (b.wake now).parts_renamed name
  simp only [request, wake_renamed, hconfig, hstate, hissued]
  split
  · rfl
  · rfl
  · split <;> rfl

private theorem release_renamed (p : CallPermit) :
    (b.renamed name).release p = (b.release p).renamed name := by
  obtain ⟨-, -, hgeneration, -⟩ := b.parts_renamed name
  simp only [release, hgeneration]
  split <;> rfl

/-- An outcome is judged the same under another name. -/
@[simp] theorem judge_renamed (o : Outcome) (now : Nat) :
    (b.renamed name).judge o now = (b.judge o now).renamed name := by
  obtain ⟨hconfig, hstate, -, -, hwindow, hprobes, -⟩ := b.parts_renamed name
  simp only [judge, hconfig, hstate, hwindow, hprobes]
  split
  · split <;> rfl
  · split <;> rfl
  · rfl

private theorem complete_renamed (p : CallPermit) (duration : Nat) (failed : Bool) (now : Nat) :
    (b.renamed name).complete p duration failed now =
      (b.complete p duration failed now).renamed name := by
  have htally (o : Outcome) : (b.renamed name).tally o = (b.tally o).renamed name := rfl
  have hconfig : (b.renamed name).config = b.config := rfl
  have hgeneration (o : Outcome) :
      ((b.tally o).renamed name).generation = (b.tally o).generation := rfl
  simp only [complete, hconfig, htally, hgeneration, judge_renamed]
  split <;> rfl

/-- Other settings take effect the same under another name. -/
theorem reconfigure_renamed (config : BreakerConfig) :
    (b.renamed name).reconfigure config = (b.reconfigure config).renamed name := by
  have hconfig : (b.renamed name).config = b.config := rfl
  simp only [reconfigure, hconfig]
  split <;> rfl

end Breaker

/-- The retry policy under another name. -/
def Retry.renamed (r : Retry) (name : String) : Retry := { r with name }

private theorem Retry.count_renamed (r : Retry) (name : String) (attempt : Nat) (ok : Bool) :
    (r.renamed name).count attempt ok = (r.count attempt ok).renamed name := by
  simp only [count]
  split <;> rfl

/-- The time limiter under another name. -/
def TimeLimiter.renamed (l : TimeLimiter) (name : String) : TimeLimiter := { l with name }

/-- Two results that are the same but for the names in their failures. -/
def SameResult (r r' : Except (PolicyFailure ε) α) : Prop :=
  r.mapError PolicyFailure.unnamed = r'.mapError PolicyFailure.unnamed

private theorem SameResult.isOk_eq {r r' : Except (PolicyFailure ε) α} (h : SameResult r r') :
    r.isOk = r'.isOk := by
  cases r <;> cases r' <;> first | rfl | cases h

private theorem TimeLimiter.count_renamed (l : TimeLimiter) (name : String)
    {r r' : Except (PolicyFailure ε) α} (h : SameResult r r') :
    (l.renamed name).count r' = (l.count r).renamed name := by
  cases r with
  | ok x =>
    cases r' with
    | ok y => rfl
    | error e => cases h
  | error e =>
    cases r' with
    | ok y => cases h
    | error e' =>
      have htimeout : e.isTimeout = e'.isTimeout := by
        rw [← e.isTimeout_unnamed, Except.error.inj h, e'.isTimeout_unnamed]
      simp only [count, htimeout]
      split <;> rfl

/-! ### Stacks under other names -/

namespace Stack

/-- The stack with its layers named after another name. -/
def renamed (s : Stack) (name : String) : Stack where
  name
  bulkhead? := s.bulkhead?.map (·.renamed (name ++ "-bulkhead"))
  rateLimiter? := s.rateLimiter?.map (·.renamed (name ++ "-rate-limiter"))
  retries? := s.retries?.map (·.renamed (name ++ "-retry"))
  breaker? := s.breaker?.map (·.renamed (name ++ "-circuit-breaker"))
  timeLimiter? := s.timeLimiter?.map (·.renamed (name ++ "-time-limiter"))

variable {op : Operation σ ε α} {eligible : PolicyFailure ε → Bool} {now : Nat} {s : Stack}
  {c : Call ε α} {name : String}

/-- The bulkhead is named after the stack. -/
theorem bulkhead?_renamed (s : Stack) (name : String) :
    (s.renamed name).bulkhead? = s.bulkhead?.map (·.renamed (name ++ "-bulkhead")) :=
  rfl

/-- The rate limiter is named after the stack. -/
theorem rateLimiter?_renamed (s : Stack) (name : String) :
    (s.renamed name).rateLimiter? = s.rateLimiter?.map (·.renamed (name ++ "-rate-limiter")) :=
  rfl

/-- The breaker is named after the stack. -/
theorem breaker?_renamed (s : Stack) (name : String) :
    (s.renamed name).breaker? = s.breaker?.map (·.renamed (name ++ "-circuit-breaker")) :=
  rfl

/-- A new stack differs from one under another name in nothing else. -/
theorem renamed_new (earlier name : String) (config : StackConfig) (now : Nat) :
    (new earlier config now).renamed name = new name config now := by
  simp only [renamed, new, Option.map_map]
  rfl

/-- The last name counts. -/
@[simp] theorem renamed_renamed (s : Stack) (earlier name : String) :
    (s.renamed earlier).renamed name = s.renamed name := by
  simp only [renamed, Option.map_map]
  rfl

/-- An expired deadline is reported under the name of the stack. -/
theorem timeLimiterName_renamed (s : Stack) (name : String) :
    (s.renamed name).timeLimiterName = name ++ "-time-limiter" := by
  cases hl : s.timeLimiter? <;> simp only [timeLimiterName, renamed, hl] <;> rfl

private theorem timeout?_renamed (s : Stack) (name : String) (o : CallOptions) :
    (s.renamed name).timeout? o = s.timeout? o := by
  simp only [timeout?, renamed, Option.map_map]
  rfl

private theorem retryConfig?_renamed (s : Stack) (name : String) (o : CallOptions) :
    (s.renamed name).retryConfig? o = s.retryConfig? o := by
  simp only [retryConfig?, renamed, Option.map_map]
  rfl

private theorem freeSlot_renamed (s : Stack) (name : String) :
    (s.renamed name).freeSlot = s.freeSlot.renamed name := by
  simp only [freeSlot, renamed, Option.map_map, Function.comp_def, Bulkhead.freeSlot_renamed]

/-- The breaker is changed the same under another name by what does not look at its name. -/
theorem mapBreaker_renamed {f : Breaker → Breaker}
    (h : ∀ (b : Breaker) name, f (b.renamed name) = (f b).renamed name) (s : Stack)
    (name : String) : (s.renamed name).mapBreaker f = (s.mapBreaker f).renamed name := by
  simp only [mapBreaker, renamed, Option.map_map, Function.comp_def, h]

/-- Admission is closed the same under another name. -/
theorem close_renamed (s : Stack) (name : String) :
    (s.renamed name).close = s.close.renamed name := by
  simp only [close, renamed, Option.map_map]
  rfl

/-- The statistics are the same under another name, and looking at them makes the same of the
stack. -/
theorem observe_renamed (s : Stack) (name : String) (now : Nat) :
    (s.renamed name).observe now = (s.observe now).map (·.renamed name) id := by
  simp only [observe, renamed, Option.map_map, Prod.map_apply]
  rfl

/-- A call is taken away the same under another name. -/
theorem drop_renamed (s : Stack) (name : String) (c : Call ε α) (now : Nat) :
    (s.renamed name).drop c now = (s.drop c now).renamed name := by
  unfold drop
  split
  · rfl
  · rfl
  · simp only [renamed, Option.map_map, Function.comp_def, Bulkhead.abandon_renamed]
  · rw [← freeSlot_renamed]
    simp only [mapLimiter, renamed, Option.map_map]
    rfl
  · split
    · rw [mapBreaker_renamed (fun b _ ↦ b.release_renamed _ _), freeSlot_renamed]
    · exact s.freeSlot_renamed name
  · exact s.freeSlot_renamed name
  · exact s.freeSlot_renamed name
  · exact s.freeSlot_renamed name

/-- What is left of a call that is taken away does not go by the names in its failure. -/
theorem drop_unnamed (s : Stack) (c : Call ε α) (now : Nat) :
    s.drop c.unnamed now = s.drop c now := by
  obtain ⟨options, phase, prepared, begun⟩ := c
  cases phase <;> rfl

/-! ### Steps under other names -/

private theorem finish_renamed {r r' : Except (PolicyFailure ε) α} (h : SameResult r r') (s : Stack)
    (name : String) (c : Call ε α) :
    ((s.renamed name).finish c r').map id Call.unnamed =
      (s.finish c r).map (·.renamed name) Call.unnamed := by
  rw [finish, finish, freeSlot_renamed]
  exact congrArg (fun r ↦ (s.freeSlot.renamed name, { c with phase := .finished r })) h.symm

private theorem throttle_renamed (s : Stack) (name : String) (c : Call ε α) (since now : Nat)
    (asleep : Bool) :
    ((s.renamed name).throttle c since now asleep).map id Call.unnamed =
      (s.throttle c since now asleep).map (·.renamed name) Call.unnamed := by
  simp only [throttle, rateLimiter?_renamed]
  cases s.rateLimiter? with
  | none => rfl
  | some l =>
    simp only [Option.map_some, l.ask_renamed]
    obtain ⟨l', answer⟩ := l.ask since now
    cases answer with
    | granted => cases asleep <;> rfl
    | rejected =>
      have hrejection : SameResult (ε := ε) (α := α) (.error l'.rejection)
          (.error (l'.renamed (name ++ "-rate-limiter")).rejection) := rfl
      cases asleep with
      | true =>
        exact finish_renamed hrejection
          { s with rateLimiter? := some (l'.leaveSleep since now) } name c
      | false => exact finish_renamed hrejection { s with rateLimiter? := some l' } name c
    | sleep wakeAt => cases asleep <;> rfl

private theorem afterAttempt_renamed (eligible : PolicyFailure ε → Bool)
    {r r' : Except (PolicyFailure ε) α} (h : SameResult r r')
    (heligible : ∀ e e', r = .error e → r' = .error e' → e.isRejection = false →
      eligible e' = eligible e) (s : Stack) (name : String) (c : Call ε α) (number now : Nat) :
    ((s.renamed name).afterAttempt eligible c number now r').map id Call.unnamed =
      (s.afterAttempt eligible c number now r).map (·.renamed name) Call.unnamed := by
  have hcount (ok : Bool) :
      { s.renamed name with retries? := (s.renamed name).retries?.map (·.count number ok) } =
        ({ s with retries? := s.retries?.map (·.count number ok) } : Stack).renamed name := by
    simp only [renamed, Option.map_map, Function.comp_def, Retry.count_renamed]
  simp only [afterAttempt, retryConfig?_renamed]
  cases s.retryConfig? c.options with
  | none => exact finish_renamed h s name c
  | some config =>
    cases r with
    | ok x =>
      cases r' with
      | ok y =>
        simp only [Retry.judge, hcount]
        exact finish_renamed h _ name c
      | error e => cases h
    | error e =>
      cases r' with
      | ok y => cases h
      | error e' =>
        have he : e.unnamed = e'.unnamed := Except.error.inj h
        have hrejection : e'.isRejection = e.isRejection := by
          rw [← e.isRejection_unnamed, he, e'.isRejection_unnamed]
        have hend : (e'.isRejection || !eligible e') = (e.isRejection || !eligible e) := by
          rw [hrejection]
          cases hrejected : e.isRejection with
          | true => rfl
          | false => rw [heligible e e' rfl rfl hrejected]
        have hexhausted : SameResult (α := α) (.error (.exhausted s.retryName number e))
            (.error (.exhausted (s.renamed name).retryName number e')) :=
          congrArg (fun e ↦ Except.error (PolicyFailure.exhausted "" number e)) he
        simp only [Retry.judge, hend]
        by_cases hover : (e.isRejection || !eligible e) = true
        · simp only [hover, if_true, hcount]
          exact finish_renamed h _ name c
        · simp only [hover]
          by_cases hlast : config.attempts ≤ number
          · simp only [hlast, if_true, hcount]
            exact finish_renamed hexhausted _ name c
          · simp only [hlast, if_false]
            rfl

private theorem endAttempt_renamed (eligible : PolicyFailure ε → Bool)
    {r r' : Except (PolicyFailure ε) α} (h : SameResult r r')
    (heligible : ∀ e e', r = .error e → r' = .error e' → e.isRejection = false →
      eligible e' = eligible e) (s : Stack) (name : String) (c : Call ε α) (a : Attempt)
    (now : Nat) :
    ((s.renamed name).endAttempt eligible c a now r').map id Call.unnamed =
      (s.endAttempt eligible c a now r).map (·.renamed name) Call.unnamed := by
  have hcount :
      { s.renamed name with timeLimiter? := (s.renamed name).timeLimiter?.map (·.count r') } =
      ({ s with timeLimiter? := s.timeLimiter?.map (·.count r) } : Stack).renamed name := by
    simp only [renamed, Option.map_map, Function.comp_def, TimeLimiter.count_renamed _ _ h]
  simp only [endAttempt, hcount, ← h.isOk_eq]
  cases a.permit? with
  | none => exact afterAttempt_renamed eligible h heligible _ name c a.number now
  | some p =>
    have hcomplete := mapBreaker_renamed (f := (·.complete p (now - a.began) (!r.isOk) now))
      fun b name ↦ b.complete_renamed name p _ _ now
    simp only [hcomplete]
    exact afterAttempt_renamed eligible h heligible _ name c a.number now

private theorem beginAttempt_renamed (op : Operation σ ε α) (eligible : PolicyFailure ε → Bool)
    (s : Stack)
    (name : String) (env : σ) (c : Call ε α) (number now : Nat) :
    ((s.renamed name).beginAttempt op eligible env c number now).map id (Prod.map id Call.unnamed) =
      (s.beginAttempt op eligible env c number now).map (·.renamed name)
        (Prod.map id Call.unnamed) := by
  simp only [beginAttempt, breaker?_renamed, timeout?_renamed]
  cases s.breaker? with
  | none => rfl
  | some b =>
    simp only [Option.map_some, b.request_renamed]
    obtain ⟨b', permit?⟩ := b.request now
    cases permit? with
    | some p =>
      have hstack :
          { s.renamed name with breaker? := some (b'.renamed (name ++ "-circuit-breaker")) } =
            ({ s with breaker? := some b' } : Stack).renamed name := rfl
      simp only [Prod.map_apply, id, hstack, timeout?_renamed]
    | none =>
      have hrefusal : SameResult (ε := ε) (α := α) (.error b'.refusal)
          (.error (b'.renamed (name ++ "-circuit-breaker")).refusal) := rfl
      have hrefused := afterAttempt_renamed eligible hrefusal
        (fun _ _ he _ hrejected ↦ by cases he; cases hrejected) { s with breaker? := some b' } name
        { c with prepared := c.prepared + 1 } number now
      exact congrArg (fun p : Stack × Call ε α ↦ (p.1, env, p.2)) hrefused

private theorem left_renamed {p q : Stack × Call ε α}
    (h : p.map id Call.unnamed = q.map (·.renamed name) Call.unnamed) (env : σ) :
    (some (p.1, env, p.2)).map (Prod.map id (Prod.map id Call.unnamed)) =
      (some (q.1, env, q.2)).map (Prod.map (·.renamed name) (Prod.map id Call.unnamed)) :=
  congrArg (fun p : Stack × Call ε α ↦ some (p.1, env, p.2)) h

/-- A step of a call is the same under another name, but for the names in its result, if an expired
deadline is as eligible for another attempt under the one name as under the other. -/
theorem step?_renamed (op : Operation σ ε α) (eligible : PolicyFailure ε → Bool) (s : Stack)
    (name : String) (heligible : ∀ after, eligible (.timedOut (name ++ "-time-limiter") after) =
      eligible (.timedOut s.timeLimiterName after)) (now : Nat) (env : σ) (c : Call ε α) :
    ((s.renamed name).step? op eligible now env c).map (Prod.map id (Prod.map id Call.unnamed)) =
      (s.step? op eligible now env c).map
        (Prod.map (·.renamed name) (Prod.map id Call.unnamed)) := by
  cases hat : c.phase with
  | arriving =>
    simp only [step?, hat, bulkhead?_renamed]
    cases s.bulkhead? with
    | none => rfl
    | some b =>
      simp only [Option.map_some, b.request_renamed]
      obtain ⟨b', answer⟩ := b.request now
      cases answer <;> rfl
  | queued ticket =>
    simp only [step?, hat, bulkhead?_renamed]
    cases s.bulkhead? with
    | none => rfl
    | some b =>
      simp only [Option.map_some, Option.bind_eq_bind, Option.bind_some, b.claim?_renamed]
      cases b.claim? ticket now with
      | none => rfl
      | some answer =>
        obtain ⟨b', seated⟩ := answer
        cases seated <;> rfl
  | admitted =>
    simp only [step?, hat]
    exact left_renamed (throttle_renamed s name c now now false) env
  | throttled since wakeAt =>
    simp only [step?, hat]
    split
    · rfl
    · exact left_renamed (throttle_renamed s name c since now true) env
  | preparing number =>
    simp only [step?, hat, Option.map_some]
    exact congrArg some (beginAttempt_renamed op eligible s name env c number now)
  | attempting a =>
    simp only [step?, hat]
    split
    · have hended := endAttempt_renamed eligible
        (rfl : SameResult (op.finish env a.ticket).2 (op.finish env a.ticket).2)
        (fun e e' he he' _ ↦ by rw [Except.error.inj (he.symm.trans he')]) s name c a now
      exact left_renamed hended (op.finish env a.ticket).1
    · split
      · have hexpired : SameResult (ε := ε) (α := α)
            (.error (.timedOut s.timeLimiterName ((s.timeout? c.options).getD 0)))
            (.error (.timedOut (name ++ "-time-limiter") ((s.timeout? c.options).getD 0))) := rfl
        have hended := endAttempt_renamed eligible hexpired
          (fun e e' he he' _ ↦ by cases he; cases he'; exact heligible _) s name c a now
        simp only [timeLimiterName_renamed, timeout?_renamed]
        exact left_renamed hended env
      · rfl
  | pausing number wakeAt =>
    simp only [step?, hat]
    split <;> rfl
  | finished r =>
    simp only [step?, hat, Option.map_none]

/-- A stack whose layers are named after it keeps their names. -/
theorem renamed_of_step? {s' : Stack} {env env' : σ} {c' : Call ε α} (h : s.renamed name = s)
    (hstep : s.step? op eligible now env c = some (s', env', c')) : s'.renamed name = s' := by
  have hname : s.timeLimiterName = name ++ "-time-limiter" := by
    rw [← h, timeLimiterName_renamed]
  have hsame := step?_renamed op eligible s name (fun after ↦ by rw [hname]) now env c
  rw [h, hstep, Option.map_some, Option.map_some, Option.some_inj] at hsame
  exact (congrArg Prod.fst hsame).symm

/-- A step of a call does not go by the names in its failure, with which it takes none. -/
theorem step?_unnamed (op : Operation σ ε α) (eligible : PolicyFailure ε → Bool) (now : Nat)
    (s : Stack) (env : σ) (c : Call ε α) :
    s.step? op eligible now env c.unnamed = s.step? op eligible now env c := by
  obtain ⟨options, phase, prepared, begun⟩ := c
  cases phase <;> rfl

end Stack

end GuardedDispatch
