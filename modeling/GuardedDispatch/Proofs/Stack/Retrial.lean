import GuardedDispatch.Proofs.Stack.Diary
import GuardedDispatch.Proofs.Stack.Stay

/-!
# What a diary tells of a retried call

A retry policy tries an attempt again after its pause until a result settles the call or the
attempts are used up. The diary of a call therefore consists of attempts that were all tried again,
each begun when the pause before it was over, and of the one that is under way or decided the call.
-/

namespace GuardedDispatch

variable {σ ε α : Type}

namespace Retry

/-- Whether a result settles its call whatever attempts are left: it is good, a rejection, or a
failure that may not be tried again. -/
def settles (eligible : PolicyFailure ε → Bool) : Except (PolicyFailure ε) α → Bool
  | .ok _ => true
  | .error e => e.isRejection || !eligible e

/-- The result of a call, given that of its last attempt: the same if that settles the call, else
exhaustion around it. -/
def verdict (name : String) (config : RetryConfig) (eligible : PolicyFailure ε → Bool) :
    Except (PolicyFailure ε) α → Except (PolicyFailure ε) α
  | .ok value => .ok value
  | .error e =>
    if e.isRejection || !eligible e then .error e else .error (.exhausted name config.attempts e)

variable {name : String} {config : RetryConfig} {eligible : PolicyFailure ε → Bool} {number : Nat}
  {r : Except (PolicyFailure ε) α}

private theorem verdict_of_settles (h : settles eligible r = true) :
    verdict name config eligible r = r := by
  cases r with
  | ok value => rfl
  | error e => exact if_pos h

private theorem isOk_verdict (name : String) (config : RetryConfig)
    (eligible : PolicyFailure ε → Bool)
    (r : Except (PolicyFailure ε) α) : (verdict name config eligible r).isOk = r.isOk := by
  cases r with
  | ok value => rfl
  | error e =>
    simp only [verdict]
    split <;> rfl

private theorem settles_of_isRejection {e : PolicyFailure ε} (h : e.isRejection = true) :
    settles eligible (.error e : Except (PolicyFailure ε) α) = true := by
  rw [settles, h, Bool.true_or]

private theorem judge_of_last (h : settles eligible r = true ∨ number = config.attempts) :
    judge name config eligible number r = .done (verdict name config eligible r) := by
  cases r with
  | ok value => rfl
  | error e =>
    simp only [judge, verdict]
    by_cases hsettled : (e.isRejection || !eligible e) = true
    · rw [if_pos hsettled, if_pos hsettled]
    · obtain hs | rfl := h
      · exact absurd hs hsettled
      · rw [if_neg hsettled, if_neg hsettled, if_pos (Nat.le_refl _)]

private theorem judge_of_unsettled (h : settles eligible r = false)
    (hmore : number < config.attempts) :
    judge name config eligible number r = .again (config.backoff.delayAfter number) := by
  cases r with
  | ok value => cases h
  | error e =>
    have hsettled : ¬(e.isRejection || !eligible e) = true := Bool.eq_false_iff.mp h
    simp only [judge]
    rw [if_neg hsettled, if_neg (Nat.not_le.mpr hmore)]

end Retry

/-! ### The entries of a call -/

/-- The entries of one attempt that is prepared no earlier than at some moment, with its result and
when that came: it is refused, or it begins and ends later. -/
inductive Trial (ready : Nat) :
    List (DiaryEntry ε α) → Except (PolicyFailure ε) α → Nat → Prop
  | refused {time : Nat} {e : PolicyFailure ε} (hready : ready ≤ time) :
      Trial ready [⟨time, .refused e⟩] (.error e) time
  | ended {begun time : Nat} {permit? : Option CallPermit} {inTime : Bool}
      {r : Except (PolicyFailure ε) α} (hready : ready ≤ begun) (hlater : begun ≤ time) :
      Trial ready [⟨begun, .began permit?⟩, ⟨time, .ended inTime r⟩] r time

/-- The entries of attempts that were all tried again, with their results, and the moment at which
the pause after the last of them is over. -/
inductive TriedAgain (config : RetryConfig) (eligible : PolicyFailure ε → Bool) :
    List (DiaryEntry ε α) → List (Except (PolicyFailure ε) α) → Nat → Prop
  | nil : TriedAgain config eligible [] [] 0
  | again {d trial : List (DiaryEntry ε α)} {results : List (Except (PolicyFailure ε) α)}
      {r : Except (PolicyFailure ε) α} {ready time : Nat}
      (h : TriedAgain config eligible d results ready) (htrial : Trial ready trial r time)
      (hr : Retry.settles eligible r = false) (hmore : results.length + 1 < config.attempts) :
      TriedAgain config eligible (d ++ trial) (results ++ [r])
        (time + config.backoff.delayAfter (results.length + 1))

namespace Call

/-- What the diary of a call tells, given where the call stands. Nothing is told of a call outside
its retry policy. Inside, all attempts before the current one were tried again, each after the pause
that the schedule gives it, and the number of the current one is also how often the operation was
prepared. At the end there was a last attempt: the first that settles the call, or the last that is
allowed; its verdict is the result. Only a call that an outer layer turned away ends with no attempt,
and its failure is that of the layer. -/
def Retried (outer : List (PolicyFailure ε)) (name : String) (config : RetryConfig)
    (eligible : PolicyFailure ε → Bool) (now : Nat) (d : List (DiaryEntry ε α)) (c : Call ε α) :
    Prop :=
  match c.phase with
  | .arriving | .queued _ | .admitted | .throttled .. => d = [] ∧ c.prepared = 0
  | .preparing number =>
    ∃ results ready, TriedAgain config eligible d results ready ∧ ready ≤ now ∧
      number = results.length + 1 ∧ c.prepared = results.length
  | .attempting a =>
    ∃ earlier results ready, d = earlier ++ [⟨a.began, .began a.permit?⟩] ∧
      TriedAgain config eligible earlier results ready ∧ ready ≤ a.began ∧ a.began ≤ now ∧
      a.number = results.length + 1 ∧ c.prepared = results.length + 1
  | .pausing number wakeAt =>
    ∃ results, TriedAgain config eligible d results wakeAt ∧ 0 < number ∧
      number = results.length ∧ c.prepared = results.length
  | .finished r =>
    (d = [] ∧ c.prepared = 0 ∧ ∃ e ∈ outer, r = .error e) ∨
      ∃ earlier results ready trial last time, d = earlier ++ trial ∧
        TriedAgain config eligible earlier results ready ∧ Trial ready trial last time ∧
        (Retry.settles eligible last = true ∨ results.length + 1 = config.attempts) ∧
        r = Retry.verdict name config eligible last ∧ c.prepared = results.length + 1

end Call

section

variable {outer : List (PolicyFailure ε)} {name : String} {config : RetryConfig}
  {eligible : PolicyFailure ε → Bool} {d : List (DiaryEntry ε α)}
  {results : List (Except (PolicyFailure ε) α)} {ready now : Nat} {c c' : Call ε α}

/-- There is always an attempt left after attempts that were tried again. -/
theorem TriedAgain.length_lt (h : TriedAgain config eligible d results ready) :
    results.length < config.attempts := by
  cases h with
  | nil => exact Nat.le_max_left 1 _
  | again h htrial hr hmore =>
    rw [List.length_append]
    exact hmore

/-- A call with some entries and an attempt prepared was retried also if nothing happens for a
while. -/
theorem Call.Retried.mono (h : c.Retried outer name config eligible now d) {later : Nat}
    (hle : now ≤ later) : c.Retried outer name config eligible later d := by
  cases hat : c.phase with
  | arriving | queued ticket | admitted | throttled since wakeAt | pausing number wakeAt
  | finished r =>
    simp only [Call.Retried, hat] at h ⊢
    exact h
  | preparing number =>
    simp only [Call.Retried, hat] at h ⊢
    obtain ⟨results, ready, htried, hready, hrest⟩ := h
    exact ⟨results, ready, htried, hready.trans hle, hrest⟩
  | attempting a =>
    simp only [Call.Retried, hat] at h ⊢
    obtain ⟨earlier, results, ready, hd, htried, hready, hbegan, hrest⟩ := h
    exact ⟨earlier, results, ready, hd, htried, hready, hbegan.trans hle, hrest⟩

/-- Outside its retry policy nothing is told of a call. -/
theorem Call.retried_outside_iff (hat : c.phase.isOutside = true) :
    c.Retried outer name config eligible now d ↔ d = [] ∧ c.prepared = 0 := by
  cases hphase : c.phase with
  | arriving | queued ticket | admitted | throttled since wakeAt =>
    simp only [Call.Retried, hphase]
  | preparing number | attempting a | pausing number wakeAt | finished r =>
    rw [hphase] at hat
    cases hat

end

namespace Stack

variable {op : Operation σ ε α} {eligible : PolicyFailure ε → Bool} {now number : Nat}
  {s s' : Stack} {env env' : σ} {c c' : Call ε α} {config : RetryConfig}
  {r : Except (PolicyFailure ε) α} {d : List (DiaryEntry ε α)}

/-! ### Settings and names stay as they are -/

/-- The same settings give a call the same retry settings. -/
theorem retryConfig?_of_settings_eq (h : s'.settings = s.settings) (o : CallOptions) :
    s'.retryConfig? o = s.retryConfig? o := by
  have hretries : s'.retries?.map (·.config) = s.retries?.map (·.config) := congrArg (·.2.2.1) h
  rw [retryConfig?, hretries, retryConfig?]

/-- The same settings give a call the same deadline. -/
theorem timeout?_of_settings_eq (h : s'.settings = s.settings) (o : CallOptions) :
    s'.timeout? o = s.timeout? o := by
  have htimeout := congrArg (fun settings ↦ settings.2.2.2.map TimeLimiterConfig.timeout) h
  simp only [settings, Option.map_map] at htimeout
  exact congrArg (o.timeout? <|> ·) htimeout

/-- The names under which a stack reports exhausted attempts, and its outer layers the calls that
they turn away. -/
def names (s : Stack) : String × Option String × Option String × Option String :=
  (s.name, s.retries?.map (·.name), s.bulkhead?.map (·.name), s.rateLimiter?.map (·.name))

/-- The same names report exhausted attempts under the same name. -/
theorem retryName_of_names_eq (h : s'.names = s.names) : s'.retryName = s.retryName :=
  congrArg (fun names ↦ names.2.1.getD (names.1 ++ "-retry")) h

private theorem name_request (b : Bulkhead) (now : Nat) : (b.request now).1.name = b.name := by
  have hreq := b.requested_request now
  generalize b.request now = answered at hreq
  cases hreq with
  | admitted hopen hfree | rejected hwhy | queued hopen hfull hwait hroom => rfl

private theorem name_freeSlot (b : Bulkhead) : b.freeSlot.name = b.name := by
  have hf := b.freed_freeSlot
  generalize b.freeSlot = b' at hf
  cases hf with
  | handed hopen hqueue hbefore hw | kept hwhy => rfl

private theorem name_abandon (b : Bulkhead) (ticket : Nat) : (b.abandon ticket).name = b.name := by
  unfold Bulkhead.abandon
  split
  · split
    · exact name_freeSlot (b.withdraw ticket)
    · rfl
  · rfl

private theorem name_of_claim? {b b' : Bulkhead} {ticket : Nat} {admitted : Bool}
    (hc : b.claim? ticket now = some (b', admitted)) : b'.name = b.name := by
  obtain ⟨-, rfl⟩ | ⟨-, rfl⟩ := Bulkhead.eq_of_claim? hc
  · rfl
  · exact name_abandon b ticket

private theorem name_ask (l : RateLimiter) (since now : Nat) : (l.ask since now).1.name = l.name := by
  unfold RateLimiter.ask
  dsimp only
  split <;> rfl

/-- Handing a slot back leaves the names alone. -/
@[simp] theorem names_freeSlot (s : Stack) : s.freeSlot.names = s.names := by
  simp only [names, freeSlot, Option.map_map, Function.comp_def, name_freeSlot]

/-- Counting a call leaves the names alone. -/
@[simp] theorem names_noted (s : Stack) (number : Nat) (ok : Bool) :
    (s.noted number ok).names = s.names := by
  have hname (p : Retry) : (p.count number ok).name = p.name := by
    unfold Retry.count
    split <;> rfl
  simp only [names, noted, Option.map_map, Function.comp_def, hname]

/-- A step of a call leaves the names alone. -/
theorem Moved.names_eq (h : Moved op now s env c s' env' c') : s'.names = s.names := by
  have hrequest {b b' : Bulkhead} {answer : SlotAnswer} (hr : b.request now = (b', answer)) :
      b'.name = b.name := by
    have heq := name_request b now
    rwa [hr] at heq
  have hask {l l' : RateLimiter} {since : Nat} {answer : PermitAnswer}
      (hr : l.ask since now = (l', answer)) : l'.name = l.name := by
    have heq := name_ask l since now
    rwa [hr] at heq
  cases h with
  | unguarded hat hb | unlimited hat hl | resumed hat hdue => rfl
  | seated hat hb hr | turnedAway hat hb hr | queued hat hb hr =>
    simp only [names, hb, Option.map_some, hrequest hr]
  | claimed hat hb hr | gaveUp hat hb hr =>
    simp only [names, hb, Option.map_some, name_of_claim? hr]
  | @granted since asleep l l' hat hl hr =>
    cases asleep <;> simp only [names, hl, Option.map_some, ← hask hr] <;> rfl
  | @limited since asleep l l' hat hl hr =>
    rw [names_freeSlot]
    cases asleep <;> simp only [names, hl, Option.map_some, ← hask hr] <;> rfl
  | @slept since wakeAt asleep l l' hat hl hr =>
    cases asleep <;> simp only [names, hl, Option.map_some, ← hask hr] <;> rfl
  | started hat hp =>
    cases hp with
    | unguarded hb | granted hb hr => rfl
  | refused hat hb hr =>
    rw [names_freeSlot, names_noted]
    rfl
  | ended hat hends hd =>
    cases hd with
    | done hok hrejected =>
      rw [names_freeSlot, names_noted]
      rfl
    | again hr hrejected => rfl

/-- Taking a call away leaves the names alone. -/
theorem names_drop (s : Stack) (c : Call ε α) (now : Nat) : (s.drop c now).names = s.names := by
  unfold drop
  split
  · rfl
  · rfl
  · simp only [names, Option.map_map, Function.comp_def, name_abandon]
  · rw [names_freeSlot]
    simp only [names, mapLimiter, Option.map_map]
    rfl
  · split
    · rw [names_freeSlot]
      rfl
    · exact s.names_freeSlot
  · exact s.names_freeSlot
  · exact s.names_freeSlot
  · exact s.names_freeSlot

/-- The failures with which the layers outside the retry policy turn calls away. -/
def outerFailures (s : Stack) : List (PolicyFailure ε) :=
  (s.bulkhead?.map Bulkhead.rejection).toList ++ (s.rateLimiter?.map RateLimiter.rejection).toList

private theorem rejection_mem_of_bulkhead {b : Bulkhead} (hb : s.bulkhead? = some b) :
    (b.rejection : PolicyFailure ε) ∈ s.outerFailures := by
  simp [outerFailures, hb]

private theorem rejection_mem_of_rateLimiter {l : RateLimiter} (hl : s.rateLimiter? = some l) :
    (l.rejection : PolicyFailure ε) ∈ s.outerFailures := by
  simp [outerFailures, hl]

/-- The same names and settings turn calls away with the same failures. -/
theorem outerFailures_of_eq (hnames : s'.names = s.names) (hsettings : s'.settings = s.settings) :
    (s'.outerFailures : List (PolicyFailure ε)) = s.outerFailures := by
  simp only [names, settings, Prod.mk.injEq] at hnames hsettings
  obtain ⟨-, -, hbulkhead, hlimiter⟩ := hnames
  obtain ⟨hslots, hpermits, -⟩ := hsettings
  have hfull : s'.bulkhead?.map (Bulkhead.rejection : Bulkhead → PolicyFailure ε) =
      s.bulkhead?.map Bulkhead.rejection := by
    cases hb : s.bulkhead? <;> cases hb' : s'.bulkhead? <;>
      simp_all [Bulkhead.rejection]
  have hlimited : s'.rateLimiter?.map (RateLimiter.rejection : RateLimiter → PolicyFailure ε) =
      s.rateLimiter?.map RateLimiter.rejection := by
    cases hl : s.rateLimiter? <;> cases hl' : s'.rateLimiter? <;>
      simp_all [RateLimiter.rejection]
  rw [outerFailures, hfull, hlimited, outerFailures]

/-! ### What a step makes of the diary -/

private theorem afterAttempt_of_last (hconfig : s.retryConfig? c.options = some config)
    (h : Retry.settles eligible r = true ∨ number = config.attempts) :
    s.afterAttempt eligible c number now r =
      ((s.noted number r.isOk).freeSlot,
        { c with phase := .finished (Retry.verdict s.retryName config eligible r) }) := by
  simp only [afterAttempt, hconfig, Retry.judge_of_last h, Retry.isOk_verdict]
  rfl

private theorem afterAttempt_of_unsettled (hconfig : s.retryConfig? c.options = some config)
    (h : Retry.settles eligible r = false) (hmore : number < config.attempts) :
    s.afterAttempt eligible c number now r =
      (s, { c with phase := .pausing number (now + config.backoff.delayAfter number) }) := by
  simp only [afterAttempt, hconfig, Retry.judge_of_unsettled h hmore]

/-- A step of a call continues what its diary tells. -/
theorem retried_of_step? (hconfig : s.retryConfig? c.options = some config)
    (hstep : s.step? op eligible now env c = some (s', env', c'))
    (h : c.Retried s.outerFailures s.retryName config eligible now d) :
    c'.Retried s.outerFailures s.retryName config eligible now
      (d ++ ((s.note? op now env c).map (⟨now, ·⟩)).toList) := by
  have hquiet (hnote : s.note? op now env c = none)
      (h' : c'.Retried s.outerFailures s.retryName config eligible now d) :
      c'.Retried s.outerFailures s.retryName config eligible now
        (d ++ ((s.note? op now env c).map (⟨now, ·⟩)).toList) := by
    rw [hnote, Option.map_none, Option.toList_none, List.append_nil]
    exact h'
  have hm := moved_of_step? hstep
  have houter : (s'.outerFailures : List (PolicyFailure ε)) = s.outerFailures :=
    outerFailures_of_eq hm.names_eq hm.settings_eq
  cases hm with
  | unguarded hat hb | seated hat hb hr | queued hat hb hr | claimed hat hb hr =>
    have hout : c.phase.isOutside = true := hat ▸ rfl
    exact hquiet (note?_of_isOutside hout) ((Call.retried_outside_iff hout).mp h)
  | slept hat hl hr =>
    exact hquiet (note?_of_isOutside hat.isOutside) ((Call.retried_outside_iff hat.isOutside).mp h)
  | turnedAway hat hb hr | gaveUp hat hb hr =>
    have hout : c.phase.isOutside = true := hat ▸ rfl
    obtain ⟨hd, hprepared⟩ := (Call.retried_outside_iff hout).mp h
    exact hquiet (note?_of_isOutside hout)
      (.inl ⟨hd, hprepared, _, houter ▸ rejection_mem_of_bulkhead rfl, rfl⟩)
  | @limited since asleep l l' hat hl hr =>
    obtain ⟨hd, hprepared⟩ := (Call.retried_outside_iff hat.isOutside).mp h
    have hmem : (l'.rejection : PolicyFailure ε) ∈ s.outerFailures := by
      rw [← houter]
      cases asleep with
      | false => exact rejection_mem_of_rateLimiter rfl
      | true => exact rejection_mem_of_rateLimiter (l := l'.leaveSleep since now) rfl
    exact hquiet (note?_of_isOutside hat.isOutside) (.inl ⟨hd, hprepared, _, hmem, rfl⟩)
  | unlimited hat hl | granted hat hl hr =>
    obtain ⟨rfl, hprepared⟩ := (Call.retried_outside_iff hat.isOutside).mp h
    exact hquiet (note?_of_isOutside hat.isOutside) ⟨[], 0, .nil, Nat.zero_le _, rfl, hprepared⟩
  | started hat hp =>
    rw [note?_of_entitled hat hp, Option.map_some, Option.toList_some]
    simp only [Call.Retried, hat] at h
    obtain ⟨results, ready, htried, hready, hnumber, hprepared⟩ := h
    exact ⟨d, results, ready, rfl, htried, hready, Nat.le_refl _, hnumber,
      congrArg (· + 1) hprepared⟩
  | @refused number b b' hat hb hr =>
    rw [note?_of_refused hat hb hr, Option.map_some, Option.toList_some]
    simp only [Call.Retried, hat] at h
    obtain ⟨results, ready, htried, hready, hnumber, hprepared⟩ := h
    have hsettled :
        Retry.settles eligible (.error b'.refusal : Except (PolicyFailure ε) α) = true :=
      Retry.settles_of_isRejection rfl
    exact .inr ⟨d, results, ready, _, _, now, rfl, htried, .refused hready, .inl hsettled,
      (Retry.verdict_of_settles hsettled).symm, congrArg (· + 1) hprepared⟩
  | @ended a r s' env' c' hat hends hd =>
    obtain ⟨inTime, r, hnote, hafter⟩ := ended_of_step? hat hstep
    rw [hnote, Option.map_some, Option.toList_some]
    simp only [Call.Retried, hat] at h
    obtain ⟨earlier, results, ready, rfl, htried, hready, hbegan, hnumber, hprepared⟩ := h
    have hcounted : (s.counted a r.isOk now r).retryConfig? c.options = some config :=
      (retryConfig?_of_settings_eq (s.settings_counted a r.isOk now r) _).trans hconfig
    have htrial : Trial ready [⟨a.began, .began a.permit?⟩, ⟨now, .ended inTime r⟩] r now :=
      .ended hready hbegan
    rw [List.append_assoc, List.cons_append, List.nil_append]
    -- a result that settles the call does so on the last attempt too, so both end it with the verdict
    by_cases hlast : Retry.settles eligible r = true ∨ a.number = config.attempts
    · rw [afterAttempt_of_last hcounted hlast] at hafter
      cases hafter
      exact .inr ⟨earlier, results, ready, _, r, now, rfl, htried, htrial,
        hlast.imp_right hnumber.symm.trans, rfl, hprepared⟩
    · obtain ⟨hunsettled, hnot⟩ := not_or.mp hlast
      have hunsettled := Bool.eq_false_iff.mpr hunsettled
      have hmore : a.number < config.attempts :=
        Nat.lt_of_le_of_ne (hnumber ▸ htried.length_lt) hnot
      rw [afterAttempt_of_unsettled hcounted hunsettled hmore] at hafter
      cases hafter
      have hagain := htried.again htrial hunsettled (hnumber ▸ hmore)
      rw [← hnumber] at hagain hprepared
      refine ⟨results ++ [r], hagain, hnumber ▸ Nat.succ_pos _, ?_, ?_⟩
      · rw [List.length_append, List.length_singleton, hnumber]
      · rw [List.length_append, List.length_singleton, ← hnumber]
        exact hprepared
  | resumed hat hdue =>
    simp only [Call.Retried, hat] at h
    obtain ⟨results, htried, hpos, hnumber, hprepared⟩ := h
    exact hquiet (note?_of_pausing hat)
      ⟨results, _, htried, hdue, congrArg (· + 1) hnumber, hprepared⟩

end Stack

end GuardedDispatch
