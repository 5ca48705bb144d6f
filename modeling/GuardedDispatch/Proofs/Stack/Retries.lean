import GuardedDispatch.Proofs.Stack.Retrial

/-!
# The retry policy at work

In every crowd the diary of a call, the pauses it makes, the counters of the retry policy and the
end of the call agree with the settings that the call is retried under.
-/

namespace GuardedDispatch

variable {σ ε α : Type}

/-- The failures with which the layers that are configured outside the retry policy of a stack turn
calls away. -/
def StackConfig.outerFailures (config : StackConfig) (name : String) : List (PolicyFailure ε) :=
  (config.bulkhead?.map fun b ↦ .bulkheadFull (name ++ "-bulkhead") b.maxWait).toList ++
    (config.rateLimiter?.map fun l ↦ .rateLimited (name ++ "-rate-limiter") l.timeout).toList

/-! ### The counters -/

/-- The counter of the calls that ended well or badly, at the first attempt or later. -/
def Retry.counter (p : Retry) (ok later : Bool) : Nat :=
  match ok, later with
  | true, false => p.okWithout
  | true, true => p.okWith
  | false, false => p.failedWithout
  | false, true => p.failedWith

private theorem Retry.counter_count (p : Retry) (number : Nat) (ok good later : Bool) :
    (p.count number ok).counter good later =
      p.counter good later + (ok == good && decide (1 < number) == later).toNat := by
  cases ok <;> cases good <;> cases later <;> by_cases hlater : 1 < number <;>
    simp [count, counter, hlater]

/-- Whether a call ended inside its retry policy so, at the first attempt or later. -/
def Call.endedAs (ok later : Bool) (c : Call ε α) : Bool :=
  decide (c.standing = .served ok) && (decide (1 < c.prepared) == later)

private theorem Call.endedAs_of_not_served {c : Call ε α} (h : c.standing.isServed = false)
    (ok later : Bool) : c.endedAs ok later = false := by
  have hne : c.standing ≠ .served ok := by
    intro he
    rw [he] at h
    cases h
  rw [endedAs, decide_eq_false hne, Bool.false_and]

private theorem Call.endedAs_of_served {c : Call ε α} {ok : Bool} (h : c.standing = .served ok)
    (good later : Bool) :
    c.endedAs good later = (ok == good && decide (1 < c.prepared) == later) := by
  rw [endedAs, h]
  cases ok <;> cases good <;> rfl

private theorem Call.not_permitted_of_outerFailure {c : Call ε α} {config : StackConfig}
    {name : String}
    {e : PolicyFailure ε} (hp : c.prepared = 0) (hat : c.phase = .finished (.error e))
    (he : e ∈ config.outerFailures name) : c.standing.isPermitted = false := by
  obtain he | he := List.mem_append.mp he
  · obtain ⟨b, -, rfl⟩ := Option.map_eq_some_iff.mp (Option.mem_toList.mp he)
    simp only [standing, hat, hp, Standing.isPermitted]
  · obtain ⟨l, -, rfl⟩ := Option.map_eq_some_iff.mp (Option.mem_toList.mp he)
    simp only [standing, hat, hp, Standing.isPermitted]

/-! ### How far a call is -/

/-- The number of the attempt that a call inside its retry policy has come to. -/
def Phase.number? : Phase ε α → Option Nat
  | .preparing number | .pausing number _ => some number
  | .attempting a => some a.number
  | _ => none

/-- Whether a call that stands inside its retry policy can move on at a moment: an attempt begins at
any time, ends when its operation or its deadline is due, and a pause ends when it is over. -/
def Phase.isDue (moment : Nat) : Phase ε α → Bool
  | .preparing _ => true
  | .attempting a => Stack.reached moment a.ends? || Stack.reached moment a.deadline?
  | .pausing _ wakeAt => decide (wakeAt ≤ moment)
  | _ => false

private theorem Phase.exists_isDue {place : Phase ε α} (hin : place.isInside = true)
    (hends : ∀ a, place = .attempting a → a.ends?.isSome = true ∨ a.deadline?.isSome = true)
    (now : Nat) : ∃ duration, place.isDue (now + duration) = true := by
  have hreached {moment? : Option Nat} (h : moment?.isSome = true) :
      ∃ duration, Stack.reached (now + duration) moment? = true := by
    obtain ⟨moment, rfl⟩ := Option.isSome_iff_exists.mp h
    exact ⟨moment, decide_eq_true (Nat.le_add_left _ _)⟩
  cases place with
  | preparing number => exact ⟨0, rfl⟩
  | attempting a =>
    obtain hsome | hsome := hends a rfl
    · obtain ⟨duration, hdue⟩ := hreached hsome
      exact ⟨duration, by rw [isDue, hdue, Bool.true_or]⟩
    · obtain ⟨duration, hdue⟩ := hreached hsome
      exact ⟨duration, by rw [isDue, hdue, Bool.or_true]⟩
  | pausing number wakeAt => exact ⟨wakeAt, decide_eq_true (Nat.le_add_left _ _)⟩
  | arriving | queued ticket | admitted | throttled since wakeAt | finished r => cases hin

/-- The steps that a call inside its retry policy takes at most until it is over: three for every
attempt that is left, less those of the current one. -/
def Call.left (config : RetryConfig) (c : Call ε α) : Nat :=
  match c.phase with
  | .preparing number => 3 * (config.attempts - number) + 2
  | .attempting a => 3 * (config.attempts - a.number) + 1
  | .pausing number _ => 3 * (config.attempts - number)
  | _ => 0

namespace Call.Retried

variable {outer : List (PolicyFailure ε)} {name : String} {config : RetryConfig}
  {eligible : PolicyFailure ε → Bool} {now : Nat} {d : List (DiaryEntry ε α)} {c : Call ε α}

private theorem numbered (h : c.Retried outer name config eligible now d) :
    (∀ number, c.phase = .preparing number → number = c.prepared + 1) ∧
      ∀ a, c.phase = .attempting a → a.number = c.prepared := by
  refine ⟨fun number hat ↦ ?_, fun a hat ↦ ?_⟩
  · simp only [Call.Retried, hat] at h
    obtain ⟨results, ready, -, -, hnumber, hprepared⟩ := h
    rw [hnumber, hprepared]
  · simp only [Call.Retried, hat] at h
    obtain ⟨earlier, results, ready, -, -, -, -, hnumber, hprepared⟩ := h
    rw [hnumber, hprepared]

private theorem pausing_lt (h : c.Retried outer name config eligible now d) {number wakeAt : Nat}
    (hat : c.phase = .pausing number wakeAt) : number < config.attempts := by
  simp only [Call.Retried, hat] at h
  obtain ⟨results, htried, -, rfl, -⟩ := h
  exact htried.length_lt

private theorem bounded (h : c.Retried outer name config eligible now d) :
    c.prepared ≤ config.attempts ∧
      ∀ number, c.phase.number? = some number → number ≤ config.attempts := by
  cases hat : c.phase with
  | arriving | queued ticket | admitted | throttled since wakeAt =>
    simp only [Call.Retried, hat] at h
    refine ⟨h.2 ▸ Nat.zero_le _, ?_⟩
    rintro _ ⟨⟩
  | preparing number =>
    simp only [Call.Retried, hat] at h
    obtain ⟨results, ready, htried, -, hnumber, hprepared⟩ := h
    refine ⟨hprepared ▸ htried.length_lt.le, ?_⟩
    rintro _ ⟨⟩
    exact hnumber ▸ htried.length_lt
  | attempting a =>
    simp only [Call.Retried, hat] at h
    obtain ⟨earlier, results, ready, -, htried, -, -, hnumber, hprepared⟩ := h
    refine ⟨hprepared ▸ htried.length_lt, ?_⟩
    rintro _ ⟨⟩
    exact hnumber ▸ htried.length_lt
  | pausing number wakeAt =>
    have hlt := h.pausing_lt hat
    simp only [Call.Retried, hat] at h
    obtain ⟨results, -, -, hnumber, hprepared⟩ := h
    refine ⟨hprepared ▸ hnumber ▸ hlt.le, ?_⟩
    rintro _ ⟨⟩
    exact hlt.le
  | finished r =>
    simp only [Call.Retried, hat] at h
    refine ⟨?_, by rintro _ ⟨⟩⟩
    obtain ⟨-, hprepared, -⟩ | ⟨earlier, results, ready, trial, last, time, -, htried, -, -, -,
      hprepared⟩ := h
    · exact hprepared ▸ Nat.zero_le _
    · exact hprepared ▸ htried.length_lt

private theorem left_le (h : c.Retried outer name config eligible now d) :
    c.left config ≤ 3 * config.attempts := by
  cases hat : c.phase with
  | preparing number =>
    simp only [Call.Retried, hat] at h
    obtain ⟨results, ready, htried, -, hnumber, -⟩ := h
    have hlt := htried.length_lt
    simp only [Call.left, hat]
    omega
  | attempting a =>
    simp only [Call.Retried, hat] at h
    obtain ⟨earlier, results, ready, -, htried, -, -, hnumber, -⟩ := h
    have hlt := htried.length_lt
    simp only [Call.left, hat]
    omega
  | pausing number wakeAt =>
    simp only [Call.left, hat]
    omega
  | arriving | queued ticket | admitted | throttled since wakeAt | finished r =>
    simp only [Call.left, hat]
    exact Nat.zero_le _

end Call.Retried

namespace Stack

variable {op : Operation σ ε α} {eligible : PolicyFailure ε → Bool} {now number : Nat}
  {s s' : Stack} {env env' : σ} {c c' : Call ε α} {config : RetryConfig}
  {calls rest : List (Call ε α)}

/-- The retry policy, if there is one, has counted these calls by how they ended, and whether at the
first attempt or later. -/
def Sorting (s : Stack) (calls : List (Call ε α)) : Prop :=
  ∀ p, s.retries? = some p → ∀ ok later, p.counter ok later = calls.countP (·.endedAs ok later)

private theorem Sorting.perm (h : s.Sorting calls) {calls' : List (Call ε α)}
    (hp : calls.Perm calls') :
    s.Sorting calls' :=
  fun p hretries ok later ↦ (h p hretries ok later).trans (hp.countP_eq _)

private theorem Moved.served_or_not (h : Moved op now s env c s' env' c')
    (hc : c.Regular s.breaker?.isSome)
    (hpreparing : ∀ n, c.phase = .preparing n → n = c.prepared + 1)
    (hattempting : ∀ a, c.phase = .attempting a → a.number = c.prepared) :
    c.standing.isServed = false ∧
      (s'.retries? = s.retries? ∧ c'.standing.isServed = false ∨
        ∃ ok, s'.retries? = s.retries?.map (·.count c'.prepared ok) ∧
          c'.standing = .served ok) := by
  cases h with
  | unguarded hat hb | seated hat hb hr | queued hat hb hr =>
    rw [Call.standing_of_before (.inl hat)]
    exact ⟨rfl, .inl ⟨rfl, rfl⟩⟩
  | turnedAway hat hb hr =>
    rw [Call.standing_of_before (.inl hat), Call.standing_turnedAway (hc.unprepared (hat ▸ rfl))]
    exact ⟨rfl, .inl ⟨rfl, rfl⟩⟩
  | claimed hat hb hr =>
    rw [Call.standing_of_before (.inr ⟨_, hat⟩)]
    exact ⟨rfl, .inl ⟨rfl, rfl⟩⟩
  | gaveUp hat hb hr =>
    rw [Call.standing_of_before (.inr ⟨_, hat⟩),
      Call.standing_turnedAway (hc.unprepared (hat ▸ rfl))]
    exact ⟨rfl, .inl ⟨rfl, rfl⟩⟩
  | unlimited hat hl | granted hat hl hr | slept hat hl hr =>
    rw [hat.standing]
    exact ⟨rfl, .inl ⟨rfl, rfl⟩⟩
  | limited hat hl hr =>
    rw [hat.standing, Call.standing_limited (hc.unprepared hat.isOutside)]
    exact ⟨rfl, .inl ⟨rfl, rfl⟩⟩
  | started hat hp =>
    rw [Call.standing_of_isInside (hat ▸ rfl)]
    cases hp with
    | unguarded hb | granted hb hr => exact ⟨rfl, .inl ⟨rfl, rfl⟩⟩
  | refused hat hb hr =>
    rw [Call.standing_of_isInside (hat ▸ rfl), hpreparing _ hat]
    exact ⟨rfl, .inr ⟨false, rfl, rfl⟩⟩
  | @ended a r s' env' c' hat hends hd =>
    rw [Call.standing_of_isInside (hat ▸ rfl)]
    cases hd with
    | done hok hrejected =>
      rw [hattempting a hat, Call.standing_served (hc.prepared_pos hat), hok]
      exact ⟨rfl, .inr ⟨r.isOk, rfl, rfl⟩⟩
    | again hr hrejected => exact ⟨rfl, .inl ⟨rfl, rfl⟩⟩
  | resumed hat hdue =>
    rw [Call.standing_of_isInside (hat ▸ rfl)]
    exact ⟨rfl, .inl ⟨rfl, rfl⟩⟩

/-- A step of a call keeps the calls sorted. -/
theorem Sorting.moved (h : s.Sorting (c :: rest)) (hc : c.Regular s.breaker?.isSome)
    (hpreparing : s.retries?.isSome = true → ∀ n, c.phase = .preparing n → n = c.prepared + 1)
    (hattempting : s.retries?.isSome = true → ∀ a, c.phase = .attempting a → a.number = c.prepared)
    (hm : Moved op now s env c s' env' c') : s'.Sorting (c' :: rest) := by
  intro p' hp' ok later
  have hlayout : s'.retries?.isSome = s.retries?.isSome := congrArg (·.2.2.1) hm.layout_eq
  obtain ⟨p, hp⟩ : ∃ p, s.retries? = some p :=
    Option.isSome_iff_exists.mp (hlayout.symm.trans (hp' ▸ rfl))
  have hsome : s.retries?.isSome = true := hp ▸ rfl
  have hbefore := h p hp ok later
  obtain ⟨hnot, ⟨hsame, hstill⟩ | ⟨good, hcounted, hserved⟩⟩ :=
    hm.served_or_not hc (hpreparing hsome) (hattempting hsome)
  · cases (hsame.symm.trans hp').symm.trans hp
    rw [countP_cons_toNat, Call.endedAs_of_not_served hnot] at hbefore
    rw [countP_cons_toNat, Call.endedAs_of_not_served hstill]
    exact hbefore
  · rw [hp'] at hcounted
    obtain ⟨p, hp₀, rfl⟩ := Option.map_eq_some_iff.mp hcounted.symm
    cases hp₀.symm.trans hp
    rw [countP_cons_toNat, Call.endedAs_of_not_served hnot] at hbefore
    rw [countP_cons_toNat, Call.endedAs_of_served hserved, Retry.counter_count, hbefore]
    rfl

/-! ### Waiting, and the steps left -/

private theorem isSome_step?_of_isInside (op : Operation σ ε α) (eligible : PolicyFailure ε → Bool)
    (now : Nat) (s : Stack) (env : σ) (h : c.phase.isInside = true) :
    (s.step? op eligible now env c).isSome = c.phase.isDue now := by
  cases hat : c.phase with
  | preparing number => simp only [step?, hat, Option.isSome_some, Phase.isDue]
  | attempting a =>
    simp only [step?, hat, Phase.isDue]
    split
    · next hdue => rw [hdue, Bool.true_or, Option.isSome_some]
    · next hearly =>
      rw [Bool.eq_false_iff.mpr hearly, Bool.false_or]
      split
      · next hdue => rw [hdue, Option.isSome_some]
      · next hrunning => rw [Bool.eq_false_iff.mpr hrunning, Option.isSome_none]
  | pausing number wakeAt =>
    simp only [step?, hat, Phase.isDue]
    split
    · next hearly => rw [decide_eq_false (Nat.not_le.mpr hearly), Option.isSome_none]
    · next hdue => rw [decide_eq_true (Nat.le_of_not_lt hdue), Option.isSome_some]
  | arriving | queued ticket | admitted | throttled since wakeAt | finished r =>
    rw [hat] at h
    cases h

private theorem Moved.left_lt (hm : Moved op now s env c s' env' c') (hin : c.phase.isInside = true)
    (hmore : ∀ number wakeAt, c.phase = .pausing number wakeAt → number < config.attempts) :
    c'.left config < c.left config ∧
      (c'.phase.isInside = true ∨ ∃ r, c'.phase = .finished r) := by
  cases hm with
  | unguarded hat hb | seated hat hb hr | turnedAway hat hb hr | queued hat hb hr
  | claimed hat hb hr | gaveUp hat hb hr =>
    rw [hat] at hin
    cases hin
  | unlimited hat hl | granted hat hl hr | limited hat hl hr | slept hat hl hr =>
    have hout := hat.isInside
    rw [hin] at hout
    cases hout
  | started hat hp =>
    simp only [Call.left, hat]
    exact ⟨Nat.lt_succ_self _, .inl rfl⟩
  | refused hat hb hr =>
    simp only [Call.left, hat]
    exact ⟨Nat.succ_pos _, .inr ⟨_, rfl⟩⟩
  | ended hat hends hd =>
    cases hd with
    | done hok hrejected =>
      simp only [Call.left, hat]
      exact ⟨Nat.succ_pos _, .inr ⟨_, rfl⟩⟩
    | again hr hrejected =>
      simp only [Call.left, hat]
      exact ⟨Nat.lt_succ_self _, .inl rfl⟩
  | resumed hat hdue =>
    have hlt := hmore _ _ hat
    simp only [Call.left, hat]
    exact ⟨by omega, .inl rfl⟩

end Stack

namespace Crowd

variable {t t₀ : Crowd σ ε α} {i : Nat} {v : Visit σ ε α} {name : String} {config : StackConfig}
  {env : σ} {start : Nat} {events : List (CrowdEvent σ ε α)} {retries : RetryConfig}

/-! ### The retry settings in a run -/

/-- The names of a stack stay as they are. -/
theorem names_apply (t : Crowd σ ε α) (e : CrowdEvent σ ε α) :
    (t.apply e).stack.names = t.stack.names := by
  cases e with
  | move i =>
    obtain he | ⟨v, s', env', log', c', hv, hstep, he⟩ := t.apply_move i
    · rw [he]
    · rw [he]
      exact (Stack.moved_of_step? hstep).names_eq
  | drop i =>
    simp only [apply]
    split
    · next v hv => exact t.stack.names_drop v.call t.now
    · rfl
  | close =>
    simp only [apply, Stack.names, Stack.close, Option.map_map]
    rfl
  | observe =>
    simp only [apply, Stack.names, Stack.observe, Option.map_map]
    rfl
  | arrive options op eligible | trip | reset | reconfigure config | shift env
  | wait duration => rfl

/-- The names of a stack are those it was built with. -/
theorem names_run (name : String) (config : StackConfig) (env : σ) (start : Nat)
    (events : List (CrowdEvent σ ε α)) :
    ((new name config env start).run events).stack.names = (Stack.new name config start).names :=
  run_keeps (fun t e h ↦ (t.names_apply e).trans h) rfl events

/-- The settings of a stack are those it was built with. -/
theorem settings_run (name : String) (config : StackConfig) (env : σ) (start : Nat)
    (events : List (CrowdEvent σ ε α)) :
    ((new name config env start).run events).stack.settings =
      (Stack.new name config start).settings :=
  run_keeps (fun t e h ↦ (t.settings_apply e).trans h) rfl events

/-- A call is retried under its own settings, else under those of the stack. -/
theorem retryConfig?_run (name : String) (config : StackConfig) (env : σ) (start : Nat)
    (events : List (CrowdEvent σ ε α)) (o : CallOptions) :
    ((new name config env start).run events).stack.retryConfig? o =
      (o.retries? <|> config.retries?) := by
  rw [Stack.retryConfig?_of_settings_eq (settings_run name config env start events)]
  simp only [Stack.retryConfig?, Stack.new, Option.map_map, Function.comp_def, Option.map_id']

/-- Each attempt of a call has the call's own deadline, else that of the stack. -/
theorem timeout?_run (name : String) (config : StackConfig) (env : σ) (start : Nat)
    (events : List (CrowdEvent σ ε α)) (o : CallOptions) :
    ((new name config env start).run events).stack.timeout? o =
      (o.timeout? <|> config.timeLimiter?.map (·.timeout)) := by
  rw [Stack.timeout?_of_settings_eq (settings_run name config env start events)]
  simp only [Stack.timeout?, Stack.new, Option.map_map, Function.comp_def]

/-- Exhausted attempts are reported under a name derived from that of the stack. -/
theorem retryName_run (name : String) (config : StackConfig) (env : σ) (start : Nat)
    (events : List (CrowdEvent σ ε α)) :
    ((new name config env start).run events).stack.retryName = name ++ "-retry" := by
  rw [Stack.retryName_of_names_eq (names_run name config env start events)]
  cases hretries : config.retries? with
  | none => simp only [Stack.retryName, Stack.new, hretries, Option.map_none, Option.getD_none]
  | some p => simp only [Stack.retryName, Stack.new, hretries, Option.map_some, Option.getD_some]

/-- The outer layers turn calls away with the failures that the settings name. -/
theorem outerFailures_run (name : String) (config : StackConfig) (env : σ) (start : Nat)
    (events : List (CrowdEvent σ ε α)) :
    (((new name config env start).run events).stack.outerFailures : List (PolicyFailure ε)) =
      config.outerFailures name := by
  rw [Stack.outerFailures_of_eq (names_run name config env start events)
    (settings_run name config env start events)]
  simp only [Stack.outerFailures, Stack.new, Option.map_map]
  rfl

/-- In every run the diary of a call is that of a call retried under its settings. -/
theorem retried_run (name : String) (config : StackConfig) (env : σ) (start : Nat)
    (events : List (CrowdEvent σ ε α))
    (hv : ((new name config env start).run events).visits[i]? = some v)
    (hretries : (v.call.options.retries? <|> config.retries?) = some retries) :
    v.call.Retried (config.outerFailures name) (name ++ "-retry") retries v.eligible
      ((new name config env start).run events).now
      ((new name config env start).diaryOf events i) := by
  refine diaryOf_keeps (I := fun now _ eligible d c ↦ ∀ retries,
    (c.options.retries? <|> config.retries?) = some retries →
      c.Retried (config.outerFailures name) (name ++ "-retry") retries eligible now d)
    ?_ ?_ ?_ rfl events hv retries hretries
  · intro now op eligible options retries hretries
    exact ⟨rfl, rfl⟩
  · intro now now' op eligible d c hle h retries hretries
    exact (h retries hretries).mono hle
  · intro events i v d s' env' log' c' hv hstep h retries hretries
    rw [(Stack.moved_of_step? hstep).options_eq] at hretries
    have hconfig := (retryConfig?_run name config env start events v.call.options).trans hretries
    have hname := retryName_run name config env start events
    have houter := outerFailures_run (ε := ε) (α := α) name config env start events
    have hkept := Stack.retried_of_step? hconfig hstep (hname ▸ houter ▸ h retries hretries)
    rw [Stack.note?_noted, hname, houter] at hkept
    exact hkept

/-- In every run a call inside its retry policy has prepared as many attempts as it counts. -/
theorem numbered_run (name : String) (config : StackConfig) (env : σ) (start : Nat)
    (events : List (CrowdEvent σ ε α))
    (hv : ((new name config env start).run events).visits[i]? = some v)
    (hretries : config.retries?.isSome = true) :
    (∀ number, v.call.phase = .preparing number → number = v.call.prepared + 1) ∧
      ∀ a, v.call.phase = .attempting a → a.number = v.call.prepared := by
  obtain ⟨stacked, hstacked⟩ := Option.isSome_iff_exists.mp hretries
  obtain ⟨retries, heffective⟩ :
      ∃ retries, (v.call.options.retries? <|> config.retries?) = some retries := by
    cases hown : v.call.options.retries? with
    | none => exact ⟨stacked, hstacked⟩
    | some own => exact ⟨own, rfl⟩
  exact (retried_run name config env start events hv heffective).numbered

/-- Every event keeps the calls sorted, if the calls inside their retry policies count their
attempts right. -/
theorem sorting_apply (h : t.stack.Sorting t.calls) (hc : t.Coherent)
    (hnumbered : t.stack.retries?.isSome = true → ∀ v ∈ t.visits,
      (∀ number, v.call.phase = .preparing number → number = v.call.prepared + 1) ∧
        ∀ a, v.call.phase = .attempting a → a.number = v.call.prepared)
    (e : CrowdEvent σ ε α) : (t.apply e).stack.Sorting (t.apply e).calls := by
  cases e with
  | arrive options op eligible =>
    intro p hp ok later
    rw [h p hp ok later, calls, calls, apply, List.map_append, List.countP_append]
    exact (Nat.add_zero _).symm
  | move i =>
    obtain he | ⟨v, s', env', log', c', hv, hstep, he⟩ := t.apply_move i
    · rw [he]
      exact h
    obtain ⟨hat, -⟩ := visit?_eq_some.mp hv
    have hmem := List.mem_of_getElem? hat
    have hm := Stack.moved_of_step? hstep
    have hbefore := h.perm ((perm_cons_eraseIdx hat).map Visit.call)
    have hafter := (set_perm_cons_eraseIdx hat (v.moved t.stack s' c')).map Visit.call
    rw [he]
    exact (hbefore.moved (hc.regular v hmem) (fun hsome ↦ (hnumbered hsome v hmem).1)
      (fun hsome ↦ (hnumbered hsome v hmem).2) hm).perm hafter.symm
  | drop i =>
    simp only [apply]
    split
    · next v hv =>
      obtain ⟨hat, -⟩ := visit?_eq_some.mp hv
      have hcalls : (t.visits.set i { v with gone := true }).map Visit.call |>.Perm t.calls :=
        ((set_perm_cons_eraseIdx hat { v with gone := true }).map Visit.call).trans
          ((perm_cons_eraseIdx hat).map Visit.call).symm
      intro p hp
      rw [(t.stack.inner_drop v.call t.now).2.1] at hp
      exact h.perm hcalls.symm p hp
    · exact h
  | close | trip | reset | reconfigure config | observe | shift env | wait duration => exact h

/-- In every run the retry policy has counted the calls by how they ended. -/
theorem sorting_run (name : String) (config : StackConfig) (env : σ) (start : Nat)
    (events : List (CrowdEvent σ ε α)) :
    ((new name config env start).run events).stack.Sorting
      ((new name config env start).run events).calls := by
  induction events using List.reverseRecOn with
  | nil =>
    intro p hp ok later
    obtain ⟨settings, -, rfl⟩ := Option.map_eq_some_iff.mp hp
    cases ok <;> cases later <;> rfl
  | append_singleton events e ih =>
    have hlayout := congrArg (·.2.2.1) (layout_run name config env start events)
    rw [run_append]
    refine sorting_apply ih (coherent_run name config env start events) ?_ e
    intro hsome v hv
    obtain ⟨i, hi⟩ := List.mem_iff_getElem?.mp hv
    exact numbered_run name config env start events hi (hlayout.symm.trans hsome)

/-! ### The end of a call -/

private theorem canMove_of_isInside (hv : t.visit? i = some v) (hin : v.call.phase.isInside = true)
    (moment : Nat) : t.canMove moment i = v.call.phase.isDue moment := by
  rw [canMove, hv, Option.any_some]
  exact Stack.isSome_step?_of_isInside (v.op.noted i) v.eligible moment t.stack (t.env, t.log) hin

/-- Every attempt of a call ends: there is a deadline, or its operation takes a finite time. -/
def Limited (config : StackConfig) (o : CallOptions) (op : Operation σ ε α) : Prop :=
  (o.timeout? <|> config.timeLimiter?.map (·.timeout)).isSome = true ∨
    ∀ env number, (op.start env number).2.latency?.isSome = true

/-- In every run the end of an attempt is in sight, if all attempts of its call end. -/
theorem limited_run (name : String) (config : StackConfig) (env : σ) (start : Nat)
    (events : List (CrowdEvent σ ε α))
    (hv : ((new name config env start).run events).visits[i]? = some v)
    (hlimited : Limited config v.call.options v.op) {a : Attempt}
    (hat : v.call.phase = .attempting a) : a.ends?.isSome = true ∨ a.deadline?.isSome = true := by
  refine diaryOf_keeps (I := fun _ op _ _ c ↦ Limited config c.options op →
    ∀ a, c.phase = .attempting a → a.ends?.isSome = true ∨ a.deadline?.isSome = true)
    ?_ ?_ ?_ rfl events hv hlimited a hat
  · intro now op eligible options hlimited a hat
    cases hat
  · intro now now' op eligible d c hle h
    exact h
  · intro events i v d s' env' log' c' hv hstep h hlimited a hat
    have hm := Stack.moved_of_step? hstep
    rw [hm.options_eq] at hlimited
    obtain ⟨hprepared, -⟩ := hm.began hat
    obtain ⟨hends, hdeadline⟩ := Stack.limits_of_started hprepared hstep hat
    rw [timeout?_run name config env start events] at hdeadline
    rw [hends, hdeadline, Option.isSome_map, Option.isSome_map]
    obtain htimeout | hlatency := hlimited
    · exact .inr htimeout
    · exact .inl (hlatency _ _)

private theorem visit?_move (hv : t.visit? i = some v) {s' : Stack} {env' : σ} {log' : OperationLog}
    {c' : Call ε α} (hstep : t.stack.step? (v.op.noted i) v.eligible t.now (t.env, t.log) v.call =
      some (s', (env', log'), c')) :
    (t.apply (.move i)).visit? i = some (v.moved t.stack s' c') := by
  obtain ⟨hat, hgone⟩ := visit?_eq_some.mp hv
  rw [apply, hv]
  simp only [hstep]
  exact visit?_eq_some.mpr ⟨getElem?_set_of_some hat _, hgone⟩

/-- A stack that is built without the outer layers never has them. -/
theorem bare_run (name : String) {config : StackConfig} (env : σ) (start : Nat)
    (events : List (CrowdEvent σ ε α)) (hb : config.bulkhead? = none)
    (hl : config.rateLimiter? = none) :
    ((new name config env start).run events).stack.bulkhead? = none ∧
      ((new name config env start).run events).stack.rateLimiter? = none := by
  have hlayout := layout_run name config env start events
  rw [hb, hl] at hlayout
  have hnone {β : Type} {layer? : Option β} (h : layer?.isSome = false) : layer? = none :=
    Option.isNone_iff_eq_none.mp (Option.isSome_eq_false_iff.mp h)
  exact ⟨hnone (congrArg (·.1) hlayout), hnone (congrArg (·.2.1) hlayout)⟩

/-- Without the outer layers a call has no place to wait before its retry policy. -/
theorem entering_run (name : String) {config : StackConfig} (env : σ) (start : Nat)
    (events : List (CrowdEvent σ ε α))
    (hv : ((new name config env start).run events).visits[i]? = some v)
    (hout : v.call.phase.isOutside = true) (hb : config.bulkhead? = none)
    (hl : config.rateLimiter? = none) :
    v.call.phase = .arriving ∨ v.call.phase = .admitted := by
  refine diaryOf_keeps (I := fun _ _ _ _ c ↦ c.phase.isOutside = true →
    c.phase = .arriving ∨ c.phase = .admitted) ?_ ?_ ?_ rfl events hv hout
  · intro now op eligible options hout
    exact .inl rfl
  · intro now now' op eligible d c hle h
    exact h
  · intro events i v d s' env' log' c' hv hstep h hout
    obtain ⟨hbulkhead, hlimiter⟩ := bare_run (ε := ε) (α := α) name env start events hb hl
    cases Stack.moved_of_step? hstep with
    | unguarded hat hb' => exact .inr rfl
    | seated hat hb' hr | turnedAway hat hb' hr | queued hat hb' hr | claimed hat hb' hr
    | gaveUp hat hb' hr =>
      rw [hbulkhead] at hb'
      cases hb'
    | granted hat hl' hr | limited hat hl' hr | slept hat hl' hr =>
      rw [hlimiter] at hl'
      cases hl'
    | unlimited hat hl' | started hat hp | refused hat hb' hr | resumed hat hdue => cases hout
    | ended hat hends hd =>
      cases hd with
      | done hok hrejected => cases hout
      | again hr hrejected => cases hout

private theorem enters (name : String) {config : StackConfig} (env : σ) (start : Nat)
    (events : List (CrowdEvent σ ε α))
    (hv : ((new name config env start).run events).visit? i = some v)
    (hout : v.call.phase.isOutside = true) (hb : config.bulkhead? = none)
    (hl : config.rateLimiter? = none) :
    ∃ entry v', (∀ e ∈ entry, e = .move i) ∧ entry.length ≤ 2 ∧
      ((new name config env start).run (events ++ entry)).visit? i = some v' ∧
      v'.op = v.op ∧ v'.call.options = v.call.options ∧ v'.call.phase.isInside = true := by
  obtain ⟨hat, -⟩ := visit?_eq_some.mp hv
  have hplace := entering_run name env start events hat hout hb hl
  obtain ⟨hbulkhead, hlimiter⟩ := bare_run (ε := ε) (α := α) name env start events hb hl
  simp only [run_append]
  generalize (new name config env start).run events = t at hv hbulkhead hlimiter ⊢
  have hpast {t : Crowd σ ε α} {v : Visit σ ε α} (hv : t.visit? i = some v)
      (hadmitted : v.call.phase = .admitted) (hlimiter : t.stack.rateLimiter? = none) :
      (t.apply (.move i)).visit? i =
        some (v.moved t.stack t.stack { v.call with phase := .preparing 1 }) := by
    have hstep : t.stack.step? (v.op.noted i) v.eligible t.now (t.env, t.log) v.call =
        some (t.stack, (t.env, t.log), { v.call with phase := .preparing 1 }) := by
      simp only [Stack.step?, hadmitted, Stack.throttle, hlimiter]
    exact visit?_move hv hstep
  obtain harriving | hadmitted := hplace
  · have hstep : t.stack.step? (v.op.noted i) v.eligible t.now (t.env, t.log) v.call =
        some (t.stack, (t.env, t.log), { v.call with phase := .admitted }) := by
      simp only [Stack.step?, harriving, hbulkhead]
    have hlimiter' : (t.apply (.move i)).stack.rateLimiter? = none := by
      simpa only [apply, hv, hstep] using hlimiter
    refine ⟨[.move i, .move i], _, ?_, Nat.le_refl _,
      hpast (visit?_move hv hstep) rfl hlimiter', rfl, rfl, rfl⟩
    intro e he
    obtain rfl | he := List.mem_cons.mp he
    · rfl
    · exact List.mem_singleton.mp he
  · exact ⟨[.move i], _, fun e he ↦ List.mem_singleton.mp he, Nat.le_succ _,
      hpast hv hadmitted hlimiter, rfl, rfl, rfl⟩

private theorem nearer_after_wait (name : String) (config : StackConfig) (env : σ) (start : Nat)
    (events : List (CrowdEvent σ ε α))
    (hv : ((new name config env start).run events).visit? i = some v)
    (hin : v.call.phase.isInside = true)
    (hretries : (v.call.options.retries? <|> config.retries?) = some retries)
    (hlimited : Limited config v.call.options v.op) :
    ∃ duration v', ((new name config env start).run
        (events ++ [.wait duration, .move i])).visit? i = some v' ∧
      v'.op = v.op ∧ v'.call.options = v.call.options ∧
      v'.call.left retries < v.call.left retries ∧
      (v'.call.phase.isInside = true ∨ ∃ r, v'.call.phase = .finished r) := by
  obtain ⟨hat, hgone⟩ := visit?_eq_some.mp hv
  have hretried := retried_run name config env start events hat hretries
  obtain ⟨duration, hdue⟩ := Phase.exists_isDue hin
    (fun a ↦ limited_run name config env start events hat hlimited (a := a))
    ((new name config env start).run events).now
  simp only [run_append]
  generalize (new name config env start).run events = t at hv hat hdue ⊢
  have hcan := Stack.isSome_step?_of_isInside (v.op.noted i) v.eligible (t.now + duration) t.stack
    (t.env, t.log) hin
  rw [hdue] at hcan
  obtain ⟨⟨s', ⟨env', log'⟩, c'⟩, hstep⟩ := Option.isSome_iff_exists.mp hcan
  have hm := Stack.moved_of_step? hstep
  obtain ⟨hleft, hnext⟩ := hm.left_lt hin fun _ _ ↦ hretried.pausing_lt
  have hv' : (t.apply (.wait duration)).visit? i = some v := hv
  refine ⟨duration, v.moved t.stack s' c', ?_, rfl, hm.options_eq, hleft, hnext⟩
  exact visit?_move hv' hstep

private theorem finishes_of_left_le (name : String) (config : StackConfig) (env : σ) (start : Nat)
    (count : Nat) (events : List (CrowdEvent σ ε α))
    (hv : ((new name config env start).run events).visit? i = some v)
    (hin : v.call.phase.isInside = true)
    (hretries : (v.call.options.retries? <|> config.retries?) = some retries)
    (hlimited : Limited config v.call.options v.op) (hleft : v.call.left retries ≤ count) :
    ∃ later v' r, (∀ e ∈ later, e = .move i ∨ ∃ duration, e = .wait duration) ∧
      later.length ≤ 2 * count ∧
      ((new name config env start).run (events ++ later)).visit? i = some v' ∧
      v'.call.options = v.call.options ∧ v'.call.phase = .finished r := by
  -- a call with nothing left could still take a step, and would have less than nothing then
  induction count generalizing events v with
  | zero =>
    obtain ⟨duration, v', -, -, -, hlt, -⟩ :=
      nearer_after_wait name config env start events hv hin hretries hlimited
    exact absurd (Nat.lt_of_lt_of_le hlt hleft) (Nat.not_lt_zero _)
  | succ count ih =>
    obtain ⟨duration, v', hv', hop, hoptions, hlt, hnext⟩ :=
      nearer_after_wait name config env start events hv hin hretries hlimited
    have hsolo : ∀ e ∈ [CrowdEvent.wait duration, .move i],
        e = .move i ∨ ∃ duration, e = (.wait duration : CrowdEvent σ ε α) := by
      intro e he
      obtain rfl | he := List.mem_cons.mp he
      · exact .inr ⟨duration, rfl⟩
      · exact .inl (List.mem_singleton.mp he)
    obtain hin' | ⟨r, hfinished⟩ := hnext
    · obtain ⟨later, w, r, hlater, hlength, hw, hkept, hfinished⟩ := ih _ hv' hin'
        (hoptions ▸ hretries) (hoptions ▸ hop ▸ hlimited) (by omega)
      refine ⟨[.wait duration, .move i] ++ later, w, r, fun e he ↦ ?_, ?_, ?_,
        hkept.trans hoptions, hfinished⟩
      · exact (List.mem_append.mp he).elim (hsolo e) (hlater e)
      · rw [List.length_append, List.length_cons, List.length_singleton]
        omega
      · rw [← List.append_assoc]
        exact hw
    · refine ⟨_, v', r, hsolo, ?_, hv', hoptions, hfinished⟩
      rw [List.length_cons, List.length_singleton]
      omega

/-- A call that ends after it was inside its retry policy made an attempt there. -/
theorem prepared_pos_run (name : String) (config : StackConfig) (env : σ) (start : Nat)
    (events : List (CrowdEvent σ ε α)) {later : List (CrowdEvent σ ε α)} {w : Visit σ ε α}
    {r : Except (PolicyFailure ε) α}
    (hv : ((new name config env start).run events).visits[i]? = some v)
    (hin : v.call.phase.isInside = true)
    (hw : ((new name config env start).run (events ++ later)).visits[i]? = some w)
    (hretries : (w.call.options.retries? <|> config.retries?) = some retries)
    (hfinished : w.call.phase = .finished r) : 0 < w.call.prepared := by
  have hpermitted : v.call.standing.isPermitted = true := by
    rw [Call.standing_of_isInside hin]
    rfl
  obtain ⟨w', hw', hstill⟩ :=
    (coherent_run name config env start events).permitted_run later hv hpermitted
  rw [← run_append] at hw'
  cases hw.symm.trans hw'
  have hretried := retried_run name config env start _ hw hretries
  simp only [Call.Retried, hfinished] at hretried
  obtain ⟨-, hzero, e, he, rfl⟩ | ⟨earlier, results, ready, trial, last, time, -, -, -, -, -,
    hprepared⟩ := hretried
  · rw [Call.not_permitted_of_outerFailure hzero hfinished he] at hstill
    cases hstill
  · exact hprepared ▸ Nat.succ_pos _

/-- The retry policy does what its settings say. In every crowd, after any events:

A call that is retried, under its own settings or those of the stack, has the diary of such a call.
All its attempts but the last were tried again, because no result before settled the call and
attempts were left, and each was followed by the pause that the schedule gives it. The last one
settled the call or was the last allowed, and the call ended with its result, wrapped only if that
does not settle the call. The operation was prepared once for each attempt, and neither that number
nor the count of attempts that the call keeps exceeds the maximum, however great that is. Only a
call that the bulkhead or the rate limiter turned away has ended without an attempt, and its result
is their failure; a call that once was inside its retry policy made an attempt when it ends.

Inside its retry policy a call waits only for a pause to be over, or for its attempt to end. The
four counters of the policy have each call counted once, by how it ended and whether it took more
than one attempt. Without the outer layers a call enters its policy by its own steps, of which
there are at most two. If all attempts of a call end, then the call ends by its own steps, of which
there are at most three for an attempt, and one attempt at least was made. -/
theorem retries_follow_settings (name : String) (config : StackConfig) (env : σ) (start : Nat)
    (events : List (CrowdEvent σ ε α)) :
    let t₀ : Crowd σ ε α := new name config env start
    let t := t₀.run events
    (∀ i (v : Visit σ ε α) retries, t.visits[i]? = some v →
      (v.call.options.retries? <|> config.retries?) = some retries →
      v.call.Retried (config.outerFailures name) (name ++ "-retry") retries v.eligible t.now
          (t₀.diaryOf events i) ∧
        v.call.prepared ≤ max 1 retries.maxAttempts ∧
        ∀ number, v.call.phase.number? = some number → number ≤ max 1 retries.maxAttempts) ∧
    (∀ i v, t.visit? i = some v → v.call.phase.isInside = true →
      ∀ moment, t.canMove moment i = v.call.phase.isDue moment) ∧
    (∀ p, t.stack.retries? = some p →
      ∀ ok later, p.counter ok later = t.calls.countP (·.endedAs ok later)) ∧
    (∀ (i : Nat) (v v' : Visit σ ε α) later retries r, t.visits[i]? = some v →
      v.call.phase.isInside = true → (t₀.run (events ++ later)).visits[i]? = some v' →
      (v'.call.options.retries? <|> config.retries?) = some retries →
      v'.call.phase = .finished r → 0 < v'.call.prepared) ∧
    (∀ i v, t.visit? i = some v → v.call.phase.isOutside = true → config.bulkhead? = none →
      config.rateLimiter? = none →
      ∃ entry v', (∀ e ∈ entry, e = .move i) ∧ entry.length ≤ 2 ∧
        (t₀.run (events ++ entry)).visit? i = some v' ∧ v'.op = v.op ∧
        v'.call.options = v.call.options ∧ v'.call.phase.isInside = true) ∧
    (∀ i (v : Visit σ ε α) retries, t.visit? i = some v → v.call.phase.isInside = true →
      (v.call.options.retries? <|> config.retries?) = some retries →
      Limited config v.call.options v.op →
      ∃ later v' r, (∀ e ∈ later, e = .move i ∨ ∃ duration, e = .wait duration) ∧
        later.length ≤ 6 * max 1 retries.maxAttempts ∧
        (t₀.run (events ++ later)).visit? i = some v' ∧ v'.call.phase = .finished r ∧
        0 < v'.call.prepared) := by
  intro t₀ t
  refine ⟨fun i v retries hv hretries ↦ ?_, fun i v hv hin moment ↦ ?_, ?_,
    fun i v v' later retries r hv hin hv' hretries hfinished ↦ ?_,
    fun i v hv hout hb hl ↦ enters name env start events hv hout hb hl,
    fun i v retries hv hin hretries hlimited ↦ ?_⟩
  · have hretried := retried_run name config env start events hv hretries
    exact ⟨hretried, hretried.bounded⟩
  · exact canMove_of_isInside hv hin moment
  · exact sorting_run name config env start events
  · exact prepared_pos_run name config env start events hv hin hv' hretries hfinished
  · obtain ⟨hat, -⟩ := visit?_eq_some.mp hv
    have hleft := (retried_run name config env start events hat hretries).left_le
    obtain ⟨later, v', r, hsolo, hlength, hv', hoptions, hfinished⟩ := finishes_of_left_le name
      config env start (3 * retries.attempts) events hv hin hretries hlimited hleft
    obtain ⟨hat', -⟩ := visit?_eq_some.mp hv'
    refine ⟨later, v', r, hsolo, ?_, hv', hfinished, ?_⟩
    · rw [← Nat.mul_assoc] at hlength
      exact hlength
    · exact prepared_pos_run name config env start events hat hin hat'
        (hoptions ▸ hretries) hfinished

/-- An operation that takes ten milliseconds, fails at the first attempts and succeeds afterwards. -/
def failing (failures : Nat) : Operation Unit Unit Unit where
  start env number := (env, { latency? := some 10, ticket := number })
  finish env number := (env, if number ≤ failures then .error (.inner ()) else .ok ())

/-- Three attempts, with pauses of 100 and 200 milliseconds. -/
def doubling : RetryConfig := { backoff := .exponential 100 2 }

/-- A stack with nothing but a retry policy. -/
def unguarded : Crowd Unit Unit Unit :=
  new "orders" { StackConfig.passthrough with retries? := some doubling } () 0

/-- A call that fails twice, one that always fails, and one that may not be tried again. -/
def threeCalls : List (CrowdEvent Unit Unit Unit) :=
  let all : List (CrowdEvent Unit Unit Unit) := [.move 0, .move 1, .move 2]
  [.arrive {} (failing 2) fun _ ↦ true, .arrive {} (failing 3) fun _ ↦ true,
    .arrive {} (failing 1) fun _ ↦ false] ++ all ++ all ++ all ++ .wait 10 :: all ++
    .wait 100 :: all ++ all ++ .wait 10 :: all ++ .wait 200 :: all ++ all ++ .wait 10 :: all

/-- The first succeeds at its third attempt, the others fail after three attempts and after one. A
call that has only come ends as well, however often its operation fails. -/
theorem three_calls_retried :
    ((unguarded.run threeCalls).calls.map (·.begun) = [[0, 110, 320], [0, 110, 320], [0]] ∧
      (unguarded.run threeCalls).calls.map (·.phase.result?) = [some (.ok ()),
        some (.error (.exhausted "orders-retry" 3 (.inner ()))), some (.error (.inner ()))] ∧
      (unguarded.run threeCalls).stack.retries?.map (·.stats) = some ⟨0, 1, 1, 1⟩) ∧
    (∀ i (v : Visit Unit Unit Unit), (unguarded.run threeCalls).visits[i]? = some v →
      v.call.options.retries? = none →
      v.call.Retried [] ("orders" ++ "-retry") doubling v.eligible (unguarded.run threeCalls).now
        (unguarded.diaryOf threeCalls i)) ∧
    ∀ failures, ∃ later v' r,
      (unguarded.run (.arrive {} (failing failures) (fun _ ↦ true) :: later)).visit? 0 = some v' ∧
        v'.call.phase = .finished r ∧ 0 < v'.call.prepared := by
  refine ⟨by decide +kernel, fun i v hv hown ↦ ?_, fun failures ↦ ?_⟩
  · obtain ⟨hretried, -⟩ := retries_follow_settings "orders"
      { StackConfig.passthrough with retries? := some doubling } () 0 threeCalls
    exact (hretried i v doubling hv (by rw [hown]; rfl)).1
  · obtain ⟨-, -, -, -, henters, -⟩ := retries_follow_settings "orders"
      { StackConfig.passthrough with retries? := some doubling } () 0
      [.arrive {} (failing failures) fun _ ↦ true]
    obtain ⟨entry, v, -, -, hv, hop, hoptions, hin⟩ := henters 0 _ rfl rfl rfl rfl
    obtain ⟨-, -, -, -, -, hends⟩ := retries_follow_settings "orders"
      { StackConfig.passthrough with retries? := some doubling } () 0
      ([.arrive {} (failing failures) fun _ ↦ true] ++ entry)
    obtain ⟨later, v', r, -, -, hv', hfinished, hmade⟩ :=
      hends 0 v doubling hv hin (by rw [hoptions]; rfl) (.inr (by rw [hop]; exact fun _ _ ↦ rfl))
    exact ⟨entry ++ later, v', r, hv', hfinished, hmade⟩

end Crowd

end GuardedDispatch
