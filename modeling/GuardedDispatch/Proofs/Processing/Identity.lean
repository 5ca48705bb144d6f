import GuardedDispatch.Proofs.Processing.Derivations

/-!
# The identity of a message across its attempts

A context keeps the identity of its message, and so does the snapshot that comes with its first
retry. The budget and the time of the first attempt are the same in both for good. The identity is
not: a context can be given another one at any time, and its snapshot keeps the one that the message
had when its first retry was derived. So the two agree exactly if the identity in force is that one.
-/

namespace GuardedDispatch

/-- What is done to a context between its creation and its end. A clone is the equal of its original
and has the same history. -/
inductive ContextAction where
  | identify (id : String)
  | deliver (session : DeliverySession)
  | setAttribute (name : String) (value : Json)
  | clone
  | retire (stage cause : String) (backoff : Backoff) (now : Int)

namespace ContextAction

/-- The identity that is given, if one is. -/
def identity? : ContextAction → Option String
  | .identify id => some id
  | _ => none

/-- Whether a retry is derived. -/
def isRetire : ContextAction → Bool
  | .retire .. => true
  | _ => false

end ContextAction

/-- The identity in force after some actions: the one that was given last, or the one before. -/
def identityAfter (id : String) (actions : List ContextAction) : String :=
  actions.foldl (fun id a ↦ a.identity?.getD id) id

/-- What was done before the first retry was derived. -/
def beforeFirstRetry (actions : List ContextAction) : List ContextAction :=
  actions.takeWhile (!·.isRetire)

namespace ProcessingContext

variable {μ : Type} {c d : ProcessingContext μ} {a : ContextAction} {actions : List ContextAction}

/-- Does one thing to a context; a retry is derived if an attempt is left. -/
def perform? (c : ProcessingContext μ) : ContextAction → Option (ProcessingContext μ)
  | .identify id => some (c.withCorrelationId id)
  | .deliver session => some (c.withSession session)
  | .setAttribute name value => some (c.setAttribute name value)
  | .clone => some c
  | .retire stage cause backoff now => (c.retire stage cause backoff now).toOption

/-- Does one thing after another. -/
def run? (c : ProcessingContext μ) : List ContextAction → Option (ProcessingContext μ)
  | [] => some c
  | a :: rest => (c.perform? a).bind (·.run? rest)

/-- What follows one action and then others. -/
theorem run?_cons_eq_some_iff {rest : List ContextAction} :
    c.run? (a :: rest) = some d ↔ ∃ e, c.perform? a = some e ∧ e.run? rest = some d :=
  Option.bind_eq_some_iff

/-- What follows some actions and then others. -/
theorem run?_append_eq_some_iff {before after : List ContextAction} :
    c.run? (before ++ after) = some d ↔ ∃ e, c.run? before = some e ∧ e.run? after = some d := by
  induction before generalizing c with
  | nil => simp [run?]
  | cons a rest ih =>
    rw [List.cons_append, run?_cons_eq_some_iff]
    simp only [run?_cons_eq_some_iff, ih]
    grind

/-! ### One action -/

/-- What an action can make of a context: a retry is derived while an attempt is left, and anything
else leaves the snapshot and what is kept beside it alone. -/
inductive Performed (c : ProcessingContext μ) : ContextAction → ProcessingContext μ → Prop
  | kept {a : ContextAction} {d : ProcessingContext μ} (hno : a.isRetire = false)
      (hsnapshot : d.snapshot? = c.snapshot?) (hmax : d.maxAttempts = c.maxAttempts)
      (hfirst : d.firstAttemptAt = c.firstAttemptAt)
      (hid : d.correlationId = a.identity?.getD c.correlationId) : Performed c a d
  | retired (stage cause : String) (backoff : Backoff) (now : Int)
      (hlt : c.attempt < c.maxAttempts) :
      Performed c (.retire stage cause backoff now) (c.succeeding stage cause backoff now)

private theorem performed_of_perform? (h : c.perform? a = some d) : c.Performed a d := by
  cases a with
  | retire stage cause backoff now =>
    change (c.retire stage cause backoff now).toOption = some d at h
    obtain hlt | hle := Nat.lt_or_ge c.attempt c.maxAttempts
    · rw [retire_of_lt hlt] at h
      cases h
      exact .retired stage cause backoff now hlt
    · rw [retire_of_le hle] at h
      cases h
  | identify _ | deliver _ | setAttribute _ _ | clone =>
    cases h
    exact .kept rfl rfl rfl rfl rfl

private theorem Performed.correlationId_eq (h : c.Performed a d) :
    d.correlationId = a.identity?.getD c.correlationId := by
  cases h with
  | kept hno hsnapshot hmax hfirst hid => exact hid
  | retired stage cause backoff now hlt => rfl

/-- Being aligned says nothing about a context without a snapshot but that it has an attempt. -/
theorem aligned_iff : c.Aligned ↔ 1 ≤ c.maxAttempts ∧ ∀ s, c.snapshot? = some s →
    s.maxAttempts = c.maxAttempts ∧ s.firstAttemptAt = c.firstAttemptAt := by
  refine ⟨fun ⟨hpos, hmax, hfirst⟩ ↦ ⟨hpos, fun s hs ↦ ?_⟩, fun ⟨hpos, hkept⟩ ↦ ?_⟩
  · rw [snapshot, hs] at hmax hfirst
    exact ⟨hmax, hfirst⟩
  · cases hs : c.snapshot? with
    | none =>
      refine ⟨hpos, ?_, ?_⟩ <;> rw [snapshot, hs, Option.getD_none, RetrySnapshot.initial]
      exact Nat.max_eq_right hpos
    | some s =>
      obtain ⟨hmax, hfirst⟩ := hkept s hs
      refine ⟨hpos, ?_, ?_⟩ <;> rw [snapshot, hs, Option.getD_some]
      exacts [hmax, hfirst]

private theorem Performed.aligned (h : c.Performed a d) (hc : c.Aligned) : d.Aligned := by
  cases h with
  | kept hno hsnapshot hmax hfirst hid =>
    rw [aligned_iff, hsnapshot, hmax, hfirst]
    exact aligned_iff.mp hc
  | retired stage cause backoff now hlt => exact hc.succeeding stage cause backoff now

private theorem Performed.snapshot_id_eq {s : RetrySnapshot} (h : c.Performed a d)
    (hs : c.snapshot? = some s) :
    ∃ t, d.snapshot? = some t ∧ t.correlationId = s.correlationId := by
  cases h with
  | kept hno hsnapshot hmax hfirst hid => exact ⟨s, hsnapshot.trans hs, rfl⟩
  | retired stage cause backoff now hlt =>
    refine ⟨_, rfl, ?_⟩
    change c.snapshot.correlationId = s.correlationId
    rw [snapshot, hs, Option.getD_some]

/-! ### One action after the other -/

private theorem Aligned.run? (hc : c.Aligned) (h : c.run? actions = some d) : d.Aligned := by
  induction actions generalizing c with
  | nil =>
    cases h
    exact hc
  | cons a rest ih =>
    obtain ⟨e, hfirst, hrest⟩ := run?_cons_eq_some_iff.mp h
    exact ih ((performed_of_perform? hfirst).aligned hc) hrest

private theorem correlationId_of_run? (h : c.run? actions = some d) :
    d.correlationId = identityAfter c.correlationId actions := by
  induction actions generalizing c with
  | nil =>
    cases h
    rfl
  | cons a rest ih =>
    obtain ⟨e, hfirst, hrest⟩ := run?_cons_eq_some_iff.mp h
    rw [ih hrest, (performed_of_perform? hfirst).correlationId_eq]
    rfl

private theorem snapshot_id_of_run? {s : RetrySnapshot} (hs : c.snapshot? = some s)
    (h : c.run? actions = some d) :
    ∃ t, d.snapshot? = some t ∧ t.correlationId = s.correlationId := by
  induction actions generalizing c s with
  | nil =>
    cases h
    exact ⟨s, hs, rfl⟩
  | cons a rest ih =>
    obtain ⟨e, hfirst, hrest⟩ := run?_cons_eq_some_iff.mp h
    obtain ⟨t, ht, hkept⟩ := (performed_of_perform? hfirst).snapshot_id_eq hs
    obtain ⟨u, hu, hsame⟩ := ih ht hrest
    exact ⟨u, hu, hsame.trans hkept⟩

private theorem snapshot_id_eq_beforeFirstRetry {s : RetrySnapshot} (hnone : c.snapshot? = none)
    (h : c.run? actions = some d) (hs : d.snapshot? = some s) :
    s.correlationId = identityAfter c.correlationId (beforeFirstRetry actions) := by
  induction actions generalizing c with
  | nil =>
    cases h
    cases hnone.symm.trans hs
  | cons a rest ih =>
    obtain ⟨e, hfirst, hrest⟩ := run?_cons_eq_some_iff.mp h
    cases performed_of_perform? hfirst with
    | kept hno hsnapshot hmax hstart hid =>
      rw [ih (hsnapshot.trans hnone) hrest, hid, beforeFirstRetry, beforeFirstRetry,
        List.takeWhile_cons_of_pos (by rw [hno]; rfl)]
      rfl
    | retired stage cause backoff now hlt =>
      obtain ⟨t, ht, hkept⟩ := snapshot_id_of_run? rfl hrest
      cases hs.symm.trans ht
      refine hkept.trans ?_
      change c.snapshot.correlationId = c.correlationId
      rw [snapshot, hnone]
      rfl

/-! ### Fresh contexts -/

/-- What a fresh context becomes has the budget and the time of its first attempt in common with
its snapshot, if there is one. The two have the identity in common exactly if the one in force is
the one that was in force when the first retry was derived. And whatever is done after a context was
retired in favour of its next attempt, its identity is kept exactly if no other is given last. -/
theorem snapshot_agrees_iff_identity_kept (message : μ) (id : String) (budget : Nat) (start : Int)
    (history : List ContextAction) (h : (new message id budget start).run? history = some c) :
    (∀ s, c.snapshot? = some s →
      s.maxAttempts = c.maxAttempts ∧ s.firstAttemptAt = c.firstAttemptAt ∧
      (s.correlationId = c.correlationId ↔
        identityAfter id history = identityAfter id (beforeFirstRetry history))) ∧
    ∀ before after stage cause backoff now,
      history = before ++ .retire stage cause backoff now :: after →
      ∃ parent, (new message id budget start).run? before = some parent ∧
        (c.correlationId = parent.correlationId ↔
          identityAfter parent.correlationId after = parent.correlationId) := by
  refine ⟨fun s hs ↦ ?_, ?_⟩
  · obtain ⟨-, hkept⟩ := aligned_iff.mp ((aligned_new message id budget start).run? h)
    obtain ⟨hmax, hfirst⟩ := hkept s hs
    rw [correlationId_of_run? h, snapshot_id_eq_beforeFirstRetry rfl h hs]
    exact ⟨hmax, hfirst, eq_comm⟩
  · rintro before after stage cause backoff now rfl
    obtain ⟨parent, hparent, hafter⟩ := run?_append_eq_some_iff.mp h
    refine ⟨parent, hparent, ?_⟩
    rw [correlationId_of_run? hafter]
    rfl

/-- An order that is given its identity before its first retry keeps it, the snapshot of its second
retry included. -/
theorem order_identity_kept :
    ∃ c s, (new "order" "corr-1" 3 0).run? [.identify "order-42", .retire "route" "no route" {} 10,
        .clone, .retire "route" "no route" {} 20] = some c ∧
      c.snapshot? = some s ∧ s.attempt = 3 ∧ s.maxAttempts = 3 ∧ s.firstAttemptAt = 0 ∧
      s.correlationId = c.correlationId ∧ c.correlationId = "order-42" := by
  obtain ⟨hsnapshot, hparent⟩ := snapshot_agrees_iff_identity_kept "order" "corr-1" 3 0
    [.identify "order-42", .retire "route" "no route" {} 10, .clone,
      .retire "route" "no route" {} 20] rfl
  obtain ⟨hmax, hfirst, hid⟩ := hsnapshot _ rfl
  obtain ⟨parent, hbefore, hkept⟩ := hparent [.identify "order-42"] _ _ _ _ _ rfl
  cases hbefore
  exact ⟨_, _, rfl, rfl, rfl, hmax, hfirst, hid.mpr rfl, hkept.mpr rfl⟩

/-- The identity in a snapshot can differ from the one in its context: it does if the context of the
first retry is given another one. -/
theorem other_identity_after_retry :
    ¬ ∀ (history : List ContextAction) (c : ProcessingContext Unit) (s : RetrySnapshot),
      (new () "generated" 3 0).run? history = some c → c.snapshot? = some s →
      s.correlationId = c.correlationId := by
  intro hagree
  have h := hagree
    [.identify "corr-1", .retire "route" "no route" {} 10, .identify "corr-2"] _ _ rfl rfl
  exact absurd h (by decide)

end ProcessingContext

end GuardedDispatch
