import GuardedDispatch.Proofs.Stack.Coherence
import GuardedDispatch.Proofs.Stack.Renamed
import GuardedDispatch.Proofs.Text.Mentions

/-!
# What the name of a stack can do

Two stacks of the same settings under different names are given the same calls in the same order at
the same times. What they do is the same at every step, with one exception: the default rule of
what to try again reads the message of a failure, and the message of an expired deadline has the
name of the stack. So the stacks behave alike in every run exactly if the one name sounds as final
as the other.
-/

namespace GuardedDispatch

variable {σ ε α : Type}

/-- The visit without the names in the failure of its call. -/
def Visit.unnamed (v : Visit σ ε α) : Visit σ ε α := { v with call := v.call.unnamed }

/-- Visits are the same without names exactly if they are in every part. -/
theorem Visit.unnamed_eq_iff {v v' : Visit σ ε α} :
    v'.unnamed = v.unnamed ↔ v'.op = v.op ∧ v'.eligible = v.eligible ∧
      v'.call.unnamed = v.call.unnamed ∧ v'.gone = v.gone ∧ v'.slots = v.slots ∧
      v'.permits = v.permits ∧ v'.rejections = v.rejections := by
  simp only [unnamed, Visit.mk.injEq]

private theorem Visit.unnamed_moved {v v' : Visit σ ε α} {s s' : Stack} {c c' : Call ε α}
    (hsame : v'.unnamed = v.unnamed) (hcall : c'.unnamed = c.unnamed) (name : String) :
    (v'.moved (s.renamed name) (s'.renamed name) c').unnamed = (v.moved s s' c).unnamed := by
  have hadmissions (s : Stack) : (s.renamed name).admissions = s.admissions := by
    simp only [Stack.admissions, Stack.renamed]
    cases s.bulkhead? <;> rfl
  have hgrants (s : Stack) : (s.renamed name).grants = s.grants := by
    simp only [Stack.grants, Stack.renamed]
    cases s.rateLimiter? <;> rfl
  have hrejections (s : Stack) : (s.renamed name).rejections = s.rejections := by
    simp only [Stack.rejections, Stack.renamed]
    cases s.bulkhead? <;> cases s.rateLimiter? <;> rfl
  obtain ⟨hop, heligible, -, hgone, hslots, hpermits, hrejected⟩ := unnamed_eq_iff.mp hsame
  refine unnamed_eq_iff.mpr ⟨hop, heligible, hcall, hgone, ?_, ?_, ?_⟩
  · simp only [moved, hslots, hadmissions]
  · simp only [moved, hpermits, hgrants]
  · simp only [moved, hrejected, hrejections]

namespace CrowdEvent

/-- Whether a caller, if the event brings one, asks for nothing of its own and leaves it to the
default rule what is tried again. -/
def Executes (text : ε → String) : CrowdEvent σ ε α → Prop
  | .arrive options _ eligible => options = {} ∧ eligible = PolicyFailure.retryByDefault text
  | _ => True

/-- Whether a caller, if the event brings one, may try again after an expired deadline under the one
name exactly if it may under the other. -/
def Impartial (earlier name : String) : CrowdEvent σ ε α → Prop
  | .arrive _ _ eligible => ∀ after, eligible (.timedOut (name ++ "-time-limiter") after) =
      eligible (.timedOut (earlier ++ "-time-limiter") after)
  | _ => True

private theorem Executes.impartial {text : ε → String} {earlier name : String}
    {e : CrowdEvent σ ε α}
    (h : e.Executes text) (hnames : soundsFinal earlier = soundsFinal name) :
    e.Impartial earlier name := by
  cases e with
  | arrive options op eligible =>
    intro after
    rw [h.2, retryByDefault_timedOut, retryByDefault_timedOut, hnames]
  | _ => trivial

end CrowdEvent

namespace Crowd

variable {t u : Crowd σ ε α} {earlier name : String}

/-- Two crowds that are the same but for names: their operations have taken the same steps at the
same times, each of their calls has come as far, in as many attempts at the same times and with the
same result but for the names in its failure, and their stacks are the same under one name and have
the same statistics. -/
structure Alike (t u : Crowd σ ε α) : Prop where
  env_eq : t.env = u.env
  now_eq : t.now = u.now
  log_eq : t.log = u.log
  visits_eq : t.visits.map Visit.unnamed = u.visits.map Visit.unnamed
  stack_eq : ∀ name, t.stack.renamed name = u.stack.renamed name
  stats_eq : ∀ now, (t.stack.observe now).2 = (u.stack.observe now).2

/-- The second crowd is the first one under another name, and every call of the first may try again
after an expired deadline under the one name exactly if it may under the other. -/
structure Mirrors (earlier name : String) (t u : Crowd σ ε α) : Prop where
  env_eq : t.env = u.env
  now_eq : t.now = u.now
  log_eq : t.log = u.log
  visits_eq : t.visits.map Visit.unnamed = u.visits.map Visit.unnamed
  named : t.stack.renamed earlier = t.stack
  stack_eq : u.stack = t.stack.renamed name
  impartial : ∀ v ∈ t.visits, ∀ after, v.eligible (.timedOut (name ++ "-time-limiter") after) =
    v.eligible (.timedOut (earlier ++ "-time-limiter") after)

private theorem Mirrors.alike (h : Mirrors earlier name t u) : t.Alike u where
  env_eq := h.env_eq
  now_eq := h.now_eq
  log_eq := h.log_eq
  visits_eq := h.visits_eq
  stack_eq other := by rw [h.stack_eq, Stack.renamed_renamed]
  stats_eq now := by rw [h.stack_eq, Stack.observe_renamed]; rfl

/-- New crowds under two names mirror each other. -/
theorem mirrors_new (earlier name : String) (config : StackConfig) (env : σ) (start : Nat) :
    Mirrors earlier name (new earlier config env start : Crowd σ ε α)
      (new name config env start) where
  env_eq := rfl
  now_eq := rfl
  log_eq := rfl
  visits_eq := rfl
  named := Stack.renamed_new earlier earlier config start
  stack_eq := (Stack.renamed_new earlier name config start).symm
  impartial _ hv := absurd hv List.not_mem_nil

private theorem visit?_unnamed (h : t.visits.map Visit.unnamed = u.visits.map Visit.unnamed)
    (i : Nat) :
    (t.visit? i).map Visit.unnamed = (u.visit? i).map Visit.unnamed := by
  have hfilter (v? : Option (Visit σ ε α)) :
      (v?.filter (!·.gone)).map Visit.unnamed = (v?.map Visit.unnamed).filter (!·.gone) := by
    cases v? with
    | none => rfl
    | some v => cases hgone : v.gone <;> simp [Option.filter, Visit.unnamed, hgone]
  rw [visit?, visit?, hfilter, hfilter, ← List.getElem?_map, h, List.getElem?_map]

private theorem mem_of_visit? {i : Nat} {v : Visit σ ε α} (h : t.visit? i = some v) :
    v ∈ t.visits :=
  List.mem_of_getElem? (visit?_eq_some.mp h).1

namespace Mirrors

private theorem mapStack (h : Mirrors earlier name t u) (f : Nat → Stack → Stack)
    (hf : ∀ now s name, f now (s.renamed name) = (f now s).renamed name) :
    Mirrors earlier name { t with stack := f t.now t.stack }
      { u with stack := f u.now u.stack } where
  env_eq := h.env_eq
  now_eq := h.now_eq
  log_eq := h.log_eq
  visits_eq := h.visits_eq
  named := (hf t.now t.stack earlier).symm.trans (congrArg (f t.now) h.named)
  stack_eq := by rw [h.stack_eq, ← h.now_eq, hf]
  impartial := h.impartial

private theorem visit?_of_some (h : Mirrors earlier name t u) {i : Nat} {v : Visit σ ε α}
    (hv : t.visit? i = some v) : ∃ v', u.visit? i = some v' ∧ v'.unnamed = v.unnamed := by
  have hsame := visit?_unnamed h.visits_eq i
  rw [hv, Option.map_some] at hsame
  exact Option.map_eq_some_iff.mp hsame.symm

private theorem visit?_of_none (h : Mirrors earlier name t u) {i : Nat} (hv : t.visit? i = none) :
    u.visit? i = none := by
  have hsame := visit?_unnamed h.visits_eq i
  rw [hv, Option.map_none] at hsame
  exact Option.map_eq_none_iff.mp hsame.symm

private theorem impartial_set (h : Mirrors earlier name t u) {i : Nat} {v moved : Visit σ ε α}
    (hv : t.visit? i = some v) (hmoved : moved.eligible = v.eligible) :
    ∀ v ∈ t.visits.set i moved, ∀ after,
      v.eligible (.timedOut (name ++ "-time-limiter") after) =
        v.eligible (.timedOut (earlier ++ "-time-limiter") after) := by
  intro w hw
  obtain hw | rfl := List.mem_or_eq_of_mem_set hw
  · exact h.impartial w hw
  · rw [hmoved]
    exact h.impartial v (mem_of_visit? hv)

private theorem step?_eq (h : Mirrors earlier name t u) {i : Nat} {v v' : Visit σ ε α}
    (hv : t.visit? i = some v) (hsame : v'.unnamed = v.unnamed) :
    (u.stack.step? (v'.op.noted i) v'.eligible u.now (u.env, u.log) v'.call).map
        (Prod.map id (Prod.map id Call.unnamed)) =
      (t.stack.step? (v.op.noted i) v.eligible t.now (t.env, t.log) v.call).map
        (Prod.map (·.renamed name) (Prod.map id Call.unnamed)) := by
  obtain ⟨hop, heligible, hcall, -⟩ := Visit.unnamed_eq_iff.mp hsame
  have hname : t.stack.timeLimiterName = earlier ++ "-time-limiter" := by
    rw [← h.named, Stack.timeLimiterName_renamed]
  rw [hop, heligible, ← h.now_eq, ← h.env_eq, ← h.log_eq, h.stack_eq,
    ← Stack.step?_unnamed _ _ _ _ _ v'.call, hcall, Stack.step?_unnamed]
  refine Stack.step?_renamed _ _ _ _ (fun after ↦ ?_) _ _ _
  rw [hname]
  exact h.impartial v (mem_of_visit? hv) after

private theorem move (h : Mirrors earlier name t u) (i : Nat) :
    Mirrors earlier name (t.apply (.move i)) (u.apply (.move i)) := by
  cases hv : t.visit? i with
  | none =>
    simp only [Crowd.apply, hv, h.visit?_of_none hv]
    exact h
  | some v =>
    obtain ⟨v', hv', hsame⟩ := h.visit?_of_some hv
    have hstep := h.step?_eq hv hsame
    cases ht : t.stack.step? (v.op.noted i) v.eligible t.now (t.env, t.log) v.call with
    | none =>
      rw [ht, Option.map_none, Option.map_eq_none_iff] at hstep
      simp only [Crowd.apply, hv, hv', ht, hstep]
      exact h
    | some next =>
      obtain ⟨s, ⟨env, log⟩, c⟩ := next
      rw [ht, Option.map_some, Option.map_eq_some_iff] at hstep
      obtain ⟨⟨s', ⟨env', log'⟩, c'⟩, hu, hnext⟩ := hstep
      simp only [Prod.map_apply, id, Prod.mk.injEq] at hnext
      obtain ⟨rfl, ⟨rfl, rfl⟩, hc⟩ := hnext
      simp only [Crowd.apply, hv, hv', ht, hu]
      exact
        { env_eq := rfl
          now_eq := h.now_eq
          log_eq := rfl
          visits_eq := by
            rw [List.map_set, List.map_set, h.visits_eq, h.stack_eq, Visit.unnamed_moved hsame hc]
          named := Stack.renamed_of_step? h.named ht
          stack_eq := rfl
          impartial := h.impartial_set hv rfl }

private theorem drop (h : Mirrors earlier name t u) (i : Nat) :
    Mirrors earlier name (t.apply (.drop i)) (u.apply (.drop i)) := by
  cases hv : t.visit? i with
  | none =>
    simp only [Crowd.apply, hv, h.visit?_of_none hv]
    exact h
  | some v =>
    obtain ⟨v', hv', hsame⟩ := h.visit?_of_some hv
    have hcall : v'.call.unnamed = v.call.unnamed := congrArg Visit.call hsame
    have hgone : { v' with gone := true }.unnamed = { v with gone := true }.unnamed := by
      obtain ⟨hop, heligible, hcall, -, hcharges⟩ := Visit.unnamed_eq_iff.mp hsame
      exact Visit.unnamed_eq_iff.mpr ⟨hop, heligible, hcall, rfl, hcharges⟩
    have hdrop : u.stack.drop v'.call u.now = (t.stack.drop v.call t.now).renamed name := by
      rw [← Stack.drop_renamed, h.stack_eq, ← h.now_eq, ← Stack.drop_unnamed _ v'.call, hcall,
        Stack.drop_unnamed]
    simp only [Crowd.apply, hv, hv', hdrop]
    exact
      { env_eq := h.env_eq
        now_eq := h.now_eq
        log_eq := h.log_eq
        visits_eq := by rw [List.map_set, List.map_set, h.visits_eq, hgone]
        named := by rw [← Stack.drop_renamed, h.named]
        stack_eq := rfl
        impartial := h.impartial_set hv rfl }

/-- Both crowds let an event happen. -/
theorem apply (h : Mirrors earlier name t u) {e : CrowdEvent σ ε α}
    (he : e.Impartial earlier name) : Mirrors earlier name (t.apply e) (u.apply e) := by
  cases e with
  | arrive options op eligible =>
    refine { h with visits_eq := ?_, impartial := ?_ }
    · simp only [Crowd.apply, List.map_append, h.visits_eq]
    · intro v hv after
      obtain hv | hv := List.mem_append.mp hv
      · exact h.impartial v hv after
      · rw [List.mem_singleton.mp hv]
        exact he after
  | move i => exact h.move i
  | drop i => exact h.drop i
  | close => exact h.mapStack (fun _ ↦ Stack.close) fun _ ↦ Stack.close_renamed
  | trip =>
    exact h.mapStack (fun now s ↦ s.mapBreaker fun b ↦ b.trip now)
      fun _ ↦ Stack.mapBreaker_renamed fun _ _ ↦ rfl
  | reset =>
    exact h.mapStack (fun now s ↦ s.mapBreaker fun b ↦ b.reset now)
      fun _ ↦ Stack.mapBreaker_renamed fun _ _ ↦ rfl
  | reconfigure config =>
    exact h.mapStack (fun _ s ↦ s.mapBreaker fun b ↦ b.reconfigure config)
      fun _ ↦ Stack.mapBreaker_renamed fun b name ↦ b.reconfigure_renamed name config
  | observe =>
    exact h.mapStack (fun now s ↦ (s.observe now).1)
      fun now s name ↦ congrArg Prod.fst (s.observe_renamed name now)
  | shift env => exact { h with env_eq := rfl }
  | wait duration => exact { h with now_eq := congrArg (· + duration) h.now_eq }

/-- Both crowds let events happen one after another. -/
theorem run (h : Mirrors earlier name t u) {events : List (CrowdEvent σ ε α)}
    (he : ∀ e ∈ events, e.Impartial earlier name) :
    Mirrors earlier name (t.run events) (u.run events) := by
  induction events generalizing t u with
  | nil => exact h
  | cons e rest ih =>
    obtain ⟨he, hrest⟩ := List.forall_mem_cons.mp he
    exact ih (h.apply he) hrest

end Mirrors

/-! ### A call that runs into its deadline -/

private theorem Alike.begun_eq (h : t.Alike u) :
    t.calls.map Call.begun = u.calls.map Call.begun := by
  have hbegun (t : Crowd σ ε α) :
      t.calls.map Call.begun = (t.visits.map Visit.unnamed).map (·.call.begun) := by
    rw [calls, List.map_map, List.map_map]
    rfl
  rw [hbegun, hbegun, h.visits_eq]

private theorem Alike.finished_eq (h : t.Alike u) :
    t.calls.map (·.phase.result?.isSome) = u.calls.map (·.phase.result?.isSome) := by
  have hfinished (t : Crowd σ ε α) : t.calls.map (·.phase.result?.isSome) =
      (t.visits.map Visit.unnamed).map (·.call.phase.result?.isSome) := by
    rw [calls, List.map_map, List.map_map]
    refine List.map_congr_left fun v _ ↦ ?_
    simp only [Function.comp_apply, Visit.unnamed, Call.unnamed]
    cases v.call.phase <;> rfl
  rw [hfinished, hfinished, h.visits_eq]

/-- An operation that never ends by itself. -/
def unending : Operation σ ε α where
  start env _ := (env, ⟨none, 0⟩)
  finish env _ := (env, .error (.timedOut "" 0))

/-- Settings under which an attempt is at its deadline as soon as it begins. -/
def impatient : StackConfig where
  bulkhead? := none
  rateLimiter? := none
  breaker? := none
  timeLimiter? := some { timeout := 0 }

/-- A call that comes and makes a first attempt. -/
def firstAttempt (eligible : PolicyFailure ε → Bool) : List (CrowdEvent σ ε α) :=
  [.arrive {} unending eligible, .move 0, .move 0, .move 0, .move 0]

private theorem finished_firstAttempt (eligible : PolicyFailure ε → Bool) (name : String)
    (env : σ) :
    ((new name impatient env 0 : Crowd σ ε α).run (firstAttempt eligible)).calls.map
        (·.phase.result?.isSome) =
      [!eligible (.timedOut (name ++ "-time-limiter") 0)] := by
  let expired : Except (PolicyFailure ε) α := .error (.timedOut (name ++ "-time-limiter") 0)
  let stack := (Stack.new name impatient 0).counted ⟨1, 0, none, 0, none, some 0⟩ false 0 expired
  let call : Call ε α := { prepared := 1, begun := [0] }
  have hlast : ((new name impatient env 0 : Crowd σ ε α).run (firstAttempt eligible)).calls.map
        (·.phase.result?.isSome) =
      [(stack.afterAttempt eligible call 1 0 expired).2.phase.result?.isSome] := rfl
  have hconfig : stack.retryConfig? call.options = some {} := rfl
  have hattempts : ¬ RetryConfig.attempts {} ≤ 1 := by decide
  rw [hlast]
  simp only [Stack.afterAttempt, hconfig, expired, Retry.judge, hattempts, if_false]
  cases eligible (.timedOut (name ++ "-time-limiter") 0) <;> rfl

/-! ### Which names make no difference -/

/-- Whether a name makes a difference. Stacks of the same settings under two names behave alike in
every run of calls that leave it to the default rule what is tried again, if and only if the one
name has a word that speaks against another attempt exactly if the other has. -/
theorem alike_iff_sounds_as_final [Inhabited σ] (text : ε → String) (earlier name : String) :
    (∀ (config : StackConfig) (env : σ) (start : Nat) (events : List (CrowdEvent σ ε α)),
      (∀ e ∈ events, e.Executes text) →
        ((new earlier config env start).run events).Alike
          ((new name config env start).run events)) ↔
      soundsFinal earlier = soundsFinal name := by
  constructor
  · intro halike
    have hexecutes : ∀ e ∈ (firstAttempt (PolicyFailure.retryByDefault text) :
        List (CrowdEvent σ ε α)), e.Executes text := by
      simp only [firstAttempt, List.forall_mem_cons]
      exact ⟨⟨rfl, rfl⟩, trivial, trivial, trivial, trivial, nofun⟩
    have hfinished := (halike impatient default 0 _ hexecutes).finished_eq
    rw [finished_firstAttempt, finished_firstAttempt, retryByDefault_timedOut,
      retryByDefault_timedOut, Bool.not_not, Bool.not_not] at hfinished
    exact (List.cons.inj hfinished).1
  · intro hnames config env start events hexecutes
    have hmirrors := (mirrors_new earlier name config env start).run
      (fun e he ↦ (hexecutes e he).impartial hnames)
    exact hmirrors.alike

/-- Settings of two attempts with a deadline of ten milliseconds, five milliseconds apart. -/
def twoAttempts : StackConfig where
  bulkhead? := none
  rateLimiter? := none
  retries? := some { maxAttempts := 2, backoff.initial := 5 }
  breaker? := none
  timeLimiter? := some { timeout := 10 }

/-- A call of an operation that does not end, over a time in which it can make both attempts. -/
def lateCall : List (CrowdEvent Unit String String) :=
  [.arrive {} unending (PolicyFailure.retryByDefault id), .move 0, .move 0, .move 0, .wait 10,
    .move 0, .wait 5, .move 0, .move 0]

/-- A name with one of the words stops a call after its first attempt, where another name does
not. -/
theorem name_stops_attempts :
    (∀ e ∈ lateCall, e.Executes id) ∧
      ((new "orders" twoAttempts () 0).run lateCall).calls.map (·.begun) = [[0, 15]] ∧
      ((new "validation" twoAttempts () 0).run lateCall).calls.map (·.begun) = [[0]] ∧
      ¬ ((new "orders" twoAttempts () 0).run lateCall).Alike
        ((new "validation" twoAttempts () 0).run lateCall) := by
  have horders : ((new "orders" twoAttempts () 0).run lateCall).calls.map (·.begun) = [[0, 15]] := by
    decide +kernel
  have hvalidation :
      ((new "validation" twoAttempts () 0).run lateCall).calls.map (·.begun) = [[0]] := by
    decide +kernel
  refine ⟨?_, horders, hvalidation, fun halike ↦ ?_⟩
  · simp only [lateCall, List.forall_mem_cons]
    exact ⟨⟨rfl, rfl⟩, trivial, trivial, trivial, trivial, trivial, trivial, trivial, trivial, nofun⟩
  · have hbegun := horders.symm.trans (halike.begun_eq.trans hvalidation)
    cases hbegun

end Crowd

end GuardedDispatch
