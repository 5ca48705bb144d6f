import GuardedDispatch.Proofs.RateLimiter.Turnstile

/-!
# Looking at a rate limiter

A look at the statistics moves the budget to the running period, so it writes to the limiter. What
it writes is what the next use of the limiter would have written as well: to refresh a budget twice
is to refresh it the second time, wherever the two moments lie in their periods. So nobody can tell
whether somebody else has looked.

This holds to the nanosecond. A rate limiter is configured in milliseconds and its clock counts
them; the fine limiter counts nanoseconds throughout, and each operation of a rate limiter is the
one of its fine limiter at whole milliseconds.
-/

namespace GuardedDispatch

/-! ### Refreshing twice -/

namespace Budget

variable {b b' : Budget} {pace : Pace} {now later since : Nat}

private theorem refresh_of_over (hperiod : pace.period ≠ 0) (hover : pace.period ≤ now - b.start)
    (hfits : pace.period ≤ wordMax + 1 ∨ now < b.start + (wordMax + 1)) :
    b.refresh pace now = ⟨now - (now - b.start) % pace.period, pace.limit⟩ := by
  have hmod := Nat.mod_lt (now - b.start) (Nat.pos_of_ne_zero hperiod)
  have hle := Nat.mod_le (now - b.start) pace.period
  have hfit : (now - b.start) % pace.period % (wordMax + 1) = (now - b.start) % pace.period :=
    Nat.mod_eq_of_lt (by omega)
  simp only [refresh]
  rw [if_neg hperiod, if_pos hover, hfit]

private theorem refresh_of_running (hperiod : pace.period ≠ 0)
    (hruns : now - b.start < pace.period) :
    b.refresh pace now = b := by
  simp only [refresh, if_neg hperiod, if_neg (Nat.not_le.mpr hruns)]

private theorem refresh_refresh (b : Budget) (pace : Pace) (hle : now ≤ later)
    (hfits : pace.period ≤ wordMax + 1 ∨ later < b.start + (wordMax + 1)) :
    (b.refresh pace now).refresh pace later = b.refresh pace later := by
  by_cases hperiod : pace.period = 0
  · simp only [refresh, if_pos hperiod]
  · obtain hruns | hover := Nat.lt_or_ge (now - b.start) pace.period
    · rw [refresh_of_running hperiod hruns]
    · rw [refresh_of_over hperiod hover (by omega), refresh_of_over hperiod (by omega) hfits]
      -- the period of `now` starts a whole number of periods after the one before
      have hdiv := Nat.div_add_mod (now - b.start) pace.period
      have hmoved : later - b.start = later - (now - (now - b.start) % pace.period) +
          pace.period * ((now - b.start) / pace.period) := by omega
      have hsame : (later - b.start) % pace.period =
          (later - (now - (now - b.start) % pace.period)) % pace.period := by
        rw [hmoved, Nat.add_mul_mod_self_left]
      have hfrom : b.start ≤ now - (now - b.start) % pace.period := by omega
      have hbegun : now - (now - b.start) % pace.period ≤ later := by omega
      rw [hsame]
      generalize now - (now - b.start) % pace.period = start at hfrom hbegun ⊢
      obtain hruns | hmoves := Nat.lt_or_ge (later - start) pace.period
      · rw [refresh_of_running hperiod hruns, Nat.mod_eq_of_lt hruns, Nat.sub_sub_self hbegun]
      · exact refresh_of_over hperiod hmoves (hfits.imp_right fun h ↦ by dsimp only; omega)

private theorem start_le_start_refresh (b : Budget) (pace : Pace) (now : Nat) :
    b.start ≤ (b.refresh pace now).start := by
  have hwrap := Nat.mod_le ((now - b.start) % pace.period) (wordMax + 1)
  have hmod := Nat.mod_le (now - b.start) pace.period
  simp only [refresh]
  split
  · exact Nat.le_refl _
  · split
    · dsimp only
      omega
    · exact Nat.le_refl _

private theorem start_take (b : Budget) (pace : Pace) (now : Nat) :
    (b.take pace now).1.start = (b.refresh pace now).start := by
  simp only [take]
  split <;> rfl

private theorem start_ask (b : Budget) (pace : Pace) (since now : Nat) :
    (b.ask pace since now).1.start = (b.refresh pace now).start := by
  have hask : (b.ask pace since now).1 = (b.take pace now).1 :=
    congrArg (·.1) (b.use_ask pace since now)
  rw [hask, start_take]

private theorem take_congr (h : b.refresh pace now = b'.refresh pace now) :
    b.take pace now = b'.take pace now := by
  simp only [take, h]

private theorem ask_congr (h : b.refresh pace now = b'.refresh pace now) :
    b.ask pace since now = b'.ask pace since now := by
  simp only [ask, take_congr h]

end Budget

/-! ### A limiter that counts nanoseconds -/

/-- A rate limiter that counts nanoseconds: its pace, the budget of the running period, the callers
asleep, and lifetime counters. -/
structure FineLimiter where
  pace : Pace
  budget : Budget
  waiting : Nat := 0
  permitted : Nat := 0
  rejected : Nat := 0
  totalWait : Nat := 0
  deriving DecidableEq, Repr

namespace FineLimiter

/-- A limiter whose first period starts now with a full budget. -/
def new (pace : Pace) (now : Nat) : FineLimiter := { pace, budget := .full pace now }

/-- Tries to take a permit without waiting. -/
def tryTake (l : FineLimiter) (now : Nat) : FineLimiter × Bool :=
  let (budget, taken) := l.budget.take l.pace now
  ({ l with budget, permitted := l.permitted + taken.toNat }, taken)

/-- Takes a caller that began at `since` off the sleepers and adds up its wait. -/
def leaveSleep (l : FineLimiter) (since now : Nat) : FineLimiter :=
  { l with
    waiting := l.waiting - 1
    totalWait := (l.totalWait + (now - since)) % (wordMax + 1) }

/-- Asks for a permit on behalf of a caller that began at `since`. -/
def ask (l : FineLimiter) (since now : Nat) : FineLimiter × PermitAnswer :=
  let (budget, answer) := l.budget.ask l.pace since now
  let l := { l with budget }
  match answer with
  | .granted => ({ l with permitted := l.permitted + 1 }, .granted)
  | .rejected => ({ l with rejected := l.rejected + 1 }, .rejected)
  | .sleep wakeAt => (l, .sleep wakeAt)

/-- Counts a caller among the sleepers. -/
def enterSleep (l : FineLimiter) : FineLimiter := { l with waiting := l.waiting + 1 }

/-- One look of a caller that may be asleep. Who is told to sleep is counted among the sleepers from
then on, and who is told anything else is not any more. -/
def poll (l : FineLimiter) (since now : Nat) (asleep : Bool) : FineLimiter × PermitAnswer :=
  match l.ask since now with
  | (l, .sleep wakeAt) => (if asleep then l else l.enterSleep, .sleep wakeAt)
  | (l, answer) => (if asleep then l.leaveSleep since now else l, answer)

/-- Looks at the limiter, which moves it to the running period. -/
def observe (l : FineLimiter) (now : Nat) : FineLimiter × RateLimiterStats :=
  let budget := l.budget.refresh l.pace now
  ({ l with budget },
    ⟨budget.permits, l.waiting, l.permitted, l.rejected, l.totalWait / nanosPerMilli⟩)

variable {l : FineLimiter} {b : Budget} {now : Nat}

private theorem poll_congr (h : b.refresh l.pace now = l.budget.refresh l.pace now) (since : Nat)
    (asleep : Bool) : poll { l with budget := b } since now asleep = l.poll since now asleep := by
  simp only [poll, ask, Budget.ask_congr h]

private theorem parts_poll (l : FineLimiter) (since now : Nat) (asleep : Bool) :
    (l.poll since now asleep).1.pace = l.pace ∧
      (l.poll since now asleep).1.budget.start = (l.budget.refresh l.pace now).start := by
  rw [← l.budget.start_ask l.pace since now]
  simp only [poll, ask]
  cases (l.budget.ask l.pace since now).2 <;> cases asleep <;> exact ⟨rfl, rfl⟩

end FineLimiter

/-- An answer with its moment in whole milliseconds. -/
def PermitAnswer.inMillis : PermitAnswer → PermitAnswer
  | .sleep wakeAt => .sleep (ceilMilli wakeAt)
  | answer => answer

namespace RateLimiter

/-- The fine limiter that a rate limiter is. -/
def fine (l : RateLimiter) : FineLimiter where
  pace := l.config.pace
  budget := l.budget
  waiting := l.waiting
  permitted := l.permitted
  rejected := l.rejected
  totalWait := l.totalWait

private theorem fine_leaveSleep (l : RateLimiter) (since now : Nat) :
    (l.leaveSleep since now).fine = l.fine.leaveSleep (nanos since) (nanos now) := by
  have hwait : nanos (now - since) = nanos now - nanos since := Nat.mul_sub _ _ _
  simp only [leaveSleep, fine, FineLimiter.leaveSleep, hwait]
  rfl

private theorem fine_ask (l : RateLimiter) (since now : Nat) :
    (l.ask since now).1.fine = (l.fine.ask (nanos since) (nanos now)).1 ∧
      (l.ask since now).2 = (l.fine.ask (nanos since) (nanos now)).2.inMillis := by
  have hbudget : l.fine.budget = l.budget := rfl
  have hpace : l.fine.pace = l.config.pace := rfl
  simp only [ask, FineLimiter.ask, hbudget, hpace]
  cases (l.budget.ask l.config.pace (nanos since) (nanos now)).2 <;> exact ⟨rfl, rfl⟩

private theorem fine_poll (l : RateLimiter) (since now : Nat) (asleep : Bool) :
    (l.poll since now asleep).1.fine = (l.fine.poll (nanos since) (nanos now) asleep).1 ∧
      (l.poll since now asleep).2 =
        (l.fine.poll (nanos since) (nanos now) asleep).2.inMillis := by
  obtain ⟨hlimiter, hanswer⟩ := l.fine_ask since now
  simp only [poll, FineLimiter.poll]
  generalize l.ask since now = asked at hlimiter hanswer ⊢
  generalize l.fine.ask (nanos since) (nanos now) = fineAsked at hlimiter hanswer ⊢
  obtain ⟨l', answer⟩ := asked
  obtain ⟨f, answer'⟩ := fineAsked
  dsimp only at hlimiter hanswer
  subst hlimiter hanswer
  cases answer' with
  | sleep wakeAt => cases asleep <;> exact ⟨rfl, rfl⟩
  | granted | rejected =>
    cases asleep with
    | true => exact ⟨fine_leaveSleep .., rfl⟩
    | false => exact ⟨rfl, rfl⟩

end RateLimiter

/-! ### Visitors of a limiter -/

/-- What somebody learns at a rate limiter: what a caller that asks is told, whether a permit was
taken without waiting, or the statistics. -/
inductive TurnstileReport where
  | told (answer : PermitAnswer)
  | tried (granted : Bool)
  | seen (stats : RateLimiterStats)
  deriving DecidableEq, Repr

/-- A fine limiter with its callers, who are known by number, and a clock. -/
structure FineTurnstile where
  limiter : FineLimiter
  now : Nat
  callers : List PermitPlace := []
  deriving DecidableEq, Repr

namespace FineTurnstile

/-- A new limiter, to which nobody came yet. -/
def new (pace : Pace) (start : Nat) : FineTurnstile := { limiter := .new pace start, now := start }

/-- Lets an event happen; gives what is learned from it. -/
def visit (t : FineTurnstile) : TurnstileEvent → FineTurnstile × Option TurnstileReport
  | .arrive =>
    let (limiter, answer) := t.limiter.poll t.now t.now false
    ({ t with limiter, callers := t.callers ++ [answer.place t.now 0] }, some (.told answer))
  | .wake i =>
    match t.callers[i]? with
    | some (.asleep since wakeAt sleeps) =>
      if wakeAt ≤ t.now then
        let (limiter, answer) := t.limiter.poll since t.now true
        ({ t with limiter, callers := t.callers.set i (answer.place since sleeps) },
          some (.told answer))
      else (t, none)
    | _ => (t, none)
  | .leave i =>
    match t.callers[i]? with
    | some (.asleep since _ _) =>
      ({ t with limiter := t.limiter.leaveSleep since t.now, callers := t.callers.set i .left },
        none)
    | _ => (t, none)
  | .tryTake =>
    let (limiter, granted) := t.limiter.tryTake t.now
    ({ t with limiter }, some (.tried granted))
  | .observe =>
    let (limiter, stats) := t.limiter.observe t.now
    ({ t with limiter }, some (.seen stats))
  | .wait duration => ({ t with now := t.now + duration }, none)

/-- The turnstile after one event after another; where there is none, somebody else looks at the
statistics. -/
def after (t : FineTurnstile) (events : List (Option TurnstileEvent)) : FineTurnstile :=
  events.foldl (fun t e? ↦ (t.visit (e?.getD .observe)).1) t

/-- What is learned from the events and when, leaving out what somebody else sees. -/
def reports (t : FineTurnstile) : List (Option TurnstileEvent) → List (Nat × TurnstileReport)
  | [] => []
  | none :: rest => (t.visit .observe).1.reports rest
  | some e :: rest => ((t.visit e).2.map (t.now, ·)).toList ++ (t.visit e).1.reports rest

/-- Puts another budget in the place of the running one. -/
def withBudget (t : FineTurnstile) (b : Budget) : FineTurnstile :=
  { t with limiter := { t.limiter with budget := b } }

variable {t : FineTurnstile} {pace : Pace} {start : Nat} {b : Budget}

private theorem visit_of_awake {e : TurnstileEvent} {i : Nat} (he : e = .wake i ∨ e = .leave i)
    (hawake : ∀ since wakeAt sleeps, t.callers[i]? ≠ some (.asleep since wakeAt sleeps)) :
    t.visit e = (t, none) := by
  obtain rfl | rfl := he <;> simp only [visit]

private theorem visit_wake {i since wakeAt sleeps : Nat}
    (hplace : t.callers[i]? = some (.asleep since wakeAt sleeps)) :
    t.visit (.wake i) =
      if wakeAt ≤ t.now then
        ({ t with
            limiter := (t.limiter.poll since t.now true).1
            callers := t.callers.set i ((t.limiter.poll since t.now true).2.place since sleeps) },
          some (.told (t.limiter.poll since t.now true).2))
      else (t, none) := by
  simp only [visit, hplace]

private theorem visit_leave {i since wakeAt sleeps : Nat}
    (hplace : t.callers[i]? = some (.asleep since wakeAt sleeps)) :
    t.visit (.leave i) =
      ({ t with
          limiter := t.limiter.leaveSleep since t.now
          callers := t.callers.set i .left }, none) := by
  simp only [visit, hplace]

/-- How an event treats the budget: it goes by what a refresh gives, and stays in the period of
that, or it does not look at the budget at all. -/
inductive Treats (t : FineTurnstile) (e : TurnstileEvent) : Prop
  | uses
      (heq : ∀ b : Budget, b.refresh t.limiter.pace t.now =
        t.limiter.budget.refresh t.limiter.pace t.now → (t.withBudget b).visit e = t.visit e)
      (hstart : (t.visit e).1.limiter.budget.start =
        (t.limiter.budget.refresh t.limiter.pace t.now).start)
  | leaves
      (heq : ∀ b, (t.withBudget b).visit e = ((t.visit e).1.withBudget b, (t.visit e).2))
      (hbudget : (t.visit e).1.limiter.budget = t.limiter.budget)

private theorem Treats.of_awake {e : TurnstileEvent} {i : Nat} (he : e = .wake i ∨ e = .leave i)
    (hawake : ∀ since wakeAt sleeps, t.callers[i]? ≠ some (.asleep since wakeAt sleeps)) :
    t.Treats e := by
  refine .leaves (fun b ↦ ?_) ?_
  · rw [visit_of_awake he hawake, visit_of_awake (t := t.withBudget b) he hawake]
  · rw [visit_of_awake he hawake]

private theorem treats_visit (t : FineTurnstile) (e : TurnstileEvent) : t.Treats e := by
  cases e with
  | arrive =>
    refine .uses (fun b hb ↦ ?_) (t.limiter.parts_poll t.now t.now false).2
    simp only [visit, withBudget, FineLimiter.poll_congr hb]
  | wake i =>
    by_cases hasleep : ∃ since wakeAt sleeps, t.callers[i]? = some (.asleep since wakeAt sleeps)
    · obtain ⟨since, wakeAt, sleeps, hplace⟩ := hasleep
      have hother (b : Budget) := visit_wake (t := t.withBudget b) hplace
      by_cases hdue : wakeAt ≤ t.now
      · refine .uses (fun b hb ↦ ?_) ?_
        · rw [hother, visit_wake hplace, if_pos hdue]
          refine (if_pos hdue).trans ?_
          simp only [withBudget, FineLimiter.poll_congr hb]
        · rw [visit_wake hplace, if_pos hdue]
          exact (t.limiter.parts_poll since t.now true).2
      · refine .leaves (fun b ↦ ?_) ?_
        · rw [hother, visit_wake hplace, if_neg hdue]
          exact if_neg hdue
        · rw [visit_wake hplace, if_neg hdue]
    · exact .of_awake (.inl rfl) fun since wakeAt sleeps h ↦ hasleep ⟨since, wakeAt, sleeps, h⟩
  | leave i =>
    by_cases hasleep : ∃ since wakeAt sleeps, t.callers[i]? = some (.asleep since wakeAt sleeps)
    · obtain ⟨since, wakeAt, sleeps, hplace⟩ := hasleep
      refine .leaves (fun b ↦ ?_) ?_
      · rw [visit_leave hplace, visit_leave (t := t.withBudget b) hplace]
        rfl
      · rw [visit_leave hplace]
        rfl
    · exact .of_awake (.inr rfl) fun since wakeAt sleeps h ↦ hasleep ⟨since, wakeAt, sleeps, h⟩
  | tryTake =>
    refine .uses (fun b hb ↦ ?_) (t.limiter.budget.start_take _ _)
    simp only [visit, withBudget, FineLimiter.tryTake, Budget.take_congr hb]
  | observe =>
    refine .uses (fun b hb ↦ ?_) rfl
    simp only [visit, withBudget, FineLimiter.observe, hb]
  | wait duration => exact .leaves (fun b ↦ rfl) rfl

private theorem parts_visit (t : FineTurnstile) (e : TurnstileEvent) :
    (t.visit e).1.limiter.pace = t.limiter.pace ∧ t.now ≤ (t.visit e).1.now := by
  cases e with
  | arrive => exact ⟨(t.limiter.parts_poll _ _ _).1, Nat.le_refl _⟩
  | wake i =>
    simp only [visit]
    split
    · split
      · exact ⟨(t.limiter.parts_poll _ _ _).1, Nat.le_refl _⟩
      · exact ⟨rfl, Nat.le_refl _⟩
    · exact ⟨rfl, Nat.le_refl _⟩
  | leave i =>
    simp only [visit]
    split <;> exact ⟨rfl, Nat.le_refl _⟩
  | tryTake | observe => exact ⟨rfl, Nat.le_refl _⟩
  | wait duration => exact ⟨rfl, Nat.le_add_right _ _⟩

private theorem now_le_after (t : FineTurnstile) (events : List (Option TurnstileEvent)) :
    t.now ≤ (t.after events).now := by
  induction events generalizing t with
  | nil => exact Nat.le_refl _
  | cons e? rest ih => exact (t.parts_visit _).2.trans (ih _)

/-- The count within a period does not wrap: periods are short enough, or it is early enough. -/
def Fits (pace : Pace) (start now : Nat) : Prop :=
  pace.period ≤ wordMax + 1 ∨ now < start + (wordMax + 1)

/-- Another budget, at which somebody else has looked, makes no difference any more. -/
structure Alike (t : FineTurnstile) (pace : Pace) (start : Nat) (b : Budget) : Prop where
  pace_eq : t.limiter.pace = pace
  begun : start ≤ b.start
  refresh_eq : ∀ later, t.now ≤ later → Fits pace start later →
    b.refresh pace later = t.limiter.budget.refresh pace later

private theorem Alike.look (h : t.Alike pace start b) :
    t.Alike pace start (b.refresh pace t.now) where
  pace_eq := h.pace_eq
  begun := h.begun.trans (b.start_le_start_refresh pace t.now)
  refresh_eq later hle hfits := by
    have hlate : pace.period ≤ wordMax + 1 ∨ later < b.start + (wordMax + 1) :=
      hfits.imp_right fun hlt ↦ hlt.trans_le (Nat.add_le_add_right h.begun _)
    rw [b.refresh_refresh pace hle hlate, h.refresh_eq later hle hfits]

private theorem Alike.visit (h : t.Alike pace start b) (hfits : Fits pace start t.now)
    (e : TurnstileEvent) :
    ∃ b', ((t.withBudget b).visit e).1 = (t.visit e).1.withBudget b' ∧
      ((t.withBudget b).visit e).2 = (t.visit e).2 ∧ (t.visit e).1.Alike pace start b' := by
  have hnow := h.refresh_eq t.now (Nat.le_refl _) hfits
  obtain ⟨hpace, hle⟩ := t.parts_visit e
  rw [h.pace_eq] at hpace
  cases t.treats_visit e with
  | uses heq hstart =>
    rw [h.pace_eq] at heq hstart
    rw [heq b hnow]
    refine ⟨(t.visit e).1.limiter.budget, rfl, rfl, hpace, ?_, fun _ _ _ ↦ rfl⟩
    rw [hstart, ← hnow]
    exact h.begun.trans (b.start_le_start_refresh pace t.now)
  | leaves heq hbudget =>
    rw [heq b]
    refine ⟨b, rfl, rfl, hpace, h.begun, fun later hlater ↦ ?_⟩
    rw [hbudget]
    exact h.refresh_eq later (hle.trans hlater)

private theorem Alike.after (h : t.Alike pace start b) (events : List (Option TurnstileEvent))
    (hfits : Fits pace start (t.after (events.filter (·.isSome))).now) :
    ∃ b', (t.withBudget b).after events = (t.after (events.filter (·.isSome))).withBudget b' ∧
      (t.withBudget b).reports events = t.reports (events.filter (·.isSome)) ∧
      (t.after (events.filter (·.isSome))).Alike pace start b' := by
  induction events generalizing t b with
  | nil => exact ⟨b, rfl, rfl, h⟩
  | cons e? rest ih =>
    cases e? with
    | none =>
      have hlook : ((t.withBudget b).visit .observe).1 =
          t.withBudget (b.refresh pace t.now) := by
        rw [← h.pace_eq]
        rfl
      have hrest := ih h.look hfits
      rw [← hlook] at hrest
      exact hrest
    | some e =>
      have hnow : Fits pace start t.now :=
        hfits.imp_right (t.now_le_after _).trans_lt
      obtain ⟨b₁, hstate, hreport, hnext⟩ := h.visit hnow e
      obtain ⟨b', hafter, hreports, hlast⟩ := ih hnext hfits
      rw [← hstate] at hafter hreports
      have htold : (t.withBudget b).reports (some e :: rest) =
          t.reports (some e :: rest.filter (·.isSome)) := by
        rw [reports, reports, hreport, hreports]
        rfl
      exact ⟨b', hafter, htold, hlast⟩

/-- A fresh budget is like itself. -/
theorem alike_new (pace : Pace) (start : Nat) :
    (new pace start).Alike pace start (.full pace start) :=
  ⟨rfl, Nat.le_refl _, fun _ _ _ ↦ rfl⟩

/-- Nobody can tell whether somebody else has looked at a rate limiter. However callers come, look
again, leave, take permits without waiting and look at the statistics themselves, any number of
looks in between, at any moments, changes nothing: everyone learns the same at the same time, and
whoever sleeps does so until the same moment. The budget alone may be in a later period, but to
refresh it now and again later gives what refreshing it later gives without those looks.

A rate limiter, which is configured in milliseconds and whose clock counts them, is such a limiter:
it begins as one, and each of its operations is the one of that limiter at whole milliseconds. -/
theorem looking_changes_nothing (pace : Pace) (start : Nat)
    (events : List (Option TurnstileEvent))
    (hfits : pace.period ≤ 2 ^ 64 ∨
      ((new pace start).after (events.filter (·.isSome))).now < start + 2 ^ 64) :
    let watched := (new pace start).after events
    let quiet := (new pace start).after (events.filter (·.isSome))
    (new pace start).reports events = (new pace start).reports (events.filter (·.isSome)) ∧
      (∃ b, watched = quiet.withBudget b) ∧
      (∀ now later, quiet.now ≤ now → now ≤ later →
        pace.period ≤ 2 ^ 64 ∨ later < start + 2 ^ 64 →
        (watched.limiter.budget.refresh pace now).refresh pace later =
          quiet.limiter.budget.refresh pace later) ∧
      (∀ name config millis,
        (RateLimiter.new name config millis).fine = .new config.pace (nanos millis)) ∧
      ∀ (l : RateLimiter) (since now : Nat),
        (∀ asleep,
          (l.poll since now asleep).1.fine =
              (l.fine.poll (nanos since) (nanos now) asleep).1 ∧
            (l.poll since now asleep).2 =
              (l.fine.poll (nanos since) (nanos now) asleep).2.inMillis) ∧
          (l.leaveSleep since now).fine = l.fine.leaveSleep (nanos since) (nanos now) ∧
          (l.tryTake now).map RateLimiter.fine id = l.fine.tryTake (nanos now) ∧
          (l.observe now).map RateLimiter.fine id = l.fine.observe (nanos now) := by
  intro watched quiet
  obtain ⟨b, hwatched, hreports, halike⟩ := (alike_new pace start).after events hfits
  refine ⟨hreports, ⟨b, hwatched⟩, fun now later hnow hlater hlate ↦ ?_, fun _ _ _ ↦ rfl,
    fun l since now ↦ ⟨l.fine_poll since now, l.fine_leaveSleep since now, rfl, rfl⟩⟩
  have hbudget : watched.limiter.budget = b := congrArg (·.limiter.budget) hwatched
  rw [hbudget, b.refresh_refresh pace hlater]
  · exact halike.refresh_eq later (hnow.trans hlater) hlate
  · exact hlate.imp_right fun hlt ↦ hlt.trans_le (Nat.add_le_add_right halike.begun _)

/-- One permit every five milliseconds. Somebody else looks before a caller falls asleep, in the
very moment in which the next period starts, and twice after the one after that has started. -/
def besides : List (Option TurnstileEvent) :=
  [some .arrive, some (.wait 4000000), none, some .arrive, some (.wait 1000000), none,
    some .tryTake, some (.wake 1), some (.wait 7000000), none, none, some (.wake 1), some .observe]

/-- The caller that finds no permit left sleeps twice, and learns what it would have learned anyway
at the same moments. -/
theorem looks_around_a_period_start :
    let pace : Pace := ⟨1, 5000000, 20000000⟩
    let learned : List (Nat × TurnstileReport) :=
      [(3, .told .granted), (4000003, .told (.sleep 5000003)), (5000003, .tried true),
        (5000003, .told (.sleep 10000003)), (12000003, .told .granted),
        (12000003, .seen ⟨0, 0, 3, 0, 8⟩)]
    ((new pace 3).after (besides.filter (·.isSome))).now < 3 + 2 ^ 64 ∧
      (new pace 3).reports besides = learned ∧
      (new pace 3).reports (besides.filter (·.isSome)) = learned := by
  intro pace learned
  have hlate : ((new pace 3).after (besides.filter (·.isSome))).now < 3 + 2 ^ 64 := by decide
  have hlearned : (new pace 3).reports besides = learned := by decide
  obtain ⟨hsame, -⟩ := looking_changes_nothing pace 3 besides (.inr hlate)
  exact ⟨hlate, hlearned, hsame.symm.trans hlearned⟩

end FineTurnstile

end GuardedDispatch
