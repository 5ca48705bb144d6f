import GuardedDispatch.Policy.RateLimiter
import Mathlib.Tactic.Ring

/-!
# Permits of a period

The budget of a rate limiter is used at moments that never go back: a caller asks for a permit, and
asks again whenever it wakes, somebody tries to take one without waiting, or looks at what is left.
Periods follow each other without a gap from the moment at which the budget began. However many of
them pass between two uses, the budget is kept for the period of its latest use, and there the
permits left and the permits granted add up to the limit.
-/

namespace GuardedDispatch

/-- One use of a budget: a caller that began at `since` asks for a permit, somebody tries to take
one without waiting, or looks at what is left. -/
inductive BudgetUse where
  | ask (since : Nat)
  | tryTake
  | observe
  deriving DecidableEq, Repr

/-- Whether the use is for a permit. -/
def BudgetUse.wantsPermit : BudgetUse → Bool
  | .observe => false
  | _ => true

/-- The budget after a use, and whether a permit was granted. -/
def Budget.use (b : Budget) (pace : Pace) (now : Nat) : BudgetUse → Budget × Bool
  | .ask since => ((b.ask pace since now).1, (b.ask pace since now).2 == .granted)
  | .tryTake => b.take pace now
  | .observe => (b.refresh pace now, false)

/-- A budget with the moments at which it granted its permits. -/
structure BudgetLedger where
  budget : Budget
  granted : List Nat := []

namespace BudgetLedger

/-- Takes in one use of the budget. -/
def use (t : BudgetLedger) (pace : Pace) (use : Nat × BudgetUse) : BudgetLedger :=
  let (budget, granted) := t.budget.use pace use.1 use.2
  { budget, granted := if granted then t.granted ++ [use.1] else t.granted }

/-- Takes in one use after another. -/
def useAll (t : BudgetLedger) (pace : Pace) (uses : List (Nat × BudgetUse)) : BudgetLedger :=
  uses.foldl (·.use pace) t

/-- A budget that begins now. -/
def new (pace : Pace) (now : Nat) : BudgetLedger := { budget := .full pace now }

/-- The permits granted in period `k` of those that follow each other from `start`. -/
def grantedIn (t : BudgetLedger) (pace : Pace) (start k : Nat) : Nat :=
  t.granted.countP fun now ↦ start + k * pace.period ≤ now ∧ now < start + (k + 1) * pace.period

end BudgetLedger

/-! ### What a use does -/

namespace Budget

variable {b : Budget} {pace : Pace} {now : Nat}

/-- Asking takes a permit exactly if one is left. -/
theorem use_ask (b : Budget) (pace : Pace) (since now : Nat) :
    b.use pace now (.ask since) = b.take pace now := by
  simp only [use, ask]
  generalize b.take pace now = taken
  obtain ⟨b', granted⟩ := taken
  cases granted with
  | true => rfl
  | false =>
    dsimp only
    split <;> rfl

private theorem use_eq (b : Budget) (pace : Pace) (now : Nat) (use : BudgetUse) :
    b.use pace now use =
      if use.wantsPermit = true ∧ 0 < (b.refresh pace now).permits then
        ({ b.refresh pace now with permits := (b.refresh pace now).permits - 1 }, true)
      else (b.refresh pace now, false) := by
  cases use with
  | ask since =>
    rw [use_ask]
    simp only [take, BudgetUse.wantsPermit, true_and]
  | tryTake => simp only [Budget.use, take, BudgetUse.wantsPermit, true_and]
  | observe => rfl

end Budget

namespace BudgetLedger

variable {t : BudgetLedger} {pace : Pace} {start now k : Nat}

/-- The budget is kept for period `k`, which has begun: what is left of it and what was granted in
it add up to the limit, nothing was granted later, and no period granted more than the limit. -/
structure KeptFor (t : BudgetLedger) (pace : Pace) (start now k : Nat) : Prop where
  start_eq : t.budget.start = start + k * pace.period
  begun : t.budget.start ≤ now
  adds_up : t.budget.permits + t.grantedIn pace start k = pace.limit
  none_later : ∀ m ∈ t.granted, m < start + (k + 1) * pace.period
  within_limit : ∀ j, t.grantedIn pace start j ≤ pace.limit

private theorem length_granted_use (t : BudgetLedger) (pace : Pace) (u : Nat × BudgetUse) :
    (t.use pace u).granted.length = t.granted.length + (t.budget.use pace u.1 u.2).2.toNat := by
  simp only [use]
  cases (t.budget.use pace u.1 u.2).2 with
  | true => exact List.length_append
  | false => rfl

/-- A new budget is kept for the first period. -/
theorem keptFor_new (pace : Pace) (start : Nat) : (new pace start).KeptFor pace start start 0 where
  start_eq := by
    change start = _
    omega
  begun := Nat.le_refl _
  adds_up := rfl
  none_later _ hm := nomatch hm
  within_limit _ := Nat.zero_le _

private theorem KeptFor.later (h : t.KeptFor pace start now k) {now' : Nat} (hnow : now ≤ now') :
    t.KeptFor pace start now' k := { h with begun := h.begun.trans hnow }

private theorem KeptFor.grantedIn_of_lt (h : t.KeptFor pace start now k) {j : Nat} (hj : k < j) :
    t.grantedIn pace start j = 0 := by
  rw [grantedIn, List.countP_eq_zero]
  intro m hm
  have hover := h.none_later m hm
  have hle : (k + 1) * pace.period ≤ j * pace.period := Nat.mul_le_mul_right _ hj
  simp only [decide_eq_true_eq]
  omega

private theorem KeptFor.refresh (h : t.KeptFor pace start now k) (hperiod : pace.period ≠ 0)
    (hlate : now < start + (wordMax + 1)) :
    ∃ k', KeptFor { t with budget := t.budget.refresh pace now } pace start now k' ∧
      now < start + (k' + 1) * pace.period := by
  have hstart := h.start_eq
  have hbegun := h.begun
  unfold Budget.refresh
  dsimp only
  rw [if_neg hperiod]
  have hdiv := Nat.div_add_mod (now - t.budget.start) pace.period
  have hmod := Nat.mod_lt (now - t.budget.start) (Nat.pos_of_ne_zero hperiod)
  generalize hpassed : (now - t.budget.start) / pace.period = passed at hdiv
  generalize hinto : (now - t.budget.start) % pace.period = into at hdiv hmod
  have hend : (k + passed + 1) * pace.period =
      k * pace.period + pace.period * passed + pace.period := by ring
  split
  · next helapsed =>
    -- the count within the period does not wrap this early
    have hfit : into % (wordMax + 1) = into := Nat.mod_eq_of_lt (by omega)
    have hpos : 0 < passed := by
      rw [← hpassed]
      exact Nat.div_pos helapsed (Nat.pos_of_ne_zero hperiod)
    have hmul : (k + passed) * pace.period = k * pace.period + pace.period * passed := by ring
    refine ⟨k + passed, ⟨?_, ?_, ?_, ?_, h.within_limit⟩, ?_⟩
    · change now - into % (wordMax + 1) = _
      omega
    · exact Nat.sub_le _ _
    · change pace.limit + t.grantedIn pace start (k + passed) = _
      rw [h.grantedIn_of_lt (by omega), Nat.add_zero]
    · intro m hm
      have hover := h.none_later m hm
      have hnext : (k + 1) * pace.period = k * pace.period + pace.period := by ring
      omega
    · omega
  · next helapsed =>
    refine ⟨k, h, ?_⟩
    have hnext : (k + 1) * pace.period = k * pace.period + pace.period := by ring
    omega

private theorem period_unique {j : Nat} (hk : start + k * pace.period ≤ now)
    (hk' : now < start + (k + 1) * pace.period) (hj : start + j * pace.period ≤ now)
    (hj' : now < start + (j + 1) * pace.period) : j = k := by
  have hjk : j < k + 1 := by
    by_contra hlt
    have := Nat.mul_le_mul_right pace.period (Nat.le_of_not_lt hlt)
    omega
  have hkj : k < j + 1 := by
    by_contra hlt
    have := Nat.mul_le_mul_right pace.period (Nat.le_of_not_lt hlt)
    omega
  omega

private theorem grantedIn_append (granted : List Nat) (b : Budget)
    (hk : start + k * pace.period ≤ now) (hk' : now < start + (k + 1) * pace.period) (j : Nat) :
    grantedIn ⟨b, granted ++ [now]⟩ pace start j =
      grantedIn ⟨b, granted⟩ pace start j + if j = k then 1 else 0 := by
  rw [grantedIn, grantedIn, List.countP_append, List.countP_singleton]
  by_cases hj : j = k
  · rw [hj, if_pos (decide_eq_true ⟨hk, hk'⟩), if_pos rfl]
  · rw [if_neg hj, if_neg fun hin ↦ hj (period_unique hk hk' (of_decide_eq_true hin).1
      (of_decide_eq_true hin).2)]

private theorem KeptFor.use (h : t.KeptFor pace start now k) (hperiod : pace.period ≠ 0)
    (hlate : now < start + (wordMax + 1)) (use : BudgetUse) :
    ∃ k', (t.use pace (now, use)).KeptFor pace start now k' ∧
      now < start + (k' + 1) * pace.period ∧
      ((t.budget.use pace now use).2 = true ↔
        use.wantsPermit = true ∧ t.grantedIn pace start k' < pace.limit) := by
  obtain ⟨k', hkept, hin⟩ := h.refresh hperiod hlate
  refine ⟨k', ?_⟩
  have hadds : (t.budget.refresh pace now).permits + t.grantedIn pace start k' = pace.limit :=
    hkept.adds_up
  have hleft : 0 < (t.budget.refresh pace now).permits ↔
      t.grantedIn pace start k' < pace.limit := by omega
  simp only [BudgetLedger.use, Budget.use_eq]
  split
  · next htakes =>
    have hfrom : start + k' * pace.period ≤ now := hkept.start_eq ▸ hkept.begun
    have hcount := grantedIn_append t.granted
      { t.budget.refresh pace now with permits := (t.budget.refresh pace now).permits - 1 }
      hfrom hin
    refine ⟨⟨hkept.start_eq, hkept.begun, ?_, ?_, ?_⟩, hin, ?_⟩
    · dsimp only
      rw [if_pos rfl, hcount k', if_pos rfl]
      change _ - 1 + (t.grantedIn pace start k' + 1) = _
      omega
    · intro m hm
      rw [if_pos rfl] at hm
      obtain hm | hm := List.mem_append.mp hm
      · exact hkept.none_later m hm
      · rw [List.mem_singleton.mp hm]
        exact hin
    · intro j
      rw [if_pos rfl, hcount j]
      have hj := h.within_limit j
      change t.grantedIn pace start j + _ ≤ _
      split
      · next hjk =>
        rw [hjk]
        omega
      · exact hj
    · simp only [true_iff]
      exact ⟨htakes.1, hleft.mp htakes.2⟩
  · next hstays =>
    refine ⟨hkept, hin, ?_⟩
    simp only [Bool.false_eq_true, false_iff]
    exact fun hwants ↦ hstays ⟨hwants.1, hleft.mpr hwants.2⟩

private theorem KeptFor.useAll (h : t.KeptFor pace start now k) (hperiod : pace.period ≠ 0)
    {uses : List (Nat × BudgetUse)} (horder : (now :: uses.map (·.1)).Pairwise (· ≤ ·))
    (hlate : ∀ u ∈ uses, u.1 < start + (wordMax + 1)) :
    ∃ k', ∀ later, (∀ m ∈ now :: uses.map (·.1), m ≤ later) →
      (t.useAll pace uses).KeptFor pace start later k' := by
  induction uses generalizing t now k with
  | nil => exact ⟨k, fun later hlater ↦ h.later (hlater now List.mem_cons_self)⟩
  | cons u rest ih =>
    obtain ⟨hnow, hrest⟩ := List.pairwise_cons.mp horder
    have hlater := h.later (hnow u.1 List.mem_cons_self)
    obtain ⟨k₁, hused, -, -⟩ := hlater.use hperiod (hlate u List.mem_cons_self) u.2
    obtain ⟨k', hkept⟩ := ih hused hrest fun v hv ↦ hlate v (List.mem_cons_of_mem u hv)
    exact ⟨k', fun later hle ↦ hkept later fun m hm ↦ hle m (List.mem_cons_of_mem now hm)⟩

end BudgetLedger

/-! ### Limiters -/

/-- A use at a moment in milliseconds, in nanoseconds. -/
def BudgetUse.inNanos : Nat × BudgetUse → Nat × BudgetUse
  | (now, .ask since) => (nanos now, .ask (nanos since))
  | (now, use) => (nanos now, use)

namespace RateLimiter

/-- The limiter after a use, and whether a permit was granted. -/
def use (l : RateLimiter) (now : Nat) : BudgetUse → RateLimiter × Bool
  | .ask since => ((l.ask since now).1, (l.ask since now).2 == .granted)
  | .tryTake => l.tryTake now
  | .observe => ((l.observe now).1, false)

/-- The limiter after one use after another. -/
def useAll (l : RateLimiter) (uses : List (Nat × BudgetUse)) : RateLimiter :=
  uses.foldl (fun l u ↦ (l.use u.1 u.2).1) l

private theorem budget_use (l : RateLimiter) (u : Nat × BudgetUse) :
    let used := l.use u.1 u.2
    let spent := l.budget.use l.config.pace (BudgetUse.inNanos u).1 (BudgetUse.inNanos u).2
    used.1.config = l.config ∧ used.1.budget = spent.1 ∧
      used.1.permitted = l.permitted + spent.2.toNat := by
  obtain ⟨now, use⟩ := u
  cases use with
  | ask since =>
    simp only [RateLimiter.use, ask, Budget.use, BudgetUse.inNanos]
    split
    · next hr =>
      rw [hr]
      exact ⟨rfl, rfl, rfl⟩
    · next hr =>
      rw [hr]
      exact ⟨rfl, rfl, rfl⟩
    · next hr =>
      rw [hr]
      exact ⟨rfl, rfl, rfl⟩
  | tryTake => exact ⟨rfl, rfl, rfl⟩
  | observe => exact ⟨rfl, rfl, rfl⟩

private theorem budget_useAll (l : RateLimiter) (t : BudgetLedger) (hbudget : l.budget = t.budget)
    (hgranted : l.permitted = t.granted.length) (uses : List (Nat × BudgetUse)) :
    (l.useAll uses).budget = (t.useAll l.config.pace (uses.map BudgetUse.inNanos)).budget ∧
      (l.useAll uses).permitted =
        (t.useAll l.config.pace (uses.map BudgetUse.inNanos)).granted.length := by
  induction uses generalizing l t with
  | nil => exact ⟨hbudget, hgranted⟩
  | cons u rest ih =>
    obtain ⟨hconfig, hspent, hcount⟩ := l.budget_use u
    rw [hbudget] at hspent hcount
    have hrest := ih (l.use u.1 u.2).1 (t.use l.config.pace (BudgetUse.inNanos u)) hspent
      (by rw [hcount, hgranted, t.length_granted_use])
    rw [hconfig] at hrest
    exact hrest

end RateLimiter

/-! ### The law of the periods -/

namespace BudgetLedger

/-- Right after a use in period `k`, the permits left and those granted in that period add up to the
limit: no period grants more, and neither a refill nor a permit left over reaches another period. A
use that wants a permit is granted one exactly if fewer than the limit were granted in its period.
A rate limiter keeps its budget like this at the pace that its configuration stands for. -/
theorem permits_add_up_to_limit (pace : Pace) (start : Nat) (uses : List (Nat × BudgetUse))
    (now : Nat) (use : BudgetUse) (hperiod : pace.period ≠ 0)
    (horder : (start :: (uses ++ [(now, use)]).map (·.1)).Pairwise (· ≤ ·))
    (hlate : now < start + 2 ^ 64) :
    let before := (new pace start).useAll pace uses
    let after := (new pace start).useAll pace (uses ++ [(now, use)])
    (∃ k, after.budget.start = start + k * pace.period) ∧ after.budget.start ≤ now ∧
      (∀ k, start + k * pace.period ≤ now → now < start + (k + 1) * pace.period →
        after.budget.permits + after.grantedIn pace start k = pace.limit ∧
          ((before.budget.use pace now use).2 = true ↔
            use.wantsPermit = true ∧ before.grantedIn pace start k < pace.limit)) ∧
      (∀ k, after.grantedIn pace start k ≤ pace.limit) ∧
      ∀ name config millis millisUses, config.pace = pace → nanos millis = start →
        millisUses.map BudgetUse.inNanos = uses ++ [(now, use)] →
        ((RateLimiter.new name config millis).useAll millisUses).budget = after.budget ∧
          ((RateLimiter.new name config millis).useAll millisUses).permitted =
            after.granted.length := by
  intro before after
  have hafter : after = before.use pace (now, use) := by
    change List.foldl _ _ _ = _
    rw [List.foldl_append]
    rfl
  rw [List.map_append, ← List.cons_append, List.pairwise_append] at horder
  obtain ⟨huses, -, hlast⟩ := horder
  have hbefore : ∀ m ∈ start :: uses.map (·.1), m ≤ now := fun m hm ↦
    hlast m hm now List.mem_cons_self
  obtain ⟨k₀, hkept⟩ := (keptFor_new pace start).useAll hperiod huses fun u hu ↦
    (hbefore u.1 (List.mem_cons_of_mem start (List.mem_map_of_mem hu))).trans_lt hlate
  obtain ⟨k, hused, hin, hgrants⟩ := (hkept now hbefore).use hperiod hlate use
  rw [← hafter] at hused
  refine ⟨⟨k, hused.start_eq⟩, hused.begun, fun j hj hj' ↦ ?_, hused.within_limit, ?_⟩
  · rw [period_unique (hused.start_eq ▸ hused.begun) hin hj hj']
    exact ⟨hused.adds_up, hgrants⟩
  · rintro name config millis millisUses rfl rfl hsame
    have hlimiter := (RateLimiter.new name config millis).budget_useAll
      (new config.pace (nanos millis)) rfl rfl millisUses
    rw [hsame] at hlimiter
    exact hlimiter

/-- Two permits every ten nanoseconds: the third caller of the first period gets none, and after
three idle periods a caller finds two permits and not more. -/
theorem permits_add_up_after_idle_periods :
    let pace : Pace := ⟨2, 10, 100⟩
    let uses : List (Nat × BudgetUse) := [(5, .ask 5), (14, .tryTake), (14, .ask 14)]
    let after := (new pace 5).useAll pace (uses ++ [(47, .ask 40)])
    after.granted = [5, 14, 47] ∧ after.budget = ⟨45, 1⟩ ∧ after.grantedIn pace 5 0 = 2 ∧
      after.budget.permits + after.grantedIn pace 5 4 = 2 := by
  intro pace uses after
  obtain ⟨-, -, hadds, -, -⟩ := permits_add_up_to_limit pace 5 uses 47 (.ask 40) (by decide)
    (by decide) (by decide)
  exact ⟨by decide, by decide, by decide, (hadds 4 (by decide) (by decide)).1⟩

end BudgetLedger

end GuardedDispatch
