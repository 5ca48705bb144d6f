import GuardedDispatch.Proofs.Pipeline.Steps
import Mathlib.Data.List.Induction

/-!
# Contexts derived from one another

A context is retired in favour of its next attempt, or handed back as it is if it was the last one.
The first attempt has no snapshot and every later one has; either way what is known of an attempt
counts on from the one before. So a fresh context gives as many retries as its budget has attempts
after the first, whatever happens in between, and each of them tells which attempt it is and how the
one before it failed.
-/

namespace GuardedDispatch

namespace ProcessingContext

variable {μ : Type} {c : ProcessingContext μ}

/-! ### Retiring a context -/

/-- The context of the next attempt, whether one is left or not. -/
def succeeding (c : ProcessingContext μ) (stage cause : String) (backoff : Backoff) (now : Int) :
    ProcessingContext μ :=
  { c with snapshot? := some (c.snapshot.next stage cause backoff now), startedAt := now }

/-- A context with an attempt left is retired in favour of it. -/
theorem retire_of_lt (h : c.attempt < c.maxAttempts) (stage cause : String) (backoff : Backoff)
    (now : Int) :
    c.retire stage cause backoff now = .ok (c.succeeding stage cause backoff now) := by
  have hmore : ¬ c.isLastAttempt = true := by
    rw [isLastAttempt, decide_eq_true_iff]
    exact Nat.not_le.mpr h
  rw [retire, nextAttempt?, if_neg hmore]
  rfl

/-- The last attempt is handed back as it is. -/
theorem retire_of_le (h : c.maxAttempts ≤ c.attempt) (stage cause : String) (backoff : Backoff)
    (now : Int) : c.retire stage cause backoff now = .error c := by
  have hlast : c.isLastAttempt = true := decide_eq_true h
  rw [retire, nextAttempt?, if_pos hlast]

/-- The snapshot of the running attempt counts as the context does. -/
@[simp] theorem attempt_snapshot (c : ProcessingContext μ) : c.snapshot.attempt = c.attempt := by
  rw [snapshot, attempt]
  cases c.snapshot? <;> rfl

/-- The next attempt is one more. -/
@[simp] theorem attempt_succeeding (c : ProcessingContext μ) (stage cause : String)
    (backoff : Backoff) (now : Int) :
    (c.succeeding stage cause backoff now).attempt = c.attempt + 1 :=
  congrArg (· + 1) c.attempt_snapshot

private theorem sameDelivery_succeeding (c : ProcessingContext μ) (stage cause : String)
    (backoff : Backoff) (now : Int) : c.SameDelivery (c.succeeding stage cause backoff now) :=
  ⟨rfl, rfl, rfl, rfl, rfl⟩

/-! ### What is kept twice -/

/-- The budget and the time of the first attempt are the same in a context and in its snapshot. -/
structure Aligned (c : ProcessingContext μ) : Prop where
  maxAttempts_pos : 1 ≤ c.maxAttempts
  maxAttempts_eq : c.snapshot.maxAttempts = c.maxAttempts
  firstAttemptAt_eq : c.snapshot.firstAttemptAt = c.firstAttemptAt

/-- A fresh context is aligned. -/
theorem aligned_new (message : μ) (id : String) (budget : Nat) (start : Int) :
    (new message id budget start).Aligned where
  maxAttempts_pos := Nat.le_max_left _ _
  maxAttempts_eq := Nat.max_eq_right (Nat.le_max_left _ _)
  firstAttemptAt_eq := rfl

/-- The next attempt takes both over. -/
theorem Aligned.succeeding (h : c.Aligned) (stage cause : String) (backoff : Backoff) (now : Int) :
    (c.succeeding stage cause backoff now).Aligned :=
  ⟨h.maxAttempts_pos, h.maxAttempts_eq, h.firstAttemptAt_eq⟩

/-! ### Attributes -/

/-- Sets attributes one after another. -/
def setAttributes (c : ProcessingContext μ) (updates : List (String × Json)) :
    ProcessingContext μ :=
  updates.foldl (fun c u ↦ c.setAttribute u.1 u.2) c

private theorem setAttributes_eq (c : ProcessingContext μ) (updates : List (String × Json)) :
    ∃ attributes, c.setAttributes updates = { c with attributes } := by
  induction updates generalizing c with
  | nil => exact ⟨c.attributes, rfl⟩
  | cons u rest ih => exact ih (c.setAttribute u.1 u.2)

private theorem attribute?_setAttributes (c : ProcessingContext μ) (updates : List (String × Json))
    (name : String) :
    (c.setAttributes updates).attribute? name =
      (updates.reverse.lookup name).or (c.attribute? name) := by
  induction updates generalizing c with
  | nil => rfl
  | cons u rest ih =>
    have hone : (c.setAttribute u.1 u.2).attribute? name =
        ([u].lookup name).or (c.attribute? name) := by
      rw [attribute?, setAttribute, Text.Dictionary.get?_put, List.lookup_cons]
      by_cases hname : u.1 = name
      · rw [if_pos hname, beq_iff_eq.mpr hname.symm]
        rfl
      · rw [if_neg hname, beq_eq_false_iff_ne.mpr (Ne.symm hname)]
        rfl
    rw [List.reverse_cons, List.lookup_append, Option.or_assoc, ← hone]
    exact ih (c.setAttribute u.1 u.2)

end ProcessingContext

/-! ### One failed attempt after the other -/

/-- An attempt that fails: the attributes set in the course of it, the stage at which it failed and
why, how the wait before the next one grows, and when it was given up. -/
structure FailedAttempt where
  attributes : List (String × Json)
  stage : String
  cause : String
  backoff : Backoff
  now : Int

/-- A snapshot of the attempt after the `count`-th one of a delivery, which failed. -/
structure RetrySnapshot.Follows (s : RetrySnapshot) (count budget : Nat) (start : Int)
    (f : FailedAttempt) : Prop where
  attempt_eq : s.attempt = count + 1
  remaining_eq : s.remaining = budget - (count + 1)
  isLast_iff : s.isLast = true ↔ count + 1 = budget
  firstAttemptAt_eq : s.firstAttemptAt = start
  nextBackoff_eq : s.nextBackoff = f.backoff.delayAfter count
  failedStage?_eq : s.failedStage? = some f.stage
  lastFailure?_eq : s.lastFailure? = some f.cause

namespace ProcessingContext

variable {μ : Type} {c origin : ProcessingContext μ} {count : Nat}
  {updates : List (String × Json)}

/-- Retires a context in favour of its next attempt, after the attributes were set that a failed
attempt has set. -/
def fail (c : ProcessingContext μ) (f : FailedAttempt) :
    Except (ProcessingContext μ) (ProcessingContext μ) :=
  (c.setAttributes f.attributes).retire f.stage f.cause f.backoff f.now

/-- The context in hand after failed attempts: the next one, or the last one, handed back. -/
def inHand (c : ProcessingContext μ) (failures : List FailedAttempt) : ProcessingContext μ :=
  failures.foldl (fun c f ↦ match c.fail f with | .ok next => next | .error last => last) c

/-- What holds of the context in hand after so many attempts of a delivery have failed and so much
was set. -/
structure Stands (origin : ProcessingContext μ) (count : Nat) (updates : List (String × Json))
    (c : ProcessingContext μ) : Prop extends c.Aligned where
  sameDelivery : origin.SameDelivery c
  attempt_eq : c.attempt = min (count + 1) c.maxAttempts
  attribute?_eq : ∀ name, c.attribute? name =
    (updates.reverse.lookup name).or (origin.attribute? name)

/-- A fresh context is in hand before anything failed or was set. -/
theorem stands_new (message : μ) (id : String) (budget : Nat) (start : Int) :
    (new message id budget start).Stands 0 [] (new message id budget start) where
  toAligned := aligned_new message id budget start
  sameDelivery := .refl _
  attempt_eq := (Nat.min_eq_left (Nat.le_max_left _ _)).symm
  attribute?_eq _ := rfl

private theorem Stands.setAttributes (h : origin.Stands count updates c)
    (more : List (String × Json)) :
    origin.Stands count (updates ++ more) (c.setAttributes more) := by
  have hattributes (name : String) : (c.setAttributes more).attribute? name =
      ((updates ++ more).reverse.lookup name).or (origin.attribute? name) := by
    rw [attribute?_setAttributes, h.attribute?_eq, List.reverse_append, List.lookup_append,
      Option.or_assoc]
  obtain ⟨attributes, hsame⟩ := c.setAttributes_eq more
  rw [hsame] at hattributes ⊢
  exact ⟨⟨h.maxAttempts_pos, h.maxAttempts_eq, h.firstAttemptAt_eq⟩,
    h.sameDelivery.trans ⟨rfl, rfl, rfl, rfl, rfl⟩, h.attempt_eq, hattributes⟩

private theorem Stands.succeeding (h : origin.Stands count updates c)
    (hlt : c.attempt < c.maxAttempts)
    (stage cause : String) (backoff : Backoff) (now : Int) :
    origin.Stands (count + 1) updates (c.succeeding stage cause backoff now) where
  toAligned := h.toAligned.succeeding stage cause backoff now
  sameDelivery := h.sameDelivery.trans (c.sameDelivery_succeeding stage cause backoff now)
  attempt_eq := by
    have hattempt := h.attempt_eq
    rw [attempt_succeeding]
    change c.attempt + 1 = min (count + 1 + 1) c.maxAttempts
    omega
  attribute?_eq := h.attribute?_eq

private theorem Stands.handedBack (h : origin.Stands count updates c)
    (hle : c.maxAttempts ≤ c.attempt) :
    origin.Stands (count + 1) updates c where
  toAligned := h.toAligned
  sameDelivery := h.sameDelivery
  attempt_eq := by
    have hattempt := h.attempt_eq
    omega
  attribute?_eq := h.attribute?_eq

private theorem Stands.fail (h : origin.Stands count updates c) (f : FailedAttempt) :
    origin.Stands (count + 1) (updates ++ f.attributes) (c.inHand [f]) := by
  have hset := h.setAttributes f.attributes
  rw [inHand, List.foldl_cons, List.foldl_nil, ProcessingContext.fail]
  obtain hlt | hle := Nat.lt_or_ge (c.setAttributes f.attributes).attempt
    (c.setAttributes f.attributes).maxAttempts
  · rw [retire_of_lt hlt]
    exact hset.succeeding hlt f.stage f.cause f.backoff f.now
  · rw [retire_of_le hle]
    exact hset.handedBack hle

private theorem Stands.inHand (h : origin.Stands count updates c) (failures : List FailedAttempt) :
    origin.Stands (count + failures.length) (updates ++ failures.flatMap (·.attributes))
      (c.inHand failures) := by
  induction failures generalizing c count updates with
  | nil =>
    rw [List.flatMap_nil, List.append_nil]
    exact h
  | cons f rest ih =>
    have hrest := ih (h.fail f)
    rw [Nat.add_assoc, Nat.add_comm 1, List.append_assoc] at hrest
    rw [List.flatMap_cons, List.length_cons]
    exact hrest

private theorem Stands.follows (h : origin.Stands count updates c) (hlt : count + 1 < c.maxAttempts)
    (f : FailedAttempt) :
    (c.snapshot.next f.stage f.cause f.backoff f.now).Follows (count + 1) c.maxAttempts
      c.firstAttemptAt f := by
  have hattempt : c.snapshot.attempt = count + 1 := by
    rw [attempt_snapshot, h.attempt_eq, Nat.min_eq_left (Nat.le_of_lt hlt)]
  refine ⟨congrArg (· + 1) hattempt, ?_, ?_, h.firstAttemptAt_eq, ?_, rfl, rfl⟩
  · change c.snapshot.maxAttempts - (c.snapshot.attempt + 1) = _
    rw [hattempt, h.maxAttempts_eq]
  · change decide (c.snapshot.maxAttempts ≤ c.snapshot.attempt + 1) = true ↔ _
    rw [decide_eq_true_iff, hattempt, h.maxAttempts_eq]
    omega
  · change f.backoff.delayAfter c.snapshot.attempt = _
    rw [hattempt]

/-- Retries fill the budget and no more. Of the attempts of a fresh context that fail, whatever is
set in the course of them, each one within the budget but the last is followed by another. That one
is of the same delivery, with the message, the budget and the time of the first attempt; it counts
one more, knows whether it is the last, and has every attribute as it was set last. Its snapshot
tells at which stage and why the attempt before it failed, how long to wait, and how many attempts
are left. From the last attempt on, the context is handed back as it is. -/
theorem retries_fill_the_budget (message : μ) (id : String) (budget : Nat) (start : Int)
    (before : List FailedAttempt) (f : FailedAttempt) :
    let origin := new message id budget start
    let c := (origin.inHand before).setAttributes f.attributes
    let count := before.length + 1
    (count < max 1 budget → ∃ d s,
      c.retire f.stage f.cause f.backoff f.now = .ok d ∧ origin.SameDelivery d ∧
      d.attempt = count + 1 ∧ (d.isLastAttempt = true ↔ count + 1 = max 1 budget) ∧
      (∀ name, d.attribute? name =
        ((before ++ [f]).flatMap (·.attributes)).reverse.lookup name) ∧
      d.snapshot? = some s ∧ s.Follows count (max 1 budget) start f) ∧
    (max 1 budget ≤ count → c.retire f.stage f.cause f.backoff f.now = .error c) := by
  intro origin c count
  have hbefore := (stands_new message id budget start).inHand before
  have hset : origin.Stands before.length ((before ++ [f]).flatMap (·.attributes)) c := by
    have h := hbefore.setAttributes f.attributes
    rw [Nat.zero_add, List.nil_append] at h
    rw [List.flatMap_append, List.flatMap_singleton]
    exact h
  have hbudget : c.maxAttempts = max 1 budget := hset.sameDelivery.maxAttempts_eq
  have hattempt : c.attempt = min count (max 1 budget) := hbudget ▸ hset.attempt_eq
  refine ⟨fun hlt ↦ ?_, fun hle ↦ ?_⟩
  · have hmore : c.attempt < c.maxAttempts := by omega
    have hnext := hset.succeeding hmore f.stage f.cause f.backoff f.now
    have hfollows := hset.follows (hbudget ▸ hlt) f
    rw [hbudget, hset.sameDelivery.firstAttemptAt_eq] at hfollows
    refine ⟨_, _, retire_of_lt hmore .., hnext.sameDelivery, ?_, ?_, fun name ↦ ?_, rfl, hfollows⟩
    · rw [attempt_succeeding, hattempt, Nat.min_eq_left (Nat.le_of_lt hlt)]
    · rw [isLastAttempt, decide_eq_true_iff, attempt_succeeding, hattempt]
      change c.maxAttempts ≤ _ ↔ _
      omega
    · rw [hnext.attribute?_eq]
      exact Option.or_none
  · have hlast : c.maxAttempts ≤ c.attempt := by omega
    exact retire_of_le hlast ..

/-- A first attempt that fails at a lookup. -/
def lookupFailed : FailedAttempt :=
  ⟨[("tenant", .text "acme"), ("tries", .nat 1)], "enrich", "lookup down", {}, 40⟩

/-- A second attempt that fails on the way. -/
def routeFailed : FailedAttempt := ⟨[("tries", .nat 2)], "route", "no route", {}, 1100⟩

/-- With three attempts at most, the third one is the last and knows what the others set. -/
theorem third_attempt_is_last :
    2 < max 1 3 ∧ ∃ d s,
      (((new "order-1" "corr-9" 3 0).inHand [lookupFailed]).setAttributes
        routeFailed.attributes).retire "route" "no route" {} 1100 = .ok d ∧
      d.attempt = 3 ∧ d.isLastAttempt = true ∧ d.message = "order-1" ∧
      d.attribute? "tenant" = some (.text "acme") ∧ d.attribute? "tries" = some (.nat 2) ∧
      d.snapshot? = some s ∧ s.nextBackoff = 2000 ∧ s.remaining = 0 := by
  have hlt : 2 < max 1 3 := by decide
  obtain ⟨hnext, -⟩ := retries_fill_the_budget "order-1" "corr-9" 3 0 [lookupFailed] routeFailed
  obtain ⟨d, s, hretire, hsame, hattempt, hlast, hattribute, hsnapshot, hfollows⟩ := hnext hlt
  exact ⟨hlt, d, s, hretire, hattempt, hlast.mpr rfl, hsame.message_eq, hattribute "tenant",
    hattribute "tries", hsnapshot, hfollows.nextBackoff_eq.trans (by decide +kernel),
    hfollows.remaining_eq⟩

end ProcessingContext

end GuardedDispatch
