import GuardedDispatch.Policy.Breaker
import Mathlib.Data.List.DropRight
import Mathlib.Data.List.Infix

/-!
# Windows over a history

A window keeps counts that are adjusted as outcomes come and go. It is tallied when they are the
counts of what it holds. Recording into a tallied window keeps the latest outcomes of the whole
history and nothing else, so its rates are rates over the latest part of that history.
-/

namespace GuardedDispatch

/-- Of what came before, only the latest elements can still be among the latest later on. -/
theorem rtake_rtake_append {α : Type} (xs ys : List α) (n : Nat) :
    (xs.rtake n ++ ys).rtake n = (xs ++ ys).rtake n := by
  have hd : xs.rtake n ++ ys = (xs ++ ys).drop (xs.length - n) :=
    (List.drop_append_of_le_length (Nat.sub_le _ _)).symm
  rw [hd, List.rtake, List.rtake, List.length_drop, List.drop_drop, List.length_append]
  congr 1
  omega

/-- The latest of the latest elements are the latest of all. -/
theorem rtake_rtake {α : Type} (xs : List α) (n m : Nat) :
    (xs.rtake n).rtake m = xs.rtake (min n m) := by
  rw [List.rtake, List.rtake, List.rtake, List.length_drop, List.drop_drop]
  congr 1
  omega

/-- All of a list is latest if there is room for it. -/
theorem rtake_of_length_le {α : Type} {xs : List α} {n : Nat} (h : xs.length ≤ n) :
    xs.rtake n = xs := by
  rw [List.rtake, Nat.sub_eq_zero_of_le h, List.drop_zero]

/-- The number of latest elements is bounded by what is asked for. -/
theorem length_rtake {α : Type} (xs : List α) (n : Nat) :
    (xs.rtake n).length = min n xs.length := by
  rw [List.rtake, List.length_drop]
  omega

namespace Window

/-- The counts are those of the outcomes held, of which there are no more than fit. -/
structure Tallied (w : Window) : Prop where
  failed_eq : w.failed = w.outcomes.countP (·.failed)
  slow_eq : w.slow = w.outcomes.countP (·.slow)
  size_le : w.size ≤ w.capacity

/-- A window without outcomes is tallied. -/
theorem tallied_empty (n : Nat) : Tallied { capacity := n } :=
  ⟨rfl, rfl, Nat.zero_le n⟩

/-- Dropping the oldest outcome keeps the capacity. -/
@[simp] theorem capacity_evict (w : Window) : w.evict.capacity = w.capacity := by
  unfold evict
  split <;> rfl

/-- Recording keeps the capacity. -/
@[simp] theorem capacity_record (w : Window) (o : Outcome) :
    (w.record o).capacity = w.capacity := by
  unfold record
  split <;> simp

private theorem outcomes_evict (w : Window) : w.evict.outcomes = w.outcomes.tail := by
  unfold evict
  split
  · next h => rw [h, List.tail_nil]
  · next h => rw [h, List.tail_cons]

/-- What a tallied window drops is part of its counts, so no count is cut off at zero. -/
theorem Tallied.oldest_counted {w : Window} (h : w.Tallied) {o : Outcome} {rest : List Outcome}
    (ho : w.outcomes = o :: rest) : o.failed.toNat ≤ w.failed ∧ o.slow.toNat ≤ w.slow := by
  rw [h.failed_eq, h.slow_eq, ho, List.countP_cons, List.countP_cons]
  cases o.failed <;> cases o.slow <;> simp

private theorem countP_cons_sub (p : Outcome → Bool) (o : Outcome) (rest : List Outcome) :
    (o :: rest).countP p - (p o).toNat = rest.countP p := by
  rw [List.countP_cons]
  cases p o <;> simp

private theorem Tallied.evict {w : Window} (h : w.Tallied) : w.evict.Tallied := by
  obtain ⟨hf, hs, hl⟩ := h
  unfold Window.evict
  split
  · exact ⟨hf, hs, hl⟩
  · next o rest ho =>
    rw [ho] at hf hs
    refine ⟨?_, ?_, ?_⟩
    · change w.failed - o.failed.toNat = rest.countP (·.failed)
      rw [hf]
      exact countP_cons_sub (·.failed) o rest
    · change w.slow - o.slow.toNat = rest.countP (·.slow)
      rw [hs]
      exact countP_cons_sub (·.slow) o rest
    · simp only [size, ho, List.length_cons] at hl ⊢
      omega

private theorem countP_snoc (p : Outcome → Bool) (os : List Outcome) (o : Outcome) :
    (os ++ [o]).countP p = os.countP p + (p o).toNat := by
  rw [List.countP_append, List.countP_singleton]
  cases p o <;> simp

/-- Recording into a window with room adds the outcome at the end. -/
theorem outcomes_record_of_room {w : Window} (h : w.size < w.capacity) (o : Outcome) :
    (w.record o).outcomes = w.outcomes ++ [o] := by
  have hne : w.size ≠ w.capacity := Nat.ne_of_lt h
  simp only [record, hne, if_false]

/-- A tallied window holds the latest of the outcomes it had and the new one. -/
theorem Tallied.outcomes_record {w : Window} (h : w.Tallied) (hc : 0 < w.capacity) (o : Outcome) :
    (w.record o).outcomes = (w.outcomes ++ [o]).rtake w.capacity := by
  by_cases hfull : w.size = w.capacity
  · have hdrop : w.outcomes.length + 1 - w.capacity = 1 := by
      change w.size + 1 - w.capacity = 1
      omega
    have hne : w.outcomes ≠ [] := by
      intro he
      have hz : w.size = 0 := by rw [size, he, List.length_nil]
      omega
    simp only [record, hfull, if_true, outcomes_evict]
    rw [List.rtake, List.length_append, List.length_singleton, hdrop, List.drop_one,
      List.tail_append_of_ne_nil hne]
  · have hroom : w.size < w.capacity := Nat.lt_of_le_of_ne h.size_le hfull
    rw [outcomes_record_of_room hroom, rtake_of_length_le]
    rw [List.length_append, List.length_singleton]
    exact hroom

/-- Recording keeps a window tallied. -/
theorem Tallied.record {w : Window} (h : w.Tallied) (hc : 0 < w.capacity) (o : Outcome) :
    (w.record o).Tallied := by
  have hsize : (w.record o).size ≤ (w.record o).capacity := by
    rw [capacity_record, size, h.outcomes_record hc, length_rtake]
    exact Nat.min_le_left _ _
  -- the counts grow from those of the window that is left after an eviction, if there is one
  have hcounts (v : Window) (hv : v.Tallied) :
      v.failed + o.failed.toNat = (v.outcomes ++ [o]).countP (·.failed) ∧
        v.slow + o.slow.toNat = (v.outcomes ++ [o]).countP (·.slow) := by
    rw [countP_snoc, countP_snoc, hv.failed_eq, hv.slow_eq]
    exact ⟨rfl, rfl⟩
  by_cases hfull : w.size = w.capacity
  · obtain ⟨hf, hs⟩ := hcounts w.evict h.evict
    refine ⟨?_, ?_, hsize⟩
    · simpa only [Window.record, hfull, if_true] using hf
    · simpa only [Window.record, hfull, if_true] using hs
  · obtain ⟨hf, hs⟩ := hcounts w h
    refine ⟨?_, ?_, hsize⟩
    · simpa only [Window.record, hfull, if_false] using hf
    · simpa only [Window.record, hfull, if_false] using hs

private theorem foldl_record (os : List Outcome) (w : Window) (h : w.Tallied)
    (hc : 0 < w.capacity) :
    (os.foldl record w).Tallied ∧ (os.foldl record w).capacity = w.capacity ∧
      (os.foldl record w).outcomes = (w.outcomes ++ os).rtake w.capacity := by
  induction os generalizing w with
  | nil =>
    refine ⟨h, rfl, ?_⟩
    rw [List.foldl_nil, List.append_nil, rtake_of_length_le h.size_le]
  | cons o os ih =>
    obtain ⟨ht, hcap, ho⟩ := ih (w.record o) (h.record hc o) (by rwa [capacity_record])
    rw [capacity_record] at hcap ho
    refine ⟨ht, hcap, ?_⟩
    rw [List.foldl_cons, ho, h.outcomes_record hc, rtake_rtake_append, List.append_assoc,
      List.singleton_append]

/-- A window of another capacity is tallied. -/
theorem tallied_resized (w : Window) {n : Nat} (hn : 0 < n) : (w.resized n).Tallied :=
  (foldl_record _ _ (tallied_empty n) hn).1

/-- A window of another capacity has it. -/
theorem capacity_resized (w : Window) {n : Nat} (hn : 0 < n) : (w.resized n).capacity = n :=
  (foldl_record _ _ (tallied_empty n) hn).2.1

/-- A window of another capacity holds the latest outcomes that fit. -/
theorem outcomes_resized (w : Window) {n : Nat} (hn : 0 < n) :
    (w.resized n).outcomes = w.outcomes.rtake n := by
  have h := (foldl_record (w.outcomes.drop (w.size - n)) _ (tallied_empty n) hn).2.2
  change (w.resized n).outcomes = ([] ++ w.outcomes.rtake n).rtake n at h
  rw [h, List.nil_append, rtake_of_length_le]
  rw [length_rtake]
  exact Nat.min_le_left _ _

end Window

end GuardedDispatch
