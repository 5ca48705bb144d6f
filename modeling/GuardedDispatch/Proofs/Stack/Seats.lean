import GuardedDispatch.Policy.Bulkhead
import GuardedDispatch.Proofs.Lists

/-!
# The slots of a bulkhead

Every slot of a bulkhead is free, held by a caller, or set aside for one that waits, and every
caller that waits has one place in the queue. One relation for each operation tells what it can do;
from them follows that each operation moves slots and places and never makes or loses one. A slot
that is handed back goes to the caller that has waited longest without one, and else to the free
ones.
-/

namespace GuardedDispatch.Bulkhead

variable {b b' : Bulkhead} {now ticket holders : Nat} {tickets : List Nat}

/-! ### What each operation does -/

/-- What asking for a slot can make of a bulkhead, and the answer. -/
inductive Requested (b : Bulkhead) (now : Nat) : Bulkhead × SlotAnswer → Prop
  | admitted (hopen : b.closed = false) (hfree : 0 < b.free) :
      Requested b now ({ b with free := b.free - 1, admitted := b.admitted + 1 }, .admitted)
  | rejected (hwhy : b.closed = true ∨
      b.free = 0 ∧ (b.config.maxWait = 0 ∨ b.config.maxWaiting ≤ b.waiting)) :
      Requested b now ({ b with rejected := b.rejected + 1 }, .rejected)
  | queued (hopen : b.closed = false) (hfull : b.free = 0) (hwait : b.config.maxWait ≠ 0)
      (hroom : b.waiting < b.config.maxWaiting) :
      Requested b now
        ({ b with
            queue := b.queue ++ [{ ticket := b.nextTicket, deadline := now + b.config.maxWait }]
            nextTicket := b.nextTicket + 1 }, .wait b.nextTicket)

/-- Asking for a slot does one of the three. -/
theorem requested_request (b : Bulkhead) (now : Nat) : b.Requested now (b.request now) := by
  unfold request
  dsimp only
  split
  · next hclosed => exact .rejected (.inl hclosed)
  · next hopen =>
    have hopen : b.closed = false := Bool.eq_false_iff.mpr hopen
    split
    · next hfree => exact .admitted hopen hfree
    · next hfree =>
      have hfull : b.free = 0 := by omega
      split
      · next hwhy => exact .rejected (.inr ⟨hfull, hwhy⟩)
      · next hwhy =>
        obtain ⟨hwait, hroom⟩ := not_or.mp hwhy
        exact .queued hopen hfull hwait (Nat.lt_of_not_le hroom)

/-- What handing a slot back can make of a bulkhead. -/
inductive Freed (b : Bulkhead) : Bulkhead → Prop
  | handed {before after : List Waiter} {w : Waiter} (hopen : b.closed = false)
      (hqueue : b.queue = before ++ w :: after) (hbefore : ∀ x ∈ before, x.assigned = true)
      (hw : w.assigned = false) :
      Freed b { b with queue := before ++ { w with assigned := true } :: after }
  | kept (hwhy : b.closed = true ∨ ∀ w ∈ b.queue, w.assigned = true) :
      Freed b { b with free := b.free + 1 }

private theorem assignFirst?_eq_some {queue queue' : List Waiter}
    (h : assignFirst? queue = some queue') :
    ∃ before w after, queue = before ++ w :: after ∧ (∀ x ∈ before, x.assigned = true) ∧
      w.assigned = false ∧ queue' = before ++ { w with assigned := true } :: after := by
  induction queue generalizing queue' with
  | nil => cases h
  | cons v rest ih =>
    simp only [assignFirst?] at h
    split at h
    · next hv =>
      obtain ⟨rest', hrest, rfl⟩ := Option.map_eq_some_iff.mp h
      obtain ⟨before, w, after, rfl, hbefore, hw, rfl⟩ := ih hrest
      refine ⟨v :: before, w, after, rfl, ?_, hw, rfl⟩
      intro x hx
      obtain rfl | hx := List.mem_cons.mp hx
      · exact hv
      · exact hbefore x hx
    · next hv =>
      cases h
      exact ⟨[], v, rest, rfl, (fun _ hx ↦ nomatch hx), Bool.eq_false_iff.mpr hv, rfl⟩

private theorem assignFirst?_eq_none {queue : List Waiter} (h : assignFirst? queue = none) :
    ∀ w ∈ queue, w.assigned = true := by
  induction queue with
  | nil => exact fun _ hw ↦ nomatch hw
  | cons v rest ih =>
    simp only [assignFirst?] at h
    split at h
    · next hv =>
      intro w hw
      obtain rfl | hw := List.mem_cons.mp hw
      · exact hv
      · exact ih (Option.map_eq_none_iff.mp h) w hw
    · cases h

/-- Handing a slot back does one of the two. -/
theorem freed_freeSlot (b : Bulkhead) : b.Freed b.freeSlot := by
  unfold freeSlot
  by_cases hclosed : b.closed = true
  · rw [if_pos hclosed]
    exact .kept (.inl hclosed)
  · rw [if_neg hclosed]
    split
    · next queue' h =>
      obtain ⟨before, w, after, hqueue, hbefore, hw, rfl⟩ := assignFirst?_eq_some h
      exact .handed (Bool.eq_false_iff.mpr hclosed) hqueue hbefore hw
    · next h => exact .kept (.inr (assignFirst?_eq_none h))

/-- What coming for a slot can make of a bulkhead, and whether the caller was admitted. -/
inductive Claimed (b : Bulkhead) (ticket now : Nat) : Bulkhead → Bool → Prop
  | admitted {w : Waiter} (hw : b.waiter? ticket = some w) (hopen : b.closed = false)
      (hassigned : w.assigned = true) :
      Claimed b ticket now { b.withdraw ticket with admitted := b.admitted + 1 } true
  | shut {w : Waiter} (hw : b.waiter? ticket = some w) (hclosed : b.closed = true) :
      Claimed b ticket now
        { (if w.assigned then (b.withdraw ticket).freeSlot else b.withdraw ticket) with
          rejected := b.rejected + 1 } false
  | expired {w : Waiter} (hw : b.waiter? ticket = some w) (hopen : b.closed = false)
      (hassigned : w.assigned = false) (hdue : w.deadline ≤ now) :
      Claimed b ticket now { b.withdraw ticket with rejected := b.rejected + 1 } false

/-- Coming for a slot does one of the three. -/
theorem claimed_of_claim? {admitted : Bool} (h : b.claim? ticket now = some (b', admitted)) :
    b.Claimed ticket now b' admitted := by
  simp only [claim?, Option.bind_eq_bind, Option.bind_eq_some_iff] at h
  obtain ⟨w, hw, h⟩ := h
  split at h
  · next hclosed =>
    cases h
    exact .shut hw hclosed
  · next hopen =>
    have hopen : b.closed = false := Bool.eq_false_iff.mpr hopen
    split at h
    · next hassigned =>
      cases h
      exact .admitted hw hopen hassigned
    · next hassigned =>
      split at h
      · next hdue =>
        cases h
        exact .expired hw hopen (Bool.eq_false_iff.mpr hassigned) hdue
      · cases h

/-! ### Where the slots are -/

/-- How a bulkhead is taken: `holders` callers have a slot, and the callers in the queue have the
tickets `tickets`. -/
structure Seats (b : Bulkhead) (holders : Nat) (tickets : List Nat) : Prop where
  slots_eq : b.free + holders + b.queue.countP (·.assigned) = b.config.maxConcurrent
  queue_perm : (b.queue.map (·.ticket)).Perm tickets
  nodup : tickets.Nodup
  fresh : ∀ k ∈ tickets, k < b.nextTicket

/-- The queue is as long as there are tickets. -/
theorem Seats.waiting_eq (h : b.Seats holders tickets) : b.waiting = tickets.length := by
  rw [waiting, ← h.queue_perm.length_eq, List.length_map]

/-- In which order the tickets are listed does not matter. -/
theorem Seats.perm (h : b.Seats holders tickets) {tickets' : List Nat}
    (hp : tickets.Perm tickets') : b.Seats holders tickets' where
  slots_eq := h.slots_eq
  queue_perm := h.queue_perm.trans hp
  nodup := hp.nodup_iff.mp h.nodup
  fresh k hk := h.fresh k (hp.mem_iff.mpr hk)

/-- Nobody has come to a new bulkhead. -/
theorem seats_new (name : String) (config : BulkheadConfig) : (new name config).Seats 0 [] where
  slots_eq := rfl
  queue_perm := .refl []
  nodup := List.nodup_nil
  fresh _ hk := nomatch hk

/-- Closing moves no slot. -/
theorem Seats.close (h : b.Seats holders tickets) : b.close.Seats holders tickets := { h with }

/-- A slot handed back is free or set aside. -/
theorem Seats.freeSlot (h : b.Seats (holders + 1) tickets) : b.freeSlot.Seats holders tickets := by
  have hslots := h.slots_eq
  have hf := b.freed_freeSlot
  generalize b.freeSlot = b' at hf
  cases hf with
  | @handed before after w hopen hqueue hbefore hw =>
    have hperm := h.queue_perm
    rw [hqueue] at hslots hperm
    refine ⟨?_, ?_, h.nodup, h.fresh⟩
    · simp only [List.countP_append, List.countP_cons, hw, Bool.false_eq_true, if_false,
        if_true] at hslots ⊢
      omega
    · simpa using hperm
  | kept hwhy =>
    refine ⟨?_, h.queue_perm, h.nodup, h.fresh⟩
    dsimp only
    omega

private theorem Seats.withdraw (h : b.Seats holders (ticket :: tickets)) {w : Waiter}
    (hw : b.waiter? ticket = some w) :
    (b.withdraw ticket).Seats (holders + w.assigned.toNat) tickets := by
  have hkey : w.ticket = ticket := by simpa using List.find?_some hw
  have hmem : w ∈ b.queue := List.mem_of_find?_eq_some hw
  have hp := perm_cons_filter_key (h.queue_perm.nodup_iff.mpr h.nodup) hmem
  rw [hkey] at hp
  have hslots := h.slots_eq
  refine ⟨?_, ?_, (List.nodup_cons.mp h.nodup).2, fun k hk ↦ h.fresh k (List.mem_cons_of_mem _ hk)⟩
  · rw [hp.countP_eq, List.countP_cons] at hslots
    change b.free + (holders + w.assigned.toNat) + (b.queue.filter _).countP _ =
      b.config.maxConcurrent
    cases hassigned : w.assigned with
    | true =>
      simp only [hassigned, if_true, Bool.toNat_true] at hslots ⊢
      omega
    | false =>
      simp only [hassigned, Bool.false_eq_true, if_false, Bool.toNat_false] at hslots ⊢
      omega
  · have hmap := (hp.map (·.ticket)).symm.trans h.queue_perm
    rw [List.map_cons, hkey] at hmap
    exact hmap.cons_inv

/-- Who has a ticket is in the queue. -/
theorem Seats.exists_waiter (h : b.Seats holders tickets) (hticket : ticket ∈ tickets) :
    ∃ w, b.waiter? ticket = some w := by
  obtain ⟨w, hw, rfl⟩ := List.mem_map.mp (h.queue_perm.mem_iff.mpr hticket)
  rw [← Option.isSome_iff_exists, waiter?, List.find?_isSome]
  exact ⟨w, hw, by simp⟩

/-- Asking for a slot takes a free one, takes a place in the queue, or takes nothing. -/
theorem Seats.request (h : b.Seats holders tickets) {answer : SlotAnswer}
    (hr : b.request now = (b', answer)) :
    match answer with
    | .admitted => b'.Seats (holders + 1) tickets
    | .rejected => b'.Seats holders tickets
    | .wait ticket => b'.Seats holders (ticket :: tickets) := by
  have hslots := h.slots_eq
  have hreq := b.requested_request now
  rw [hr] at hreq
  cases hreq with
  | admitted hopen hfree =>
    refine ⟨?_, h.queue_perm, h.nodup, h.fresh⟩
    dsimp only
    omega
  | rejected hwhy => exact { h with }
  | queued hopen hfull hwait hroom =>
    refine ⟨?_, ?_, ?_, ?_⟩
    · simpa using hslots
    · simp only [List.map_append, List.map_cons, List.map_nil]
      exact (List.perm_append_singleton _ _).trans (h.queue_perm.cons _)
    · exact List.nodup_cons.mpr ⟨fun hm ↦ Nat.lt_irrefl _ (h.fresh _ hm), h.nodup⟩
    · intro k hk
      obtain rfl | hk := List.mem_cons.mp hk
      · exact Nat.lt_succ_self _
      · exact Nat.lt_succ_of_lt (h.fresh k hk)

/-- Coming for a slot gives up the place in the queue, and takes the slot if it admits the
caller. -/
theorem Seats.claim? (h : b.Seats holders (ticket :: tickets)) {admitted : Bool}
    (hc : b.claim? ticket now = some (b', admitted)) :
    b'.Seats (holders + admitted.toNat) tickets := by
  cases claimed_of_claim? hc with
  | admitted hw hopen hassigned =>
    have hleft := h.withdraw hw
    rw [hassigned] at hleft
    exact { hleft with }
  | @shut w hw hclosed =>
    have hleft := h.withdraw hw
    cases hassigned : w.assigned with
    | true =>
      rw [hassigned] at hleft
      exact { hleft.freeSlot with }
    | false =>
      rw [hassigned] at hleft
      exact { hleft with }
  | expired hw hopen hassigned hdue =>
    have hleft := h.withdraw hw
    rw [hassigned] at hleft
    exact { hleft with }

/-- Leaving the queue gives up the place in it, and a slot set aside goes on. -/
theorem Seats.abandon (h : b.Seats holders (ticket :: tickets)) :
    (b.abandon ticket).Seats holders tickets := by
  obtain ⟨w, hw⟩ := h.exists_waiter List.mem_cons_self
  have hleft := h.withdraw hw
  simp only [Bulkhead.abandon, hw]
  cases hassigned : w.assigned with
  | true =>
    rw [hassigned] at hleft
    exact hleft.freeSlot
  | false =>
    rw [hassigned] at hleft
    exact hleft

end GuardedDispatch.Bulkhead
