import GuardedDispatch.Proofs.Stack.Counters
import GuardedDispatch.Proofs.Stack.Seats

/-!
# A bulkhead and its callers

Everyone who asks a bulkhead for a slot waits with a ticket, has a slot, gave it back, was rejected,
or left while it waited. A bulkhead serves its callers if its slots, its queue and its counters
account for exactly these places, if it knows how long each of them waits, and if it lets nobody
wait for a slot that is free. Every operation of a bulkhead keeps it so.
-/

namespace GuardedDispatch

/-- Where a caller stands that asked for a slot. -/
inductive CallerPlace where
  | waiting (ticket since : Nat)
  | inside
  | released
  | rejected
  | left
  deriving DecidableEq, Repr

namespace CallerPlace

/-- The ticket of a caller that waits. -/
def ticket? : CallerPlace → Option Nat
  | .waiting ticket _ => some ticket
  | _ => none

/-- Whether a caller has a slot. -/
def isInside : CallerPlace → Bool
  | .inside => true
  | _ => false

/-- Whether a caller was given a slot, which it may have given back. -/
def isAdmitted : CallerPlace → Bool
  | .inside | .released => true
  | _ => false

/-- Whether a caller was turned away. -/
def isRejected : CallerPlace → Bool
  | .rejected => true
  | _ => false

/-- Whether a caller left while it waited. -/
def isLeft : CallerPlace → Bool
  | .left => true
  | _ => false

end CallerPlace

/-- The place of a caller that was just answered. -/
def SlotAnswer.place (now : Nat) : SlotAnswer → CallerPlace
  | .admitted => .inside
  | .rejected => .rejected
  | .wait ticket => .waiting ticket now

namespace Bulkhead

variable {b b' : Bulkhead} {now ticket since : Nat} {callers rest : List CallerPlace}

/-! ### Settings, and how long a caller waits -/

/-- Asking for a slot leaves the settings alone and does not close. -/
theorem settings_request (b : Bulkhead) (now : Nat) :
    (b.request now).1.config = b.config ∧ (b.request now).1.closed = b.closed := by
  have hreq := b.requested_request now
  generalize b.request now = answered at hreq
  cases hreq with
  | admitted hopen hfree | rejected hwhy | queued hopen hfull hwait hroom => exact ⟨rfl, rfl⟩

/-- Handing a slot back leaves the settings alone and does not close. -/
theorem settings_freeSlot (b : Bulkhead) :
    b.freeSlot.config = b.config ∧ b.freeSlot.closed = b.closed := by
  have hf := b.freed_freeSlot
  generalize b.freeSlot = b' at hf
  cases hf with
  | handed hopen hqueue hbefore hw | kept hwhy => exact ⟨rfl, rfl⟩

/-- Leaving the queue leaves the settings alone and does not close. -/
theorem settings_abandon (b : Bulkhead) (ticket : Nat) :
    (b.abandon ticket).config = b.config ∧ (b.abandon ticket).closed = b.closed := by
  unfold abandon
  split
  · split
    · exact (b.withdraw ticket).settings_freeSlot
    · exact ⟨rfl, rfl⟩
  · exact ⟨rfl, rfl⟩

/-- Who comes for its slot and is answered takes the slot off the queue, or leaves the queue as if
it had given up. -/
theorem eq_of_claim? {admitted : Bool} (hc : b.claim? ticket now = some (b', admitted)) :
    (admitted = true ∧ b' = { b.withdraw ticket with admitted := b.admitted + 1 }) ∨
      (admitted = false ∧ b' = { b.abandon ticket with rejected := b.rejected + 1 }) := by
  cases claimed_of_claim? hc with
  | admitted hw hopen hassigned => exact .inl ⟨rfl, rfl⟩
  | shut hw hclosed => exact .inr ⟨rfl, by simp only [abandon, hw]⟩
  | expired hw hopen hassigned hdue =>
    exact .inr ⟨rfl, by simp only [abandon, hw, hassigned, Bool.false_eq_true, if_false]⟩

/-- Coming for a slot leaves the settings alone and does not close. -/
theorem settings_of_claim? {admitted : Bool} (hc : b.claim? ticket now = some (b', admitted)) :
    b'.config = b.config ∧ b'.closed = b.closed := by
  obtain ⟨-, rfl⟩ | ⟨-, rfl⟩ := eq_of_claim? hc
  · exact ⟨rfl, rfl⟩
  · exact b.settings_abandon ticket

/-- When the caller with a ticket gives up. -/
def deadline? (b : Bulkhead) (ticket : Nat) : Option Nat := (b.waiter? ticket).map (·.deadline)

/-- Handing a slot back changes nobody's deadline. -/
theorem deadline?_freeSlot (b : Bulkhead) (ticket : Nat) :
    b.freeSlot.deadline? ticket = b.deadline? ticket := by
  have hf := b.freed_freeSlot
  generalize b.freeSlot = b' at hf
  cases hf with
  | @handed before after w hopen hqueue hbefore hw =>
    simp only [deadline?, waiter?, hqueue, List.find?_append, List.find?_cons]
    cases before.find? (·.ticket == ticket) with
    | some v => rfl
    | none =>
      simp only [Option.none_or]
      cases hkey : w.ticket == ticket <;> rfl
  | kept hwhy => rfl

private theorem deadline?_withdraw (b : Bulkhead) {other : Nat} (hne : other ≠ ticket) :
    (b.withdraw ticket).deadline? other = b.deadline? other := by
  have hkept : (fun w : Waiter ↦ decide ((w.ticket != ticket) = true ∧ (w.ticket == other) = true)) =
      fun w ↦ w.ticket == other := by
    funext w
    by_cases hw : w.ticket = other
    · simp [hw, hne]
    · simp [hw]
  simp only [deadline?, waiter?, withdraw, List.find?_filter, hkept]

/-- Leaving the queue changes nobody else's deadline. -/
theorem deadline?_abandon (b : Bulkhead) {other : Nat} (hne : other ≠ ticket) :
    (b.abandon ticket).deadline? other = b.deadline? other := by
  unfold abandon
  split
  · split
    · exact ((b.withdraw ticket).deadline?_freeSlot other).trans (b.deadline?_withdraw hne)
    · exact b.deadline?_withdraw hne
  · rfl

/-- Coming for a slot changes nobody else's deadline. -/
theorem deadline?_of_claim? {admitted : Bool} (hc : b.claim? ticket now = some (b', admitted))
    {other : Nat} (hne : other ≠ ticket) : b'.deadline? other = b.deadline? other := by
  obtain ⟨-, rfl⟩ | ⟨-, rfl⟩ := eq_of_claim? hc
  · exact b.deadline?_withdraw hne
  · exact b.deadline?_abandon hne

/-- Who joins the queue gives up after the longest wait. -/
theorem Seats.deadline?_of_request {holders : Nat} {tickets : List Nat}
    (h : b.Seats holders tickets) (hr : b.request now = (b', .wait ticket)) :
    b'.deadline? ticket = some (now + b.config.maxWait) := by
  have hreq := b.requested_request now
  rw [hr] at hreq
  cases hreq with
  | queued hopen hfull hwait hroom =>
    -- nobody in the queue has the new ticket yet
    have hnone : b.queue.find? (·.ticket == b.nextTicket) = none := by
      rw [List.find?_eq_none]
      intro w hw hkey
      have hmem := h.queue_perm.mem_iff.mp (List.mem_map_of_mem hw)
      exact absurd (beq_iff_eq.mp hkey) (Nat.ne_of_lt (h.fresh _ hmem))
    simp [deadline?, waiter?, List.find?_append, hnone]

/-- Who asks for a slot changes nobody's deadline. -/
theorem deadline?_request {moment : Nat} (h : b.deadline? ticket = some moment) (now : Nat) :
    (b.request now).1.deadline? ticket = some moment := by
  have hreq := b.requested_request now
  generalize b.request now = answered at hreq
  cases hreq with
  | admitted hopen hfree | rejected hwhy => exact h
  | queued hopen hfull hwait hroom =>
    obtain ⟨w, hw, hdeadline⟩ := Option.map_eq_some_iff.mp h
    rw [waiter?] at hw
    simp [deadline?, waiter?, List.find?_append, hw, hdeadline]

/-! ### Nobody waits for a slot that is free -/

/-- While a slot is free, everyone in the queue has one set aside. -/
def Eager (b : Bulkhead) : Prop :=
  b.closed = false → 0 < b.free → ∀ w ∈ b.queue, w.assigned = true

private theorem Eager.freeSlot (h : b.Eager) : b.freeSlot.Eager := by
  have hf := b.freed_freeSlot
  generalize b.freeSlot = b' at hf
  cases hf with
  | @handed before after w hopen hqueue hbefore hw =>
    intro _ hfree
    have hassigned := h hopen hfree w (hqueue ▸ List.mem_append_right _ List.mem_cons_self)
    rw [hw] at hassigned
    cases hassigned
  | kept hwhy =>
    intro hopen _
    obtain hclosed | hall := hwhy
    · exact absurd (hopen.symm.trans hclosed) Bool.false_ne_true
    · exact hall

private theorem Eager.withdraw (h : b.Eager) (ticket : Nat) : (b.withdraw ticket).Eager :=
  fun hopen hfree w hw ↦ h hopen hfree w (List.mem_of_mem_filter hw)

private theorem Eager.request (h : b.Eager) (now : Nat) : (b.request now).1.Eager := by
  have hreq := b.requested_request now
  generalize b.request now = answered at hreq
  cases hreq with
  | admitted hopen hfree => exact fun hopen _ ↦ h hopen hfree
  | rejected hwhy => exact h
  | queued hopen hfull hwait hroom =>
    intro _ hfree
    exact absurd hfull (Nat.pos_iff_ne_zero.mp hfree)

private theorem Eager.abandon (h : b.Eager) (ticket : Nat) : (b.abandon ticket).Eager := by
  unfold Bulkhead.abandon
  split
  · split
    · exact (h.withdraw ticket).freeSlot
    · exact h.withdraw ticket
  · exact h

private theorem Eager.claim? (h : b.Eager) {admitted : Bool}
    (hc : b.claim? ticket now = some (b', admitted)) : b'.Eager := by
  obtain ⟨-, rfl⟩ | ⟨-, rfl⟩ := eq_of_claim? hc
  · exact h.withdraw ticket
  · exact h.abandon ticket

/-! ### Serving -/

/-- A bulkhead accounts for its callers. -/
structure Serves (b : Bulkhead) (callers : List CallerPlace) : Prop where
  seats : b.Seats (callers.countP CallerPlace.isInside) (callers.filterMap CallerPlace.ticket?)
  dated : ∀ ticket since, .waiting ticket since ∈ callers →
    b.deadline? ticket = some (since + b.config.maxWait)
  room : b.waiting ≤ b.config.maxWaiting
  eager : b.Eager
  admitted_eq : b.admitted = callers.countP CallerPlace.isAdmitted
  rejected_eq : b.rejected = callers.countP CallerPlace.isRejected

/-- In which order the callers are listed does not matter. -/
theorem Serves.perm (h : b.Serves callers) {callers' : List CallerPlace}
    (hp : callers.Perm callers') : b.Serves callers' where
  seats := hp.countP_eq CallerPlace.isInside ▸ h.seats.perm (hp.filterMap _)
  dated ticket since hm := h.dated ticket since (hp.mem_iff.mpr hm)
  room := h.room
  eager := h.eager
  admitted_eq := h.admitted_eq.trans (hp.countP_eq _)
  rejected_eq := h.rejected_eq.trans (hp.countP_eq _)

/-- Nobody has come to a new bulkhead. -/
theorem serves_new (name : String) (config : BulkheadConfig) : (new name config).Serves [] where
  seats := seats_new name config
  dated _ _ hm := nomatch hm
  room := Nat.zero_le _
  eager _ _ _ hw := nomatch hw
  admitted_eq := rfl
  rejected_eq := rfl

/-- Closing moves nobody. -/
theorem Serves.close (h : b.Serves callers) : b.close.Serves callers where
  seats := h.seats.close
  dated := h.dated
  room := h.room
  eager hopen := nomatch hopen
  admitted_eq := h.admitted_eq
  rejected_eq := h.rejected_eq

/-- Who comes is served. -/
theorem Serves.request (h : b.Serves callers) (now : Nat) :
    (b.request now).1.Serves (SlotAnswer.place now (b.request now).2 :: callers) := by
  have heager := h.eager.request now
  have hreq := b.requested_request now
  rcases hr : b.request now with ⟨b', answer⟩
  have hseats := h.seats.request hr
  rw [hr] at hreq heager
  cases hreq with
  | admitted hopen hfree =>
    refine ⟨?_, ?_, h.room, heager, ?_, h.rejected_eq⟩
    · rw [countP_cons_toNat]
      exact hseats
    · intro ticket since hm
      exact h.dated ticket since ((List.mem_cons.mp hm).resolve_left fun he ↦ nomatch he)
    · rw [countP_cons_toNat]
      exact congrArg (· + 1) h.admitted_eq
  | rejected hwhy =>
    refine ⟨hseats, ?_, h.room, heager, h.admitted_eq, ?_⟩
    · intro ticket since hm
      exact h.dated ticket since ((List.mem_cons.mp hm).resolve_left fun he ↦ nomatch he)
    · rw [countP_cons_toNat]
      exact congrArg (· + 1) h.rejected_eq
  | queued hopen hfull hwait hroom =>
    refine ⟨hseats, ?_, ?_, heager, h.admitted_eq, h.rejected_eq⟩
    · intro ticket since hm
      obtain hnew | hm := List.mem_cons.mp hm
      · cases hnew
        exact h.seats.deadline?_of_request hr
      · have hkept := deadline?_request (h.dated ticket since hm) now
        rw [hr] at hkept
        exact hkept
    · change (b.queue ++ _).length ≤ b.config.maxWaiting
      rw [List.length_append]
      exact hroom

private theorem waiting_withdraw_le (b : Bulkhead) (ticket : Nat) :
    (b.withdraw ticket).waiting ≤ b.waiting :=
  List.length_filter_le _ _

private theorem waiting_freeSlot (b : Bulkhead) : b.freeSlot.waiting = b.waiting := by
  have hf := b.freed_freeSlot
  generalize b.freeSlot = b' at hf
  cases hf with
  | handed hopen hqueue hbefore hw => simp [waiting, hqueue]
  | kept hwhy => rfl

private theorem waiting_abandon_le (b : Bulkhead) (ticket : Nat) :
    (b.abandon ticket).waiting ≤ b.waiting := by
  unfold abandon
  split
  · split
    · exact (b.withdraw ticket).waiting_freeSlot.trans_le (b.waiting_withdraw_le ticket)
    · exact b.waiting_withdraw_le ticket
  · exact Nat.le_refl _

private theorem waiting_le_of_claim? {admitted : Bool}
    (hc : b.claim? ticket now = some (b', admitted)) :
    b'.waiting ≤ b.waiting := by
  obtain ⟨-, rfl⟩ | ⟨-, rfl⟩ := eq_of_claim? hc
  · exact b.waiting_withdraw_le ticket
  · exact b.waiting_abandon_le ticket

private theorem Serves.ticket_ne (h : b.Serves (.waiting ticket since :: rest)) {other since' : Nat}
    (hm : .waiting other since' ∈ rest) : other ≠ ticket := by
  rintro rfl
  exact (List.nodup_cons.mp h.seats.nodup).1 (List.mem_filterMap.mpr ⟨_, hm, rfl⟩)

/-- The place of a caller that came for its slot. -/
def placeOf (admitted : Bool) : CallerPlace := if admitted then .inside else .rejected

/-- Who comes for its slot and is answered is served. -/
theorem Serves.claim? (h : b.Serves (.waiting ticket since :: rest)) {admitted : Bool}
    (hc : b.claim? ticket now = some (b', admitted)) : b'.Serves (placeOf admitted :: rest) := by
  obtain ⟨hadmitted, hrejected⟩ := counts_of_claim? hc
  obtain ⟨hconfig, -⟩ := settings_of_claim? hc
  have hqueue : b.Seats _ (ticket :: rest.filterMap CallerPlace.ticket?) := h.seats
  have hseats := hqueue.claim? hc
  rw [h.admitted_eq, countP_cons_toNat] at hadmitted
  rw [h.rejected_eq, countP_cons_toNat] at hrejected
  rw [countP_cons_toNat] at hseats
  refine ⟨?_, ?_, hconfig ▸ (waiting_le_of_claim? hc).trans h.room, h.eager.claim? hc, ?_, ?_⟩
  · rw [countP_cons_toNat]
    cases admitted <;> exact hseats
  · intro other since' hm
    have hother : .waiting other since' ∈ rest :=
      (List.mem_cons.mp hm).resolve_left fun he ↦ by cases admitted <;> cases he
    rw [deadline?_of_claim? hc (h.ticket_ne hother), hconfig]
    exact h.dated other since' (List.mem_cons_of_mem _ hother)
  · rw [countP_cons_toNat]
    cases admitted <;> exact hadmitted
  · rw [countP_cons_toNat]
    cases admitted <;> exact hrejected

/-- Who gives its slot back was served. -/
theorem Serves.freeSlot (h : b.Serves (.inside :: rest)) : b.freeSlot.Serves (.released :: rest) where
  seats := by
    have hseats := h.seats
    rw [countP_cons_toNat] at hseats
    have hheld : b.Seats (rest.countP CallerPlace.isInside + 1) _ := hseats
    exact hheld.freeSlot
  dated ticket since hm := by
    rw [deadline?_freeSlot, b.settings_freeSlot.1]
    exact h.dated ticket since (List.mem_cons_of_mem _
      ((List.mem_cons.mp hm).resolve_left fun he ↦ nomatch he))
  room := by
    rw [waiting_freeSlot, b.settings_freeSlot.1]
    exact h.room
  eager := h.eager.freeSlot
  admitted_eq := b.counts_freeSlot.1.trans h.admitted_eq
  rejected_eq := b.counts_freeSlot.2.trans h.rejected_eq

/-- Who leaves the queue was served. -/
theorem Serves.abandon (h : b.Serves (.waiting ticket since :: rest)) :
    (b.abandon ticket).Serves (.left :: rest) where
  seats := by
    have hqueue : b.Seats _ (ticket :: rest.filterMap CallerPlace.ticket?) := h.seats
    exact hqueue.abandon
  dated other since' hm := by
    have hother := (List.mem_cons.mp hm).resolve_left fun he ↦ nomatch he
    rw [b.deadline?_abandon (h.ticket_ne hother), (b.settings_abandon ticket).1]
    exact h.dated other since' (List.mem_cons_of_mem _ hother)
  room := by
    rw [(b.settings_abandon ticket).1]
    exact (b.waiting_abandon_le ticket).trans h.room
  eager := h.eager.abandon ticket
  admitted_eq := (b.counts_abandon ticket).1.trans h.admitted_eq
  rejected_eq := (b.counts_abandon ticket).2.trans h.rejected_eq

/-! ### While nobody can move -/

/-- A caller in the queue that cannot be answered yet has no slot set aside, and its wait is not
over. -/
theorem claim?_eq_none {w : Waiter} (hw : b.waiter? ticket = some w)
    (h : b.claim? ticket now = none) :
    b.closed = false ∧ w.assigned = false ∧ now < w.deadline := by
  simp only [Bulkhead.claim?, hw, Option.bind_eq_bind, Option.bind_some] at h
  split at h
  · cases h
  · next hopen =>
    split at h
    · cases h
    · next hassigned =>
      split at h
      · cases h
      · next hdue =>
        exact ⟨Bool.eq_false_iff.mpr hopen, Bool.eq_false_iff.mpr hassigned, Nat.lt_of_not_le hdue⟩

/-- While nobody can be answered, the slots are free or held, and whoever waits does so because
none is free and its wait is not over. -/
theorem Serves.settled (h : b.Serves callers)
    (hnone : ∀ ticket since, .waiting ticket since ∈ callers → b.claim? ticket now = none) :
    b.free + callers.countP CallerPlace.isInside = b.config.maxConcurrent ∧
      ∀ ticket since, .waiting ticket since ∈ callers →
        b.closed = false ∧ b.free = 0 ∧ now < since + b.config.maxWait := by
  have hin : ∀ w ∈ b.queue, ∃ since, .waiting w.ticket since ∈ callers := by
    intro w hw
    have hticket := h.seats.queue_perm.mem_iff.mp (List.mem_map_of_mem hw)
    obtain ⟨place, hplace, heq⟩ := List.mem_filterMap.mp hticket
    cases place with
    | waiting ticket since =>
      cases heq
      exact ⟨since, hplace⟩
    | inside | released | rejected | left => cases heq
  have hfound : ∀ w ∈ b.queue, b.waiter? w.ticket = some w := fun w hw ↦
    find?_key_of_mem (h.seats.queue_perm.nodup_iff.mpr h.seats.nodup) hw
  refine ⟨?_, ?_⟩
  · have hslots := h.seats.slots_eq
    have hzero : b.queue.countP (·.assigned) = 0 := by
      rw [List.countP_eq_zero]
      intro w hw
      obtain ⟨since, hplace⟩ := hin w hw
      rw [(claim?_eq_none (hfound w hw) (hnone w.ticket since hplace)).2.1]
      exact Bool.false_ne_true
    omega
  · intro ticket since hplace
    obtain ⟨w, hw, hdeadline⟩ := Option.map_eq_some_iff.mp (h.dated ticket since hplace)
    obtain ⟨hopen, hassigned, hwait⟩ := claim?_eq_none hw (hnone ticket since hplace)
    refine ⟨hopen, ?_, hdeadline ▸ hwait⟩
    by_contra hfree
    -- A free slot while this caller has none set aside: slots go to the queue first.
    have hall := h.eager hopen (Nat.pos_of_ne_zero hfree) w (List.mem_of_find?_eq_some hw)
    rw [hassigned] at hall
    cases hall

end Bulkhead

end GuardedDispatch
