import GuardedDispatch.Proofs.Bulkhead.Callers

/-!
# Admission to a bulkhead, in any order

An entrance is a bulkhead with everyone who asked it for a slot, and a clock. What can happen next
is an event, and an event that cannot happen leaves the entrance as it is, so a list of events is an
interleaving and every interleaving is one.

While nobody can move, slots are free or held and nobody waits for a free slot or beyond its time.
Who was rejected stays so, and who waits or comes once the bulkhead is closed is rejected.
-/

namespace GuardedDispatch

/-- One thing that happens at a bulkhead: somebody asks for a slot, a caller in the queue comes for
its slot, a caller gives its slot back or leaves the queue, the bulkhead closes, or time passes. -/
inductive EntranceEvent where
  | arrive
  | come (i : Nat)
  | release (i : Nat)
  | leave (i : Nat)
  | close
  | wait (duration : Nat)
  deriving DecidableEq, Repr

/-- A bulkhead with its callers, who are known by number. -/
structure Entrance where
  bulkhead : Bulkhead
  now : Nat
  callers : List CallerPlace := []

namespace Entrance

/-- A new bulkhead, to which nobody came yet. -/
def new (name : String) (config : BulkheadConfig) (start : Nat) : Entrance where
  bulkhead := .new name config
  now := start

/-- Lets an event happen. -/
def apply (t : Entrance) : EntranceEvent → Entrance
  | .arrive =>
    let (bulkhead, answer) := t.bulkhead.request t.now
    { t with bulkhead, callers := t.callers ++ [answer.place t.now] }
  | .come i =>
    match t.callers[i]? with
    | some (.waiting ticket _) =>
      match t.bulkhead.claim? ticket t.now with
      | some (bulkhead, admitted) =>
        { t with bulkhead, callers := t.callers.set i (Bulkhead.placeOf admitted) }
      | none => t
    | _ => t
  | .release i =>
    match t.callers[i]? with
    | some .inside =>
      { t with bulkhead := t.bulkhead.freeSlot, callers := t.callers.set i .released }
    | _ => t
  | .leave i =>
    match t.callers[i]? with
    | some (.waiting ticket _) =>
      { t with bulkhead := t.bulkhead.abandon ticket, callers := t.callers.set i .left }
    | _ => t
  | .close => { t with bulkhead := t.bulkhead.close }
  | .wait duration => { t with now := t.now + duration }

/-- Lets one event happen after another. -/
def run (t : Entrance) (events : List EntranceEvent) : Entrance := events.foldl apply t

/-- Nobody in the queue can be answered. -/
def Settled (t : Entrance) : Prop :=
  ∀ ticket since, .waiting ticket since ∈ t.callers → t.bulkhead.claim? ticket t.now = none

variable {t : Entrance} {i : Nat}

/-! ### Serving -/

/-- Every event leaves all callers served. -/
theorem serves_apply (h : t.bulkhead.Serves t.callers) (e : EntranceEvent) :
    (t.apply e).bulkhead.Serves (t.apply e).callers := by
  cases e with
  | arrive => exact (h.request t.now).perm (List.perm_append_singleton _ _).symm
  | come i =>
    simp only [apply]
    split
    · next ticket since hplace =>
      split
      · next b' admitted hclaim =>
        have hserved := h.perm (perm_cons_eraseIdx hplace)
        exact (hserved.claim? hclaim).perm (set_perm_cons_eraseIdx hplace _).symm
      · exact h
    · exact h
  | release i =>
    simp only [apply]
    split
    · next hplace =>
      have hserved := h.perm (perm_cons_eraseIdx hplace)
      exact hserved.freeSlot.perm (set_perm_cons_eraseIdx hplace _).symm
    · exact h
  | leave i =>
    simp only [apply]
    split
    · next ticket since hplace =>
      have hserved := h.perm (perm_cons_eraseIdx hplace)
      exact hserved.abandon.perm (set_perm_cons_eraseIdx hplace _).symm
    · exact h
  | close => exact h.close
  | wait duration => exact h

/-- All callers are served after every run. -/
theorem serves_run (h : t.bulkhead.Serves t.callers) (events : List EntranceEvent) :
    (t.run events).bulkhead.Serves (t.run events).callers := by
  induction events generalizing t with
  | nil => exact h
  | cons e rest ih => exact ih (serves_apply h e)

/-! ### What becomes of a caller -/

/-- What an event can make of a caller, under the bulkhead before it. -/
inductive Fate (b : Bulkhead) (now : Nat) : Option CallerPlace → Option CallerPlace → Prop
  | kept (place? : Option CallerPlace) : Fate b now place? place?
  | admitted (hopen : b.closed = false) (hfree : 0 < b.free) : Fate b now none (some .inside)
  | queued (hopen : b.closed = false) (hfull : b.free = 0) (ticket : Nat) :
      Fate b now none (some (.waiting ticket now))
  | turnedAway (hwhy : b.closed = true ∨
      b.free = 0 ∧ (b.config.maxWait = 0 ∨ b.config.maxWaiting ≤ b.waiting)) :
      Fate b now none (some .rejected)
  | seated (hopen : b.closed = false) (ticket since : Nat) :
      Fate b now (some (.waiting ticket since)) (some .inside)
  | gaveUp {ticket since : Nat} (hwhy : b.closed = true ∨
      ∃ w, b.waiter? ticket = some w ∧ w.assigned = false ∧ w.deadline ≤ now) :
      Fate b now (some (.waiting ticket since)) (some .rejected)
  | released : Fate b now (some .inside) (some .released)
  | left (ticket since : Nat) : Fate b now (some (.waiting ticket since)) (some .left)

private theorem fate_set {place place' : CallerPlace} (hplace : t.callers[i]? = some place)
    (hfate : Fate t.bulkhead t.now (some place) (some place')) (j : Nat) :
    Fate t.bulkhead t.now t.callers[j]? (t.callers.set i place')[j]? := by
  by_cases hij : i = j
  · subst hij
    rw [hplace, getElem?_set_of_some hplace]
    exact hfate
  · rw [List.getElem?_set_ne hij]
    exact .kept _

/-- Every event does one of these to a caller. -/
theorem fate_apply (t : Entrance) (e : EntranceEvent) (j : Nat) :
    Fate t.bulkhead t.now t.callers[j]? (t.apply e).callers[j]? := by
  cases e with
  | arrive =>
    have hreq := t.bulkhead.requested_request t.now
    simp only [apply]
    generalize t.bulkhead.request t.now = answered at hreq
    obtain hj | rfl | hj := Nat.lt_trichotomy j t.callers.length
    · rw [List.getElem?_append_left hj]
      exact .kept _
    · rw [List.getElem?_concat_length, List.getElem?_eq_none (Nat.le_refl _)]
      cases hreq with
      | admitted hopen hfree => exact .admitted hopen hfree
      | rejected hwhy => exact .turnedAway hwhy
      | queued hopen hfull hwait hroom => exact .queued hopen hfull _
    · rw [List.getElem?_eq_none (Nat.le_of_lt hj), List.getElem?_eq_none]
      · exact .kept _
      · rw [List.length_append]
        exact hj
  | come i =>
    simp only [apply]
    split
    · next ticket since hplace =>
      split
      · next b' admitted hclaim =>
        refine fate_set hplace ?_ j
        cases Bulkhead.claimed_of_claim? hclaim with
        | admitted hw hopen hassigned => exact .seated hopen ticket since
        | shut hw hclosed => exact .gaveUp (.inl hclosed)
        | expired hw hopen hassigned hdue => exact .gaveUp (.inr ⟨_, hw, hassigned, hdue⟩)
      · exact .kept _
    · exact .kept _
  | release i =>
    simp only [apply]
    split
    · next hplace => exact fate_set hplace .released j
    · exact .kept _
  | leave i =>
    simp only [apply]
    split
    · next ticket since hplace => exact fate_set hplace (.left ticket since) j
    · exact .kept _
  | close | wait duration => exact .kept _

/-- Who was rejected stays rejected. -/
theorem rejected_apply (h : t.callers[i]? = some .rejected) (e : EntranceEvent) :
    (t.apply e).callers[i]? = some .rejected := by
  have hfate := fate_apply t e i
  rw [h] at hfate
  generalize (t.apply e).callers[i]? = place? at hfate ⊢
  cases hfate with
  | kept => rfl

/-- Who was rejected stays rejected in every run. -/
theorem rejected_run (h : t.callers[i]? = some .rejected) (events : List EntranceEvent) :
    (t.run events).callers[i]? = some .rejected := by
  induction events generalizing t with
  | nil => exact h
  | cons e rest ih => exact ih (rejected_apply h e)

/-- Why a caller can be turned away: the bulkhead is closed, or there is no slot and no place in the
queue for a newcomer, or the caller waited its time and no slot was set aside for it. -/
def TurnsAway (t : Entrance) (i : Nat) : Prop :=
  t.bulkhead.closed = true ∨
    (t.callers[i]? = none ∧ t.bulkhead.free = 0 ∧
      (t.bulkhead.config.maxWait = 0 ∨ t.bulkhead.config.maxWaiting ≤ t.bulkhead.waiting)) ∨
    ∃ ticket since w, t.callers[i]? = some (.waiting ticket since) ∧
      t.bulkhead.waiter? ticket = some w ∧ w.assigned = false ∧
      since + t.bulkhead.config.maxWait ≤ t.now

private theorem turnsAway_of_rejected (h : t.bulkhead.Serves t.callers) {e : EntranceEvent}
    (hbefore : t.callers[i]? ≠ some .rejected) (hafter : (t.apply e).callers[i]? = some .rejected) :
    t.TurnsAway i := by
  have hfate := fate_apply t e i
  rw [hafter] at hfate
  unfold TurnsAway
  generalize hplace : t.callers[i]? = place? at hfate hbefore ⊢
  cases hfate with
  | kept => exact absurd rfl hbefore
  | turnedAway hwhy =>
    obtain hclosed | hfull := hwhy
    · exact .inl hclosed
    · exact .inr (.inl ⟨rfl, hfull⟩)
  | @gaveUp ticket since hwhy =>
    obtain hclosed | ⟨w, hw, hassigned, hdue⟩ := hwhy
    · exact .inl hclosed
    · have hdated := h.dated ticket since (List.mem_of_getElem? hplace)
      rw [Bulkhead.deadline?, hw, Option.map_some, Option.some_inj] at hdated
      exact .inr (.inr ⟨ticket, since, w, rfl, hw, hassigned, hdated ▸ hdue⟩)

/-! ### Settings and closing -/

/-- Every event leaves the settings alone, and a closed bulkhead closed. -/
theorem settings_apply (t : Entrance) (e : EntranceEvent) :
    (t.apply e).bulkhead.config = t.bulkhead.config ∧
      (t.bulkhead.closed = true → (t.apply e).bulkhead.closed = true) := by
  cases e with
  | arrive => exact (t.bulkhead.settings_request t.now).imp_right fun hkept h ↦ hkept.trans h
  | come i =>
    simp only [apply]
    split
    · split
      · next hclaim =>
        exact (Bulkhead.settings_of_claim? hclaim).imp_right fun hkept h ↦ hkept.trans h
      · exact ⟨rfl, id⟩
    · exact ⟨rfl, id⟩
  | release i =>
    simp only [apply]
    split
    · exact t.bulkhead.settings_freeSlot.imp_right fun hkept h ↦ hkept.trans h
    · exact ⟨rfl, id⟩
  | leave i =>
    simp only [apply]
    split
    · exact (t.bulkhead.settings_abandon _).imp_right fun hkept h ↦ hkept.trans h
    · exact ⟨rfl, id⟩
  | close => exact ⟨rfl, fun _ ↦ rfl⟩
  | wait duration => exact ⟨rfl, id⟩

/-- Every run leaves the settings alone, and a closed bulkhead closed. -/
theorem settings_run (t : Entrance) (events : List EntranceEvent) :
    (t.run events).bulkhead.config = t.bulkhead.config ∧
      (t.bulkhead.closed = true → (t.run events).bulkhead.closed = true) := by
  induction events generalizing t with
  | nil => exact ⟨rfl, id⟩
  | cons e rest ih =>
    obtain ⟨hconfig, hclosed⟩ := t.settings_apply e
    obtain ⟨hconfig', hclosed'⟩ := ih (t.apply e)
    exact ⟨hconfig'.trans hconfig, fun h ↦ hclosed' (hclosed h)⟩

/-- A caller has or had a slot. -/
def Admitted (t : Entrance) (i : Nat) : Prop :=
  ∃ place, t.callers[i]? = some place ∧ place.isAdmitted = true

/-- A closed bulkhead admits nobody. -/
theorem admitted_of_apply (hclosed : t.bulkhead.closed = true) {e : EntranceEvent}
    (h : (t.apply e).Admitted i) : t.Admitted i := by
  obtain ⟨place, hplace, hin⟩ := h
  have hfate := fate_apply t e i
  rw [hplace] at hfate
  unfold Admitted
  generalize t.callers[i]? = place? at hfate ⊢
  cases hfate with
  | kept => exact ⟨place, rfl, hin⟩
  | admitted hopen hfree => exact absurd (hopen.symm.trans hclosed) Bool.false_ne_true
  | seated hopen ticket since => exact absurd (hopen.symm.trans hclosed) Bool.false_ne_true
  | released => exact ⟨.inside, rfl, rfl⟩
  | queued hopen hfull ticket | turnedAway hwhy | gaveUp hwhy | left ticket since => cases hin

/-- A closed bulkhead admits nobody in any run. -/
theorem admitted_of_run (hclosed : t.bulkhead.closed = true) {events : List EntranceEvent}
    (h : (t.run events).Admitted i) : t.Admitted i := by
  induction events generalizing t with
  | nil => exact h
  | cons e rest ih =>
    exact admitted_of_apply hclosed (ih ((t.settings_apply e).2 hclosed) h)

private theorem callers_arrive_of_closed (hclosed : t.bulkhead.closed = true) :
    (t.apply .arrive).callers = t.callers ++ [.rejected] := by
  simp only [apply, Bulkhead.request, hclosed, if_true, SlotAnswer.place]

private theorem rejected_come_of_closed (h : t.bulkhead.Serves t.callers)
    (hclosed : t.bulkhead.closed = true) {ticket since : Nat}
    (hplace : t.callers[i]? = some (.waiting ticket since)) :
    (t.apply (.come i)).callers[i]? = some .rejected := by
  obtain ⟨w, hw, -⟩ := Option.map_eq_some_iff.mp
    (h.dated ticket since (List.mem_of_getElem? hplace))
  simp only [apply, hplace, Bulkhead.claim?, hw, hclosed, Option.bind_eq_bind, Option.bind_some,
    if_true]
  exact getElem?_set_of_some hplace _

/-! ### Counting callers -/

/-- Only who asks for a slot is a new caller. -/
theorem length_callers_apply (t : Entrance) (e : EntranceEvent) :
    (t.apply e).callers.length = t.callers.length + (e == .arrive).toNat := by
  cases e with
  | arrive => exact List.length_append
  | come i | release i | leave i =>
    simp only [apply]
    split <;> try split
    all_goals first | rfl | exact List.length_set
  | close | wait duration => rfl

/-- There are as many callers as asked for a slot. -/
theorem length_callers_run (t : Entrance) (events : List EntranceEvent) :
    (t.run events).callers.length = t.callers.length + events.countP (· == .arrive) := by
  induction events generalizing t with
  | nil => rfl
  | cons e rest ih =>
    rw [run, List.foldl_cons, ← run, ih, length_callers_apply, countP_cons_toNat]
    omega

private theorem length_eq_places (callers : List CallerPlace) :
    callers.countP CallerPlace.isAdmitted + callers.countP CallerPlace.isRejected +
        (callers.filterMap CallerPlace.ticket?).length + callers.countP CallerPlace.isLeft =
      callers.length := by
  induction callers with
  | nil => rfl
  | cons place rest ih =>
    simp only [countP_cons_toNat, filterMap_cons_toList, List.length_append, List.length_cons]
    cases place <;>
      simp only [CallerPlace.isAdmitted, CallerPlace.isRejected, CallerPlace.ticket?,
        CallerPlace.isLeft, Bool.toNat_true, Bool.toNat_false, Option.toList, List.length_nil,
        List.length_singleton] <;>
      omega

/-! ### Nobody waits for ever -/

private theorem waiting_come_lt (h : t.bulkhead.Serves t.callers) {ticket since : Nat}
    (hplace : t.callers[i]? = some (.waiting ticket since))
    (hready : t.bulkhead.claim? ticket t.now ≠ none) :
    (t.apply (.come i)).bulkhead.waiting < t.bulkhead.waiting := by
  obtain ⟨⟨b', admitted⟩, hclaim⟩ := Option.ne_none_iff_exists'.mp hready
  have hserved := h.perm (perm_cons_eraseIdx hplace)
  have hqueue := hserved.seats.waiting_eq
  have hleft := (hserved.claim? hclaim).seats.waiting_eq
  simp only [apply, hplace, hclaim]
  rw [hqueue, hleft]
  cases admitted <;> exact Nat.lt_succ_self _

private theorem exists_comes_settled (h : t.bulkhead.Serves t.callers) :
    ∃ comes : List Nat, (t.run (comes.map .come)).Settled := by
  -- Nobody joins the queue meanwhile, so each caller that is answered makes it shorter.
  induction hn : t.bulkhead.waiting using Nat.strong_induction_on generalizing t with
  | _ n ih =>
    by_cases hsettled : t.Settled
    · exact ⟨[], hsettled⟩
    · simp only [Settled, not_forall] at hsettled
      obtain ⟨ticket, since, hmem, hready⟩ := hsettled
      obtain ⟨i, hplace⟩ := List.mem_iff_getElem?.mp hmem
      have hlt := waiting_come_lt h hplace hready
      obtain ⟨comes, hcomes⟩ := ih _ (hn ▸ hlt) (serves_apply h (.come i)) rfl
      exact ⟨i :: comes, hcomes⟩

/-! ### The law of admission -/

/-- However callers come, leave, give their slots back and time passes: the queue is never too
long, and every caller was admitted or rejected, waits, or left. While nobody can be answered the
slots are free or held, and whoever waits does so while none is free and its time is not over.
Nobody is rejected without a reason, and who was rejected is never given a slot. Once the bulkhead is
closed no other caller is ever given one: who comes is rejected, and so is who waited, unless it
left. -/
theorem every_caller_accounted_for (name : String) (config : BulkheadConfig) (start : Nat)
    (events : List EntranceEvent) :
    let t := (new name config start).run events
    t.bulkhead.waiting ≤ config.maxWaiting ∧
      t.bulkhead.admitted + t.bulkhead.rejected + t.bulkhead.waiting +
          t.callers.countP CallerPlace.isLeft = events.countP (· == .arrive) ∧
      (∃ comes : List Nat, (t.run (comes.map .come)).Settled) ∧
      (t.Settled →
        t.bulkhead.free + t.callers.countP CallerPlace.isInside = config.maxConcurrent ∧
          ∀ ticket since, .waiting ticket since ∈ t.callers →
            t.bulkhead.closed = false ∧ t.bulkhead.free = 0 ∧ t.now < since + config.maxWait) ∧
      (∀ (i : Nat) (e : EntranceEvent), t.callers[i]? ≠ some .rejected →
        (t.apply e).callers[i]? = some .rejected → t.TurnsAway i) ∧
      (∀ (i : Nat) (later : List EntranceEvent), t.callers[i]? = some .rejected →
        (t.run later).callers[i]? = some .rejected) ∧
      (t.bulkhead.closed = true →
        (t.apply .arrive).callers = t.callers ++ [.rejected] ∧
          (∀ (i ticket since : Nat), t.callers[i]? = some (.waiting ticket since) →
            (t.apply (.come i)).callers[i]? = some .rejected) ∧
          ∀ later, (t.run later).bulkhead.closed = true ∧
            ∀ (i : Nat) (place : CallerPlace), ¬ t.Admitted i →
              (t.run later).callers[i]? = some place → place.isAdmitted = false ∧
                ((t.run later).Settled → place = .rejected ∨ place = .left)) := by
  intro t
  have hserves : t.bulkhead.Serves t.callers := serves_run (Bulkhead.serves_new name config) events
  have hconfig : t.bulkhead.config = config := (settings_run (new name config start) events).1
  have hcount : t.callers.length = events.countP (· == .arrive) :=
    (length_callers_run (new name config start) events).trans (Nat.zero_add _)
  refine ⟨hconfig ▸ hserves.room, ?_, exists_comes_settled hserves, fun hsettled ↦ ?_,
    fun i e hbefore hafter ↦ turnsAway_of_rejected hserves hbefore hafter,
    fun i later h ↦ rejected_run h later, fun hclosed ↦ ⟨callers_arrive_of_closed hclosed,
      fun i ticket since hplace ↦ rejected_come_of_closed hserves hclosed hplace, fun later ↦ ?_⟩⟩
  · rw [hserves.admitted_eq, hserves.rejected_eq, hserves.seats.waiting_eq, length_eq_places, hcount]
  · exact hconfig ▸ hserves.settled hsettled
  · have hstill := (t.settings_run later).2 hclosed
    refine ⟨hstill, fun i place hout hplace ↦ ?_⟩
    have hnever : place.isAdmitted = false := Bool.eq_false_iff.mpr fun hin ↦
      hout (admitted_of_run hclosed ⟨place, hplace, hin⟩)
    refine ⟨hnever, fun hsettled ↦ ?_⟩
    cases place with
    | waiting ticket since =>
      -- nobody waits at a closed bulkhead that has answered everyone
      obtain ⟨hopen, -⟩ := ((serves_run hserves later).settled hsettled).2 ticket since
        (List.mem_of_getElem? hplace)
      exact absurd (hopen.symm.trans hstill) Bool.false_ne_true
    | inside | released => cases hnever
    | rejected => exact .inl rfl
    | left => exact .inr rfl

/-- One slot and one place in the queue: the second caller is given the slot of the first, the third
finds the queue full, the fourth waits too long, and the last ones find the bulkhead closed. -/
theorem every_caller_accounted_for_at_one_slot :
    let before : List EntranceEvent :=
      [.arrive, .arrive, .arrive, .release 0, .come 1, .arrive, .wait 10, .come 3, .arrive]
    let t := (new "orders" ⟨1, 10, 1⟩ 0).run (before ++ [.close])
    t.callers = [.released, .inside, .rejected, .rejected, .waiting 2 10] ∧
      t.bulkhead.admitted + t.bulkhead.rejected + t.bulkhead.waiting +
        t.callers.countP CallerPlace.isLeft = 5 ∧
      (t.run [.come 4]).Settled ∧ ∀ place, (t.run [.come 4]).callers[4]? = some place →
        place = .rejected ∨ place = .left := by
  intro before t
  obtain ⟨-, hcount, -, -, -, -, hshut⟩ :=
    every_caller_accounted_for "orders" ⟨1, 10, 1⟩ 0 (before ++ [.close])
  have hsettled : (t.run [.come 4]).Settled := by
    intro ticket since hmem
    have hcallers : (t.run [.come 4]).callers =
      [.released, .inside, .rejected, .rejected, .rejected] := by decide
    rw [hcallers] at hmem
    simp at hmem
  have hout : ¬ t.Admitted 4 := by
    rintro ⟨place, hplace, hin⟩
    have hwaits : t.callers[4]? = some (.waiting 2 10) := by decide
    rw [hwaits] at hplace
    cases hplace
    cases hin
  exact ⟨by decide, hcount, hsettled, fun place hplace ↦
    (((hshut (by decide)).2.2 [.come 4]).2 4 place hout hplace).2 hsettled⟩

end Entrance

end GuardedDispatch
