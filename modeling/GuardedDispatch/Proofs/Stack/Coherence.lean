import GuardedDispatch.Proofs.Stack.Crowd

/-!
# What holds in every crowd

In whatever order the calls of a crowd take their steps, the stack is balanced with the calls under
way and tallied with all that came, every call is regular and charged for how far it has come, and
the log holds the start of every attempt that began.
-/

namespace GuardedDispatch

variable {σ ε α : Type}

/-- What a call is charged with under a stack with some layers: one slot if it passed the bulkhead,
one permit if it passed the rate limiter, and a rejection only if one of them sent it away. -/
structure Visit.Charged (v : Visit σ ε α) (layout : Bool × Bool × Bool × Bool × Bool) : Prop where
  slots : layout.1 = true → v.slots = v.call.standing.isAdmitted.toNat
  permits : layout.2.1 = true → v.permits = v.call.standing.isPermitted.toNat
  rejected : 0 < v.rejections → v.call.standing.isRejected = true

namespace Stack

variable {τ : Type} {op : Operation τ ε α} {now : Nat} {s s' : Stack} {env env' : τ}
  {v : Visit σ ε α} {c' : Call ε α} {rest : List (Call ε α)}

/-- The growth of a count is the growth of the one entry that changed. -/
private theorem toNat_add_sub {x y : Bool} (h : x = true → y = true) (n : Nat) :
    x.toNat + (n + y.toNat - (n + x.toNat)) = y.toNat := by
  cases x with
  | false =>
    rw [Bool.toNat_false]
    omega
  | true =>
    rw [h rfl, Bool.toNat_true]
    omega

private theorem Moved.charged (hm : Moved op now s env v.call s' env' c') (h : v.Charged s.layout)
    (hc : v.call.Regular s.breaker?.isSome) (ht : s.Tallied (v.call :: rest)) :
    (v.moved s s' c').Charged s'.layout := by
  have ht' := ht.moved hc hm
  have hpasses := hm.passes hc
  have hlayout := hm.layout_eq
  have hbulkhead : s'.bulkhead?.isSome = s.bulkhead?.isSome := congrArg (·.1) hlayout
  have hlimiter : s'.rateLimiter?.isSome = s.rateLimiter?.isSome := congrArg (·.2.1) hlayout
  refine ⟨fun hb' ↦ ?_, fun hl' ↦ ?_, fun hr ↦ ?_⟩
  · have hb := hbulkhead.symm.trans hb'
    change v.slots + (s'.admissions - s.admissions) = c'.standing.isAdmitted.toNat
    rw [ht.admissions_eq hb, ht'.admissions_eq hb', h.slots hb, countP_cons_toNat,
      countP_cons_toNat]
    exact toNat_add_sub hpasses.mono.1 _
  · have hl := hlimiter.symm.trans hl'
    change v.permits + (s'.grants - s.grants) = c'.standing.isPermitted.toNat
    rw [ht.grants_eq hl, ht'.grants_eq hl', h.permits hl, countP_cons_toNat, countP_cons_toNat]
    exact toNat_add_sub hpasses.mono.2 _
  · change c'.standing.isRejected = true
    change 0 < v.rejections + (s'.rejections - s.rejections) at hr
    by_cases hbefore : 0 < v.rejections
    · rw [hpasses.of_isRejected (h.rejected hbefore)]
      exact h.rejected hbefore
    · -- a rejection was counted in this step, and only this call can have been rejected
      by_contra hnot
      obtain ⟨hturned, hlimited⟩ :
          c'.standing.isTurnedAway = false ∧ c'.standing.isLimited = false := by
        simpa [Standing.isRejected] using hnot
      rw [ht.rejections_eq, ht'.rejections_eq, hbulkhead, hlimiter] at hr
      simp only [countP_cons_toNat, hturned, hlimited, Bool.toNat_false] at hr
      split at hr <;> split at hr <;> omega

end Stack

namespace Crowd

/-- What holds in every crowd. -/
structure Coherent (t : Crowd σ ε α) : Prop where
  balanced : t.stack.Balanced t.places
  tallied : t.stack.Tallied t.calls
  regular : ∀ v ∈ t.visits, v.call.Regular t.stack.breaker?.isSome
  charged : ∀ v ∈ t.visits, v.Charged t.stack.layout
  starts : t.log.countP (·.2.isStart) = (t.calls.map (·.begun.length)).sum
  noted : ∀ x ∈ t.log, ∃ v, t.visits[x.1]? = some v ∧ v.call.begun ≠ []

variable {t : Crowd σ ε α} {i : Nat} {v v' : Visit σ ε α}

/-- A call with a number that is under way came, and was not taken away. -/
theorem visit?_eq_some : t.visit? i = some v ↔ t.visits[i]? = some v ∧ v.gone = false := by
  rw [visit?, Option.filter_eq_some_iff, Bool.not_eq_true']

/-- A step of a call is a step under the stack, noted and charged, or nothing happens. -/
theorem apply_move (t : Crowd σ ε α) (i : Nat) :
    t.apply (.move i) = t ∨ ∃ v s' env' log' c', t.visit? i = some v ∧
      t.stack.step? (v.op.noted i) v.eligible t.now (t.env, t.log) v.call =
        some (s', (env', log'), c') ∧
      t.apply (.move i) =
        { t with
          stack := s'
          env := env'
          log := log'
          visits := t.visits.set i (v.moved t.stack s' c') } := by
  simp only [apply]
  split
  · next v hv =>
    split
    · next s' env' log' c' hstep => exact .inr ⟨v, s', env', log', c', hv, hstep, rfl⟩
    · exact .inl rfl
  · exact .inl rfl

/-- The places of a crowd, with that of one call in front. -/
theorem places_perm (hv : t.visit? i = some v) :
    t.places.Perm (v.call.phase :: (t.visits.eraseIdx i).filterMap Visit.place?) := by
  obtain ⟨hv, hgone⟩ := visit?_eq_some.mp hv
  have hperm := (perm_cons_eraseIdx hv).filterMap Visit.place?
  rwa [List.filterMap_cons_some (Visit.place?_of_present hgone)] at hperm

/-- No event adds or removes a layer. -/
theorem layout_apply (t : Crowd σ ε α) (e : CrowdEvent σ ε α) :
    (t.apply e).stack.layout = t.stack.layout := by
  cases e with
  | move i =>
    obtain he | ⟨v, s', env', log', c', hv, hstep, he⟩ := t.apply_move i
    · rw [he]
    · rw [he]
      exact (Stack.moved_of_step? hstep).layout_eq
  | drop i =>
    simp only [apply]
    split
    · next v hv => exact t.stack.layout_drop v.call t.now
    · rfl
  | arrive options op eligible | shift env | wait duration => rfl
  | close => simp only [apply, Stack.layout, Stack.close, Option.isSome_map]
  | trip | reset | reconfigure config =>
    simp only [apply, Stack.layout, Stack.mapBreaker, Option.isSome_map]
  | observe => simp only [apply, Stack.layout, Stack.observe, Option.isSome_map]

/-- A stack has the layers it was built with. -/
theorem layout_run (name : String) (config : StackConfig) (env : σ) (start : Nat)
    (events : List (CrowdEvent σ ε α)) :
    ((new name config env start).run events).stack.layout =
      (config.bulkhead?.isSome, config.rateLimiter?.isSome, config.retries?.isSome,
        config.breaker?.isSome, config.timeLimiter?.isSome) := by
  refine run_keeps (fun t e h ↦ (t.layout_apply e).trans h) ?_ events
  simp only [new, Stack.new, Stack.layout, Option.isSome_map]

/-- Nothing holds anything of a new stack, and nothing was counted. -/
theorem coherent_new (name : String) (config : StackConfig) (env : σ) (start : Nat) :
    (new name config env start : Crowd σ ε α).Coherent where
  balanced := Stack.balanced_new name config start
  tallied := Stack.tallied_new name config start
  regular _ hv := nomatch hv
  charged _ hv := nomatch hv
  starts := rfl
  noted _ hx := nomatch hx

private theorem Coherent.arrive (h : t.Coherent) (options : CallOptions) (op : Operation σ ε α)
    (eligible : PolicyFailure ε → Bool) : (t.apply (.arrive options op eligible)).Coherent where
  balanced := by
    have hperm := (List.perm_append_singleton ({ op, eligible, call := { options } } : Visit σ ε α)
      t.visits).filterMap Visit.place?
    exact (Stack.balanced_cons_idle rfl |>.mpr h.balanced).perm hperm.symm
  tallied := by
    have hperm := (List.perm_append_singleton ({ op, eligible, call := { options } } : Visit σ ε α)
      t.visits).map Visit.call
    exact (Stack.tallied_cons_arriving options |>.mpr h.tallied).perm hperm.symm
  regular w hw := by
    obtain hw | hw := List.mem_append.mp hw
    · exact h.regular w hw
    · rw [List.mem_singleton.mp hw]
      exact Call.regular_arriving options _
  charged w hw := by
    obtain hw | hw := List.mem_append.mp hw
    · exact h.charged w hw
    · rw [List.mem_singleton.mp hw]
      exact ⟨fun _ ↦ rfl, fun _ ↦ rfl, fun hr ↦ absurd hr (Nat.lt_irrefl 0)⟩
  starts := by
    rw [calls, apply, List.map_append, List.map_append, List.sum_append]
    exact h.starts
  noted x hx := by
    obtain ⟨w, hw, hbegun⟩ := h.noted x hx
    refine ⟨w, ?_, hbegun⟩
    rw [apply, List.getElem?_append_left (List.getElem?_eq_some_iff.mp hw).1]
    exact hw

private theorem Coherent.move (h : t.Coherent) (i : Nat) : (t.apply (.move i)).Coherent := by
  obtain he | ⟨v, s', env', log', c', hv, hstep, he⟩ := t.apply_move i
  · rw [he]
    exact h
  obtain ⟨hat, hgone⟩ := visit?_eq_some.mp hv
  have hm := Stack.moved_of_step? hstep
  have hgone' : (v.moved t.stack s' c').gone = false := hgone
  have hmem := List.mem_of_getElem? hat
  have hafter := set_perm_cons_eraseIdx hat (v.moved t.stack s' c')
  have htallied := h.tallied.perm ((perm_cons_eraseIdx hat).map Visit.call)
  have hguarded : s'.breaker?.isSome = t.stack.breaker?.isSome :=
    congrArg (·.2.2.2.1) hm.layout_eq
  rw [he]
  refine ⟨?_, ?_, ?_, ?_, ?_, ?_⟩
  · have hplaces := hafter.filterMap Visit.place?
    rw [List.filterMap_cons_some (Visit.place?_of_present hgone')] at hplaces
    exact ((h.balanced.perm (places_perm hv)).moved hm).perm hplaces.symm
  · exact (htallied.moved (h.regular v hmem) hm).perm (hafter.map Visit.call).symm
  · intro w hw
    rw [hguarded]
    obtain hw | rfl := List.mem_or_eq_of_mem_set hw
    · exact h.regular w hw
    · exact hm.regular (h.regular v hmem)
  · intro w hw
    obtain hw | rfl := List.mem_or_eq_of_mem_set hw
    · rw [hm.layout_eq]
      exact h.charged w hw
    · exact hm.charged (h.charged v hmem) (h.regular v hmem) htallied
  · have hstarts := hm.starts
    have hold := (((perm_cons_eraseIdx hat).map Visit.call).map (·.begun.length)).sum_eq
    have hnew := ((hafter.map Visit.call).map (·.begun.length)).sum_eq
    have hbefore := h.starts
    rw [calls, hold] at hbefore
    rw [calls, hnew]
    simp only [List.map_cons, List.sum_cons] at hbefore ⊢
    change _ = c'.begun.length + _
    omega
  · intro x hx
    obtain hx | ⟨rfl, hbegun⟩ := hm.begun_of_noted (h.regular v hmem) hx
    · obtain ⟨w, hw, hbegun⟩ := h.noted x hx
      by_cases hi : i = x.1
      · subst hi
        cases hat.symm.trans hw
        exact ⟨_, getElem?_set_of_some hat _, hm.begun_ne_nil hbegun⟩
      · exact ⟨w, (List.getElem?_set_ne hi).trans hw, hbegun⟩
    · exact ⟨_, getElem?_set_of_some hat _, hbegun⟩

private theorem Coherent.drop (h : t.Coherent) (i : Nat) : (t.apply (.drop i)).Coherent := by
  simp only [apply]
  split
  · next v hv =>
    obtain ⟨hat, hgone⟩ := visit?_eq_some.mp hv
    have hmem := List.mem_of_getElem? hat
    have hafter := set_perm_cons_eraseIdx hat { v with gone := true }
    have hcalls : (t.visits.set i { v with gone := true }).map Visit.call |>.Perm t.calls :=
      (hafter.map Visit.call).trans ((perm_cons_eraseIdx hat).map Visit.call).symm
    have hlayout := t.stack.layout_drop v.call t.now
    have hguarded : (t.stack.drop v.call t.now).breaker?.isSome = t.stack.breaker?.isSome :=
      congrArg (·.2.2.2.1) hlayout
    refine ⟨?_, ?_, ?_, ?_, ?_, ?_⟩
    · exact ((h.balanced.perm (places_perm hv)).drop t.now).perm
        (hafter.filterMap Visit.place?).symm
    · exact (h.tallied.drop v.call t.now).perm hcalls.symm
    · intro w hw
      rw [hguarded]
      obtain hw | rfl := List.mem_or_eq_of_mem_set hw
      · exact h.regular w hw
      · exact h.regular v hmem
    · intro w hw
      rw [hlayout]
      obtain hw | rfl := List.mem_or_eq_of_mem_set hw
      · exact h.charged w hw
      · exact { h.charged v hmem with }
    · exact h.starts.trans (hcalls.map (·.begun.length)).sum_eq.symm
    · intro x hx
      obtain ⟨w, hw, hbegun⟩ := h.noted x hx
      by_cases hi : i = x.1
      · subst hi
        cases hat.symm.trans hw
        exact ⟨_, getElem?_set_of_some hat _, hbegun⟩
      · exact ⟨w, (List.getElem?_set_ne hi).trans hw, hbegun⟩
  · exact h

/-- What changes only the stack keeps a crowd coherent if it keeps the balance and the tally. -/
private theorem Coherent.withStack (h : t.Coherent) {s : Stack}
    (hlayout : s.layout = t.stack.layout)
    (hbalanced : s.Balanced t.places) (htallied : s.Tallied t.calls) :
    Coherent { t with stack := s } := by
  have hguarded : s.breaker?.isSome = t.stack.breaker?.isSome := congrArg (·.2.2.2.1) hlayout
  exact ⟨hbalanced, htallied, fun v hv ↦ hguarded ▸ h.regular v hv,
    fun v hv ↦ hlayout ▸ h.charged v hv, h.starts, h.noted⟩

/-- Every event keeps a crowd coherent. -/
theorem Coherent.apply (h : t.Coherent) (e : CrowdEvent σ ε α) : (t.apply e).Coherent := by
  have hlayout := t.layout_apply e
  cases e with
  | arrive options op eligible => exact h.arrive options op eligible
  | move i => exact h.move i
  | drop i => exact h.drop i
  | close =>
    exact h.withStack hlayout h.balanced.close (h.tallied.mapBulkhead fun b ↦ ⟨rfl, rfl⟩)
  | trip =>
    exact h.withStack hlayout (h.balanced.mapBreaker fun b _ hb ↦ hb.trip t.now)
      (h.tallied.mapBreaker fun b ↦ ⟨rfl, rfl, rfl⟩)
  | reset =>
    exact h.withStack hlayout (h.balanced.mapBreaker fun b _ hb ↦ hb.reset t.now)
      (h.tallied.mapBreaker fun b ↦ ⟨rfl, rfl, rfl⟩)
  | reconfigure config =>
    exact h.withStack hlayout (h.balanced.mapBreaker fun b _ hb ↦ hb.reconfigure config)
      (h.tallied.mapBreaker fun b ↦ b.counts_reconfigure config)
  | observe => exact h.withStack hlayout (h.balanced.observe t.now) (h.tallied.observe t.now)
  | shift env => exact { h with }
  | wait duration => exact { h with }

/-- Every crowd is coherent. -/
theorem coherent_run (name : String) (config : StackConfig) (env : σ) (start : Nat)
    (events : List (CrowdEvent σ ε α)) : ((new name config env start).run events).Coherent :=
  run_keeps (fun _ e h ↦ h.apply e) (coherent_new name config env start) events

end Crowd

end GuardedDispatch
