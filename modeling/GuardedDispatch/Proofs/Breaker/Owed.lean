import GuardedDispatch.Proofs.Breaker.HalfOpen

/-!
# The permits that are out

A breaker owes its account to a run in which each permit was settled at most once, of which only
the permits still out matter to whoever holds them. The relation here keeps those and forgets the
rest of the run, so that users of a breaker need no ledger of their own. Its gain: the probe that a
holder gives back was counted.
-/

namespace GuardedDispatch.Breaker

variable {b b' : Breaker} {p : CallPermit} {permits permits' : List CallPermit} {now : Nat}

/-- Some run of a breaker in which each permit was settled at most once led to this breaker, with
these permits out. -/
def Owed (b : Breaker) (permits : List CallPermit) : Prop :=
  ∃ l : Ledger, l.Sound ∧ l.Accounted ∧ l.breaker = b ∧ l.pending.Perm permits

/-- No permit of a new breaker is out. -/
theorem owed_new (name : String) (config : BreakerConfig) (start : Nat) :
    (new name config start).Owed [] :=
  ⟨.new name config start, Ledger.sound_new name config start,
    Ledger.accounted_of_state (s := .closed) rfl, rfl, .refl []⟩

/-- In which order the permits are listed does not matter. -/
theorem Owed.perm (h : b.Owed permits) (hp : permits.Perm permits') : b.Owed permits' := by
  obtain ⟨l, hsound, hcount, hb, hpending⟩ := h
  exact ⟨l, hsound, hcount, hb, hpending.trans hp⟩

/-- A breaker with permits out is that of a ledger, and so is what every allowed action makes of
it. -/
private theorem Owed.exists_ledger (h : b.Owed permits) (now : Nat) :
    ∃ l : Ledger, l.breaker = b ∧ l.now = now ∧ l.pending.Perm permits ∧
      ∀ a, l.SettlesOnce a → (l.apply a).breaker.Owed (l.apply a).pending := by
  obtain ⟨l, hsound, hcount, hb, hpending⟩ := h
  have hsound' : Ledger.Sound { l with now } := { hsound with }
  have hcount' : Ledger.Accounted { l with now } := hcount
  refine ⟨{ l with now }, hb, rfl, hpending, fun a ha ↦ ?_⟩
  exact ⟨_, hsound'.apply_of_settlesOnce ha, hcount'.apply hsound' ha, rfl, .refl _⟩

/-- A permit that is granted is out. -/
theorem Owed.granted (h : b.Owed permits) (hr : b.request now = (b', some p)) :
    b'.Owed (p :: permits) := by
  obtain ⟨l, rfl, rfl, hpending, hact⟩ := h.exists_ledger now
  have hnext := hact .request trivial
  simp only [Ledger.apply, hr] at hnext
  exact hnext.perm (hpending.cons p)

/-- A refusal leaves as many permits out. -/
theorem Owed.refused (h : b.Owed permits) (hr : b.request now = (b', none)) : b'.Owed permits := by
  obtain ⟨l, rfl, rfl, hpending, hact⟩ := h.exists_ledger now
  have hnext := hact .request trivial
  simp only [Ledger.apply, hr] at hnext
  exact hnext.perm hpending

/-- Completing a permit that is out settles it. -/
theorem Owed.complete (h : b.Owed (p :: permits)) (duration : Nat) (failed : Bool) (now : Nat) :
    (b.complete p duration failed now).Owed permits := by
  obtain ⟨l, rfl, rfl, hpending, hact⟩ := h.exists_ledger now
  have hnext := hact (.complete p duration failed) (hpending.mem_iff.mpr List.mem_cons_self)
  refine hnext.perm ?_
  have herase := hpending.erase p
  rwa [List.erase_cons_head] at herase

/-- Giving back a permit that is out settles it. -/
theorem Owed.release (h : b.Owed (p :: permits)) : (b.release p).Owed permits := by
  obtain ⟨l, rfl, -, hpending, hact⟩ := h.exists_ledger 0
  have hnext := hact (.release p) (hpending.mem_iff.mpr List.mem_cons_self)
  refine hnext.perm ?_
  have herase := hpending.erase p
  rwa [List.erase_cons_head] at herase

/-- Opening the breaker by hand leaves the permits out. -/
theorem Owed.trip (h : b.Owed permits) (now : Nat) : (b.trip now).Owed permits := by
  obtain ⟨l, rfl, rfl, hpending, hact⟩ := h.exists_ledger now
  exact (hact .trip trivial).perm hpending

/-- Closing the breaker by hand leaves the permits out. -/
theorem Owed.reset (h : b.Owed permits) (now : Nat) : (b.reset now).Owed permits := by
  obtain ⟨l, rfl, rfl, hpending, hact⟩ := h.exists_ledger now
  exact (hact .reset trivial).perm hpending

/-- Other settings leave the permits out. -/
theorem Owed.reconfigure (h : b.Owed permits) (config : BreakerConfig) :
    (b.reconfigure config).Owed permits := by
  obtain ⟨l, rfl, -, hpending, hact⟩ := h.exists_ledger 0
  exact (hact (.reconfigure config) trivial).perm hpending

/-- No permit that is out is ahead of the breaker's generation. -/
theorem Owed.generation_le (h : b.Owed permits) (hp : p ∈ permits) :
    p.generation ≤ b.generation := by
  obtain ⟨l, hsound, -, rfl, hpending⟩ := h
  exact hsound.generation_le p (hsound.pending_issued p (hpending.mem_iff.mpr hp))

/-- A probe of the current round that is out was counted when it was issued. -/
theorem Owed.probesIssued_pos (h : b.Owed (p :: permits)) (hs : p.state = .halfOpen)
    (hg : p.generation = b.generation) : 0 < b.probesIssued := by
  obtain ⟨l, hsound, hcount, rfl, hpending⟩ := h
  have hmem : p ∈ l.pending := hpending.mem_iff.mpr List.mem_cons_self
  have hstate := hsound.state_eq p (hsound.pending_issued p hmem) hg
  have hout : 0 < l.outstanding := List.countP_pos_iff.mpr ⟨p, hmem, decide_eq_true hg⟩
  have heq := hcount (hstate.symm.trans hs)
  omega

end GuardedDispatch.Breaker
