import GuardedDispatch.Proofs.Breaker.Generations

/-!
# A window under changing settings

Putting settings into effect cuts the window down to the size that they ask for, and what is cut off
does not come back when later settings ask for more. The reign of some settings is the time in which
they are in effect. What a closed breaker still knows of its generation is the latest part of the
outcomes of all reigns: as many as each reign left of what it found and recorded.
-/

namespace GuardedDispatch

/-- Settings that were in effect, and the outcomes recorded meanwhile with the permits they came
under, oldest first. -/
structure Reign where
  settings : BreakerConfig
  outcomes : List (CallPermit × Outcome) := []
  deriving DecidableEq, Repr

namespace Reign

variable {g : Nat}

/-- The outcomes of a generation over some reigns, of which the latest comes first. -/
def history (g : Nat) : List Reign → List Outcome
  | [] => []
  | r :: earlier => history g earlier ++ outcomesOf g r.outcomes

/-- How many outcomes of a generation some reigns left: none has more than its window takes, of what
the earlier ones left and what was recorded in it. -/
def remaining (g : Nat) : List Reign → Nat
  | [] => 0
  | r :: earlier =>
    min r.settings.windowSize (remaining g earlier + (outcomesOf g r.outcomes).length)

/-- Adds an outcome to the latest reign. -/
def record (entry : CallPermit × Outcome) : List Reign → List Reign
  | [] => []
  | r :: earlier => { r with outcomes := r.outcomes ++ [entry] } :: earlier

private theorem remaining_le_length (g : Nat) (reigns : List Reign) :
    remaining g reigns ≤ (history g reigns).length := by
  induction reigns with
  | nil => exact Nat.le_refl _
  | cons r earlier ih =>
    rw [remaining, history, List.length_append]
    omega

/-- So many outcomes are left exactly if each reign had room for all of them but those that were
recorded later. -/
theorem le_remaining_iff {reigns : List Reign} {m : Nat} (hm : m ≤ (history g reigns).length) :
    m ≤ remaining g reigns ↔ ∀ later r earlier, reigns = later ++ r :: earlier →
      m ≤ r.settings.windowSize + (history g later).length := by
  induction reigns generalizing m with
  | nil =>
    refine ⟨fun _ later r earlier he ↦ ?_, fun _ ↦ hm⟩
    cases later <;> cases he
  | cons latest earlier ih =>
    rw [history, List.length_append] at hm
    -- what the latest reign did not record itself has to be left by the earlier ones
    have hrest := ih (m := m - (outcomesOf g latest.outcomes).length) (by omega)
    rw [remaining, Nat.le_min]
    constructor
    · rintro ⟨hsize, hremaining⟩ later r before he
      cases later with
      | nil =>
        cases he
        omega
      | cons first later =>
        obtain ⟨rfl, hearlier⟩ := List.cons.inj he
        have hroom := hrest.mp (by omega) later r before hearlier
        rw [history, List.length_append]
        omega
    · intro h
      have hsize := h [] latest earlier rfl
      refine ⟨hsize, ?_⟩
      have hremaining := hrest.mpr fun later r before he ↦ by
        have hroom := h (latest :: later) r before (by rw [he, List.cons_append])
        rw [history, List.length_append] at hroom
        omega
      omega

private theorem history_eq_nil {reigns : List Reign}
    (h : ∀ r ∈ reigns, ∀ e ∈ r.outcomes, e.1.generation ≠ g) : history g reigns = [] := by
  induction reigns with
  | nil => rfl
  | cons r earlier ih =>
    rw [history, ih fun r' hr' ↦ h r' (List.mem_cons_of_mem r hr'),
      outcomesOf_eq_nil (h r List.mem_cons_self), List.append_nil]

/-- A window of some size that takes from what is left is filled as from all that was recorded
exactly if each reign had room for that, but for what was recorded later. -/
theorem rtake_min_remaining_eq_iff (g : Nat) (reigns : List Reign) (n : Nat) :
    (history g reigns).rtake (min n (remaining g reigns)) = (history g reigns).rtake n ↔
      ∀ later r earlier, reigns = later ++ r :: earlier →
        min n (history g reigns).length ≤ r.settings.windowSize + (history g later).length := by
  rw [← le_remaining_iff (Nat.min_le_right _ _)]
  have hlength := remaining_le_length g reigns
  constructor
  · intro h
    have hcount := congrArg List.length h
    rw [length_rtake, length_rtake] at hcount
    omega
  · intro h
    by_cases hn : n ≤ remaining g reigns
    · rw [Nat.min_eq_left hn]
    · rw [rtake_of_length_le (n := n) (by omega), rtake_of_length_le (by omega)]

variable {p : CallPermit}

private theorem record_same (hp : p.generation = g) (o : Outcome) (r : Reign)
    (earlier : List Reign) :
    history g (record (p, o) (r :: earlier)) = history g (r :: earlier) ++ [o] ∧
      remaining g (record (p, o) (r :: earlier)) =
        min (remaining g (r :: earlier) + 1) r.settings.windowSize := by
  have hout := outcomesOf_append_same hp r.outcomes o
  simp only [record, history, remaining, hout, List.append_assoc, List.length_append,
    List.length_singleton, true_and]
  omega

private theorem record_other (hp : p.generation ≠ g) (o : Outcome) (r : Reign)
    (earlier : List Reign) :
    history g (record (p, o) (r :: earlier)) = history g (r :: earlier) ∧
      remaining g (record (p, o) (r :: earlier)) = remaining g (r :: earlier) := by
  have hout := outcomesOf_append_other hp r.outcomes o
  simp only [record, history, remaining, hout, and_self]

end Reign

namespace Breaker

variable {b b' : Breaker} {p : CallPermit} {reigns : List Reign}

/-! ### What the operations do to the window -/

/-- What a completed call, with an outcome under a permit, can make of a breaker's window. -/
inductive WindowAfter (b : Breaker) (p : CallPermit) (o : Outcome) (b' : Breaker) : Prop
  | anew (h : b.Anew b')
  | recorded (hg : p.generation = b.generation) (hs : b.state = .closed)
      (hgeneration : b'.generation = b.generation) (hwindow : b'.window = b.window.record o)
  | untouched (h : p.generation = b.generation → b.state ≠ .closed) (hsame : b.SameWindow b')

private theorem windowAfter_complete (b : Breaker) (p : CallPermit) (duration : Nat) (failed : Bool)
    (now : Nat) :
    b.WindowAfter p (b.config.outcome duration failed) (b.complete p duration failed now) := by
  by_cases hg : p.generation = b.generation
  · rw [complete_of_current hg]
    generalize b.config.outcome duration failed = o
    have hj := (b.tally o).judged_judge o now
    generalize (b.tally o).judge o now = b' at hj ⊢
    have hopen {s : CircuitState} (hs : (b.tally o).state = s) (hne : s ≠ .closed := by decide) :
        b.state ≠ .closed := hs ▸ hne
    cases hj with
    | recorded hs ht => exact .recorded hg hs rfl rfl
    | tripped hs ht => exact .anew { ((b.tally o).withOutcome o).anew_enter .opened now with }
    | probed hs hl => exact .untouched (fun _ ↦ hopen hs) ⟨rfl, rfl, rfl⟩
    | decided hs hl => exact .anew { ((b.tally o).withProbe o).anew_enter _ now with }
    | ignored hs => exact .untouched (fun _ ↦ hopen hs) ⟨rfl, rfl, rfl⟩
  · rw [complete_of_stale hg]
    exact .untouched (fun h ↦ absurd h hg) ⟨rfl, rfl, rfl⟩

/-! ### What a breaker knows of the reigns of its settings -/

/-- A breaker that went through some reigns, and if it is closed has what they left in its
window. -/
structure Recalls (b : Breaker) (reigns : List Reign) : Prop where
  reign : ∃ r earlier, reigns = r :: earlier ∧ r.settings.windowSize = b.config.windowSize
  generation_le : ∀ r ∈ reigns, ∀ e ∈ r.outcomes, e.1.generation ≤ b.generation
  outcomes_eq : b.state = .closed →
    b.window.outcomes =
      (Reign.history b.generation reigns).rtake (Reign.remaining b.generation reigns)

/-- A new breaker is in the reign of its settings. -/
theorem recalls_new (name : String) (c : BreakerConfig) (now : Nat) :
    (new name c now).Recalls [{ settings := c }] where
  reign := ⟨_, [], rfl, rfl⟩
  generation_le r hr e he := by
    obtain rfl := List.mem_singleton.mp hr
    cases he
  outcomes_eq _ := (List.rtake_nil _).symm

private theorem recalls_of_anew (hanew : b.Anew b')
    (hreign : ∃ r earlier, reigns = r :: earlier ∧ r.settings.windowSize = b'.config.windowSize)
    (hle : ∀ r ∈ reigns, ∀ e ∈ r.outcomes, e.1.generation ≤ b.generation) :
    b'.Recalls reigns where
  reign := hreign
  generation_le r hr e he := (hle r hr e he).trans hanew.generation_lt.le
  outcomes_eq hs := by
    have hnone : Reign.history b'.generation reigns = [] :=
      Reign.history_eq_nil fun r hr e he ↦ ((hle r hr e he).trans_lt hanew.generation_lt).ne
    rw [hnone, List.rtake_nil, hanew.outcomes_eq hs]

/-- Quiet changes leave a breaker with what it recalls, or with nothing to recall. -/
theorem Recalls.quiet (h : b.Recalls reigns) (hq : b.Quiet b') : b'.Recalls reigns := by
  have hreign := h.reign
  rw [← hq.config_eq] at hreign
  obtain hsame | hanew := hq.sameWindow_or_anew
  · refine ⟨hreign, hsame.generation_eq ▸ h.generation_le, fun hs ↦ ?_⟩
    rw [hsame.window_eq, hsame.generation_eq, h.outcomes_eq (hsame.state_eq.symm.trans hs)]
  · exact recalls_of_anew hanew hreign h.generation_le

/-- Settings that come into effect begin a reign. -/
theorem Recalls.reconfigure (h : b.Recalls reigns) (hf : b.Fits) (c : BreakerConfig) :
    (b.reconfigure c).Recalls ({ settings := c } :: reigns) := by
  obtain ⟨hgeneration, hstate⟩ := b.generation_reconfigure c
  refine ⟨⟨_, _, rfl, (b.config_reconfigure c).windowSize_eq.symm⟩, ?_, fun hs ↦ ?_⟩
  · intro r hr e he
    rw [hgeneration]
    obtain rfl | hr := List.mem_cons.mp hr
    · cases he
    · exact h.generation_le r hr e he
  · have hnone (g : Nat) : outcomesOf g [] = [] := rfl
    rw [hf.outcomes_reconfigure, h.outcomes_eq (hstate.symm.trans hs), rtake_rtake, hgeneration,
      Reign.history, Reign.remaining, hnone, List.append_nil, List.length_nil, Nat.add_zero,
      Nat.min_comm]

/-- A completed call is recorded in the reign in which it ends. -/
theorem Recalls.complete (h : b.Recalls reigns) (hf : b.Fits) (hp : p.generation ≤ b.generation)
    (duration : Nat) (failed : Bool) (now : Nat) :
    (b.complete p duration failed now).Recalls
      (Reign.record (p, b.config.outcome duration failed) reigns) := by
  obtain ⟨r, earlier, rfl, hsize⟩ := h.reign
  have hreign : r.settings.windowSize = (b.complete p duration failed now).config.windowSize := by
    rw [config_complete, hsize]
  have hle : ∀ r' ∈ Reign.record (p, b.config.outcome duration failed) (r :: earlier),
      ∀ e ∈ r'.outcomes, e.1.generation ≤ b.generation := by
    intro r' hr' e he
    obtain rfl | hr' := List.mem_cons.mp hr'
    · obtain he | he := List.mem_append.mp he
      · exact h.generation_le r List.mem_cons_self e he
      · obtain rfl := List.mem_singleton.mp he
        exact hp
    · exact h.generation_le r' (List.mem_cons_of_mem r hr') e he
  have hafter := b.windowAfter_complete p duration failed now
  generalize b.config.outcome duration failed = o at hle hafter ⊢
  cases hafter with
  | anew hanew => exact recalls_of_anew hanew ⟨_, _, rfl, hreign⟩ hle
  | recorded hg hs hgeneration hwindow =>
    obtain ⟨hhistory, hremaining⟩ := Reign.record_same hg o r earlier
    refine ⟨⟨_, _, rfl, hreign⟩, hgeneration ▸ hle, fun _ ↦ ?_⟩
    rw [hgeneration, hhistory, hremaining, hwindow, hf.window_tallied.outcomes_record hf.window_pos,
      hf.window_capacity, h.outcomes_eq hs, ← List.rtake_concat_succ, rtake_rtake, hsize]
  | untouched hother hsame =>
    refine ⟨⟨_, _, rfl, hreign⟩, hsame.generation_eq ▸ hle, fun hs ↦ ?_⟩
    have hclosed := hsame.state_eq.symm.trans hs
    obtain ⟨hhistory, hremaining⟩ :=
      Reign.record_other (fun hg ↦ hother hg hclosed) o r earlier
    rw [hsame.window_eq, hsame.generation_eq, hhistory, hremaining, h.outcomes_eq hclosed]

end Breaker

end GuardedDispatch
