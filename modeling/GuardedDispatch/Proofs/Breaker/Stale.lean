import GuardedDispatch.Proofs.Breaker.Generations

/-!
# Permits that outlive their generation

What a breaker does next is decided by its course: its settings, its state and generation, since
when it is in it, its windows and the probes it issued. A permit of an earlier generation that is
completed late is counted in the lifetime counters of outcomes and leaves the course as it is; one
that is given back late changes nothing at all. So a run and the same run with late settlements
strewn in take the same course and give the same answers.
-/

namespace GuardedDispatch

namespace Breaker

variable (b : Breaker) {p : CallPermit} {now : Nat}

/-- All of a breaker but its lifetime counters of outcomes, which are set to zero. -/
def course (b : Breaker) : Breaker := { b with successful := 0, failed := 0, slow := 0 }

private theorem parts_course : b.course.config = b.config ∧ b.course.state = b.state ∧
    b.course.generation = b.generation ∧ b.course.enteredAt = b.enteredAt ∧
    b.course.window = b.window ∧ b.course.probes = b.probes ∧
    b.course.probesIssued = b.probesIssued :=
  ⟨rfl, rfl, rfl, rfl, rfl, rfl, rfl⟩

private theorem eq_of_course_eq {b b' : Breaker} (h : b'.course = b.course) :
    b' = { b with successful := b'.successful, failed := b'.failed, slow := b'.slow } := by
  cases b
  cases b'
  simpa [course] using h

/-- Counting an outcome leaves the course as it is. -/
@[simp] theorem course_tally (o : Outcome) : (b.tally o).course = b.course := rfl

/-- A state is entered whatever was counted. -/
@[simp] theorem enter_course (target : CircuitState) (now : Nat) :
    b.course.enter target now = (b.enter target now).course := rfl

private theorem request_course (now : Nat) : b.course.request now =
    (b.request now).map course id := by
  have hwake : b.course.wake now = (b.wake now).course := by
    obtain ⟨hconfig, hstate, -, hentered, -⟩ := b.parts_course
    simp only [wake, hconfig, hstate, hentered, enter_course]
    split <;> rfl
  obtain ⟨hconfig, hstate, -, -, -, -, hissued⟩ := (b.wake now).parts_course
  simp only [request, hwake, hconfig, hstate, hissued]
  split
  · rfl
  · rfl
  · split <;> rfl

private theorem judge_course (o : Outcome) (now : Nat) :
    b.course.judge o now = (b.judge o now).course := by
  obtain ⟨hconfig, hstate, -, -, hwindow, hprobes, -⟩ := b.parts_course
  simp only [judge, hconfig, hstate, hwindow, hprobes]
  split
  · split <;> rfl
  · split <;> rfl
  · rfl

private theorem release_course (p : CallPermit) : b.course.release p = (b.release p).course := by
  obtain ⟨-, -, hgeneration, -⟩ := b.parts_course
  simp only [release, hgeneration]
  split <;> rfl

private theorem reconfigure_course (config : BreakerConfig) :
    b.course.reconfigure config = (b.reconfigure config).course := by
  obtain ⟨hconfig, -⟩ := b.parts_course
  simp only [reconfigure, hconfig]
  split <;> rfl

private theorem course_complete (duration : Nat) (failed : Bool) :
    (b.complete p duration failed now).course =
      if p.generation = b.course.generation then
        b.course.judge (b.course.config.outcome duration failed) now
      else b.course := by
  obtain ⟨hconfig, -, hgeneration, -⟩ := b.parts_course
  rw [hconfig, hgeneration]
  split
  · next hg => rw [complete_of_current hg, ← judge_course, course_tally]
  · next hg => rw [complete_of_stale hg, course_tally]

end Breaker

namespace Ledger

variable {l l' : Ledger}

/-! ### The same course -/

/-- Two ledgers whose breakers are on one course at one time and have issued the same permits. -/
structure SameCourse (l l' : Ledger) : Prop where
  course_eq : l'.breaker.course = l.breaker.course
  now_eq : l'.now = l.now
  issued_eq : l'.issued = l.issued

private theorem SameCourse.refl (l : Ledger) : l.SameCourse l := ⟨rfl, rfl, rfl⟩

private theorem SameCourse.request (h : l.SameCourse l') :
    (l'.breaker.request l'.now).1.course = (l.breaker.request l.now).1.course ∧
      (l'.breaker.request l'.now).2 = (l.breaker.request l.now).2 := by
  have hmap : (l'.breaker.request l'.now).map Breaker.course id =
      (l.breaker.request l.now).map Breaker.course id := by
    rw [← Breaker.request_course, ← Breaker.request_course, h.course_eq, h.now_eq]
  exact Prod.mk.inj hmap

/-- What both runs do keeps them on one course. -/
theorem SameCourse.apply (h : l.SameCourse l') (a : BreakerAction) :
    (l.apply a).SameCourse (l'.apply a) := by
  cases a with
  | request =>
    obtain ⟨hcourse, hanswer⟩ := h.request
    simp only [Ledger.apply]
    generalize l.breaker.request l.now = r at hcourse hanswer ⊢
    generalize l'.breaker.request l'.now = r' at hcourse hanswer ⊢
    obtain ⟨b, answer⟩ := r
    obtain ⟨b', answer'⟩ := r'
    obtain rfl : answer' = answer := hanswer
    cases answer' with
    | none => exact ⟨hcourse, h.now_eq, h.issued_eq⟩
    | some p => exact ⟨hcourse, h.now_eq, congrArg (p :: ·) h.issued_eq⟩
  | complete p duration failed =>
    refine ⟨?_, h.now_eq, h.issued_eq⟩
    change (l'.breaker.complete p duration failed l'.now).course =
      (l.breaker.complete p duration failed l.now).course
    rw [Breaker.course_complete, Breaker.course_complete, h.course_eq, h.now_eq]
  | release p =>
    refine ⟨?_, h.now_eq, h.issued_eq⟩
    change (l'.breaker.release p).course = (l.breaker.release p).course
    rw [← Breaker.release_course, ← Breaker.release_course, h.course_eq]
  | reset =>
    refine ⟨?_, h.now_eq, h.issued_eq⟩
    change (l'.breaker.enter .closed l'.now).course = (l.breaker.enter .closed l.now).course
    rw [← Breaker.enter_course, ← Breaker.enter_course, h.course_eq, h.now_eq]
  | trip =>
    refine ⟨?_, h.now_eq, h.issued_eq⟩
    change (l'.breaker.enter .opened l'.now).course = (l.breaker.enter .opened l.now).course
    rw [← Breaker.enter_course, ← Breaker.enter_course, h.course_eq, h.now_eq]
  | reconfigure config =>
    refine ⟨?_, h.now_eq, h.issued_eq⟩
    change (l'.breaker.reconfigure config).course = (l.breaker.reconfigure config).course
    rw [← Breaker.reconfigure_course, ← Breaker.reconfigure_course, h.course_eq]
  | wait duration => exact ⟨h.course_eq, congrArg (· + duration) h.now_eq, h.issued_eq⟩

/-! ### Late settlements -/

/-- A permit is completed or given back after the generation that issued it. -/
def Late (l : Ledger) : BreakerAction → Prop
  | .complete p _ _ | .release p => p.generation < l.breaker.generation
  | _ => False

instance (l : Ledger) : DecidablePred l.Late
  | .complete .. | .release _ => inferInstanceAs (Decidable (_ < _))
  | .request | .reset | .trip | .reconfigure _ | .wait _ => isFalse id

private theorem SameCourse.late (h : l.SameCourse l') {a : BreakerAction} (ha : l'.Late a) :
    l.SameCourse (l'.apply a) := by
  cases a with
  | complete p duration failed =>
    have hstale : p.generation ≠ l'.breaker.generation := Nat.ne_of_lt ha
    rw [apply_complete_of_stale hstale]
    exact { h with }
  | release p =>
    have hstale : p.generation ≠ l'.breaker.generation := Nat.ne_of_lt ha
    rw [Ledger.apply, Breaker.release_of_other fun hb ↦ hstale hb.2]
    exact { h with }
  | request | reset | trip | reconfigure config | wait duration => exact absurd ha id

/-! ### Permits of the current generation -/

/-- The ledger without what became of its permits. -/
def issuedOnly (l : Ledger) : Ledger := { l with completed := [], pending := [] }

private theorem Sound.issuedOnly (h : l.Sound) : l.issuedOnly.Sound :=
  { h with
    completed_issued := fun _ he ↦ nomatch he
    pending_issued := fun _ hp ↦ nomatch hp }

/-- What became of permits has no influence on what is issued. -/
theorem issuedOnly_apply (l : Ledger) (a : BreakerAction) :
    (l.issuedOnly.apply a).issuedOnly = (l.apply a).issuedOnly := by
  cases a with
  | request =>
    have hrequest : l.issuedOnly.breaker.request l.issuedOnly.now = l.breaker.request l.now := rfl
    simp only [apply, hrequest]
    split <;> rfl
  | complete _ _ _ | release _ | reset | trip | reconfigure _ | wait _ => rfl

/-- Permits of the current generation stay issued in the current state, also if permits are
completed again, or were never issued. -/
theorem Sound.issuedOnly_apply (h : l.issuedOnly.Sound) (a : BreakerAction) :
    (l.apply a).issuedOnly.Sound := by
  cases a with
  | complete p duration failed =>
    have ht : Sound { l.issuedOnly with
      breaker := l.breaker.tally (l.breaker.config.outcome duration failed) } := { h with }
    by_cases hg : p.generation = l.breaker.generation
    · rw [apply_complete_of_current hg]
      exact ht.judge _ l.now
    · rw [apply_complete_of_stale hg]
      exact ht
  | request | release _ | reset | trip | reconfigure _ | wait _ =>
    rw [← Ledger.issuedOnly_apply]
    refine Sound.issuedOnly (h.apply ?_)
    intro _ _ _ he
    cases he

private theorem state_eq_of_current (name : String) (c : BreakerConfig) (start : Nat)
    (actions : List BreakerAction) {p : CallPermit}
    (hp : p ∈ ((new name c start).run actions).issued)
    (hg : p.generation = ((new name c start).run actions).breaker.generation) :
    p.state = ((new name c start).run actions).breaker.state := by
  have hsound : ((new name c start).run actions).issuedOnly.Sound :=
    run_keeps (I := fun l ↦ l.issuedOnly.Sound) (fun _ a h ↦ h.issuedOnly_apply a)
      (sound_new name c start).issuedOnly actions
  exact hsound.state_eq p hp hg

/-! ### Two runs at once -/

/-- A step of two runs: one that both take, or one that only the longer run takes. -/
inductive JointStep where
  | shared (action : BreakerAction)
  | extra (action : BreakerAction)
  deriving DecidableEq, Repr

/-- What the longer run does in a step. -/
def JointStep.action : JointStep → BreakerAction
  | .shared a | .extra a => a

/-- What the shorter run does in a step, if it takes it. -/
def JointStep.shared? : JointStep → Option BreakerAction
  | .shared a => some a
  | .extra _ => none

/-- All that the longer run does. -/
def longer (steps : List JointStep) : List BreakerAction := steps.map JointStep.action

/-- All that the shorter run does. -/
def shorter (steps : List JointStep) : List BreakerAction := steps.filterMap JointStep.shared?

/-- What only the longer run does is settle permits late. -/
def LateExtras : Ledger → List JointStep → Prop
  | _, [] => True
  | l, .shared a :: rest => LateExtras (l.apply a) rest
  | l, .extra a :: rest => l.Late a ∧ LateExtras (l.apply a) rest

instance decidableLateExtras :
    ∀ (l : Ledger) (steps : List JointStep), Decidable (l.LateExtras steps)
  | _, [] => isTrue trivial
  | l, .shared a :: rest => decidableLateExtras (l.apply a) rest
  | l, .extra a :: rest =>
    have := decidableLateExtras (l.apply a) rest
    inferInstanceAs (Decidable (_ ∧ _))

/-- The answers to the requests of a run. -/
def answers : Ledger → List BreakerAction → List (Option CallPermit)
  | _, [] => []
  | l, .request :: rest => (l.breaker.request l.now).2 :: answers (l.apply .request) rest
  | l, a :: rest => answers (l.apply a) rest

private theorem LateExtras.of_append {steps later : List JointStep}
    (h : l.LateExtras (steps ++ later)) :
    l.LateExtras steps := by
  induction steps generalizing l with
  | nil => trivial
  | cons step rest ih =>
    cases step with
    | shared a => exact ih (l := l.apply a) h
    | extra a => exact ⟨h.1, ih h.2⟩

private theorem SameCourse.runs (h : l.SameCourse l') {steps : List JointStep}
    (hlate : l'.LateExtras steps) :
    (l.run (shorter steps)).SameCourse (l'.run (longer steps)) ∧
      l'.answers (longer steps) = l.answers (shorter steps) := by
  induction steps generalizing l l' with
  | nil => exact ⟨h, rfl⟩
  | cons step rest ih =>
    cases step with
    | shared a =>
      obtain ⟨hcourse, hanswers⟩ := ih (h.apply a) hlate
      refine ⟨hcourse, ?_⟩
      cases a with
      | request =>
        change _ :: answers _ (longer rest) = _ :: answers _ (shorter rest)
        rw [h.request.2, hanswers]
      | complete _ _ _ | release _ | reset | trip | reconfigure _ | wait _ => exact hanswers
    | extra a =>
      obtain ⟨hcourse, hanswers⟩ := ih (h.late hlate.1) hlate.2
      refine ⟨hcourse, ?_⟩
      obtain ⟨ha, -⟩ := hlate
      cases a with
      | complete _ _ _ | release _ => exact hanswers
      | request | reset | trip | reconfigure _ | wait _ => exact absurd ha id

/-- Permits that are settled after their generation have no influence. Take a run and the same run
in which, beside, permits of earlier generations are completed or given back, any number of times.
At every point both breakers are the same but for the lifetime counters of outcomes, it is the same
time, all requests so far had the same answers, and a permit of the current generation was issued
in the current state. -/
theorem late_settlements_leave_course (name : String) (c : BreakerConfig) (start : Nat)
    (steps : List JointStep) (hlate : (new name c start).LateExtras steps) (past : List JointStep)
    (hpast : past <+: steps) :
    let l := (new name c start).run (shorter past)
    let l' := (new name c start).run (longer past)
    l'.breaker =
        { l.breaker with
          successful := l'.breaker.successful
          failed := l'.breaker.failed
          slow := l'.breaker.slow } ∧
      l'.now = l.now ∧
      (new name c start).answers (longer past) = (new name c start).answers (shorter past) ∧
      ∀ p ∈ l'.issued, p.generation = l'.breaker.generation → p.state = l'.breaker.state := by
  intro l l'
  obtain ⟨later, rfl⟩ := hpast
  obtain ⟨hsame, hanswers⟩ := (SameCourse.refl (new name c start)).runs hlate.of_append
  exact ⟨Breaker.eq_of_course_eq hsame.course_eq, hsame.now_eq, hanswers,
    fun p hp ↦ state_eq_of_current name c start (longer past) hp⟩

/-- A single failure opens the breaker, which probes at once with two calls. -/
def brittle : BreakerConfig :=
  { slidingWindowSize := 1, minimumNumberOfCalls := 1, waitInOpenState := 0,
    callsInHalfOpenState := 2 }

/-- Of three calls the first one opens the breaker and the others end late: a failure while it
probes, a success after it was closed by hand, when the probe, too, is given back late. -/
def straggling : List JointStep :=
  [.shared .request, .shared .request, .shared .request,
    .shared (.complete ⟨0, .closed⟩ 5 true), .shared .request,
    .extra (.complete ⟨0, .closed⟩ 5 true), .shared .request, .shared .request, .shared .reset,
    .extra (.complete ⟨0, .closed⟩ 5 false), .extra (.release ⟨2, .halfOpen⟩), .shared .request]

/-- The late failure and the late success are counted, and nothing else tells the runs apart. -/
theorem straggling_calls_leave_course :
    let l := (new "brittle" brittle 0).run (shorter straggling)
    let l' := (new "brittle" brittle 0).run (longer straggling)
    ((new "brittle" brittle 0).LateExtras straggling ∧ straggling <+: straggling) ∧
      (l.breaker.successful, l.breaker.failed) = (0, 1) ∧
      l'.breaker = { l.breaker with successful := 1, failed := 2 } ∧
      (new "brittle" brittle 0).answers (longer straggling) =
        [some ⟨0, .closed⟩, some ⟨0, .closed⟩, some ⟨0, .closed⟩, some ⟨2, .halfOpen⟩,
          some ⟨2, .halfOpen⟩, none, some ⟨3, .closed⟩] := by
  have hlate : (new "brittle" brittle 0).LateExtras straggling := by decide +kernel
  have hpast : straggling <+: straggling := List.prefix_refl _
  obtain ⟨hbreaker, -, hanswers, -⟩ :=
    late_settlements_leave_course "brittle" brittle 0 straggling hlate straggling hpast
  refine ⟨⟨hlate, hpast⟩, by decide +kernel, hbreaker.trans ?_, hanswers.trans ?_⟩
  · decide +kernel
  · decide +kernel

end Ledger

end GuardedDispatch
