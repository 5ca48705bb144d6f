import GuardedDispatch.Processing.Trail
import GuardedDispatch.Proofs.Processing.Derivations

/-!
# The trail is append-only

Whatever stages note in the context that they share, and however often it is retired in favour of
its next attempt, the trail keeps every record in its place. A start adds a record at its end. An
end closes one record, the latest of its stage that is open, or nothing if there is none. So the
trail tells the starts in the order in which they came, and what is closed stays as it is.
-/

namespace GuardedDispatch

/-! ### Records of a trail -/

/-- What a record tells of the start of its run. -/
structure StageStart where
  stage : String
  attempt : Nat
  at_ : Int
  deriving DecidableEq, Repr

/-- The record of a run that has just started. -/
def StageStart.opened (s : StageStart) : StageRecord :=
  { stage := s.stage, attempt := s.attempt, startedAt := s.at_ }

namespace StageRecord

/-- The start of a run. -/
def start (r : StageRecord) : StageStart := ⟨r.stage, r.attempt, r.startedAt⟩

/-- What can become of a record: it stays as it is, or is closed if it is open. -/
inductive Becomes (r : StageRecord) : StageRecord → Prop
  | same : Becomes r r
  | closed (hopen : r.isOpen = true) (e : StageEnd) : Becomes r { r with ending? := some e }

private theorem Becomes.trans {r s t : StageRecord} (hrs : r.Becomes s) (hst : s.Becomes t) :
    r.Becomes t := by
  cases hrs with
  | same => exact hst
  | closed hopen e =>
    cases hst with
    | same => exact .closed hopen e
    | closed hagain => cases hagain

end StageRecord

/-- Each record of a trail is in its place in a later one, as it was or closed since. -/
def KeptIn (trail later : List StageRecord) : Prop :=
  ∀ (i : Nat) (r : StageRecord), trail[i]? = some r → ∃ s, later[i]? = some s ∧ r.Becomes s

namespace KeptIn

variable {trail later latest : List StageRecord}

private theorem refl (trail : List StageRecord) : KeptIn trail trail := fun _ r hr ↦ ⟨r, hr, .same⟩

private theorem trans (h : KeptIn trail later) (h' : KeptIn later latest) :
    KeptIn trail latest := by
  intro i r hr
  obtain ⟨s, hs, hrs⟩ := h i r hr
  obtain ⟨t, ht, hst⟩ := h' i s hs
  exact ⟨t, ht, hrs.trans hst⟩

private theorem append (trail added : List StageRecord) : KeptIn trail (trail ++ added) := by
  intro i r hr
  refine ⟨r, ?_, .same⟩
  rw [List.getElem?_append_left (List.getElem?_eq_some_iff.mp hr).1]
  exact hr

private theorem closing {r : StageRecord} (hopen : r.isOpen = true) (older newer : List StageRecord)
    (e : StageEnd) :
    KeptIn (older ++ r :: newer) (older ++ { r with ending? := some e } :: newer) := by
  intro i s hs
  obtain hlt | hle := Nat.lt_or_ge i older.length
  · rw [List.getElem?_append_left hlt] at hs ⊢
    exact ⟨s, hs, .same⟩
  · rw [List.getElem?_append_right hle] at hs ⊢
    cases hi : i - older.length with
    | zero =>
      rw [hi] at hs
      cases hs
      exact ⟨_, rfl, .closed hopen e⟩
    | succ j =>
      rw [hi] at hs
      exact ⟨s, hs, .same⟩

end KeptIn

/-! ### The end of a run -/

/-- What the end of a stage makes of a trail: it closes the record that was added last of those of
the stage that are open, or nothing if none is open. -/
inductive Ended (stage : String) (e : StageEnd) : List StageRecord → List StageRecord → Prop
  | latest (older newer : List StageRecord) (r : StageRecord) (hstage : r.stage = stage)
      (hopen : r.isOpen = true) (hclosed : ∀ s ∈ newer, s.stage = stage → s.isOpen = false) :
      Ended stage e (older ++ r :: newer) (older ++ { r with ending? := some e } :: newer)
  | unmatched {trail : List StageRecord}
      (hclosed : ∀ s ∈ trail, s.stage = stage → s.isOpen = false) : Ended stage e trail trail

namespace Ended

variable {stage : String} {e : StageEnd} {trail trail' : List StageRecord}

private theorem concat (h : Ended stage e trail trail') {r : StageRecord}
    (hr : r.stage = stage → r.isOpen = false) : Ended stage e (trail ++ [r]) (trail' ++ [r]) := by
  have hlast (newer : List StageRecord) (hnewer : ∀ s ∈ newer, s.stage = stage → s.isOpen = false) :
      ∀ s ∈ newer ++ [r], s.stage = stage → s.isOpen = false := by
    rw [List.forall_mem_append, List.forall_mem_singleton]
    exact ⟨hnewer, hr⟩
  cases h with
  | latest older newer s hstage hopen hclosed =>
    rw [List.append_assoc, List.append_assoc, List.cons_append, List.cons_append]
    exact .latest older (newer ++ [r]) s hstage hopen (hlast newer hclosed)
  | unmatched hclosed => exact .unmatched (hlast _ hclosed)

/-- Every record is kept. -/
theorem keeps (h : Ended stage e trail trail') : KeptIn trail trail' := by
  cases h with
  | latest older newer r hstage hopen hclosed => exact .closing hopen older newer e
  | unmatched hclosed => exact .refl _

private theorem map_start (h : Ended stage e trail trail') :
    trail'.map StageRecord.start = trail.map StageRecord.start := by
  cases h with
  | latest older newer r hstage hopen hclosed =>
    rw [List.map_append, List.map_append, List.map_cons, List.map_cons]
    rfl
  | unmatched hclosed => rfl

end Ended

private theorem ended_closeLatest (stage : String) (e : StageEnd) (recent : List StageRecord) :
    Ended stage e recent.reverse (closeLatest stage e recent).reverse := by
  induction recent with
  | nil => exact .unmatched fun _ hs ↦ nomatch hs
  | cons r older ih =>
    rw [closeLatest, List.reverse_cons]
    by_cases hr : r.stage = stage ∧ r.isOpen = true
    · rw [if_pos hr, List.reverse_cons]
      exact .latest older.reverse [] r hr.1 hr.2 fun _ hs ↦ nomatch hs
    · rw [if_neg hr, List.reverse_cons]
      exact ih.concat fun hstage ↦ Bool.eq_false_iff.mpr fun hopen ↦ hr ⟨hstage, hopen⟩

/-! ### What is done to a shared context -/

/-- One thing that is done to a shared context: a note is made in it, or it is retired in favour of
its next attempt. -/
inductive SharedAction where
  | note (now : Int) (n : SharedContext.ContextNote)
  | retire (stage cause : String) (backoff : Backoff) (now : Int)

namespace SharedAction

/-- The start that an action tells of, at the attempt that runs. -/
def start? (attempt : Nat) : SharedAction → Option StageStart
  | .note now (.started stage) => some ⟨stage, attempt, now⟩
  | _ => none

private theorem attempt_of_mem_start? {a : SharedAction} {attempt : Nat} {s : StageStart}
    (hs : s ∈ (a.start? attempt).toList) : s.attempt = attempt := by
  rw [Option.mem_toList] at hs
  match a, hs with
  | .note _ (.started _), rfl => rfl

/-- The stage that an action ends, when and how. -/
def end? : SharedAction → Option (String × StageEnd)
  | .note now (.succeeded stage) => some (stage, ⟨now, .success⟩)
  | .note now (.failed stage reason) => some (stage, ⟨now, .failure reason⟩)
  | _ => none

end SharedAction

namespace SharedContext

variable {μ : Type} {c : SharedContext μ}

/-- The shared context in hand after an action: the next attempt, or the last one, handed back. -/
def perform (c : SharedContext μ) : SharedAction → SharedContext μ
  | .note now n => c.note now n
  | .retire stage cause backoff now =>
    match c.retire stage cause backoff now with
    | .ok next => next
    | .error last => last

/-- The shared context in hand after one action after another. -/
def run (c : SharedContext μ) (actions : List SharedAction) : SharedContext μ :=
  actions.foldl perform c

/-- The starts of which actions tell, each at the attempt that runs then. -/
def starts (c : SharedContext μ) : List SharedAction → List StageStart
  | [] => []
  | a :: rest => (a.start? c.context.attempt).toList ++ (c.perform a).starts rest

private theorem retire_eq (c : SharedContext μ) (stage cause : String) (backoff : Backoff)
    (now : Int) :
    c.retire stage cause backoff now =
      if c.context.attempt < c.context.maxAttempts then
        .ok { c with context := c.context.succeeding stage cause backoff now }
      else .error c := by
  unfold retire
  obtain hlt | hle := Nat.lt_or_ge c.context.attempt c.context.maxAttempts
  · rw [ProcessingContext.retire_of_lt hlt, if_pos hlt]
  · rw [ProcessingContext.retire_of_le hle, if_neg (Nat.not_lt.mpr hle)]

/-- What an action makes of a shared context: an end closes a record or nothing, and anything else
adds the record of a start if there is one. Attempts are never taken back. -/
inductive Performed (c : SharedContext μ) (a : SharedAction) (d : SharedContext μ) : Prop
  | recorded (hend : a.end? = none)
      (htrail : d.trail =
        c.trail ++ (a.start? c.context.attempt).toList.map StageStart.opened)
      (hattempt : c.context.attempt ≤ d.context.attempt)
  | ended (stage : String) (e : StageEnd) (hend : a.end? = some (stage, e))
      (hstart : a.start? c.context.attempt = none) (htrail : Ended stage e c.trail d.trail)
      (hcontext : d.context = c.context)

private theorem performed_perform (c : SharedContext μ) (a : SharedAction) :
    c.Performed a (c.perform a) := by
  have hended (stage : String) (e : StageEnd) :
      Ended stage e c.trail (closeLatest stage e c.trail.reverse).reverse := by
    have h := ended_closeLatest stage e c.trail.reverse
    rw [List.reverse_reverse] at h
    exact h
  cases a with
  | note now n =>
    match n with
    | .attribute name value => exact .recorded rfl (List.append_nil _).symm (Nat.le_refl _)
    | .started stage => exact .recorded rfl rfl (Nat.le_refl _)
    | .succeeded stage => exact .ended stage ⟨now, .success⟩ rfl rfl (hended _ _) rfl
    | .failed stage reason => exact .ended stage ⟨now, .failure reason⟩ rfl rfl (hended _ _) rfl
  | retire stage cause backoff now =>
    rw [perform, retire_eq]
    obtain hlt | hle := Nat.lt_or_ge c.context.attempt c.context.maxAttempts
    · rw [if_pos hlt]
      refine .recorded rfl (List.append_nil _).symm ?_
      rw [ProcessingContext.attempt_succeeding]
      exact Nat.le_succ _
    · rw [if_neg (Nat.not_lt.mpr hle)]
      exact .recorded rfl (List.append_nil _).symm (Nat.le_refl _)

namespace Performed

variable {a : SharedAction} {d : SharedContext μ}

/-- No record is lost. -/
theorem keeps (h : c.Performed a d) : KeptIn c.trail d.trail := by
  cases h with
  | recorded hend htrail hattempt => exact htrail ▸ .append _ _
  | ended stage e hend hstart htrail hcontext => exact htrail.keeps

private theorem map_start (h : c.Performed a d) :
    d.trail.map StageRecord.start =
      c.trail.map StageRecord.start ++ (a.start? c.context.attempt).toList := by
  cases h with
  | recorded hend htrail hattempt =>
    rw [htrail, List.map_append, List.map_map]
    exact congrArg (_ ++ ·) (List.map_id _)
  | ended stage e hend hstart htrail hcontext =>
    rw [htrail.map_start, hstart]
    exact (List.append_nil _).symm

private theorem attempt_le (h : c.Performed a d) : c.context.attempt ≤ d.context.attempt := by
  cases h with
  | recorded hend htrail hattempt => exact hattempt
  | ended stage e hend hstart htrail hcontext => exact hcontext ▸ Nat.le_refl _

private theorem ended_of_end? (h : c.Performed a d) {stage : String} {e : StageEnd}
    (hend : a.end? = some (stage, e)) :
    Ended stage e c.trail d.trail ∧ d.context = c.context := by
  cases h with
  | recorded hnone htrail hattempt => cases hnone.symm.trans hend
  | ended _ _ hthis _ htrail hcontext =>
    cases hthis.symm.trans hend
    exact ⟨htrail, hcontext⟩

private theorem trail_of_end?_eq_none (h : c.Performed a d) (hend : a.end? = none) :
    d.trail = c.trail ++ (a.start? c.context.attempt).toList.map StageStart.opened := by
  cases h with
  | recorded _ htrail _ => exact htrail
  | ended _ _ hthis => cases hthis.symm.trans hend

end Performed

/-! ### One action after the other -/

/-- No record is ever lost. -/
theorem keeps_run (c : SharedContext μ) (actions : List SharedAction) :
    KeptIn c.trail (c.run actions).trail := by
  induction actions generalizing c with
  | nil => exact .refl _
  | cons a rest ih => exact (c.performed_perform a).keeps.trans (ih (c.perform a))

/-- The trail goes on with the starts in their order. -/
theorem map_start_run (c : SharedContext μ) (actions : List SharedAction) :
    (c.run actions).trail.map StageRecord.start =
      c.trail.map StageRecord.start ++ c.starts actions := by
  induction actions generalizing c with
  | nil => exact (List.append_nil _).symm
  | cons a rest ih =>
    rw [starts, ← List.append_assoc, ← (c.performed_perform a).map_start]
    exact ih (c.perform a)

private theorem attempt_le_of_mem_starts {actions : List SharedAction} {s : StageStart}
    (hs : s ∈ c.starts actions) : c.context.attempt ≤ s.attempt := by
  induction actions generalizing c with
  | nil => cases hs
  | cons a rest ih =>
    obtain hnow | hlater := List.mem_append.mp hs
    · exact Nat.le_of_eq (SharedAction.attempt_of_mem_start? hnow).symm
    · exact Nat.le_trans (c.performed_perform a).attempt_le (ih hlater)

private theorem pairwise_starts (c : SharedContext μ) (actions : List SharedAction) :
    (c.starts actions).Pairwise fun s t ↦ s.attempt ≤ t.attempt := by
  induction actions generalizing c with
  | nil => exact .nil
  | cons a rest ih =>
    rw [starts, List.pairwise_append]
    refine ⟨?_, ih (c.perform a), fun s hs t ht ↦ ?_⟩
    · cases a.start? c.context.attempt with
      | none => exact .nil
      | some s => exact List.pairwise_singleton _ _
    · rw [SharedAction.attempt_of_mem_start? hs]
      exact Nat.le_trans (c.performed_perform a).attempt_le (attempt_le_of_mem_starts ht)

/-- The trail only grows. Whatever is noted in a shared context and its successors, by stages that
overlap, come again or were never started, and however often a retry is derived:

The trail has one record for each start, in the order in which they came, with the stage and the
attempt that ran then, and attempts never decrease along it. An end closes the record of its stage
that was started last of those still open, and nothing if there is none; the others stay as they
are. Nothing else closes a record. Whatever is done later, each record stays in its place, and as
it is once it is closed. Deriving a retry leaves the trail alone: the next attempt goes on with it,
and after the last one the context is handed back as it was. -/
theorem trail_is_append_only (context : ProcessingContext μ) (history : List SharedAction) :
    let origin : SharedContext μ := { context }
    let c := origin.run history
    c.trail.map StageRecord.start = origin.starts history ∧
      (c.trail.map (·.attempt)).Pairwise (· ≤ ·) ∧
      (∀ a stage e, a.end? = some (stage, e) →
        Ended stage e c.trail (c.perform a).trail ∧ (c.perform a).context = c.context) ∧
      (∀ a, a.end? = none → (c.perform a).trail =
        c.trail ++ (a.start? c.context.attempt).toList.map StageStart.opened) ∧
      (∀ later (i : Nat) r, c.trail[i]? = some r →
        ∃ s, (c.run later).trail[i]? = some s ∧ r.Becomes s) ∧
      ∀ stage cause backoff now,
        (∀ next, c.retire stage cause backoff now = .ok next → next.trail = c.trail ∧
          next.context.attempt = c.context.attempt + 1) ∧
        (∀ last, c.retire stage cause backoff now = .error last → last = c) := by
  intro origin c
  have hstarts : c.trail.map StageRecord.start = origin.starts history :=
    origin.map_start_run history
  refine ⟨hstarts, ?_, fun a stage e hend ↦ (c.performed_perform a).ended_of_end? hend,
    fun a ↦ (c.performed_perform a).trail_of_end?_eq_none, c.keeps_run,
    fun stage cause backoff now ↦ ?_⟩
  · have hattempts : c.trail.map (·.attempt) = (origin.starts history).map (·.attempt) := by
      rw [← hstarts, List.map_map]
      rfl
    rw [hattempts, List.pairwise_map]
    exact origin.pairwise_starts history
  · rw [retire_eq]
    split
    · refine ⟨fun next hnext ↦ ?_, fun last hlast ↦ (nomatch hlast)⟩
      cases hnext
      exact ⟨rfl, ProcessingContext.attempt_succeeding ..⟩
    · refine ⟨fun next hnext ↦ (nomatch hnext), fun last hlast ↦ ?_⟩
      cases hlast
      rfl

/-- Two runs of a stage that overlap, an end that nothing was started for, a retry, and then the end
of a run of the attempt before it. -/
def overlapping : List SharedAction :=
  [.note 1 (.started "route"), .note 2 (.started "lookup"), .note 3 (.started "route"),
    .note 4 (.succeeded "route"), .note 5 (.failed "audit" "never began"),
    .retire "route" "no route" {} 6, .note 7 (.failed "route" "late"), .note 8 (.started "lookup"),
    .note 9 (.succeeded "lookup")]

/-- The second run of the route is closed first, and stays so; the lookup of the first attempt is
still open after that of the second one, and is what the next end closes. -/
theorem trail_of_overlapping_runs :
    let c := ({ context := .new () "corr-1" 2 0 } : SharedContext Unit).run overlapping
    c.trail = [⟨"route", 1, 1, some ⟨7, .failure "late"⟩⟩, ⟨"lookup", 1, 2, none⟩,
        ⟨"route", 1, 3, some ⟨4, .success⟩⟩, ⟨"lookup", 2, 8, some ⟨9, .success⟩⟩] ∧
      (∀ later, (c.run later).trail[2]? = some ⟨"route", 1, 3, some ⟨4, .success⟩⟩) ∧
      Ended "lookup" ⟨10, .success⟩ c.trail (c.perform (.note 10 (.succeeded "lookup"))).trail ∧
      (c.perform (.note 10 (.succeeded "lookup"))).trail[1]? =
        some ⟨"lookup", 1, 2, some ⟨10, .success⟩⟩ ∧
      ∀ last, c.retire "lookup" "down" {} 10 = .error last → last = c := by
  intro c
  obtain ⟨-, -, hends, -, hkeeps, hretire⟩ :=
    trail_is_append_only (.new () "corr-1" 2 0) overlapping
  refine ⟨by decide, fun later ↦ ?_, (hends _ "lookup" ⟨10, .success⟩ rfl).1,
    by decide, (hretire "lookup" "down" {} 10).2⟩
  obtain ⟨s, hs, hbecomes⟩ := hkeeps later 2 _ rfl
  cases hbecomes with
  | same => exact hs
  | closed hopen => cases hopen

end SharedContext

end GuardedDispatch
