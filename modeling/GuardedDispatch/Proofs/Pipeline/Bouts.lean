import GuardedDispatch.Proofs.Pipeline.Attempts
import GuardedDispatch.Proofs.Pipeline.Workload

/-!
# What the trail of a run tells

A stage that begins adds a record to the trail, and one that ends closes the latest record of its
name that is still open. While the stages leave the trail to the pipeline, the only open record is
the last one, of the stage at work, so the trail has one record for each entry of a stage, in order.

The entries of a run fall into bouts, one for each attempt. A bout goes through consecutive stages;
it ends with the failure that ends its attempt, or with the success of the last stage.
-/

namespace GuardedDispatch

variable {σ μ π : Type}

/-! ### Stages that leave the trail alone -/

namespace SharedContext

/-- Whether a note is about an attribute, and not about the trail. -/
def ContextNote.isAttribute : ContextNote → Bool
  | .attribute .. => true
  | .started _ | .succeeded _ | .failed _ _ => false

private theorem trail_noteAll (c : SharedContext μ) (now : Int) {notes : List ContextNote}
    (h : ∀ n ∈ notes, n.isAttribute = true) : (c.noteAll now notes).trail = c.trail := by
  induction notes generalizing c with
  | nil => rfl
  | cons note rest ih =>
    obtain ⟨hnote, hrest⟩ := List.forall_mem_cons.mp h
    have hone : (c.note now note).trail = c.trail := by
      match note, hnote with
      | .attribute _ _, _ => rfl
    exact (ih (c.note now note) hrest).trans hone

private theorem trail_stageEnded {c : SharedContext μ} {before : List StageRecord} {r : StageRecord}
    (htrail : c.trail = before ++ [r]) (hopen : r.isOpen = true) (outcome : StageOutcome)
    (now : Int) :
    (c.stageEnded r.stage outcome now).trail =
      before ++ [{ r with ending? := some ⟨now, outcome⟩ }] := by
  simp only [stageEnded, htrail, List.reverse_concat, closeLatest, hopen, and_self, if_true,
    List.reverse_cons, List.reverse_reverse]

end SharedContext

/-- No stage writes into the trail by itself. -/
def Surroundings.LeavesTrail (around : Surroundings σ μ π) : Prop :=
  ∀ stage env shared payload, ∀ n ∈ (around.perform stage env shared payload).2.1,
    n.isAttribute = true

/-! ### Lines of a trail -/

/-- What a record tells, but for its times. -/
structure TrailLine where
  stage : String
  attempt : Nat
  outcome? : Option StageOutcome
  deriving DecidableEq, Repr

/-- The line that a record is. -/
def StageRecord.line (r : StageRecord) : TrailLine :=
  ⟨r.stage, r.attempt, r.ending?.map (·.outcome)⟩

/-- Whether a line tells of a failure. -/
def TrailLine.isFailure (l : TrailLine) : Bool :=
  match l.outcome? with
  | some (.failure _) => true
  | _ => false

namespace StageEntry

/-- What came of an entry. -/
def outcome (e : StageEntry π) : StageOutcome :=
  match e.answer with
  | .ok _ => .success
  | .error cause => .failure cause.message

/-- Whether the stage failed. -/
def failed (e : StageEntry π) : Bool := !e.answer.isOk

/-- The line about an entry in an attempt. -/
def line (attempt : Nat) (e : StageEntry π) : TrailLine := ⟨e.stage.name, attempt, some e.outcome⟩

private theorem isFailure_line (attempt : Nat) (e : StageEntry π) :
    (e.line attempt).isFailure = e.failed := by
  obtain ⟨stage, payload, answer⟩ := e
  cases answer <;> rfl

end StageEntry

/-- The lines about entries, the first of which is in a given attempt; after a failure the next
attempt begins. -/
def linesOf (attempt : Nat) : List (StageEntry π) → List TrailLine
  | [] => []
  | e :: rest => e.line attempt :: linesOf (attempt + e.failed.toNat) rest

variable {attempt : Nat} {past more : List (StageEntry π)}

private theorem linesOf_append :
    linesOf attempt (past ++ more) =
      linesOf attempt past ++ linesOf (attempt + past.countP StageEntry.failed) more := by
  induction past generalizing attempt with
  | nil => rfl
  | cons e rest ih =>
    rw [List.cons_append, linesOf, linesOf, ih, countP_cons_toNat, List.cons_append, Nat.add_assoc,
      Nat.add_comm e.failed.toNat]

private theorem linesOf_facts (attempt : Nat) (past : List (StageEntry π)) :
    (∀ l ∈ linesOf attempt past, l.outcome?.isSome = true) ∧
      (linesOf attempt past).countP TrailLine.isFailure = past.countP StageEntry.failed ∧
      (linesOf attempt past).map (fun l ↦ (l.stage, l.outcome?)) =
        past.map fun e ↦ (e.stage.name, some e.outcome) := by
  induction past generalizing attempt with
  | nil => exact ⟨fun _ hl ↦ (nomatch hl), rfl, rfl⟩
  | cons e rest ih =>
    obtain ⟨hended, hcount, hmap⟩ := ih (attempt + e.failed.toNat)
    refine ⟨List.forall_mem_cons.mpr ⟨rfl, hended⟩, ?_, congrArg (List.cons _) hmap⟩
    rw [linesOf, countP_cons_toNat, countP_cons_toNat, hcount, e.isFailure_line]

/-! ### What a run keeps of its trail -/

namespace PipelineRun

/-- The line about the stage at work, if one is. -/
def atWork (r : PipelineRun μ π) : List TrailLine :=
  match r.phase with
  | .working stage _ => [⟨stage.name, r.shared.context.attempt, none⟩]
  | _ => []

/-- Whether the message of a run is dead. -/
def isDead (r : PipelineRun μ π) : Bool :=
  match r.phase with
  | .rollingBack _ _ _ | .reporting _ _ _ => true
  | .finished result => (deadLetter? result).isSome
  | .working _ _ | .pausing _ _ _ | .committing _ _ => false

/-- A run that began in an attempt of a pipeline with so many retries: its trail tells of its
entries and of the stage at work, and every failure but the one it is dead of was followed by a
retry, which led to the next attempt. -/
structure Accounted (attempt retried : Nat) (stats : PipelineStats) (r : PipelineRun μ π)
    (past : List (StageEntry π)) : Prop where
  trail_eq : r.shared.trail.map StageRecord.line = linesOf attempt past ++ r.atWork
  attempt_eq : r.shared.context.attempt + retried = attempt + stats.retried
  failed_eq : past.countP StageEntry.failed + retried = stats.retried + r.isDead.toNat

variable {policy : PipelinePolicy} {around : Surroundings σ μ π} {env env' : σ}
  {stats stats' : PipelineStats} {r r' : PipelineRun μ π} {retried : Nat} {stage : Stage}
  {payload : π}

private theorem accounted_begin (context : ProcessingContext μ) (payload : π) (now : Int)
    (stats : PipelineStats) :
    Accounted context.attempt stats.retried stats (.begin_ context payload now) [] :=
  ⟨rfl, rfl, Nat.add_comm _ _⟩

private theorem Accounted.trail_afterWork (h : r.Accounted attempt retried stats past)
    (hat : r.phase = .working stage payload) {now : Int} {notes : List SharedContext.ContextNote}
    (hnotes : ∀ n ∈ notes, n.isAttribute = true) (answer : Except StageFailure π) :
    let e : StageEntry π := ⟨stage, payload, answer⟩
    (r.shared.afterWork now notes stage e.outcome).trail.map StageRecord.line =
      linesOf attempt (past ++ [e]) := by
  intro e
  have htrail := h.trail_eq
  simp only [atWork, hat] at htrail
  obtain ⟨before, last, hsplit, hbefore, hlast⟩ := List.map_eq_append_iff.mp htrail
  obtain ⟨record, rfl, hrecord⟩ := List.map_eq_singleton_iff.mp hlast
  have hstage : record.stage = stage.name := congrArg TrailLine.stage hrecord
  have hnumber : record.attempt = r.shared.context.attempt := congrArg TrailLine.attempt hrecord
  have hopen : record.isOpen = true := by
    have hnone := congrArg TrailLine.outcome? hrecord
    rw [StageRecord.isOpen, Option.isNone_iff_eq_none]
    exact Option.map_eq_none_iff.mp hnone
  have hattempt : r.shared.context.attempt = attempt + past.countP StageEntry.failed := by
    have hmade := h.attempt_eq
    have hfailed := h.failed_eq
    simp only [isDead, hat, Bool.toNat_false] at hfailed
    omega
  have hnoted := (r.shared.trail_noteAll now hnotes).trans hsplit
  rw [SharedContext.afterWork, ← hstage, SharedContext.trail_stageEnded hnoted hopen,
    List.map_append, hbefore, linesOf_append, ← hattempt, ← hnumber, linesOf, linesOf,
    StageEntry.line, ← hstage]
  rfl

private theorem line_enter (r : PipelineRun μ π) (stage : Stage) (payload : π) (now : Int) :
    (r.enter stage payload now).shared.trail.map StageRecord.line =
      r.shared.trail.map StageRecord.line ++ (r.enter stage payload now).atWork :=
  List.map_append

private theorem Accounted.worked {past : List (Deed μ π)}
    (h : r.Accounted attempt retried stats (entries past)) (hoff : around.LeavesTrail)
    (hat : r.phase = .working stage payload) {notes : List SharedContext.ContextNote}
    {answer : Except StageFailure π}
    (hwork : around.filled.perform stage env r.shared payload = (env', notes, answer)) :
    let e : StageEntry π := ⟨stage, payload, answer⟩
    let shared := r.shared.afterWork (around.now env') notes stage e.outcome
    entries (past ++ r.deeds around.filled env) = entries past ++ [e] ∧
      shared.trail.map StageRecord.line = linesOf attempt (entries past ++ [e]) ∧
      shared.context.attempt = r.shared.context.attempt ∧
      (entries past ++ [e]).countP StageEntry.failed + retried =
        stats.retried + e.failed.toNat := by
  intro e shared
  change around.perform stage env r.shared payload = _ at hwork
  have hdeeds : r.deeds around.filled env = [.worked stage payload answer] :=
    deeds_filled_of_working hat hwork
  have hnotes : ∀ n ∈ notes, n.isAttribute = true := by
    have hquiet := hoff stage env r.shared payload
    rwa [hwork] at hquiet
  have hfailed := h.failed_eq
  simp only [isDead, hat, Bool.toNat_false] at hfailed
  refine ⟨?_, h.trail_afterWork hat hnotes answer, (r.shared.afterWork_context _ _ _ _).2, ?_⟩
  · rw [entries_append, hdeeds]
    rfl
  · rw [List.countP_append, countP_cons_toNat, List.countP_nil]
    omega

private theorem Accounted.settled (h : r.Accounted attempt retried stats past)
    (hidle : r.atWork = [])
    (hshared : r'.shared = r.shared) (hidle' : r'.atWork = []) (hdead : r'.isDead = r.isDead)
    (hretried : stats'.retried = stats.retried) : r'.Accounted attempt retried stats' past where
  trail_eq := by rw [hshared, hidle', ← hidle]; exact h.trail_eq
  attempt_eq := by rw [hshared, hretried]; exact h.attempt_eq
  failed_eq := by rw [hdead, hretried]; exact h.failed_eq

/-- Every step keeps the account of a run. -/
theorem Accounted.moved {past : List (Deed μ π)}
    (h : r.Accounted attempt retried stats (entries past)) (hoff : around.LeavesTrail)
    (hm : r.Moved policy around.filled env stats env' stats' r') :
    r'.Accounted attempt retried stats' (entries (past ++ r.deeds around.filled env)) := by
  have hrest (hne : ∀ stage payload, r.phase ≠ .working stage payload) :
      entries (past ++ r.deeds around.filled env) = entries past := by
    rw [entries_append, entries_deeds_of_ne_working hne, List.append_nil]
  have hattempt := h.attempt_eq
  cases hm with
  | passed hat hwork hnext =>
    obtain ⟨hentries, htrail, hkept, hfailed⟩ := h.worked hoff hat hwork
    rw [hentries]
    refine ⟨?_, hkept ▸ hattempt, hfailed⟩
    rw [line_enter]
    exact congrArg (· ++ _) htrail
  | completed hat hwork hlast hsession | asked hat hwork hlast hsession =>
    obtain ⟨hentries, htrail, hkept, hfailed⟩ := h.worked hoff hat hwork
    rw [hentries]
    exact ⟨htrail.trans (List.append_nil _).symm, hkept ▸ hattempt, hfailed⟩
  | @died stage payload env' notes e hat hwork reason hreason =>
    obtain ⟨hentries, htrail, hkept, hfailed⟩ := h.worked hoff hat hwork
    rw [hentries]
    unfold terminate
    dsimp only
    split <;> exact ⟨htrail.trans (List.append_nil _).symm, hkept ▸ hattempt, hfailed⟩
  | @retried stage payload env' notes e next hat hwork hends hnext =>
    obtain ⟨hentries, htrail, hkept, hfailed⟩ := h.worked hoff hat hwork
    obtain ⟨c, hc, rfl⟩ := Option.map_eq_some_iff.mp hnext
    have hmore := (ProcessingContext.nextAttempt?_eq_some hc).2.1.trans (congrArg (· + 1) hkept)
    rw [hentries]
    refine ⟨htrail.trans (List.append_nil _).symm, ?_, hfailed⟩
    change c.attempt + retried = attempt + (stats.retried + 1)
    omega
  | @resumed wait stage payload hat env' henv =>
    rw [hrest (by simp [hat])]
    refine ⟨?_, hattempt, ?_⟩
    · have htrail := h.trail_eq
      simp only [atWork, hat, List.append_nil] at htrail
      rw [line_enter, htrail]
    · have hfailed := h.failed_eq
      simp only [isDead, hat] at hfailed
      exact hfailed
  | @committed s output hat env' answer hanswer stats' r' hafter =>
    rw [hrest (by simp [hat])]
    unfold afterCommit at hafter
    split at hafter <;> cases hafter <;>
      exact h.settled (by simp only [atWork, hat]) rfl rfl (by simp only [isDead, hat]; rfl) rfl
  | rolledBack hat hanswer =>
    rw [hrest (by simp [hat])]
    exact h.settled (by simp only [atWork, hat]) rfl rfl (by simp only [isDead, hat]) rfl
  | @reported letter cause rollback hat env' henv stats' r' hbury =>
    rw [hrest (by simp [hat])]
    unfold bury at hbury
    dsimp only at hbury
    split at hbury <;> cases hbury <;>
      exact h.settled (by simp only [atWork, hat]) rfl rfl (by simp only [isDead, hat]; rfl) rfl

end PipelineRun

/-! ### Bouts -/

private theorem Stage.take_drop_of_next? {stage next last : Stage} (hnext : stage.next? = some next)
    (hle : next.index ≤ last.index) :
    (all.take last.index).drop stage.index = stage :: (all.take last.index).drop next.index := by
  cases stage <;> cases hnext <;> cases last <;> first | rfl | exact absurd hle (by decide)

/-- One attempt at a message: the stages it went through, from the first to the last, and the text
of the failure that ended it, if one did. -/
structure Bout where
  attempt : Nat
  first : Stage
  last : Stage
  failure? : Option String
  deriving DecidableEq, Repr

namespace Bout

/-- The stages that were passed before the last. -/
def passed (b : Bout) : List Stage := (Stage.all.take b.last.index).drop b.first.index

/-- What came of the last stage. -/
def outcome (b : Bout) : StageOutcome := b.failure?.elim .success .failure

/-- The lines about a bout: the stages that were passed succeeded. -/
def lines (b : Bout) : List TrailLine :=
  b.passed.map (fun stage ↦ ⟨stage.name, b.attempt, some .success⟩) ++
    [⟨b.last.name, b.attempt, some b.outcome⟩]

/-- A bout that follows another: the other failed, and the message entered again where its policy
has it enter. -/
structure Follows (policy : PipelinePolicy) (b next : Bout) : Prop where
  attempt_eq : next.attempt = b.attempt + 1
  failed : b.failure?.isSome = true
  first_eq : next.first = policy.entry b.last

private theorem lines_of_next? {b : Bout} {stage : Stage} (hnext : stage.next? = some b.first)
    (hle : b.first.index ≤ b.last.index) :
    { b with first := stage }.lines = ⟨stage.name, b.attempt, some .success⟩ :: b.lines := by
  simp only [lines, passed, Stage.take_drop_of_next? hnext hle, List.map_cons, List.cons_append]
  rfl

private theorem lines_singleton (attempt : Nat) (stage : Stage) (failure? : Option String) :
    lines ⟨attempt, stage, stage, failure?⟩ =
      [⟨stage.name, attempt, some (failure?.elim .success .failure)⟩] := by
  cases stage <;> rfl

end Bout

/-- The bouts of a message from a stage of an attempt on: one follows the other, each goes through
its stages in order, and the last one failed or went through the last stage. -/
structure Bouts (policy : PipelinePolicy) (attempt : Nat) (stage : Stage) (failed : Bool)
    (bouts : List Bout) : Prop where
  begins : ∃ b, bouts.head? = some b ∧ b.attempt = attempt ∧ b.first = stage
  follow : bouts.IsChain (Bout.Follows policy)
  forward : ∀ b ∈ bouts, b.first.index ≤ b.last.index
  ends : ∃ b, bouts.getLast? = some b ∧ b.failure?.isSome = failed ∧
    (failed = false → b.last = .operate)

variable {policy : PipelinePolicy} {c : ProcessingContext μ} {result : Except PipelineFailure π}
  {stage next : Stage} {failed : Bool} {deeds : List (Deed μ π)}

private theorem Bouts.single (failure? : Option String)
    (hlast : failure? = none → stage = .operate) :
    Bouts policy attempt stage failure?.isSome [⟨attempt, stage, stage, failure?⟩] where
  begins := ⟨_, rfl, rfl, rfl⟩
  follow := .singleton _
  forward _ hb := List.mem_singleton.mp hb ▸ Nat.le_refl _
  ends := ⟨_, rfl, rfl, fun hnone ↦ hlast (by simpa using hnone)⟩

private theorem Bouts.passed {bouts : List Bout} (h : Bouts policy attempt next failed bouts)
    (hnext : stage.next? = some next) :
    ∃ more, Bouts policy attempt stage failed more ∧
      more.flatMap Bout.lines =
        ⟨stage.name, attempt, some .success⟩ :: bouts.flatMap Bout.lines := by
  obtain ⟨⟨b, hhead, rfl, rfl⟩, hfollow, hforward, last, hlast, hfailed, hdone⟩ := h
  obtain ⟨rest, rfl⟩ := List.head?_eq_some_iff.mp hhead
  obtain ⟨hle, hrest⟩ := List.forall_mem_cons.mp hforward
  have hindex := Stage.index_of_next? hnext
  refine ⟨{ b with first := stage } :: rest, ⟨⟨_, rfl, rfl, rfl⟩, ?_, ?_, ?_⟩, ?_⟩
  · cases rest with
    | nil => exact .singleton _
    | cons d rest =>
      obtain ⟨hd, hmore⟩ := List.isChain_cons_cons.mp hfollow
      exact .cons_cons ⟨hd.attempt_eq, hd.failed, hd.first_eq⟩ hmore
  · refine List.forall_mem_cons.mpr ⟨?_, hrest⟩
    change stage.index ≤ b.last.index
    omega
  · cases rest with
    | nil =>
      obtain rfl := Option.some.inj hlast
      exact ⟨_, rfl, hfailed, hdone⟩
    | cons d rest => exact ⟨last, hlast, hfailed, hdone⟩
  · rw [List.flatMap_cons, List.flatMap_cons, Bout.lines_of_next? hnext hle, List.cons_append]

private theorem Bouts.retried {bouts : List Bout}
    (h : Bouts policy (attempt + 1) (policy.entry stage) failed bouts) (text : String) :
    Bouts policy attempt stage failed (⟨attempt, stage, stage, some text⟩ :: bouts) := by
  obtain ⟨⟨b, hhead, hattempt, hfirst⟩, hfollow, hforward, last, hlast, hends⟩ := h
  obtain ⟨rest, rfl⟩ := List.head?_eq_some_iff.mp hhead
  exact ⟨⟨_, rfl, rfl, rfl⟩, .cons_cons ⟨hattempt, rfl, hfirst⟩ hfollow,
    List.forall_mem_cons.mpr ⟨Nat.le_refl _, hforward⟩, last, hlast, hends⟩

private theorem lastFailure?_append (past : List (Deed μ π)) {more : List (Deed μ π)}
    (h : entries more ≠ []) : lastFailure? (past ++ more) = lastFailure? more := by
  have hne : more.filterMap Deed.verdict? ≠ [] := by
    intro hnil
    refine h (List.filterMap_eq_nil_iff.mpr fun d hd ↦ ?_)
    have hnone := List.filterMap_eq_nil_iff.mp hnil d hd
    cases d with
    | worked stage payload answer => cases answer <;> cases hnone
    | slept _ | committed _ _ | rolledBack _ _ | reported _ _ _ => rfl
  rw [lastFailure?, lastFailure?, List.filterMap_append, List.getLast?_append_of_ne_nil _ hne]

private theorem lastFailure?_worked_of_ends {ends : List (Deed μ π)}
    (hends : ∀ d ∈ ends, d.isWork = false)
    (payload : π) (answer : Except StageFailure π) :
    lastFailure? (.worked stage payload answer :: ends) =
      match answer with
      | .ok _ => none
      | .error e => some (stage, e) := by
  have hnone : ∀ d ∈ ends, d.verdict? = none := by
    intro d hd
    have hidle := hends d hd
    cases d with
    | worked _ _ _ | slept _ => cases hidle
    | committed _ _ | rolledBack _ _ | reported _ _ _ => rfl
  have hall : lastFailure? ([.worked stage payload answer] ++ ends) =
      lastFailure? [.worked stage payload answer] := lastFailure?_append_of_none hnone
  exact hall.trans (lastFailure?_append_worked [] stage payload answer)

private theorem Course.exists_bouts (h : Course policy c result attempt stage deeds) :
    ∃ bouts, Bouts policy attempt stage (lastFailure? deeds).isSome bouts ∧
      linesOf attempt (entries deeds) = bouts.flatMap Bout.lines := by
  induction h with
  | @passed attempt stage next payload output deeds hnext hmore ih =>
    obtain ⟨bouts, hbouts, hlines⟩ := ih
    obtain ⟨more, hall, hlines'⟩ := hbouts.passed hnext
    have hlast := lastFailure?_append [.worked stage payload (.ok output)] hmore.entries_ne_nil
    refine ⟨more, hlast ▸ hall, ?_⟩
    rw [hlines', ← hlines]
    rfl
  | @completed attempt stage payload output deeds hlast hends =>
    have hstage := Stage.eq_operate_of_next? hlast
    refine ⟨[⟨attempt, stage, stage, none⟩], ?_, ?_⟩
    · rw [lastFailure?_worked_of_ends hends]
      exact .single none fun _ ↦ hstage
    · change _ :: linesOf _ (entries deeds) = _
      rw [(Course.entries_of_ends hends).1, List.flatMap_singleton, Bout.lines_singleton]
      rfl
  | @retried attempt stage payload e deeds hretries hmore ih =>
    obtain ⟨bouts, hbouts, hlines⟩ := ih
    have hpause := Course.entries_pause_append (policy.backoff.delayAfter attempt) deeds
    have hlast := lastFailure?_append
      (.worked stage payload (.error e) :: pause (policy.backoff.delayAfter attempt))
      hmore.entries_ne_nil
    refine ⟨⟨attempt, stage, stage, some e.message⟩ :: bouts, ?_, ?_⟩
    · rw [← List.cons_append, hlast]
      exact hbouts.retried e.message
    · change _ :: linesOf (attempt + 1) (entries (pause _ ++ deeds)) = _
      rw [hpause, hlines, List.flatMap_cons, Bout.lines_singleton]
      rfl
  | @died attempt stage payload e letter deeds hover hends hletter htells =>
    refine ⟨[⟨attempt, stage, stage, some e.message⟩], ?_, ?_⟩
    · rw [lastFailure?_worked_of_ends hends]
      exact .single (some e.message) fun hnone ↦ nomatch hnone
    · change _ :: linesOf _ (entries deeds) = _
      rw [(Course.entries_of_ends hends).1, List.flatMap_singleton, Bout.lines_singleton]
      rfl

/-! ### The trail of a run -/

private theorem PipelineRun.phase_of_result? {r : PipelineRun μ π} (h : r.result? = some result) :
    r.phase = .finished result := by
  unfold result? at h
  split at h
  · next hat =>
    cases h
    exact hat
  · cases h

private theorem Settled.isSome_deadLetter? {sink : Bool} {failure? : Option (Stage × StageFailure)}
    {ends : List (Deed μ π)} (h : Settled c sink failure? result ends) :
    (deadLetter? result).isSome = failure?.isSome := by
  cases h with
  | unsettled hs output | committed hs output | commitFailed hs text => rfl
  | @buried stage cause letter hletter rollback rolled hrolled reports hreports =>
    cases rollback <;> rfl

namespace PipelinePolicy

variable (policy : PipelinePolicy) (around : Surroundings σ μ π) (env : σ) (stats : PipelineStats)
  (context : ProcessingContext μ) (payload : π)

/-- A message takes the same way when every stage works and all deeds are recorded. -/
theorem run_filled_recorded :
    (policy.run around.filled.recorded (env, []) stats context payload).2 =
      (policy.run around env stats context payload).2 := by
  have hfilled := run_recorded policy around.filled env stats context payload
  rw [run, run, PipelineRun.runFor_filled] at hfilled
  exact hfilled

/-- A run takes a course to its result, which carries a dead letter exactly if a stage failed
last. -/
theorem course_run :
    let deeds := (policy.run around.filled.recorded (env, []) stats context payload).1.2
    ∃ result, (policy.run around env stats context payload).2.2.result? = some result ∧
      Course policy context result context.attempt .validate deeds ∧
      (lastFailure? deeds).isSome = (deadLetter? result).isSome := by
  intro deeds
  have hrun := policy.run_filled_recorded around env stats context payload
  obtain ⟨result, deeds', hresult, hdeeds, hcourse⟩ := PipelineRun.ahead_runFor policy around env
    { stats with processed := stats.processed + 1 }
    (PipelineRun.stepsLeft_begin_le context payload (around.now env)) (.refl context) []
  obtain ⟨result', work, ends, hresult', hends, -, hsettled⟩ :=
    policy.settled_run around.filled env stats context payload
  change _ = [] ++ deeds' at hdeeds
  obtain rfl : result' = result := Option.some.inj (hresult'.symm.trans hresult)
  refine ⟨result', hrun ▸ hresult, ?_, ?_⟩
  · have heq : deeds = deeds' := hdeeds
    rw [heq]
    exact hcourse
  · have heq : deeds = work ++ ends := hends
    rw [heq, lastFailure?_append_of_none hsettled.verdict?_eq_none, hsettled.isSome_deadLetter?]

/-- The account of a run at its end. -/
theorem accounted_run (hoff : around.LeavesTrail) :
    let ran := policy.run around env stats context payload
    ran.2.2.Accounted context.attempt stats.retried ran.2.1
      (entries (policy.run around.filled.recorded (env, []) stats context payload).1.2) := by
  intro ran
  have hkept : (policy.run around.filled.recorded (env, []) stats context payload).2.2.Accounted
      context.attempt stats.retried
      (policy.run around.filled.recorded (env, []) stats context payload).2.1
      (entries (policy.run around.filled.recorded (env, []) stats context payload).1.2) := by
    refine PipelineRun.runFor_keeps (I := fun (e : σ × List (Deed μ π)) stats' r ↦
      r.Accounted context.attempt stats.retried stats' (entries e.2)) ?_
      (PipelineRun.accounted_begin context payload (around.now env)
        { stats with processed := stats.processed + 1 }) _
    rintro ⟨env, past⟩ stats₁ r e' stats' r' h hs
    rw [PipelineRun.step?_recorded] at hs
    obtain ⟨⟨env', stats₂, r₂⟩, hmoved, heq⟩ := Option.map_eq_some_iff.mp hs
    cases heq
    exact h.moved hoff (PipelineRun.moved_of_step? hmoved)
  rw [policy.run_filled_recorded] at hkept
  exact hkept

end PipelinePolicy

/-- The trail of a run tells exactly what ran, if the stages leave it alone. Its run finishes, with
one closed record for each entry of a stage, which has the name of the stage and what came of it, in
order. The records make bouts, one for each attempt from that of the context on: the first begins
at the first stage, and each other one where the policy has the message enter that failed in the
bout before. The records of a bout are those of consecutive stages; all are of one attempt, and all
succeeded but for the last of a bout that failed. The last bout failed exactly if the result
carries a dead letter, and otherwise ends with the last stage. There are as many failures as
retries, and one more if the message is dead. -/
theorem trail_tells_what_ran (policy : PipelinePolicy) (around : Surroundings σ μ π)
    (hoff : around.LeavesTrail) (env : σ) (stats : PipelineStats) (context : ProcessingContext μ)
    (payload : π) :
    let ran := policy.run around env stats context payload
    let asked := (policy.run around.recorded (env, []) stats context payload).1.2
    let filled := policy.run around.filled.recorded (env, []) stats context payload
    let deeds := filled.1.2
    let trail := ran.2.2.shared.trail
    filled.2 = ran.2 ∧ asked = deeds.filter around.isAsked ∧
      ∃ result bouts, ran.2.2.result? = some result ∧
      trail.map (fun r ↦ (r.stage, r.ending?.map (·.outcome))) =
        (entries deeds).map (fun e ↦ (e.stage.name, some e.outcome)) ∧
      trail.map StageRecord.line = bouts.flatMap Bout.lines ∧
      Bouts policy context.attempt .validate (deadLetter? result).isSome bouts ∧
      (∀ r ∈ trail, r.isOpen = false) ∧
      trail.countP (·.line.isFailure) + stats.retried =
        ran.2.1.retried + (deadLetter? result).isSome.toNat := by
  intro ran asked filled deeds trail
  obtain ⟨result, hresult, hcourse, hdead⟩ := policy.course_run around env stats context payload
  obtain ⟨bouts, hbouts, hlines⟩ := hcourse.exists_bouts
  obtain ⟨hended, hcount, hmap⟩ := linesOf_facts context.attempt (entries deeds)
  have haccount : ran.2.2.Accounted context.attempt stats.retried ran.2.1 (entries deeds) :=
    policy.accounted_run around env stats context payload hoff
  have hphase : ran.2.2.phase = .finished result := PipelineRun.phase_of_result? hresult
  have htrail : trail.map StageRecord.line = linesOf context.attempt (entries deeds) := by
    have htrail := haccount.trail_eq
    simp only [PipelineRun.atWork, hphase, List.append_nil] at htrail
    exact htrail
  refine ⟨policy.run_filled_recorded around env stats context payload,
    PipelineRun.runFor_recorded_filled (PipelineRun.stepBound context) [], result, bouts, hresult,
    ?_, htrail.trans hlines, hdead ▸ hbouts, ?_, ?_⟩
  · rw [← hmap, ← htrail, List.map_map]
    rfl
  · intro r hr
    have hsome := hended r.line (htrail ▸ List.mem_map_of_mem hr)
    rw [StageRecord.line, Option.isSome_map] at hsome
    rw [StageRecord.isOpen, Option.isNone_eq_false_iff, hsome]
  · have hfailed := haccount.failed_eq
    simp only [PipelineRun.isDead, hphase] at hfailed
    rw [← hfailed, ← hcount, ← htrail, List.countP_map]
    rfl

private theorem leavesTrail_busyAtFirst : busyAtFirst.LeavesTrail := by
  intro stage env shared payload n hn
  cases stage <;> cases hn

/-- A message that starts anew after its third stage was busy leaves two bouts: one that goes to the
failure, and one that goes through all stages. -/
theorem trail_of_a_busy_stage :
    let policy : PipelinePolicy := { retryEntry := .start, backoff := ⟨0, 2, none⟩ }
    let context := ProcessingContext.new () "order" 3 0
    let trail := (policy.run busyAtFirst 0 {} context 5).2.2.shared.trail
    let bouts : List Bout :=
      [⟨1, .validate, .transform, some "busy"⟩, ⟨2, .validate, .operate, none⟩]
    busyAtFirst.LeavesTrail ∧ trail.map StageRecord.line = bouts.flatMap Bout.lines ∧
      trail.countP (·.line.isFailure) = 1 ∧ ∀ r ∈ trail, r.isOpen = false := by
  intro policy context trail bouts
  have hlines : trail.map StageRecord.line = bouts.flatMap Bout.lines := by decide +kernel
  obtain ⟨-, -, result, -, hresult, -, -, -, hclosed, hcount⟩ :=
    trail_tells_what_ran policy busyAtFirst leavesTrail_busyAtFirst 0 {} context 5
  have hok : (policy.run busyAtFirst 0 {} context 5).2.2.result? = some (.ok 60) := by
    decide +kernel
  have hretried : (policy.run busyAtFirst 0 {} context 5).2.1.retried = 1 := by decide +kernel
  obtain rfl := Option.some.inj (hresult.symm.trans hok)
  simp only [hretried, deadLetter?, Option.isSome_none, Bool.toNat_false, Nat.add_zero] at hcount
  exact ⟨leavesTrail_busyAtFirst, hlines, hcount, hclosed⟩

end GuardedDispatch
