import GuardedDispatch.Proofs.Pipeline.Record
import Mathlib.Data.List.Induction

/-!
# What the stages receive

A stage that a message enters receives what the stage before it made of its payload, what it
received itself when it failed, or, where a message starts anew, the original payload. A run keeps
what each stage received on its latest run, and the payload that a message enters again with is
always among these. So failures on the way change nothing: whatever a stage receives is what the
stages before it make of the original payload.
-/

namespace GuardedDispatch

variable {σ μ π : Type}

/-! ### Surroundings in which every stage works -/

/-- Surroundings in which a stage without work of its own has work: it hands its payload on. -/
def Surroundings.filled (around : Surroundings σ μ π) : Surroundings σ μ π :=
  { around with work? := fun stage => some (around.perform stage) }

/-- Whether the surroundings are asked for a deed: a stage is, if it has work of its own. -/
def Surroundings.isAsked (around : Surroundings σ μ π) : Deed μ π → Bool
  | .worked stage _ _ => (around.work? stage).isSome
  | _ => true

namespace PipelineRun

variable {policy : PipelinePolicy} {around : Surroundings σ μ π} {env env' : σ}
  {stats stats' : PipelineStats} {r r' : PipelineRun μ π} {stage : Stage} {payload : π}

private theorem step?_filled :
    r.step? policy around.filled env stats = r.step? policy around env stats := by
  cases hat : r.phase with
  | working stage payload =>
    rcases hwork : around.perform stage env r.shared payload with ⟨env₁, notes, answer⟩
    have hfilled : around.filled.perform stage env r.shared payload = (env₁, notes, answer) := hwork
    rw [step?_of_working hat hwork, step?_of_working hat hfilled]
    rfl
  | pausing _ _ _ | committing _ _ | rollingBack _ _ _ | reporting _ _ _ | finished _ =>
    simp only [step?, hat, Surroundings.filled]

/-- A run is the same when every stage works. -/
theorem runFor_filled (fuel : Nat) :
    runFor fuel policy around.filled env stats r = runFor fuel policy around env stats r := by
  induction fuel generalizing env stats r with
  | zero => rfl
  | succ fuel ih =>
    rw [runFor, runFor, step?_filled]
    cases r.step? policy around env stats with
    | none => rfl
    | some moved => exact ih

/-- A stage that works leaves a deed. -/
theorem deeds_filled_of_working (hat : r.phase = .working stage payload)
    {notes : List SharedContext.ContextNote} {answer : Except StageFailure π}
    (hwork : around.perform stage env r.shared payload = (env', notes, answer)) :
    r.deeds around.filled env = [.worked stage payload answer] := by
  simp only [deeds, hat, Surroundings.filled, hwork]

private theorem deeds_eq_filter :
    r.deeds around env = (r.deeds around.filled env).filter around.isAsked := by
  cases hat : r.phase with
  | working stage payload =>
    rw [deeds_filled_of_working hat rfl]
    cases hw : around.work? stage with
    | none => simp [deeds, hat, hw, Surroundings.isAsked]
    | some work => simp [deeds, hat, hw, Surroundings.isAsked]
  | pausing wait stage payload =>
    simp only [deeds, hat]
    split <;> rfl
  | committing s output | rollingBack s letter cause | finished result =>
    simp only [deeds, hat]
    rfl
  | reporting letter cause rollback =>
    simp only [deeds, hat, Surroundings.filled]
    cases around.report? <;> rfl

/-- What a run asks of its surroundings is what it asks when every stage works, but for the stages
without work of their own. -/
theorem runFor_recorded_filled (fuel : Nat) (past : List (Deed μ π)) :
    (runFor fuel policy around.recorded (env, past.filter around.isAsked) stats r).1.2 =
      (runFor fuel policy around.filled.recorded (env, past) stats r).1.2.filter
        around.isAsked := by
  induction fuel generalizing env past stats r with
  | zero => rfl
  | succ fuel ih =>
    rw [runFor, runFor, step?_recorded, step?_recorded, step?_filled]
    cases r.step? policy around env stats with
    | none => rfl
    | some moved =>
      simp only [Option.map_some]
      rw [deeds_eq_filter, ← List.filter_append]
      exact ih _

end PipelineRun

/-! ### Entries of stages -/

/-- A stage that was entered: with which payload, and what came of it. -/
structure StageEntry (π : Type) where
  stage : Stage
  payload : π
  answer : Except StageFailure π

/-- The entry that a deed is. -/
def Deed.entry? : Deed μ π → Option (StageEntry π)
  | .worked stage payload answer => some ⟨stage, payload, answer⟩
  | _ => none

/-- The entries among deeds. -/
def entries (deeds : List (Deed μ π)) : List (StageEntry π) := deeds.filterMap Deed.entry?

theorem entries_append (past more : List (Deed μ π)) :
    entries (past ++ more) = entries past ++ entries more :=
  List.filterMap_append

/-- Which stage comes after the latest entry, if there is one, and what it receives: the next stage
after a success, with its output; the failed stage after a failure, with what it received; or the
first stage, with the original payload. -/
inductive CallsFor (retryEntry : RetryEntry) (original : π) :
    Option (StageEntry π) → Stage → π → Prop
  | first : CallsFor retryEntry original none .validate original
  | passed {e : StageEntry π} {next : Stage} {output : π} (hok : e.answer = .ok output)
      (hnext : e.stage.next? = some next) : CallsFor retryEntry original (some e) next output
  | again {e : StageEntry π} {cause : StageFailure} (hfailed : e.answer = .error cause)
      (hentry : retryEntry = .failingStage) :
      CallsFor retryEntry original (some e) e.stage e.payload
  | restarted {e : StageEntry π} {cause : StageFailure} (hfailed : e.answer = .error cause)
      (hentry : retryEntry = .start) : CallsFor retryEntry original (some e) .validate original

/-- Every stage that was entered received what the entry before it called for. -/
def Supplied (retryEntry : RetryEntry) (original : π) (past : List (StageEntry π)) : Prop :=
  ∀ before e after, past = before ++ e :: after →
    CallsFor retryEntry original before.getLast? e.stage e.payload

variable {policy : PipelinePolicy} {around : Surroundings σ μ π} {env env' : σ}
  {stats stats' : PipelineStats} {r r' : PipelineRun μ π} {stage : Stage} {payload output : π}
  {retryEntry : RetryEntry} {original : π} {past : List (StageEntry π)}

private theorem Supplied.append (h : Supplied retryEntry original past) {e : StageEntry π}
    (he : CallsFor retryEntry original past.getLast? e.stage e.payload) :
    Supplied retryEntry original (past ++ [e]) := by
  intro before d after heq
  obtain rfl | ⟨after', last, rfl⟩ := after.eq_nil_or_concat
  · obtain ⟨rfl, hlast⟩ := List.append_inj' heq rfl
    cases hlast
    exact he
  · rw [List.concat_eq_append, ← List.cons_append, ← List.append_assoc] at heq
    exact h before d after' (List.append_inj' heq rfl).1

/-! ### What a run keeps -/

/-- The last stage succeeded with an output. -/
def Delivered (past : List (StageEntry π)) (output : π) : Prop :=
  ∃ payload, past.getLast? = some ⟨.operate, payload, .ok output⟩

private theorem Delivered.ne_nil (h : Delivered past output) : past ≠ [] := by
  rintro rfl
  obtain ⟨payload, hlast⟩ := h
  cases hlast

/-- What a run kept of the payloads, by what it waits for. -/
def Keeps (retryEntry : RetryEntry) (original : π) (past : List (StageEntry π)) (inputs : List π) :
    RunPhase π → Prop
  | .working stage payload =>
    inputs.length = stage.index + 1 ∧ inputs[stage.index]? = some payload ∧
      inputs[0]? = some original ∧ CallsFor retryEntry original past.getLast? stage payload
  | .pausing _ stage payload =>
    inputs[stage.index]? = some payload ∧ inputs[0]? = some original ∧
      CallsFor retryEntry original past.getLast? stage payload
  | .committing _ output | .finished (.ok output) => Delivered past output
  | .rollingBack _ _ _ | .reporting _ _ _ | .finished (.error _) => past ≠ []

/-- A run whose stages were supplied, and which kept what it needs to supply the next one. -/
structure Stocked (retryEntry : RetryEntry) (original : π) (r : PipelineRun μ π)
    (past : List (StageEntry π)) : Prop where
  supplied : Supplied retryEntry original past
  keeps : Keeps retryEntry original past r.inputs r.phase

private theorem PipelineRun.inputs_enter (hle : stage.index ≤ r.inputs.length) (payload : π)
    (now : Int) :
    (r.enter stage payload now).inputs.length = stage.index + 1 ∧
      (r.enter stage payload now).inputs[stage.index]? = some payload ∧
      ∀ j < stage.index, (r.enter stage payload now).inputs[j]? = r.inputs[j]? := by
  have hlen : (r.inputs.take stage.index).length = stage.index := List.length_take_of_le hle
  refine ⟨?_, ?_, fun j hj ↦ ?_⟩
  · simp only [enter, List.length_append, hlen, List.length_singleton]
  · simp only [enter]
    rw [List.getElem?_append_right (Nat.le_of_eq hlen), hlen, Nat.sub_self]
    rfl
  · simp only [enter]
    rw [List.getElem?_append_left (by rwa [hlen]), List.getElem?_take_of_lt hj]

private theorem stocked_begin (retryEntry : RetryEntry) (context : ProcessingContext μ)
    (original : π)
    (now : Int) : Stocked retryEntry original (.begin_ context original now) [] where
  supplied before e after heq := by simp at heq
  keeps := ⟨rfl, rfl, rfl, .first⟩

private theorem stocked_enter (hpast : Supplied retryEntry original past)
    (hle : stage.index ≤ r.inputs.length) (hfirst : stage.index = 0 → payload = original)
    (hkept : 0 < stage.index → r.inputs[0]? = some original)
    (hcalls : CallsFor retryEntry original past.getLast? stage payload) (now : Int) :
    Stocked retryEntry original (r.enter stage payload now) past := by
  obtain ⟨hlen, hown, hearlier⟩ := PipelineRun.inputs_enter hle payload now
  refine ⟨hpast, hlen, hown, ?_, hcalls⟩
  obtain hzero | hpos := Nat.eq_zero_or_pos stage.index
  · rw [hzero] at hown
    exact hfirst hzero ▸ hown
  · exact (hearlier 0 hpos).trans (hkept hpos)

/-- The last stage is the last one. -/
theorem Stage.eq_operate_of_next? (h : stage.next? = none) : stage = .operate := by
  cases stage with
  | operate => rfl
  | validate | enrich | transform | route => cases h

/-- The payload with which a message enters again that failed with a payload. -/
def PipelinePolicy.reentered (policy : PipelinePolicy) (original payload : π) : π :=
  match policy.retryEntry with
  | .failingStage => payload
  | .start => original

private theorem Keeps.getElem?_entry {inputs : List π}
    (h : Keeps policy.retryEntry original past inputs (.working stage payload)) :
    inputs[(policy.entry stage).index]? = some (policy.reentered original payload) := by
  obtain ⟨-, hown, hfirst, -⟩ := h
  unfold PipelinePolicy.entry PipelinePolicy.reentered
  cases policy.retryEntry with
  | failingStage => exact hown
  | start => exact hfirst

private theorem Keeps.reenters {inputs : List π}
    (h : Keeps policy.retryEntry original past inputs (.working stage payload))
    {cause : StageFailure} (wait : Nat) :
    Keeps policy.retryEntry original (past ++ [⟨stage, payload, .error cause⟩]) inputs
      (.pausing wait (policy.entry stage)
        (inputs[(policy.entry stage).index]?.getD payload)) := by
  have hinput := h.getElem?_entry
  refine ⟨?_, h.2.2.1, ?_⟩
  · rw [hinput]
    rfl
  · rw [hinput, List.getLast?_concat]
    unfold PipelinePolicy.entry PipelinePolicy.reentered
    cases policy.retryEntry with
    | failingStage => exact .again rfl rfl
    | start => exact .restarted rfl rfl

/-- Only a stage that works is entered. -/
theorem entries_deeds_of_ne_working (h : ∀ stage payload, r.phase ≠ .working stage payload) :
    entries (r.deeds around env) = [] := by
  cases hat : r.phase with
  | working stage payload => exact absurd hat (h stage payload)
  | pausing wait stage payload =>
    simp only [PipelineRun.deeds, hat]
    split <;> rfl
  | committing s output | rollingBack s letter cause | finished result =>
    simp only [PipelineRun.deeds, hat]
    rfl
  | reporting letter cause rollback =>
    simp only [PipelineRun.deeds, hat]
    cases around.report? <;> rfl

private theorem Stocked.worked {past : List (Deed μ π)}
    (h : Stocked retryEntry original r (entries past))
    (hat : r.phase = .working stage payload) {notes : List SharedContext.ContextNote}
    {answer : Except StageFailure π}
    (hwork : around.filled.perform stage env r.shared payload = (env', notes, answer)) :
    entries (past ++ r.deeds around.filled env) = entries past ++ [⟨stage, payload, answer⟩] ∧
      Supplied retryEntry original (entries past ++ [⟨stage, payload, answer⟩]) := by
  have hkeeps := h.keeps
  rw [hat] at hkeeps
  refine ⟨?_, h.supplied.append hkeeps.2.2.2⟩
  have hdeeds : r.deeds around.filled env = [.worked stage payload answer] :=
    PipelineRun.deeds_filled_of_working hat hwork
  rw [hdeeds, entries_append]
  rfl

private theorem delivered_append (past : List (StageEntry π)) (hlast : stage.next? = none)
    (payload output : π) : Delivered (past ++ [⟨stage, payload, .ok output⟩]) output := by
  rw [Stage.eq_operate_of_next? hlast]
  exact ⟨payload, List.getLast?_concat⟩

/-- Every step leaves a run stocked. -/
theorem Stocked.moved {past : List (Deed μ π)}
    (h : Stocked policy.retryEntry original r (entries past))
    (hm : r.Moved policy around.filled env stats env' stats' r') :
    Stocked policy.retryEntry original r' (entries (past ++ r.deeds around.filled env)) := by
  have hkeeps := h.keeps
  have hrest (hne : ∀ stage payload, r.phase ≠ .working stage payload) :
      entries (past ++ r.deeds around.filled env) = entries past := by
    rw [entries_append, entries_deeds_of_ne_working hne, List.append_nil]
  cases hm with
  | @passed stage next payload output env' notes hat hwork hnext =>
    obtain ⟨hentries, hsupplied⟩ := h.worked hat hwork
    rw [hentries]
    rw [hat] at hkeeps
    obtain ⟨hlen, -, hfirst, -⟩ := hkeeps
    have hindex := Stage.index_of_next? hnext
    refine stocked_enter hsupplied ?_ ?_ ?_ ?_ _
    · exact Nat.le_of_eq (hindex.trans hlen.symm)
    · intro hzero
      rw [hindex] at hzero
      cases hzero
    · exact fun _ ↦ hfirst
    · rw [List.getLast?_concat]
      exact .passed rfl hnext
  | completed hat hwork hlast hsession | asked hat hwork hlast hsession =>
    obtain ⟨hentries, hsupplied⟩ := h.worked hat hwork
    rw [hentries]
    exact ⟨hsupplied, delivered_append _ hlast _ _⟩
  | died hat hwork hreason =>
    obtain ⟨hentries, hsupplied⟩ := h.worked hat hwork
    rw [hentries]
    refine ⟨hsupplied, ?_⟩
    unfold PipelineRun.terminate
    dsimp only
    split <;> exact List.append_ne_nil_of_right_ne_nil _ (List.cons_ne_nil _ _)
  | retried hat hwork hends hnext =>
    obtain ⟨hentries, hsupplied⟩ := h.worked hat hwork
    rw [hentries]
    rw [hat] at hkeeps
    exact ⟨hsupplied, hkeeps.reenters _⟩
  | @resumed wait stage payload hat env' henv =>
    rw [hrest (by simp [hat])]
    rw [hat] at hkeeps
    obtain ⟨hown, hfirst, hcalls⟩ := hkeeps
    -- The stage may lie before the one that failed, and is among the inputs all the same.
    have hlt : stage.index < r.inputs.length := (List.getElem?_eq_some_iff.mp hown).1
    refine stocked_enter h.supplied (Nat.le_of_lt hlt) (fun hzero ↦ ?_) (fun _ ↦ hfirst) hcalls _
    rw [hzero, hfirst] at hown
    exact (Option.some.inj hown).symm
  | @committed s output hat env' answer hanswer stats' r' hafter =>
    rw [hrest (by simp [hat])]
    rw [hat] at hkeeps
    unfold PipelineRun.afterCommit at hafter
    split at hafter <;> cases hafter
    · exact ⟨h.supplied, hkeeps⟩
    · exact ⟨h.supplied, hkeeps.ne_nil⟩
  | rolledBack hat hanswer =>
    rw [hrest (by simp [hat])]
    rw [hat] at hkeeps
    exact ⟨h.supplied, hkeeps⟩
  | @reported letter cause rollback hat env' henv stats' r' hbury =>
    rw [hrest (by simp [hat])]
    rw [hat] at hkeeps
    unfold PipelineRun.bury at hbury
    dsimp only at hbury
    split at hbury <;> cases hbury <;> exact ⟨h.supplied, hkeeps⟩

/-- A run is stocked whenever it stops. -/
theorem stocked_runFor (policy : PipelinePolicy) (around : Surroundings σ μ π) (env : σ)
    (stats : PipelineStats) (context : ProcessingContext μ) (original : π) (now : Int)
    (fuel : Nat) :
    let ran := PipelineRun.runFor fuel policy around.filled.recorded (env, []) stats
      (.begin_ context original now)
    Stocked policy.retryEntry original ran.2.2 (entries ran.1.2) :=
  PipelineRun.runFor_recorded_keeps
    (I := fun r past ↦ Stocked policy.retryEntry original r (entries past))
    (fun _ _ _ _ _ _ _ h hm ↦ h.moved hm) (stocked_begin policy.retryEntry context original now)
    fuel

/-! ### What the stages make of a payload -/

/-- What the stages before one make of the original payload, if `f` tells what each stage makes of
what it receives. -/
def carried (f : Stage → π → π) (original : π) (stage : Stage) : π :=
  (Stage.all.take stage.index).foldl (fun payload s ↦ f s payload) original

/-- What all stages make of the original payload. -/
def carriedThrough (f : Stage → π → π) (original : π) : π :=
  Stage.all.foldl (fun payload s ↦ f s payload) original

private theorem carried_next (f : Stage → π → π) (original : π) {next : Stage}
    (h : stage.next? = some next) : carried f original next = f stage (carried f original stage) := by
  cases stage with
  | validate | enrich | transform | route =>
    cases h
    rfl
  | operate => cases h

private theorem Supplied.payload_eq (h : Supplied retryEntry original past) {f : Stage → π → π}
    (hf : ∀ e ∈ past, ∀ output, e.answer = .ok output → output = f e.stage e.payload)
    {before after : List (StageEntry π)} {e : StageEntry π} (heq : past = before ++ e :: after) :
    e.payload = carried f original e.stage := by
  -- The latest entry before decides what is called for, so the entries are taken off at their end.
  induction before using List.reverseRecOn generalizing e after with
  | nil =>
    have hcalls := h [] e after heq
    generalize e.stage = stage, e.payload = payload at hcalls ⊢
    cases hcalls with
    | first => rfl
  | append_singleton before d ih =>
    have hcalls := h _ e after heq
    rw [List.append_assoc, List.singleton_append] at heq
    have hd : d.payload = carried f original d.stage := ih heq
    have hmem : d ∈ past := heq ▸ List.mem_append_right before List.mem_cons_self
    rw [List.getLast?_concat] at hcalls
    generalize e.stage = stage, e.payload = payload at hcalls ⊢
    cases hcalls with
    | passed hok hnext => rw [hf d hmem _ hok, hd, carried_next f original hnext]
    | again hfailed hentry => exact hd
    | restarted hfailed hentry => rfl

/-- What a stage makes of a payload: what its work does, and nothing without work. -/
def Surroundings.effect (around : Surroundings σ μ π) (f : Stage → π → π) (stage : Stage) : π → π :=
  if (around.work? stage).isSome then f stage else id

private theorem Stocked.head?_eq (h : Stocked retryEntry original r past)
    (hdone : r.result?.isSome = true) :
    ∃ answer, past.head? = some ⟨.validate, original, answer⟩ := by
  have hne : past ≠ [] := by
    have hkeeps := h.keeps
    unfold PipelineRun.result? at hdone
    split at hdone
    · next result hat =>
      rw [hat] at hkeeps
      cases result with
      | ok output => exact Delivered.ne_nil hkeeps
      | error failure => exact hkeeps
    · cases hdone
  obtain ⟨e, after, rfl⟩ := List.exists_cons_of_ne_nil hne
  have hcalls := h.supplied [] e after rfl
  obtain ⟨stage, payload, answer⟩ := e
  cases hcalls with
  | first => exact ⟨answer, rfl⟩

private theorem answer_of_idle (policy : PipelinePolicy) (around : Surroundings σ μ π) (env : σ)
    (stats : PipelineStats) (r : PipelineRun μ π) (fuel : Nat) :
    let ran := PipelineRun.runFor fuel policy around.filled.recorded (env, []) stats r
    ∀ e ∈ entries ran.1.2, around.work? e.stage = none → e.answer = .ok e.payload := by
  refine PipelineRun.runFor_recorded_keeps
    (I := fun _ past ↦ ∀ e ∈ entries past, around.work? e.stage = none → e.answer = .ok e.payload)
    (fun env _ r _ _ _ past h _ e he hidle ↦ ?_) (fun e he ↦ absurd he List.not_mem_nil) fuel
  rw [entries_append] at he
  obtain he | he := List.mem_append.mp he
  · exact h e he hidle
  · cases hat : r.phase with
    | working stage payload =>
      rw [PipelineRun.deeds_filled_of_working hat rfl] at he
      obtain rfl := List.mem_singleton.mp he
      simp only [hidle]
    | pausing _ _ _ | committing _ _ | rollingBack _ _ _ | reporting _ _ _ | finished _ =>
      rw [entries_deeds_of_ne_working (by simp [hat])] at he
      cases he

private theorem mem_entries {deeds : List (Deed μ π)} {e : StageEntry π} :
    e ∈ entries deeds ↔ .worked e.stage e.payload e.answer ∈ deeds := by
  rw [entries, List.mem_filterMap]
  constructor
  · rintro ⟨d, hd, he⟩
    cases d with
    | worked stage payload answer =>
      cases he
      exact hd
    | slept _ | committed _ _ | rolledBack _ _ | reported _ _ _ => cases he
  · exact fun hd ↦ ⟨_, hd, rfl⟩

/-- Whatever stages fail on the way, and wherever a message enters again: it enters the first stage
with the original payload, each stage that it enters receives what the entry before called for, and
the payload that a failed message enters again with is always kept. If every stage that succeeds
makes of what it receives what `f` tells, each stage receives what the stages before it make of the
original payload, and a message that made it ends as what all stages make of it. A stage without
work of its own counts as one that is entered and hands its payload on. -/
theorem payloads_survive_retries (policy : PipelinePolicy) (around : Surroundings σ μ π) (env : σ)
    (stats : PipelineStats) (context : ProcessingContext μ) (original : π) :
    let ran := policy.run around env stats context original
    let asked := (policy.run around.recorded (env, []) stats context original).1.2
    let filled := policy.run around.filled.recorded (env, []) stats context original
    let start : PipelineRun μ π := .begin_ context original (around.now env)
    filled.2 = ran.2 ∧ asked = filled.1.2.filter around.isAsked ∧
      (∃ answer, (entries filled.1.2).head? = some ⟨.validate, original, answer⟩) ∧
      Supplied policy.retryEntry original (entries filled.1.2) ∧
      (∀ fuel stats stage payload,
        let r := (PipelineRun.runFor fuel policy around env stats start).2.2
        r.phase = .working stage payload → r.inputs.length = stage.index + 1 ∧
          r.inputs[(policy.entry stage).index]? = some (policy.reentered original payload)) ∧
      ∀ f : Stage → π → π,
        (∀ stage payload output, .worked stage payload (.ok output) ∈ asked →
          output = f stage payload) →
        (∀ stage payload answer, .worked stage payload answer ∈ filled.1.2 →
          payload = carried (around.effect f) original stage) ∧
        ∀ output, ran.2.2.result? = some (.ok output) →
          output = carriedThrough (around.effect f) original := by
  intro ran asked filled start
  have hrun : filled.2 = ran.2 := by
    have hfilled := PipelinePolicy.run_recorded policy around.filled env stats context original
    rw [PipelinePolicy.run, PipelinePolicy.run, PipelineRun.runFor_filled] at hfilled
    exact hfilled
  have hasked : asked = filled.1.2.filter around.isAsked :=
    PipelineRun.runFor_recorded_filled (PipelineRun.stepBound context) []
  have hstocked : Stocked policy.retryEntry original filled.2.2 (entries filled.1.2) :=
    stocked_runFor policy around env _ context original (around.now env) _
  have hdone : filled.2.2.result?.isSome = true :=
    hrun ▸ policy.run_finishes around env stats context original
  refine ⟨hrun, hasked, hstocked.head?_eq hdone, hstocked.supplied, ?_, fun f hf ↦ ?_⟩
  · intro fuel stats stage payload r hat
    have hr := (stocked_runFor policy around env stats context original (around.now env) fuel).keeps
    rw [PipelineRun.runFor_recorded, PipelineRun.runFor_filled] at hr
    have hkeeps : Keeps policy.retryEntry original _ r.inputs r.phase := hr
    rw [hat] at hkeeps
    exact ⟨hkeeps.1, hkeeps.getElem?_entry⟩
  · have heffect : ∀ e ∈ entries filled.1.2, ∀ output, e.answer = .ok output →
        output = around.effect f e.stage e.payload := by
      intro e he output hok
      unfold Surroundings.effect
      split
      · next hworks =>
        refine hf e.stage e.payload output ?_
        rw [hasked, List.mem_filter]
        exact ⟨hok ▸ mem_entries.mp he, hworks⟩
      · next hidle =>
        have hanswer := answer_of_idle policy around env _ _ _ e he (by simpa using hidle)
        rw [hok] at hanswer
        exact Except.ok.inj hanswer
    have hpayload : ∀ e ∈ entries filled.1.2,
        e.payload = carried (around.effect f) original e.stage := by
      intro e he
      obtain ⟨before, after, heq⟩ := List.append_of_mem he
      exact hstocked.supplied.payload_eq heffect heq
    refine ⟨fun stage payload answer hmem ↦ ?_, fun output hresult ↦ ?_⟩
    · exact hpayload ⟨stage, payload, answer⟩ (mem_entries.mpr hmem)
    · have hphase : filled.2.2.phase = .finished (.ok output) := by
        rw [hrun]
        unfold PipelineRun.result? at hresult
        split at hresult
        · next hat =>
          cases hresult
          exact hat
        · cases hresult
      have hkeeps := hstocked.keeps
      rw [hphase] at hkeeps
      obtain ⟨payload, hlast⟩ := hkeeps
      have hmem := List.mem_of_getLast? hlast
      have hoperate := heffect _ hmem output rfl
      rw [hpayload _ hmem] at hoperate
      exact hoperate

/-- Surroundings in which two stages work; the second of them is busy at first. -/
def busyAtFirst : Surroundings Nat Unit Nat where
  work?
    | .enrich => some fun visits _ payload => (visits, [], .ok (payload + 1))
    | .transform => some fun visits _ payload =>
      (visits + 1, [], if visits = 0 then .error ⟨"busy", true, []⟩ else .ok (payload * 10))
    | _ => none
  now _ := 0
  sleep visits _ := visits
  commit visits _ := (visits, .ok ())
  rollback visits _ := (visits, .ok ())
  report? := none

/-- What the two stages make of a payload when they succeed. -/
def busyEffect : Stage → Nat → Nat
  | .enrich, payload => payload + 1
  | _, payload => payload * 10

/-- A message that starts anew after its third stage was busy ends as it would have otherwise. -/
theorem payloads_survive_a_busy_stage :
    let policy : PipelinePolicy := { retryEntry := .start, backoff := ⟨0, 2, none⟩ }
    let context := ProcessingContext.new () "order" 3 0
    (policy.run busyAtFirst 0 {} context 5).2.1.retried = 1 ∧
      (policy.run busyAtFirst 0 {} context 5).2.2.result? = some (.ok 60) ∧
      60 = carriedThrough (busyAtFirst.effect busyEffect) 5 := by
  intro policy context
  have hresult : (policy.run busyAtFirst 0 {} context 5).2.2.result? = some (.ok 60) := by
    decide +kernel
  have hasked : (policy.run busyAtFirst.recorded (0, []) {} context 5).1.2.all (fun d ↦
      match d with
      | .worked stage payload (.ok output) => output == busyEffect stage payload
      | _ => true) = true := by
    decide +kernel
  obtain ⟨-, -, -, -, -, hcarried⟩ := payloads_survive_retries policy busyAtFirst 0 {} context 5
  have hdoes := hcarried busyEffect fun stage payload output hmem ↦
    beq_iff_eq.mp (List.all_eq_true.mp hasked _ hmem)
  exact ⟨by decide +kernel, hresult, hdoes.2 60 hresult⟩

end GuardedDispatch
