import GuardedDispatch.Proofs.Breaker.Reigns
import GuardedDispatch.Proofs.Connector.Dropped
import GuardedDispatch.Proofs.Connector.Override
import GuardedDispatch.Proofs.Stack.Counters

/-!
# The history that plain calls find

A chronicle is traffic with an account that forgets nothing: the settings that calls put into
effect, one after another, and the outcomes that the breaker recorded under each. Held against it,
the window that a plain call finds is what those settings left. That is less than the latest
outcomes of the generation from when a call with a smaller window enters until enough outcomes came
after it.
-/

namespace GuardedDispatch

/-- Traffic with the settings that were in effect since its beginning, the latest first. -/
structure Chronicle (β : Type) where
  traffic : Traffic β
  built : BreakerConfig
  reigns : List Reign

private theorem ConnectorCall.place?_of_attempt? {call : ConnectorCall} {a : Attempt}
    (h : call.attempt? = some a) : call.place? = some (.attempting a) := by
  cases hat : call.stage with
  | guarded inner =>
    simp only [attempt?, hat] at h
    simp only [place?, hat]
    cases hphase : inner.phase with
    | attempting a' =>
      simp only [hphase, Phase.attempt?, Option.some.injEq] at h
      rw [h]
    | arriving | queued _ | admitted | throttled _ _ | preparing _ | pausing _ _ | finished _ =>
      simp only [hphase, Phase.attempt?, reduceCtorEq] at h
  | arriving | answered _ => simp only [attempt?, hat, reduceCtorEq] at h

namespace Traffic

variable {β : Type} [Backend β]

/-- The permit that the call has for its attempt under way that an event lets take a step. -/
def permit? (t : Traffic β) : TrafficEvent β → Option CallPermit
  | .move i => ((t.call? i).bind ConnectorCall.attempt?).bind (·.permit?)
  | _ => none

/-- The outcome that an event makes the breaker record, with the permit that it comes under. -/
def recorded? (t : Traffic β) (e : TrafficEvent β) : Option (CallPermit × Outcome) := do
  let permit ← t.permit? e
  let b ← t.breaker?
  let b' ← (t.apply e).breaker?
  let outcome ← b.counted? b'
  some (permit, outcome)

private theorem recorded?_eq {t : Traffic β} {e : TrafficEvent β} {b b' : Breaker}
    (hb : t.breaker? = some b) (hb' : (t.apply e).breaker? = some b') :
    t.recorded? e = (t.permit? e).bind fun permit ↦ (b.counted? b').map (permit, ·) := by
  simp only [recorded?, hb, hb', Option.bind_eq_bind, Option.bind_some]
  congr 1
  funext permit
  cases b.counted? b' <;> rfl

/-- A call without settings of its own is about to enter. -/
structure PlainEntry (t : Traffic β) (i : Nat) (call : ConnectorCall) : Prop where
  call_eq : t.call? i = some call
  stage_eq : call.stage = .arriving
  kind_eq : call.request.kind = t.connector.kind
  status_eq : t.connector.status = .running
  settings_eq : call.context.breaker? = none

private theorem Tuned.breaker?_plainEntry {t : Traffic β} {built : BreakerConfig} {b : Breaker}
    (h : t.Tuned built b) {i : Nat} {call : ConnectorCall} (hentry : t.PlainEntry i call) :
    (t.apply (.move i)).breaker? = some (b.reconfigure built) := by
  have hstep : t.connector.stepCall? t.now call =
      some (t.connector.enter.tuned call.context,
        { call with stage := .guarded { options := call.context.callOptions } }) := by
    simp only [Connector.stepCall?, hentry.stage_eq, Request.expect, hentry.kind_eq, if_true]
    exact if_pos hentry.status_eq
  have hsettings : call.context.breakerSettings built = built := by
    rw [CallContext.breakerSettings, hentry.settings_eq, Option.getD_none]
  have htuned := breaker?_tuned h.breaker_eq h.built_eq call.context
  rw [hsettings] at htuned
  simp only [Traffic.apply, hentry.call_eq, hstep]
  exact htuned

/-- Whether an event is one of calls that come one after another: a call comes when all before it
are answered, and nothing but calls goes on. -/
def isOrderly (t : Traffic β) : TrafficEvent β → Bool
  | .arrive .. => t.calls.all (·.any (·.answer?.isSome))
  | .move _ | .wait _ => true
  | _ => false

/-- Whether calls come one after another. -/
def isSequential (t : Traffic β) : List (TrafficEvent β) → Bool
  | [] => true
  | e :: rest => t.isOrderly e && (t.apply e).isSequential rest

end Traffic

namespace Chronicle

variable {β : Type} [Backend β]

/-- A new connector, in the reign of the settings that it was built with. -/
def new (backend : β) (config : StackConfig) (built : BreakerConfig) (drainTimeout : Nat)
    (healthContext? : Option CallContext) (start : Nat) : Chronicle β where
  traffic := .new backend config drainTimeout healthContext? start
  built
  reigns := [{ settings := built }]

/-- Lets an event happen: a call that enters begins a reign, and an outcome is noted in the latest
one. -/
def apply (x : Chronicle β) (e : TrafficEvent β) : Chronicle β :=
  { x with
    traffic := x.traffic.apply e
    reigns :=
      if (x.traffic.apply e).entered.length = x.traffic.entered.length then
        (x.traffic.recorded? e).elim x.reigns (Reign.record · x.reigns)
      else { settings := (x.traffic.apply e).asked x.built } :: x.reigns }

/-- Lets one event happen after another. -/
def run (x : Chronicle β) (events : List (TrafficEvent β)) : Chronicle β := events.foldl apply x

/-- The traffic of a chronicle is the traffic. -/
theorem traffic_run (x : Chronicle β) (events : List (TrafficEvent β)) :
    (x.run events).traffic = x.traffic.run events := by
  induction events generalizing x with
  | nil => rfl
  | cons e rest ih => exact ih (x.apply e)

/-- No event touches what the connector was built with. -/
theorem built_run (x : Chronicle β) (events : List (TrafficEvent β)) :
    (x.run events).built = x.built := by
  induction events generalizing x with
  | nil => rfl
  | cons e rest ih => exact ih (x.apply e)

variable {x : Chronicle β} {b : Breaker}

/-- The breaker is under the settings of the latest call to enter, and recalls the reigns. -/
structure Kept (x : Chronicle β) (b : Breaker) : Prop where
  tuned : x.traffic.Tuned x.built b
  balanced : x.traffic.Balanced
  recalls : b.Recalls x.reigns

omit [Backend β] in
private theorem Kept.generation_le (h : x.Kept b) {e : TrafficEvent β} {call : ConnectorCall}
    {a : Attempt} {p : CallPermit} (hreports : x.traffic.Reports e call a p) :
    p.generation ≤ b.generation := by
  obtain ⟨i, -, hcall⟩ := hreports.moves
  have howed := h.balanced.stack.lent b h.tuned.breaker_eq
  refine howed.generation_le (List.mem_filterMap.mpr ⟨.attempting a, ?_, hreports.permit_eq⟩)
  have hplace := ConnectorCall.place?_of_attempt? hreports.attempt_eq
  exact (Traffic.places_perm hcall).mem_iff.mpr
    (List.mem_append_left _ (Option.mem_toList.mpr hplace))

/-- Every event keeps the account. -/
theorem Kept.apply (h : x.Kept b) (e : TrafficEvent β) : ∃ b', (x.apply e).Kept b' := by
  obtain ⟨b', htuned⟩ := h.tuned.apply e
  have hb' := htuned.breaker_eq
  refine ⟨b', htuned, h.balanced.apply e, ?_⟩
  have hrecorded := Traffic.recorded?_eq h.tuned.breaker_eq hb'
  cases h.tuned.effect e with
  | @quiet b₁ hb hquiet hentered =>
    obtain rfl := Option.some.inj (hb'.symm.trans hb)
    have hnone : x.traffic.recorded? e = none := by
      rw [hrecorded, Breaker.counted?, if_pos hquiet.recorded_eq]
      exact Option.bind_fun_none _
    simp only [Chronicle.apply, hentered, hnone, if_true, Option.elim_none]
    exact h.recalls.quiet hquiet
  | @tuned context hb hentered =>
    obtain rfl := Option.some.inj (hb'.symm.trans hb)
    have hlength : (x.traffic.apply e).entered.length ≠ x.traffic.entered.length := by
      rw [hentered, List.length_cons]
      exact Nat.succ_ne_self _
    have hasked : (x.traffic.apply e).asked x.built = context.breakerSettings x.built := by
      rw [Traffic.asked, hentered]
      rfl
    simp only [Chronicle.apply, if_neg hlength, hasked]
    exact h.recalls.reconfigure h.tuned.fits _
  | @reported call a p failed hreports hb hentered =>
    obtain rfl := Option.some.inj (hb'.symm.trans hb)
    have hpermit : x.traffic.permit? e = some p := by
      obtain ⟨i, rfl, hcall⟩ := hreports.moves
      simp only [Traffic.permit?, hcall, Option.bind_some, hreports.attempt_eq, hreports.permit_eq]
    rw [hpermit, Breaker.counted?_complete] at hrecorded
    simp only [Chronicle.apply, hentered, hrecorded, if_true, Option.bind_some, Option.map_some,
      Option.elim_some]
    exact h.recalls.complete h.tuned.fits (h.generation_le hreports) _ _ _

/-- The account is kept in every run. -/
theorem kept_run {config : StackConfig} {built : BreakerConfig}
    (hconfig : config.breaker? = some built) (backend : β) (drainTimeout : Nat)
    (healthContext? : Option CallContext) (start : Nat) (events : List (TrafficEvent β)) :
    ∃ b, ((new backend config built drainTimeout healthContext? start).run events).Kept b := by
  have hnew : ∃ b, (new backend config built drainTimeout healthContext? start).Kept b := by
    obtain ⟨b, htuned⟩ :=
      Traffic.tuned_new hconfig backend drainTimeout healthContext? start
    refine ⟨b, htuned, Traffic.balanced_new backend config drainTimeout healthContext? start, ?_⟩
    have hb : (Traffic.new backend config drainTimeout healthContext? start).breaker? =
        some (.new ((Backend.kind backend).name ++ "-circuit-breaker") built start) := by
      change config.breaker?.map _ = _
      rw [hconfig]
      rfl
    obtain rfl := Option.some.inj (htuned.breaker_eq.symm.trans hb)
    exact Breaker.recalls_new _ built start
  generalize new backend config built drainTimeout healthContext? start = x at hnew
  induction events generalizing x with
  | nil => exact hnew
  | cons e rest ih =>
    obtain ⟨b, h⟩ := hnew
    exact ih _ (h.apply e)

/-! ### Plain calls -/

/-- Whatever calls passed, with whatever settings of their own, a plain call finds the settings that
the connector was built with in effect when it enters, and, if the breaker is closed, the latest
outcomes of its generation in the window: as many as fit of what the settings before it left. Those
are all that fit of the whole generation exactly if the settings of every earlier call had room for
all of them but those that were recorded after the next call entered. -/
theorem plain_call_finds_history_iff (backend : β) (config : StackConfig) (built : BreakerConfig)
    (hconfig : config.breaker? = some built) (drainTimeout : Nat)
    (healthContext? : Option CallContext) (start : Nat) (events : List (TrafficEvent β)) (i : Nat)
    (call : ConnectorCall)
    (hentry : ((Traffic.new backend config drainTimeout healthContext? start).run
      events).PlainEntry i call) :
    let t := (Traffic.new backend config drainTimeout healthContext? start).run events
    let reigns := ((new backend config built drainTimeout healthContext? start).run events).reigns
    ∃ b, (t.apply (.move i)).breaker? = some b ∧
      (b.config = built ∨ b.config.agrees built = true) ∧
      (b.state = .closed →
        let history := Reign.history b.generation reigns
        b.window.outcomes =
          history.rtake (min built.windowSize (Reign.remaining b.generation reigns)) ∧
        (b.window.outcomes = history.rtake built.windowSize ↔
          ∀ later r earlier, reigns = later ++ r :: earlier →
            min built.windowSize history.length ≤
              r.settings.windowSize + (Reign.history b.generation later).length)) := by
  intro t reigns
  obtain ⟨b, h⟩ := kept_run hconfig backend drainTimeout healthContext? start events
  have htuned := h.tuned
  rw [traffic_run, built_run] at htuned
  change t.Tuned built b at htuned
  obtain ⟨hgeneration, hstate⟩ := b.generation_reconfigure built
  refine ⟨_, htuned.breaker?_plainEntry hentry, b.config_reconfigure_eq_or_agrees built,
    fun hs ↦ ?_⟩
  have hwindow : (b.reconfigure built).window.outcomes =
      (Reign.history b.generation reigns).rtake
        (min built.windowSize (Reign.remaining b.generation reigns)) := by
    rw [htuned.fits.outcomes_reconfigure, h.recalls.outcomes_eq (hstate.symm.trans hs),
      rtake_rtake, Nat.min_comm]
  rw [hgeneration, hwindow]
  exact ⟨rfl, Reign.rtake_min_remaining_eq_iff b.generation reigns built.windowSize⟩

/-- A backend that answers at once. -/
def prompt : MockBackend := { kind := .http }

/-- A context under which the breaker's window has room for one outcome. -/
def nearsighted : CallContext := { Traffic.plain with breaker? := some { slidingWindowSize := 1 } }

/-- A call that comes, enters and is answered. -/
def visit (i : Nat) (context : CallContext) : List (TrafficEvent MockBackend) :=
  .arrive .sync Traffic.getRoot context :: List.replicate 5 (.move i)

/-- Two plain calls and a call with a window of its own come one after another, and then another
plain call. -/
def visits : List (TrafficEvent MockBackend) :=
  visit 0 Traffic.plain ++ visit 1 Traffic.plain ++ visit 2 nearsighted ++
    [.arrive .sync Traffic.getRoot Traffic.plain]

/-- Where they leave a connector with a breaker of the usual settings. -/
def visited : Traffic MockBackend :=
  (Traffic.new prompt Traffic.breakerOnly defaultDrainTimeout none 0).run visits

/-- The settings that were in effect meanwhile. -/
def reigned : List Reign :=
  ((new prompt Traffic.breakerOnly {} defaultDrainTimeout none 0).run visits).reigns

/-- The plain call that came last. -/
def latecomer : ConnectorCall :=
  { mode := .sync, request := Traffic.getRoot, context := Traffic.plain }

private theorem latecomer_plainEntry : visited.PlainEntry 3 latecomer where
  call_eq := by
    have hlength : ((Traffic.new prompt Traffic.breakerOnly defaultDrainTimeout none 0).run
        (visit 0 Traffic.plain ++ visit 1 Traffic.plain ++ visit 2 nearsighted)).calls.length =
          3 := by
      decide +kernel
    rw [visited, visits, Traffic.run, List.foldl_append, ← hlength]
    exact congrArg Option.join (List.getElem?_concat_length ..)
  stage_eq := rfl
  kind_eq := by decide +kernel
  status_eq := by decide +kernel
  settings_eq := rfl

private theorem latecomer_finds :
    ∃ b, (visited.apply (.move 3)).breaker? = some b ∧ b.state = .closed ∧ b.generation = 0 ∧
      b.window.outcomes = [⟨false, false⟩] := by
  obtain ⟨b, hb, hfound⟩ := Option.map_eq_some_iff.mp
    (by decide +kernel : (visited.apply (.move 3)).breaker?.map
      (fun b ↦ (b.state, b.generation, b.window.outcomes)) = some (.closed, 0, [⟨false, false⟩]))
  obtain ⟨hs, hfound⟩ := Prod.mk.inj hfound
  obtain ⟨hg, hwindow⟩ := Prod.mk.inj hfound
  exact ⟨b, hb, hs, hg, hwindow⟩

private theorem history_reigned :
    Reign.history 0 reigned = [⟨false, false⟩, ⟨false, false⟩, ⟨false, false⟩] := by
  decide +kernel

/-- After the call with a window of its own the plain call finds one of three outcomes, because that
call's settings had no room for the others. -/
theorem plain_call_finds_one_of_three :
    (Traffic.breakerOnly.breaker? = some {} ∧ visited.PlainEntry 3 latecomer) ∧
      ∃ b, (visited.apply (.move 3)).breaker? = some b ∧ b.state = .closed ∧
        b.window.outcomes = [⟨false, false⟩] ∧
        Reign.history b.generation reigned = [⟨false, false⟩, ⟨false, false⟩, ⟨false, false⟩] ∧
        ¬ ∀ later r earlier, reigned = later ++ r :: earlier →
          3 ≤ r.settings.windowSize + (Reign.history b.generation later).length := by
  obtain ⟨b, hb, hs, hg, hwindow⟩ := latecomer_finds
  obtain ⟨b', hb', -, hclosed⟩ := plain_call_finds_history_iff prompt Traffic.breakerOnly {} rfl
    defaultDrainTimeout none 0 visits 3 latecomer latecomer_plainEntry
  obtain rfl := Option.some.inj (hb.symm.trans hb')
  have hiff := (hclosed hs).2
  change _ = (Reign.history b.generation reigned).rtake _ ↔ ∀ later r earlier,
    reigned = _ → min _ (Reign.history b.generation reigned).length ≤ _ at hiff
  rw [hg, history_reigned, hwindow] at hiff
  refine ⟨⟨rfl, latecomer_plainEntry⟩, b, hb, hs, hwindow, hg ▸ history_reigned, ?_⟩
  rw [hg]
  exact mt hiff.mpr (by decide +kernel)

/-- A plain call does not always find the latest outcomes of its generation, not even where calls
come one after another and the breaker was never anything but closed. -/
theorem override_cuts_history_of_plain_call :
    ¬ ∀ (backend : MockBackend) (config : StackConfig) (built : BreakerConfig) (start : Nat)
      (events : List (TrafficEvent MockBackend)) (i : Nat) (call : ConnectorCall),
      config.breaker? = some built →
      (Traffic.new backend config defaultDrainTimeout none start).isSequential events = true →
      let t := (Traffic.new backend config defaultDrainTimeout none start).run events
      let reigns := ((new backend config built defaultDrainTimeout none start).run events).reigns
      t.PlainEntry i call →
      ∀ b, (t.apply (.move i)).breaker? = some b → b.state = .closed → b.generation = 0 →
        b.window.outcomes = (Reign.history 0 reigns).rtake built.windowSize := by
  intro hall
  obtain ⟨b, hb, hs, hg, hone⟩ := latecomer_finds
  have hwindow := hall prompt Traffic.breakerOnly {} 0 visits 3 latecomer rfl (by decide +kernel)
    latecomer_plainEntry b hb hs hg
  change _ = (Reign.history 0 reigned).rtake _ at hwindow
  rw [hone, history_reigned] at hwindow
  exact absurd hwindow (by decide +kernel)

end Chronicle

end GuardedDispatch
