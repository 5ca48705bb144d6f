import GuardedDispatch.Connector.Mock
import GuardedDispatch.Proofs.Connector.Traffic

/-!
# Breaker settings that a call brings along

A call puts its breaker settings into effect when it enters: its own, or those the connector was
built with. They stay in effect until the next call enters. An outcome is therefore judged under
the settings of the call that entered last, whichever call it is the outcome of: calls that overlap
are judged under each other's settings.
-/

namespace GuardedDispatch

/-- The breaker settings that a call asks for: its own, or those the connector was built with. -/
def CallContext.breakerSettings (context : CallContext) (built : BreakerConfig) : BreakerConfig :=
  context.breaker?.getD built

namespace Traffic

variable {β : Type} [Backend β] {t : Traffic β} {built : BreakerConfig} {b : Breaker}

/-- The settings that the latest call to enter asked for. -/
def asked (t : Traffic β) (built : BreakerConfig) : BreakerConfig :=
  t.entered.head?.elim built (·.breakerSettings built)

/-- The event lets a call take a step whose attempt under way has a permit. -/
structure Reports (t : Traffic β) (e : TrafficEvent β) (call : ConnectorCall) (a : Attempt)
    (p : CallPermit) : Prop where
  moves : ∃ i, e = .move i ∧ t.call? i = some call
  attempt_eq : call.attempt? = some a
  permit_eq : a.permit? = some p

/-- What an event can do to a breaker and to the list of the calls that entered. -/
inductive Effect (built : BreakerConfig) (b : Breaker) (t : Traffic β) (e : TrafficEvent β) : Prop
  | quiet {b' : Breaker} (hb : (t.apply e).breaker? = some b') (hquiet : b.Quiet b')
      (hentered : (t.apply e).entered = t.entered)
  | tuned {context : CallContext}
      (hb : (t.apply e).breaker? = some (b.reconfigure (context.breakerSettings built)))
      (hentered : (t.apply e).entered = context :: t.entered)
  | reported {call : ConnectorCall} {a : Attempt} {p : CallPermit} (failed : Bool)
      (hreports : t.Reports e call a p)
      (hb : (t.apply e).breaker? = some (b.complete p (t.now - a.began) failed t.now))
      (hentered : (t.apply e).entered = t.entered)

/-- A connector built with breaker settings, under those of the latest call to enter. -/
structure Tuned (built : BreakerConfig) (b : Breaker) (t : Traffic β) : Prop where
  breaker_eq : t.breaker? = some b
  built_eq : t.connector.builtBreaker? = some built
  fits : b.Fits
  judges : b.config.JudgesLike (t.asked built)

omit [Backend β] in
/-- A call puts its settings into effect when it enters. -/
theorem breaker?_tuned {c : Connector β} (hb : c.stack.breaker? = some b)
    (hbuilt : c.builtBreaker? = some built) (context : CallContext) :
    (c.enter.tuned context).stack.breaker? =
      some (b.reconfigure (context.breakerSettings built)) := by
  have hbuilt' : c.enter.builtBreaker? = some built := hbuilt
  simp only [Connector.tuned, hbuilt']
  change c.stack.breaker?.map _ = _
  rw [hb]
  rfl

private theorem effect_of_same {e : TrafficEvent β} (hb : t.breaker? = some b)
    (hsame : (t.apply e).breaker? = t.breaker?) (hentered : (t.apply e).entered = t.entered) :
    t.Effect built b e :=
  .quiet (hsame.trans hb) (.refl b) hentered

private theorem effect_of_touch {i : Nat} {call call' : ConnectorCall} {c : Connector β}
    {inner : Call ConnectorFailure Response} {b' : Breaker} (hcall : t.call? i = some call)
    (happly : t.apply (.move i) = t.note i call c call') (hat : call.stage = .guarded inner)
    (hb' : c.stack.breaker? = some b') (htouch : Stack.Touch t.now b inner.phase b') :
    t.Effect built b (.move i) := by
  have hentered : (t.apply (.move i)).entered = t.entered := by
    rw [happly]
    simp only [note, ConnectorCall.isInside, hat, Bool.not_true, Bool.false_and]
    rfl
  have hbreaker : (t.apply (.move i)).breaker? = some b' := by
    rw [happly]
    exact hb'
  generalize hphase : inner.phase = phase at htouch
  cases htouch with
  | untouched => exact .quiet hbreaker (.refl b) hentered
  | asked number => exact .quiet hbreaker (b.quiet_request t.now) hentered
  | @reported a p hp failed =>
    have hattempt : call.attempt? = some a := by
      simp only [ConnectorCall.attempt?, hat, hphase, Phase.attempt?]
    exact .reported failed ⟨⟨i, rfl, hcall⟩, hattempt, hp⟩ hbreaker hentered

private theorem effect_of_callStep (hb : t.breaker? = some b)
    (hbuilt : t.connector.builtBreaker? = some built) {i : Nat} {call call' : ConnectorCall}
    {c : Connector β} (hcall : t.call? i = some call)
    (happly : t.apply (.move i) = t.note i call c call')
    (hstep : t.connector.CallStep t.now call c call') : t.Effect built b (.move i) := by
  cases hstep with
  | misdirected hat hkind =>
    refine effect_of_same hb ?_ ?_
    · rw [happly]
      rfl
    · rw [happly]
      simp only [note, ConnectorCall.isInside, Bool.and_false]
      rfl
  | entered hat hkind hrun =>
    have hentered : (t.apply (.move i)).entered = call.context :: t.entered := by
      rw [happly]
      simp only [note, ConnectorCall.isInside, hat, Bool.not_false, Bool.true_and, if_true]
    refine .tuned ?_ hentered
    rw [happly]
    exact breaker?_tuned hb hbuilt call.context
  | refused hat hkind hrun =>
    refine effect_of_same hb ?_ ?_
    · rw [happly]
      rfl
    · rw [happly]
      simp only [note, ConnectorCall.isInside, Bool.and_false]
      rfl
  | moved hat hinner hopen =>
    obtain ⟨b', hb', htouch⟩ := Stack.touch_of_step? hb hinner
    exact effect_of_touch hcall happly hat hb' htouch
  | concluded hat hinner hdone =>
    obtain ⟨b', hb', htouch⟩ := Stack.touch_of_step? hb hinner
    exact effect_of_touch hcall happly hat hb' htouch

/-- Every event has one of the three effects. -/
theorem Tuned.effect (h : t.Tuned built b) (e : TrafficEvent β) : t.Effect built b e := by
  have hb := h.breaker_eq
  cases e with
  | move i =>
    cases hcall : t.call? i with
    | none =>
      have happly : t.apply (.move i) = t := by simp only [Traffic.apply, hcall]
      exact effect_of_same hb (by rw [happly]) (by rw [happly])
    | some call =>
      cases hstep : t.connector.stepCall? t.now call with
      | none =>
        have happly : t.apply (.move i) = t := by simp only [Traffic.apply, hcall, hstep]
        exact effect_of_same hb (by rw [happly]) (by rw [happly])
      | some moved =>
        have happly : t.apply (.move i) = t.note i call moved.1 moved.2 := by
          simp only [Traffic.apply, hcall, hstep]
        exact effect_of_callStep hb h.built_eq hcall happly
          (Connector.callStep_of_stepCall? hstep)
  | drop i =>
    cases hcall : t.call? i with
    | none =>
      have happly : t.apply (.drop i) = t := by simp only [Traffic.apply, hcall]
      exact effect_of_same hb (by rw [happly]) (by rw [happly])
    | some call =>
      obtain ⟨b', hb', hquiet⟩ := Connector.quiet_dropCall hb call t.now
      refine .quiet ?_ hquiet ?_
      · simp only [Traffic.apply, hcall]
        exact hb'
      · simp only [Traffic.apply, hcall]
  | moveClosing i =>
    refine effect_of_same hb ?_ ?_
    · simp only [Traffic.apply]
      split
      · next c closing hstep =>
        obtain ⟨closing₀, _, hstep⟩ := Option.bind_eq_some_iff.mp hstep
        exact (Connector.breaker?_stepClosing? hstep).1
      · rfl
    · simp only [Traffic.apply]
      split <;> rfl
  | moveProbe i =>
    refine effect_of_same hb ?_ ?_
    · simp only [Traffic.apply]
      split
      · next c p hstep =>
        obtain ⟨p₀, _, hstep⟩ := Option.bind_eq_some_iff.mp hstep
        exact (Connector.breaker?_stepProbe? hstep).1
      · rfl
    · simp only [Traffic.apply]
      split <;> rfl
  | trip =>
    refine .quiet ?_ (b.quiet_enter .opened t.now) rfl
    change t.breaker?.map _ = _
    rw [hb]
    rfl
  | reset =>
    refine .quiet ?_ (b.quiet_enter .closed t.now) rfl
    change t.breaker?.map _ = _
    rw [hb]
    rfl
  | arrive _ _ _ | close | dropClosing _ | probe _ | observe | shift _ | wait _ =>
    exact effect_of_same hb rfl rfl

/-- No event touches what the connector was built with. -/
theorem builtBreaker?_apply (t : Traffic β) (e : TrafficEvent β) :
    (t.apply e).connector.builtBreaker? = t.connector.builtBreaker? := by
  cases e with
  | move i =>
    simp only [apply]
    split
    · split
      · next hstep => exact (Connector.callStep_of_stepCall? hstep).builtBreaker?_eq
      · rfl
    · rfl
  | drop i =>
    simp only [apply]
    split
    · next call hcall => exact Connector.builtBreaker?_dropCall t.connector call t.now
    · rfl
  | moveClosing i =>
    simp only [apply]
    split
    · next c closing hstep =>
      obtain ⟨closing₀, _, hstep⟩ := Option.bind_eq_some_iff.mp hstep
      exact (Connector.breaker?_stepClosing? hstep).2
    · rfl
  | moveProbe i =>
    simp only [apply]
    split
    · next c p hstep =>
      obtain ⟨p₀, _, hstep⟩ := Option.bind_eq_some_iff.mp hstep
      exact (Connector.breaker?_stepProbe? hstep).2
    · rfl
  | trip | reset | arrive _ _ _ | close | dropClosing _ | probe _ | observe | shift _ | wait _ => rfl

/-- The settings in effect stay those of the latest call to enter. -/
theorem Tuned.apply (h : t.Tuned built b) (e : TrafficEvent β) :
    ∃ b', (t.apply e).Tuned built b' := by
  have hbuilt := (builtBreaker?_apply t e).trans h.built_eq
  cases h.effect e with
  | @quiet b' hb hquiet hentered =>
    refine ⟨b', hb, hbuilt, hquiet.fits h.fits, ?_⟩
    rw [hquiet.config_eq, asked, hentered]
    exact h.judges
  | tuned hb hentered =>
    refine ⟨_, hb, hbuilt, h.fits.reconfigure _, ?_⟩
    rw [asked, hentered]
    exact b.config_reconfigure _
  | reported failed hreports hb hentered =>
    refine ⟨_, hb, hbuilt, h.fits.complete _ _ _ _, ?_⟩
    rw [Breaker.config_complete, asked, hentered]
    exact h.judges

/-- A new connector's breaker is under the settings it was built with. -/
theorem tuned_new {config : StackConfig} (hconfig : config.breaker? = some built) (backend : β)
    (drainTimeout : Nat) (healthContext? : Option CallContext) (start : Nat) :
    ∃ b, (new backend config drainTimeout healthContext? start).Tuned built b := by
  refine ⟨.new ((Backend.kind backend).name ++ "-circuit-breaker") built start, ?_, hconfig,
    Breaker.fits_new _ built start, .refl built⟩
  change config.breaker?.map _ = _
  rw [hconfig]
  rfl

/-- In every run the settings in effect are those of the latest call to enter. -/
theorem Tuned.run {config : StackConfig} (hconfig : config.breaker? = some built) (backend : β)
    (drainTimeout : Nat) (healthContext? : Option CallContext) (start : Nat)
    (events : List (TrafficEvent β)) :
    ∃ b, ((new backend config drainTimeout healthContext? start).run events).Tuned built b := by
  have hnew := tuned_new hconfig backend drainTimeout healthContext? start
  refine run_keeps (I := fun t ↦ ∃ b, t.Tuned built b) ?_ hnew events
  rintro t e ⟨b, h⟩
  exact h.apply e

/-- Whatever calls overlap, the settings in effect are those that the latest call to enter asked
for. An event makes the breaker record an outcome only if it ends an attempt of a call; that outcome
has the effect that it has under those settings, and it is judged under the call's own exactly if
the two judge alike. -/
theorem outcome_judged_under_latest_entry (backend : β) (config : StackConfig)
    (built : BreakerConfig) (hconfig : config.breaker? = some built) (drainTimeout : Nat)
    (healthContext? : Option CallContext) (start : Nat) (events : List (TrafficEvent β))
    (e : TrafficEvent β) :
    let t := (new backend config drainTimeout healthContext? start).run events
    ∃ b b', t.breaker? = some b ∧ (t.apply e).breaker? = some b' ∧ b.Fits ∧
      b.config.JudgesLike (t.asked built) ∧
      (b'.recorded = b.recorded ∨
        ∃ call a p failed, t.Reports e call a p ∧
          b' = b.complete p (t.now - a.began) failed t.now ∧ b'.recorded = b.recorded + 1 ∧
          (b.under (t.asked built)).complete p (t.now - a.began) failed t.now =
            b'.under (t.asked built) ∧
          (b.config.JudgesLike (call.context.breakerSettings built) ↔
            (t.asked built).JudgesLike (call.context.breakerSettings built))) := by
  intro t
  obtain ⟨b, h⟩ := Tuned.run hconfig backend drainTimeout healthContext? start events
  change t.Tuned built b at h
  have hown (own : BreakerConfig) : b.config.JudgesLike own ↔ (t.asked built).JudgesLike own :=
    ⟨h.judges.symm.trans, h.judges.trans⟩
  cases h.effect e with
  | @quiet b' hb hquiet hentered =>
    exact ⟨b, b', h.breaker_eq, hb, h.fits, h.judges, .inl hquiet.recorded_eq⟩
  | @tuned context hb hentered =>
    exact ⟨b, _, h.breaker_eq, hb, h.fits, h.judges, .inl (b.recorded_reconfigure _)⟩
  | @reported call a p failed hreports hb hentered =>
    exact ⟨b, _, h.breaker_eq, hb, h.fits, h.judges,
      .inr ⟨call, a, p, failed, hreports, rfl, b.recorded_complete _ _ _ _,
        Breaker.complete_under h.judges p _ failed t.now, hown _⟩⟩

/-- A backend that takes a tenth of a second to answer. -/
def unhurried : MockBackend := { kind := .http, latency? := some 100 }

/-- A request for it. -/
def getRoot : Request :=
  .http { method := .get, path := "/", query := [], headers := ∅, body? := none,
          correlationId? := none }

/-- A context without settings of its own. -/
def plain : CallContext := { endpoint := "http://backend" }

/-- A context under which a call is slow from a hundredth of a second on. -/
def hasty : CallContext := { plain with breaker? := some { slowCallDuration := 10 } }

/-- A stack of a breaker only, with the usual settings. -/
def breakerOnly : StackConfig := { StackConfig.passthrough with breaker? := some {} }

/-- A plain call is under way when a call with settings of its own enters; then the plain call's
answer is due. -/
def overlap : List (TrafficEvent MockBackend) :=
  [.arrive .sync getRoot plain, .move 0, .move 0, .move 0, .move 0,
    .arrive .sync getRoot hasty, .move 1, .wait 100]

/-- Where the two calls stand when the answer is due. -/
def overlapping : Traffic MockBackend :=
  (new unhurried breakerOnly defaultDrainTimeout none 0).run overlap

private theorem context_of_overlapping {call : ConnectorCall}
    (h : overlapping.call? 0 = some call) : call.context = plain := by
  have hplain : (overlapping.call? 0).map (·.context) = some plain := by decide +kernel
  rw [h] at hplain
  exact Option.some.inj hplain

private theorem not_judgesLike_plain {c : BreakerConfig} (h : c.slowCallDuration = 10) :
    ¬ c.JudgesLike (plain.breakerSettings {}) := by
  intro hj
  have hd : c.slowCallDuration = 60000 := hj.slowCallDuration_eq
  omega

/-- The plain call's outcome is recorded, and judged under the settings of the other call. -/
theorem overlapping_outcome_judged_under_latest_entry :
    breakerOnly.breaker? = some {} ∧
      ∃ b call a p failed, overlapping.breaker? = some b ∧
        overlapping.Reports (.move 0) call a p ∧ call.context = plain ∧
        (overlapping.apply (.move 0)).breaker? =
          some (b.complete p (overlapping.now - a.began) failed overlapping.now) ∧
        ¬ b.config.JudgesLike (call.context.breakerSettings {}) := by
  refine ⟨rfl, ?_⟩
  obtain ⟨b, b', hb, hb', _, _, heffect⟩ := outcome_judged_under_latest_entry unhurried breakerOnly
    {} rfl defaultDrainTimeout none 0 overlap (.move 0)
  have hbefore : overlapping.breaker?.map (·.recorded) = some 0 := by decide +kernel
  have hafter : (overlapping.apply (.move 0)).breaker?.map (·.recorded) = some 1 := by
    decide +kernel
  have hasked : (overlapping.asked {}).slowCallDuration = 10 := by decide +kernel
  obtain hsame | ⟨call, a, p, failed, hreports, he, _, _, hown⟩ := heffect
  · rw [overlapping, hb, Option.map_some, ← hsame, ← Option.map_some, ← hb'] at hbefore
    exact absurd (hafter.symm.trans hbefore) (by decide)
  · obtain ⟨i, hi, hcall⟩ := hreports.moves
    cases hi
    have hplain := context_of_overlapping hcall
    refine ⟨b, call, a, p, failed, hb, hreports, hplain, hb'.trans (congrArg some he), ?_⟩
    rw [hplain] at hown ⊢
    exact mt hown.mp (not_judgesLike_plain hasked)

/-- An outcome is not always judged under the settings of its own call. -/
theorem override_reaches_overlapping_call :
    ¬ ∀ (backend : MockBackend) (config : StackConfig) (built : BreakerConfig) (start : Nat)
      (events : List (TrafficEvent MockBackend)) (e : TrafficEvent MockBackend),
      config.breaker? = some built →
      let t := (new backend config defaultDrainTimeout none start).run events
      ∀ b b' call a p, t.breaker? = some b → (t.apply e).breaker? = some b' →
        b'.recorded ≠ b.recorded → t.Reports e call a p →
        b.config.JudgesLike (call.context.breakerSettings built) := by
  intro hall
  obtain ⟨b, hb, hbefore⟩ := Option.map_eq_some_iff.mp
    (by decide +kernel :
      overlapping.breaker?.map (fun b ↦ (b.config.slowCallDuration, b.recorded)) = some (10, 0))
  obtain ⟨b', hb', hafter⟩ := Option.map_eq_some_iff.mp
    (by decide +kernel :
      (overlapping.apply (.move 0)).breaker?.map (·.recorded) = some 1)
  obtain ⟨call, hcall, hattempt⟩ := Option.map_eq_some_iff.mp
    (by decide +kernel :
      (overlapping.call? 0).map (·.attempt?) =
        some (some ⟨1, 0, some ⟨0, .closed⟩, 0, some 100, none⟩))
  obtain ⟨hslow, hrecorded⟩ := Prod.mk.inj hbefore
  have hjudges := hall unhurried breakerOnly {} 0 overlap (.move 0) rfl b b' call _ _ hb hb'
    (by rw [hafter, hrecorded]; decide) ⟨⟨0, rfl, hcall⟩, hattempt, rfl⟩
  rw [context_of_overlapping hcall] at hjudges
  exact not_judgesLike_plain hslow hjudges

end Traffic

end GuardedDispatch
