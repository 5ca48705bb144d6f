import GuardedDispatch.Proofs.Connector.Dropped
import GuardedDispatch.Proofs.Connector.Noted

/-!
# The account of the calls

A logbook is noted traffic with a log of what its calls come to: a call enters, has the backend
begin and end sends, and returns or is taken away from inside. A call with a request of another kind
is answered outside and leaves nothing in the log.

The counters of the connector are counted up and down in different places. Held against the log they
agree with it and with each other at any time, and what the log tells of one call is in order.
-/

namespace GuardedDispatch

variable {β : Type}

/-! ### What calls come to -/

/-- What a call through a connector comes to next. -/
inductive CallNote where
  | entered
  | asked (step : HookStep)
  | returned (result : Except ConnectorFailure Response)
  | takenAway

namespace CallNote

/-- Whether a call came in. -/
def isEntry : CallNote → Bool
  | .entered => true
  | _ => false

/-- Whether a call returned well. -/
def isSuccess : CallNote → Bool
  | .returned result => result.isOk
  | _ => false

/-- Whether a call returned with a failure. -/
def isFailure : CallNote → Bool
  | .returned result => !result.isOk
  | _ => false

/-- Whether a call was taken away from inside. -/
def isTakenAway : CallNote → Bool
  | .takenAway => true
  | _ => false

/-- What a call had the backend do. -/
def asked? : CallNote → Option HookStep
  | .asked step => some step
  | _ => none

private theorem countP_asked (steps : List HookStep) :
    (steps.map asked).countP isEntry = 0 ∧ (steps.map asked).countP isSuccess = 0 ∧
      (steps.map asked).countP isFailure = 0 ∧ (steps.map asked).countP isTakenAway = 0 := by
  simp [List.countP_eq_zero, isEntry, isSuccess, isFailure, isTakenAway]

end CallNote

/-- Whether a hook sends. -/
def HookStep.isSend : HookStep → Bool
  | .sendStarted | .sendFinished => true
  | _ => false

/-- What a step makes of a call, during which hooks took some steps. A call whose request is for
another kind does not come in. -/
def ConnectorCall.notes (kind : ConnectorType) (steps : List HookStep)
    (call call' : ConnectorCall) : List CallNote :=
  let answers := call'.answer?.toList.map .returned
  match call.stage with
  | .arriving => if call.request.kind = kind then .entered :: answers else []
  | _ => steps.map .asked ++ answers

/-- What an event makes of the calls of noted traffic, by their numbers. -/
def Traffic.notes [Backend β] (t : Traffic (Noted β)) : TrafficEvent β → List (Nat × CallNote)
  | .move i =>
    match t.call? i with
    | some call =>
      match t.connector.stepCall? t.now call with
      | some (c, call') =>
        (call.notes t.connector.kind (c.backend.hooks.drop t.hooks.length) call').map (i, ·)
      | none => []
    | none => []
  | .drop i => if (t.call? i).any (·.isInside) then [(i, .takenAway)] else []
  | _ => []

/-- Noted traffic with what its calls came to, the latest last. -/
structure Logbook (β : Type) where
  traffic : Traffic (Noted β)
  log : List (Nat × CallNote) := []

namespace Logbook

/-- What one call came to. -/
def story (x : Logbook β) (i : Nat) : List CallNote :=
  x.log.filterMap fun n ↦ if n.1 = i then some n.2 else none

/-- How often calls came to something. -/
def count (x : Logbook β) (p : CallNote → Bool) : Nat := x.log.countP fun n ↦ p n.2

/-- What the calls had the backend do. -/
def asked (x : Logbook β) : List HookStep := x.log.filterMap fun n ↦ n.2.asked?

variable [Backend β]

/-- The logbook of a new connector. -/
def new (backend : β) (config : StackConfig) (drainTimeout : Nat)
    (healthContext? : Option CallContext) (start : Nat) : Logbook β where
  traffic := .new ⟨backend, []⟩ config drainTimeout healthContext? start

/-- Lets an event happen. -/
def apply (x : Logbook β) (e : TrafficEvent β) : Logbook β where
  traffic := x.traffic.applyNoted e
  log := x.log ++ x.traffic.notes e

/-- Lets one event happen after another. -/
def run (x : Logbook β) (events : List (TrafficEvent β)) : Logbook β := events.foldl apply x

/-- The traffic of a logbook is the noted traffic. -/
theorem traffic_run (x : Logbook β) (events : List (TrafficEvent β)) :
    (x.run events).traffic = x.traffic.runNoted events := by
  induction events generalizing x with
  | nil => rfl
  | cons e rest ih => exact ih (x.apply e)

end Logbook

/-- What can be told of a call by its place in the traffic, where one that was dropped has left its
number: it comes in first, and nothing happens after it returned or was taken away. -/
inductive Told (kind : ConnectorType) : Option (Option ConnectorCall) → List CallNote → Prop
  | unknown : Told kind none []
  | arriving {call : ConnectorCall} (hat : call.stage = .arriving) : Told kind (some (some call)) []
  | outside {call : ConnectorCall} {result : Except ConnectorFailure Response}
      (hat : call.stage = .answered result) (hkind : call.request.kind ≠ kind) :
      Told kind (some (some call)) []
  | inside {call : ConnectorCall} {inner : Call ConnectorFailure Response}
      {steps : List HookStep} (hat : call.stage = .guarded inner)
      (hkind : call.request.kind = kind) :
      Told kind (some (some call)) (.entered :: steps.map .asked)
  | returned {call : ConnectorCall} {result : Except ConnectorFailure Response}
      {steps : List HookStep} (hat : call.stage = .answered result)
      (hkind : call.request.kind = kind) :
      Told kind (some (some call)) (.entered :: (steps.map .asked ++ [.returned result]))
  | gone : Told kind (some none) []
  | forgotten (result : Except ConnectorFailure Response) (steps : List HookStep) :
      Told kind (some none) (.entered :: (steps.map .asked ++ [.returned result]))
  | takenAway (steps : List HookStep) :
      Told kind (some none) (.entered :: (steps.map .asked ++ [.takenAway]))

/-! ### Steps of calls -/

private theorem Told.of_arriving {kind : ConnectorType} {call : ConnectorCall}
    {story : List CallNote}
    (h : Told kind (some (some call)) story) (hat : call.stage = .arriving) : story = [] := by
  cases h with
  | arriving _ | outside _ _ => rfl
  | inside hat' _ | returned hat' _ =>
    rw [hat] at hat'
    cases hat'

private theorem Told.taken {kind : ConnectorType} {call : ConnectorCall} {story : List CallNote}
    (h : Told kind (some (some call)) story) :
    Told kind (some none) (story ++ if call.isInside then [.takenAway] else []) := by
  cases h with
  | arriving hat | outside hat hkind =>
    rw [ConnectorCall.isInside, hat]
    exact .gone
  | @inside _ inner steps hat hkind =>
    rw [ConnectorCall.isInside, hat]
    exact .takenAway steps
  | @returned _ result steps hat hkind =>
    rw [ConnectorCall.isInside, hat]
    change Told kind _ (_ ++ [])
    rw [List.append_nil]
    exact .forgotten result steps

private theorem Told.of_guarded {kind : ConnectorType} {call : ConnectorCall}
    {story : List CallNote}
    (h : Told kind (some (some call)) story) {inner : Call ConnectorFailure Response}
    (hat : call.stage = .guarded inner) :
    call.request.kind = kind ∧ ∃ steps : List HookStep, story = .entered :: steps.map .asked := by
  cases h with
  | @inside _ _ steps _ hkind => exact ⟨hkind, steps, rfl⟩
  | arriving hat' | outside hat' _ | returned hat' _ =>
    rw [hat] at hat'
    cases hat'

namespace Connector

variable [Backend β] {c c' : Connector (Noted β)} {call call' : ConnectorCall} {now : Nat}

private theorem CallStep.told (h : c.CallStep now call c' call') (steps : List HookStep)
    {story : List CallNote} (htold : Told c.kind (some (some call)) story) :
    Told c.kind (some (some call')) (story ++ call.notes c.kind steps call') := by
  cases h with
  | misdirected hat hkind =>
    obtain rfl := htold.of_arriving hat
    simp only [ConnectorCall.notes, hat, hkind, if_false]
    exact .outside rfl hkind
  | entered hat hkind hrun =>
    obtain rfl := htold.of_arriving hat
    simp only [ConnectorCall.notes, hat, hkind, if_true]
    change Told c.kind _ (.entered :: ([] : List HookStep).map .asked)
    exact .inside rfl hkind
  | refused hat hkind hrun =>
    obtain rfl := htold.of_arriving hat
    simp only [ConnectorCall.notes, hat, hkind, if_true]
    change Told c.kind _ (.entered :: (([] : List HookStep).map .asked ++ _))
    exact .returned rfl hkind
  | @moved inner inner' stack backend hat hstep hopen =>
    obtain ⟨hkind, before, rfl⟩ := htold.of_guarded hat
    have hnotes : call.notes c.kind steps { call with stage := .guarded inner' } =
        steps.map .asked := by
      simp only [ConnectorCall.notes, hat]
      exact List.append_nil _
    rw [hnotes, List.cons_append, ← List.map_append]
    exact .inside rfl hkind
  | @concluded inner inner' stack backend hat hstep r hdone =>
    obtain ⟨hkind, before, rfl⟩ := htold.of_guarded hat
    simp only [ConnectorCall.notes, hat]
    rw [List.cons_append, ← List.append_assoc, ← List.map_append]
    exact .returned rfl hkind

private theorem CallStep.kind_eq (h : c.CallStep now call c' call') : c'.kind = c.kind := by
  cases h with
  | entered hat hkind hrun =>
    unfold tuned
    split <;> rfl
  | misdirected hat hkind | refused hat hkind hrun | moved hat hstep hopen
  | concluded hat hstep hdone => rfl

omit [Backend β] in
private theorem books_dropCall (c : Connector (Noted β)) (call : ConnectorCall) (now : Nat) :
    let c' := c.dropCall call now
    c'.kind = c.kind ∧ c'.callsTotal = c.callsTotal ∧ c'.callsSucceeded = c.callsSucceeded ∧
      c'.callsFailed = c.callsFailed ∧ c'.backend = c.backend ∧
      c'.inFlight = c.inFlight - call.isInside.toNat := by
  cases hat : call.stage with
  | guarded inner =>
    simp only [dropCall, ConnectorCall.isInside, hat]
    exact ⟨rfl, rfl, rfl, rfl, rfl, rfl⟩
  | arriving | answered result => simp [dropCall, ConnectorCall.isInside, hat]

private theorem CallStep.counted (h : c.CallStep now call c' call') (steps : List HookStep)
    (hin : call.isInside = true → 0 < c.inFlight) :
    let notes := call.notes c.kind steps call'
    c'.callsTotal = c.callsTotal + notes.countP CallNote.isEntry ∧
      c'.callsSucceeded = c.callsSucceeded + notes.countP CallNote.isSuccess ∧
      c'.callsFailed = c.callsFailed + notes.countP CallNote.isFailure ∧
      notes.countP CallNote.isTakenAway = 0 ∧
      c'.inFlight + notes.countP CallNote.isSuccess + notes.countP CallNote.isFailure =
        c.inFlight + notes.countP CallNote.isEntry := by
  intro notes
  cases h with
  | misdirected hat hkind =>
    have hnotes : notes = [] := by simp only [notes, ConnectorCall.notes, hat, hkind, if_false]
    rw [hnotes]
    exact ⟨rfl, rfl, rfl, rfl, rfl⟩
  | entered hat hkind hrun =>
    have hnotes : notes = [.entered] := by
      simp only [notes, ConnectorCall.notes, hat, hkind, if_true]
      rfl
    rw [hnotes]
    unfold tuned
    split <;> exact ⟨rfl, rfl, rfl, rfl, rfl⟩
  | refused hat hkind hrun =>
    have hnotes : ∃ e, notes = [.entered, .returned (.error e)] := by
      simp only [notes, ConnectorCall.notes, hat, hkind, if_true]
      exact ⟨_, rfl⟩
    obtain ⟨e, hnotes⟩ := hnotes
    rw [hnotes]
    exact ⟨rfl, rfl, rfl, rfl, rfl⟩
  | @moved inner inner' stack backend hat hstep hopen =>
    have hnotes : notes = steps.map .asked := by
      simp only [notes, ConnectorCall.notes, hat]
      exact List.append_nil _
    obtain ⟨hentry, hsuccess, hfailure, htaken⟩ := CallNote.countP_asked steps
    rw [hnotes, hentry, hsuccess, hfailure, htaken]
    exact ⟨rfl, rfl, rfl, rfl, rfl⟩
  | @concluded inner inner' stack backend hat hstep r hdone =>
    have hpos : 0 < c.inFlight := hin (by rw [ConnectorCall.isInside, hat])
    have hone : c.inFlight - 1 + 1 = c.inFlight := Nat.sub_add_cancel hpos
    obtain ⟨hentry, hsuccess, hfailure, htaken⟩ := CallNote.countP_asked steps
    simp only [notes, ConnectorCall.notes, hat, List.countP_append, hentry, hsuccess, hfailure,
      htaken, Nat.zero_add]
    cases r <;> exact ⟨rfl, rfl, rfl, rfl, hone⟩

end Connector

/-! ### Events that are no step of a call -/

/-- Connectors with the same counters of calls. -/
structure Connector.SameBooks (c c' : Connector (Noted β)) : Prop where
  kind_eq : c'.kind = c.kind
  inFlight_eq : c'.inFlight = c.inFlight
  total_eq : c'.callsTotal = c.callsTotal
  succeeded_eq : c'.callsSucceeded = c.callsSucceeded
  failed_eq : c'.callsFailed = c.callsFailed

private theorem Connector.sameBooks_stepProbe? [Backend β] {c c' : Connector (Noted β)} {now : Nat}
    {p p' : Probe} (h : c.stepProbe? now p = some (c', p')) : c.SameBooks c' := by
  cases hat : p.stage with
  | arriving =>
    simp only [stepProbe?, hat] at h
    split at h <;> cases h <;> exact ⟨rfl, rfl, rfl, rfl, rfl⟩
  | asking ticket ends? deadline? =>
    simp only [stepProbe?, hat] at h
    split at h
    · cases h
      exact ⟨rfl, rfl, rfl, rfl, rfl⟩
    · split at h <;> cases h
      exact ⟨rfl, rfl, rfl, rfl, rfl⟩
  | done healthy =>
    simp only [stepProbe?, hat] at h
    cases h

namespace Traffic

variable [Backend β] (t : Traffic (Noted β)) {e : TrafficEvent β}

private theorem sameBooks_applyNoted (hmove : ∀ i, e ≠ .move i) (hdrop : ∀ i, e ≠ .drop i) :
    t.connector.SameBooks (t.applyNoted e).connector ∧
      ((t.applyNoted e).calls = t.calls ∨
        ∃ call : ConnectorCall, call.stage = .arriving ∧
          (t.applyNoted e).calls = t.calls ++ [some call]) := by
  have hsame : t.connector.SameBooks t.connector := ⟨rfl, rfl, rfl, rfl, rfl⟩
  cases e with
  | move i => exact absurd rfl (hmove i)
  | drop i => exact absurd rfl (hdrop i)
  | moveClosing i =>
    obtain hstays | ⟨closing, c, closing', -, hstep, hmoved⟩ := t.applyNoted_moveClosing i
    · rw [hstays]
      exact ⟨hsame, .inl rfl⟩
    · rw [hmoved]
      cases hstep with
      | began hrun hfits | failed hrun hlate | returned hrun | released hwhen | closed hends =>
        exact ⟨⟨rfl, rfl, rfl, rfl, rfl⟩, .inl rfl⟩
  | moveProbe i =>
    simp only [applyNoted, TrafficEvent.noted, apply]
    split
    · next c probe hstep =>
      obtain ⟨old, -, hstep⟩ := Option.bind_eq_some_iff.mp hstep
      exact ⟨Connector.sameBooks_stepProbe? hstep, .inl rfl⟩
    · exact ⟨hsame, .inl rfl⟩
  | arrive mode request context =>
    exact ⟨hsame, .inr ⟨_, rfl, rfl⟩⟩
  | close | dropClosing i | probe context | observe | trip | reset | shift backend | wait duration =>
    exact ⟨⟨rfl, rfl, rfl, rfl, rfl⟩, .inl rfl⟩

private theorem sends_applyNoted (hmove : ∀ i, e ≠ .move i) :
    (t.applyNoted e).hooks.filter HookStep.isSend = t.hooks.filter HookStep.isSend := by
  obtain ⟨steps, hasks, hhooks⟩ := t.asks_applyNoted e
  have hnone : steps.filter HookStep.isSend = [] := by
    cases hasks with
    | nothing | released _ _ | closed _ => rfl
    | sent hcall hat hstep => exact absurd rfl (hmove _)
    | probed hstep => obtain rfl | rfl := hstep <;> rfl
  rw [hhooks, List.filter_append, hnone, List.append_nil]

omit [Backend β] in
private theorem Asks.asked_notes {t : Traffic (Noted β)} {i : Nat} {steps : List HookStep}
    {call : ConnectorCall} (h : t.Asks (.move i) steps) (hcall : t.call? i = some call)
    (call' : ConnectorCall) (kind : ConnectorType) :
    (call.notes kind steps call').filterMap CallNote.asked? = steps ∧
      steps.filter HookStep.isSend = steps := by
  have hanswers : (call'.answer?.toList.map CallNote.returned).filterMap CallNote.asked? = [] := by
    cases call'.answer? <;> rfl
  cases h with
  | nothing =>
    refine ⟨?_, rfl⟩
    unfold ConnectorCall.notes
    dsimp only
    split
    · split
      · exact hanswers
      · rfl
    · exact hanswers
  | @sent _ call₁ inner step hcall₁ hat hstep =>
    obtain rfl := Option.some.inj (hcall.symm.trans hcall₁)
    refine ⟨?_, ?_⟩
    · simp only [ConnectorCall.notes, hat, List.filterMap_append, hanswers]
      rfl
    · obtain rfl | rfl := hstep <;> rfl

omit [Backend β] in
private theorem length_places (t : Traffic β) :
    t.places.length = t.calls.countP (·.any (·.isInside)) := by
  rw [places, List.length_filterMap_eq_countP]
  congr 1
  funext call?
  cases call? with
  | none => rfl
  | some call =>
    cases hat : call.stage with
    | arriving | guarded _ | answered _ =>
      simp only [Option.bind_some, Option.any_some, ConnectorCall.place?, ConnectorCall.isInside,
        hat]
      rfl

omit [Backend β] in
private theorem Balanced.inFlight_pos {t : Traffic β} [Backend β] (h : t.Balanced) {i : Nat}
    {call : ConnectorCall} (hcall : t.call? i = some call) (hin : call.isInside = true) :
    0 < t.connector.inFlight := by
  rw [h.inFlight_eq, (places_perm hcall).length_eq, List.length_append]
  cases hat : call.stage with
  | guarded inner =>
    rw [ConnectorCall.place?, hat]
    exact Nat.lt_add_right _ Nat.one_pos
  | arriving | answered _ =>
    rw [ConnectorCall.isInside, hat] at hin
    cases hin

end Traffic

/-! ### Logbooks -/

namespace Logbook

variable [Backend β] {kind : ConnectorType} {x : Logbook β}

/-- A logbook that agrees with the connector: of each call it tells what it came to, it has all the
sends that were asked of the backend, and the counters count what it tells. -/
structure Agrees (kind : ConnectorType) (x : Logbook β) : Prop where
  balanced : x.traffic.Balanced
  kind_eq : x.traffic.connector.kind = kind
  told : ∀ i, Told kind x.traffic.calls[i]? (x.story i)
  asked_eq : x.traffic.hooks.filter HookStep.isSend = x.asked
  total_eq : x.traffic.connector.callsTotal = x.count CallNote.isEntry
  succeeded_eq : x.traffic.connector.callsSucceeded = x.count CallNote.isSuccess
  failed_eq : x.traffic.connector.callsFailed = x.count CallNote.isFailure
  entered_eq : x.count CallNote.isEntry = x.count CallNote.isSuccess + x.count CallNote.isFailure +
    x.traffic.connector.inFlight + x.count CallNote.isTakenAway

/-- An event adds what calls come to. -/
theorem story_apply (x : Logbook β) (e : TrafficEvent β) (i : Nat) :
    (x.apply e).story i = x.story i ++ (x.traffic.notes e).filterMap fun n ↦
      if n.1 = i then some n.2 else none :=
  List.filterMap_append

theorem count_apply (x : Logbook β) (e : TrafficEvent β) (p : CallNote → Bool) :
    (x.apply e).count p = x.count p + (x.traffic.notes e).countP fun n ↦ p n.2 :=
  List.countP_append

theorem asked_apply (x : Logbook β) (e : TrafficEvent β) :
    (x.apply e).asked = x.asked ++ (x.traffic.notes e).filterMap fun n ↦ n.2.asked? :=
  List.filterMap_append

private theorem added_of_notes {e : TrafficEvent β} {i : Nat} {notes : List CallNote}
    (hnotes : x.traffic.notes e = notes.map (i, ·)) :
    (∀ j, (x.apply e).story j = x.story j ++ if i = j then notes else []) ∧
      (∀ p, (x.apply e).count p = x.count p + notes.countP p) ∧
      (x.apply e).asked = x.asked ++ notes.filterMap CallNote.asked? := by
  refine ⟨fun j ↦ ?_, fun p ↦ ?_, ?_⟩
  · rw [story_apply, hnotes, List.filterMap_map]
    split
    · next heq => simp [heq]
    · next hne => simp [hne]
  · rw [count_apply, hnotes, List.countP_map]
    rfl
  · rw [asked_apply, hnotes, List.filterMap_map]
    rfl

/-- An event at the place of one call leaves what is told of the others. -/
theorem Agrees.told_apply (h : x.Agrees kind) {e : TrafficEvent β} {i : Nat} {call : ConnectorCall}
    {next? : Option ConnectorCall} {notes : List CallNote} (hcall : x.traffic.call? i = some call)
    (hcalls : (x.apply e).traffic.calls = x.traffic.calls.set i next?)
    (hnotes : x.traffic.notes e = notes.map (i, ·))
    (hnext : ∀ story, Told kind (some (some call)) story → Told kind (some next?) (story ++ notes))
    (j : Nat) : Told kind (x.apply e).traffic.calls[j]? ((x.apply e).story j) := by
  rw [hcalls, (added_of_notes hnotes).1]
  have htold := h.told j
  split
  · next heq =>
    subst heq
    have hi := Option.join_eq_some_iff.mp hcall
    rw [getElem?_set_of_some hi]
    rw [hi] at htold
    exact hnext _ htold
  · next hne =>
    rw [List.getElem?_set_ne hne, List.append_nil]
    exact htold

private theorem Agrees.quiet (h : x.Agrees kind) {e : TrafficEvent β} (hmove : ∀ i, e ≠ .move i)
    (hdrop : ∀ i, e ≠ .drop i) : (x.apply e).Agrees kind := by
  obtain ⟨hbooks, hcalls⟩ := x.traffic.sameBooks_applyNoted hmove hdrop
  have hnotes : x.traffic.notes e = [] := by
    cases e with
    | move i => exact absurd rfl (hmove i)
    | drop i => exact absurd rfl (hdrop i)
    | arrive _ _ _ | close | moveClosing _ | dropClosing _ | probe _ | moveProbe _ | observe | trip
    | reset | shift _ | wait _ => rfl
  have hlog : (x.apply e).log = x.log := by
    change x.log ++ x.traffic.notes e = x.log
    rw [hnotes, List.append_nil]
  have hcount (p : CallNote → Bool) : (x.apply e).count p = x.count p := by
    rw [count, hlog, count]
  refine ⟨h.balanced.apply _, hbooks.kind_eq.trans h.kind_eq, fun i ↦ ?_, ?_, ?_, ?_, ?_, ?_⟩
  · have htold := h.told i
    have hstory : (x.apply e).story i = x.story i := by rw [story, hlog, story]
    rw [hstory]
    change Told kind (x.traffic.applyNoted e).calls[i]? _
    obtain heq | ⟨call, hat, heq⟩ := hcalls
    · rw [heq]
      exact htold
    · rw [heq, List.getElem?_append]
      split
      · exact htold
      · next hi =>
        rw [List.getElem?_eq_none (Nat.le_of_not_lt hi)] at htold
        generalize x.story i = story at htold
        cases htold with
        | unknown =>
          cases i - x.traffic.calls.length with
          | zero => exact .arriving hat
          | succ k => exact .unknown
  · rw [asked, hlog]
    exact (x.traffic.sends_applyNoted hmove).trans h.asked_eq
  · rw [hcount]
    exact hbooks.total_eq.trans h.total_eq
  · rw [hcount]
    exact hbooks.succeeded_eq.trans h.succeeded_eq
  · rw [hcount]
    exact hbooks.failed_eq.trans h.failed_eq
  · rw [hcount, hcount, hcount, hcount]
    exact hbooks.inFlight_eq ▸ h.entered_eq

/-- An event of which nothing comes leaves a logbook as it is. -/
theorem apply_of_idle {e : TrafficEvent β} (htraffic : x.traffic.applyNoted e = x.traffic)
    (hnotes : x.traffic.notes e = []) : x.apply e = x := by
  rw [apply, htraffic, hnotes, List.append_nil]

private theorem Agrees.move (h : x.Agrees kind) (i : Nat) : (x.apply (.move i)).Agrees kind := by
  cases hcall : x.traffic.call? i with
  | none =>
    rw [apply_of_idle]
    · exact h
    · simp only [Traffic.applyNoted, TrafficEvent.noted, Traffic.apply, hcall]
    · simp only [Traffic.notes, hcall]
  | some call =>
    cases hs : x.traffic.connector.stepCall? x.traffic.now call with
    | none =>
      rw [apply_of_idle]
      · exact h
      · simp only [Traffic.applyNoted, TrafficEvent.noted, Traffic.apply, hcall, hs]
      · simp only [Traffic.notes, hcall, hs]
    | some moved =>
      obtain ⟨c, call'⟩ := moved
      have hstep := Connector.callStep_of_stepCall? hs
      obtain ⟨steps, hasks, hhooks⟩ := Traffic.asks_of_callStep hcall hstep
      have htraffic : (x.apply (.move i)).traffic = x.traffic.note i call c call' := by
        simp only [Logbook.apply, Traffic.applyNoted, TrafficEvent.noted, Traffic.apply, hcall, hs]
      have hnotes : x.traffic.notes (.move i) = (call.notes kind steps call').map (i, ·) := by
        simp only [Traffic.notes, hcall, hs, hhooks, List.drop_left, h.kind_eq]
      obtain ⟨-, hcount, haskedMore⟩ := added_of_notes hnotes
      obtain ⟨hasked, hsends⟩ := hasks.asked_notes hcall call' kind
      obtain ⟨htotal, hsucceeded, hfailed, htaken, hinside⟩ :=
        hstep.counted steps fun hin ↦ h.balanced.inFlight_pos hcall hin
      rw [h.kind_eq] at htotal hsucceeded hfailed htaken hinside
      have hentered := h.entered_eq
      have htold (story : List CallNote) (hstory : Told kind (some (some call)) story) :
          Told kind (some (some call')) (story ++ call.notes kind steps call') := by
        rw [← h.kind_eq] at hstory
        exact h.kind_eq ▸ hstep.told steps hstory
      refine ⟨h.balanced.move i, ?_, h.told_apply hcall ?_ hnotes htold, ?_, ?_, ?_, ?_, ?_⟩
      · rw [htraffic]
        exact hstep.kind_eq.trans h.kind_eq
      · rw [htraffic]
        rfl
      · rw [haskedMore, hasked, htraffic, ← h.asked_eq]
        change c.backend.hooks.filter _ = _
        rw [hhooks, List.filter_append, hsends]
      · rw [hcount, htraffic, ← h.total_eq]
        exact htotal
      · rw [hcount, htraffic, ← h.succeeded_eq]
        exact hsucceeded
      · rw [hcount, htraffic, ← h.failed_eq]
        exact hfailed
      · rw [hcount, hcount, hcount, hcount, htraffic]
        change _ = _ + _ + c.inFlight + _
        omega

private theorem Agrees.drop (h : x.Agrees kind) (i : Nat) : (x.apply (.drop i)).Agrees kind := by
  cases hcall : x.traffic.call? i with
  | none =>
    rw [apply_of_idle]
    · exact h
    · simp only [Traffic.applyNoted, TrafficEvent.noted, Traffic.apply, hcall]
    · simp only [Traffic.notes, hcall, Option.any_none, Bool.false_eq_true, if_false]
  | some call =>
    have htraffic : (x.apply (.drop i)).traffic =
        { x.traffic with
          connector := x.traffic.connector.dropCall call x.traffic.now
          calls := x.traffic.calls.set i none } := by
      simp only [Logbook.apply, Traffic.applyNoted, TrafficEvent.noted, Traffic.apply, hcall]
    have hnotes : x.traffic.notes (.drop i) =
        (if call.isInside then [CallNote.takenAway] else []).map (i, ·) := by
      simp only [Traffic.notes, hcall, Option.any_some]
      split <;> rfl
    obtain ⟨-, hcount, haskedMore⟩ := added_of_notes hnotes
    obtain ⟨hkind, htotal, hsucceeded, hfailed, hbackend, hinside⟩ :=
      x.traffic.connector.books_dropCall call x.traffic.now
    have hin := h.balanced.inFlight_pos hcall
    have hentered := h.entered_eq
    refine ⟨h.balanced.drop i, ?_, h.told_apply hcall ?_ hnotes fun _ ↦ Told.taken, ?_, ?_, ?_, ?_,
      ?_⟩
    · rw [htraffic]
      exact hkind.trans h.kind_eq
    · rw [htraffic]
    · rw [haskedMore, htraffic]
      change (x.traffic.connector.dropCall call x.traffic.now).backend.hooks.filter _ = _
      rw [hbackend]
      refine h.asked_eq.trans ?_
      split <;> exact (List.append_nil _).symm
    · rw [hcount, htraffic]
      refine htotal.trans (h.total_eq.trans ?_)
      split <;> rfl
    · rw [hcount, htraffic]
      refine hsucceeded.trans (h.succeeded_eq.trans ?_)
      split <;> rfl
    · rw [hcount, htraffic]
      refine hfailed.trans (h.failed_eq.trans ?_)
      split <;> rfl
    · rw [hcount, hcount, hcount, hcount, htraffic]
      change _ = _ + _ + (x.traffic.connector.dropCall call x.traffic.now).inFlight + _
      rw [hinside]
      cases hout : call.isInside with
      | false => exact hentered
      | true =>
        have hpos := hin hout
        change x.count CallNote.isEntry = x.count CallNote.isSuccess +
          x.count CallNote.isFailure + (x.traffic.connector.inFlight - 1) +
            (x.count CallNote.isTakenAway + 1)
        omega

/-- Every event keeps a logbook in agreement. -/
theorem Agrees.apply (h : x.Agrees kind) (e : TrafficEvent β) : (x.apply e).Agrees kind := by
  by_cases hmove : ∃ i, e = .move i
  · obtain ⟨i, rfl⟩ := hmove
    exact h.move i
  · by_cases hdrop : ∃ i, e = .drop i
    · obtain ⟨i, rfl⟩ := hdrop
      exact h.drop i
    · exact h.quiet (fun i hi ↦ hmove ⟨i, hi⟩) fun i hi ↦ hdrop ⟨i, hi⟩

/-- Nothing is told of a new connector. -/
theorem agrees_new (backend : β) (config : StackConfig) (drainTimeout : Nat)
    (healthContext? : Option CallContext) (start : Nat) :
    (new backend config drainTimeout healthContext? start).Agrees (Backend.kind backend) where
  balanced := Traffic.balanced_new _ config drainTimeout healthContext? start
  kind_eq := rfl
  told _ := .unknown
  asked_eq := rfl
  total_eq := rfl
  succeeded_eq := rfl
  failed_eq := rfl
  entered_eq := rfl

/-- A logbook is always in agreement. -/
theorem Agrees.run (h : x.Agrees kind) (events : List (TrafficEvent β)) :
    (x.run events).Agrees kind := by
  induction events generalizing x with
  | nil => exact h
  | cons e rest ih => exact ih (h.apply e)

/-- The calls of a connector are accounted for. Whatever came to it, and in whatever order its
calls, closes and probes took their steps so far, every call that entered returned well, returned
with a failure, is inside, or was taken away from inside; the gauge shows how many are inside, and
none of them finds it at zero when it leaves. Each counter shows how many calls the log has: those
that entered, those that returned well, and those that returned with a failure, be it that they were
refused. Each call enters before anything else and asks the backend for nothing after it returned
or was taken away, and the backend sends only for calls. -/
theorem calls_are_accounted_for (backend : β) (config : StackConfig) (drainTimeout : Nat)
    (healthContext? : Option CallContext) (start : Nat) (events : List (TrafficEvent β)) :
    let x := (new backend config drainTimeout healthContext? start).run events
    let c := x.traffic.connector
    x.traffic.bare = (Traffic.new backend config drainTimeout healthContext? start).run events ∧
      c.callsTotal = c.callsSucceeded + c.callsFailed + c.inFlight +
        x.count CallNote.isTakenAway ∧
      c.inFlight = x.traffic.calls.countP (·.any (·.isInside)) ∧
      (∀ i call, x.traffic.call? i = some call → call.isInside = true → 0 < c.inFlight) ∧
      c.callsTotal = x.count CallNote.isEntry ∧
      c.callsSucceeded = x.count CallNote.isSuccess ∧
      c.callsFailed = x.count CallNote.isFailure ∧
      (∀ i, Told (Backend.kind backend) x.traffic.calls[i]? (x.story i)) ∧
      x.traffic.hooks.filter HookStep.isSend = x.asked := by
  intro x c
  have h : x.Agrees (Backend.kind backend) :=
    (agrees_new backend config drainTimeout healthContext? start).run events
  have hentered : c.callsTotal = _ := h.total_eq.trans h.entered_eq
  rw [← h.succeeded_eq, ← h.failed_eq] at hentered
  refine ⟨?_, hentered, ?_, fun i call ↦ h.balanced.inFlight_pos, h.total_eq, h.succeeded_eq,
    h.failed_eq, h.told, h.asked_eq⟩
  · have htraffic : x.traffic = _ := traffic_run _ events
    rw [htraffic, Traffic.bare_runNoted]
    rfl
  · exact h.balanced.inFlight_eq.trans x.traffic.length_places

/-- A backend that takes a hundred milliseconds, and fails the first time. -/
def faltering : MockBackend :=
  { kind := .http, latency? := some 100, script := [.fail .backendCommunication "down"] }

/-- Four calls come in; then one fails, one returns well, one is taken away and one stays. A call of
another kind is sent away, and one that comes as the connector closes is refused. -/
def sixCalls : List (TrafficEvent MockBackend) :=
  let visit : TrafficEvent MockBackend :=
    .arrive .sync (.http { method := .get, path := "/", query := [], headers := ∅, body? := none,
                           correlationId? := none }) { endpoint := "http://backend" }
  [visit, visit, visit, visit,
    .arrive .sync (.log { topic := "orders", key? := none, payload := [], partition? := none,
                          headers := ∅, timestamp? := none, acks := .all, idempotent := false })
      { endpoint := "http://backend" }] ++
    (List.replicate 4 [.move 0, .move 1, .move 2, .move 3]).flatten ++
    [.move 4, .wait 100, .move 0, .move 1, .drop 2, .close, .moveClosing 0, visit, .move 5]

/-- Each of these calls is accounted for. -/
theorem six_calls_accounted_for :
    let x := (new faltering .passthrough 30 none 0).run sixCalls
    let c := x.traffic.connector
    (c.callsTotal = 5 ∧ c.callsSucceeded = 1 ∧ c.callsFailed = 2 ∧ c.inFlight = 1 ∧
      x.count CallNote.isTakenAway = 1 ∧ (x.story 4).length = 0 ∧ (x.story 5).length = 2) ∧
    c.callsTotal = c.callsSucceeded + c.callsFailed + c.inFlight + x.count CallNote.isTakenAway ∧
      c.callsTotal = x.count CallNote.isEntry ∧ c.callsSucceeded = x.count CallNote.isSuccess ∧
      c.callsFailed = x.count CallNote.isFailure ∧
      ∀ i, Told .http x.traffic.calls[i]? (x.story i) := by
  intro x c
  obtain ⟨-, hbalance, -, -, hentered, hsucceeded, hfailed, htold, -⟩ :=
    calls_are_accounted_for faltering .passthrough 30 none 0 sixCalls
  exact ⟨by decide +kernel, hbalance, hentered, hsucceeded, hfailed, htold⟩

end Logbook

end GuardedDispatch
