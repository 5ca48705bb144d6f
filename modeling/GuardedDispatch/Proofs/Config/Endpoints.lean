import GuardedDispatch.Config.Configuration

/-!
# Endpoints of checked configurations

The check of a configuration turns an endpoint down if it is empty; a context for it can be built
unless it is blank. So a checked configuration can be brought up exactly if it would also be
accepted with its blank endpoints made empty.
-/

namespace GuardedDispatch

open Text

/-! ### Checks in sequence -/

/-- One check after another succeeds exactly if both do. -/
theorem bind_eq_ok_iff {ε α : Type} {r : Except ε Unit} {next : Except ε α} {x : α} :
    (r >>= fun _ ↦ next) = .ok x ↔ r = .ok () ∧ next = .ok x := by
  cases r with
  | error e =>
    constructor
    · intro h
      cases h
    · rintro ⟨h, -⟩
      cases h
  | ok u => exact ⟨fun h ↦ ⟨rfl, h⟩, fun h ↦ h.2⟩

/-- A check succeeds on a list exactly if it succeeds on each of its entries. -/
theorem forM_eq_ok_iff {ε α : Type} {f : α → Except ε Unit} {l : List α} :
    l.forM f = .ok () ↔ ∀ x ∈ l, f x = .ok () := by
  induction l with
  | nil => exact ⟨fun _ _ hx ↦ absurd hx List.not_mem_nil, fun _ ↦ rfl⟩
  | cons x rest ih =>
    change (f x >>= fun _ ↦ rest.forM f) = .ok () ↔ _
    rw [bind_eq_ok_iff, List.forall_mem_cons, ← ih]

/-- A check succeeds under another name for its failures exactly if it succeeds. -/
theorem mapError_eq_ok_iff {ε δ α : Type} {f : ε → δ} {r : Except ε α} {x : α} :
    r.mapError f = .ok x ↔ r = .ok x := by
  cases r with
  | ok y => exact ⟨fun h ↦ congrArg _ (Except.ok.inj h), fun h ↦ congrArg _ (Except.ok.inj h)⟩
  | error e => constructor <;> exact nofun

/-- A check that is seen to succeed has no more to say than that. -/
theorem eq_ok_of_isOk {ε : Type} {r : Except ε Unit} (h : r.isOk = true) : r = .ok () := by
  cases r with
  | ok u => rfl
  | error e => cases h

/-! ### Contexts of connectors -/

/-- The failure of a context without an endpoint that can be called. -/
def blankEndpointFailure : ConnectorFailure :=
  .validation "connector context requires a non-empty endpoint"

namespace ConnectorSettings

variable {s : ConnectorSettings}

/-- The context that the settings describe, whether it can be built or not. -/
def wanted? (s : ConnectorSettings) : Option CallContext :=
  s.endpoint?.map fun endpoint ↦ { endpoint, datacenter? := s.datacenter? }

private theorem context_cases (s : ConnectorSettings) :
    ((∀ e, s.endpoint? = some e → isBlank e = false) ∧ s.context = .ok s.wanted?) ∨
      ∃ e, s.endpoint? = some e ∧ isBlank e = true ∧ s.context = .error blankEndpointFailure := by
  cases he : s.endpoint? with
  | none =>
    refine .inl ⟨nofun, ?_⟩
    rw [context, wanted?, he]
    rfl
  | some e =>
    cases hblank : isBlank e with
    | true =>
      refine .inr ⟨e, rfl, hblank, ?_⟩
      rw [context, he]
      simp only [CallContext.build, hblank, if_true]
      rfl
    | false =>
      refine .inl ⟨fun e' he' ↦ Option.some.inj he' ▸ hblank, ?_⟩
      rw [context, wanted?, he]
      simp only [CallContext.build, hblank, Bool.false_eq_true, if_false, reduceCtorEq]
      rfl

/-- A context is built exactly if the endpoint, where there is one, is not blank. -/
theorem context_eq_ok_iff :
    s.context = .ok s.wanted? ↔ ∀ e, s.endpoint? = some e → isBlank e = false := by
  obtain ⟨hshown, hok⟩ | ⟨e, he, hblank, herror⟩ := s.context_cases
  · exact ⟨fun _ ↦ hshown, fun _ ↦ hok⟩
  · rw [herror]
    refine ⟨nofun, fun hshown ↦ ?_⟩
    rw [hshown e he] at hblank
    cases hblank

/-- A context is refused exactly if the endpoint is blank. -/
theorem context_eq_error_iff {f : ConnectorFailure} :
    s.context = .error f ↔
      f = blankEndpointFailure ∧ ∃ e, s.endpoint? = some e ∧ isBlank e = true := by
  obtain ⟨hshown, hok⟩ | ⟨e, he, hblank, herror⟩ := s.context_cases
  · rw [hok]
    refine ⟨nofun, fun ⟨_, e, he, hblank⟩ ↦ ?_⟩
    rw [hshown e he] at hblank
    cases hblank
  · rw [herror]
    refine ⟨fun h ↦ ⟨(Except.error.inj h).symm, e, he, hblank⟩, fun h ↦ ?_⟩
    rw [h.1]

/-- The settings with an endpoint that is blank made empty. -/
def trimmed (s : ConnectorSettings) : ConnectorSettings :=
  { s with endpoint? := s.endpoint?.map fun e ↦ if isBlank e then "" else e }

private theorem endpoint?_trimmed :
    s.trimmed.endpoint? = some "" ↔ ∃ e, s.endpoint? = some e ∧ isBlank e = true := by
  rw [trimmed, Option.map_eq_some_iff]
  refine exists_congr fun e ↦ and_congr_right fun _ ↦ ?_
  split
  · next hblank => exact ⟨fun _ ↦ hblank, fun _ ↦ rfl⟩
  · next hshown =>
    refine ⟨fun h ↦ absurd ?_ hshown, fun h ↦ absurd h hshown⟩
    rw [h, isBlank_empty]

end ConnectorSettings

/-! ### Checked configurations -/

namespace Configuration

variable {c : Configuration} {t : ConnectorType} {s : ConnectorSettings}

/-- The check passes a connector exactly if its endpoint is not empty and its policies pass. -/
theorem checkConnector_eq_ok_iff :
    c.checkConnector t = .ok () ↔
      ∀ s, c.connectors t = some s → s.endpoint? ≠ some "" ∧ (c.resolved t).check = .ok () := by
  rw [checkConnector]
  cases hs : c.connectors t with
  | none =>
    refine ⟨fun _ s hs ↦ ?_, fun _ ↦ rfl⟩
    cases hs
  | some s =>
    simp only [Option.some.injEq, forall_eq']
    split
    · next hempty => exact ⟨nofun, fun h ↦ absurd hempty h.1⟩
    · next hempty =>
      rw [mapError_eq_ok_iff]
      exact ⟨fun h ↦ ⟨hempty, h⟩, fun h ↦ h.2⟩

/-- A configuration is accepted exactly if its defaults, the connectors it mentions and its pipeline
pass. -/
theorem check_eq_ok_iff :
    c.check = .ok () ↔ c.defaults.check = .ok () ∧
      (∀ t s, c.connectors t = some s →
        s.endpoint? ≠ some "" ∧ (c.resolved t).check = .ok ()) ∧
      Section.faults c.pipeline = [] := by
  have hconnectors : ConnectorType.all.forM c.checkConnector = .ok () ↔
      ∀ t s, c.connectors t = some s →
        s.endpoint? ≠ some "" ∧ (c.resolved t).check = .ok () := by
    rw [forM_eq_ok_iff]
    refine ⟨fun h t ↦ checkConnector_eq_ok_iff.mp (h t t.mem_all),
      fun h t _ ↦ checkConnector_eq_ok_iff.mpr (h t)⟩
  rw [check, ← hconnectors, bind_eq_ok_iff, bind_eq_ok_iff, mapError_eq_ok_iff]
  refine and_congr_right fun _ ↦ and_congr_right fun _ ↦ ?_
  cases Section.faults c.pipeline with
  | nil => exact ⟨fun _ ↦ rfl, fun _ ↦ rfl⟩
  | cons path rest => constructor <;> intro h <;> cases h

/-- The configuration with the endpoints that are blank made empty. -/
def trimmed (c : Configuration) : Configuration :=
  { c with connectors := fun t ↦ (c.connectors t).map (·.trimmed) }

/-- Endpoints make no difference to the policies of a connector. -/
@[simp] theorem resolved_trimmed (c : Configuration) (t : ConnectorType) :
    c.trimmed.resolved t = c.resolved t := by
  have hpolicies : (c.trimmed.connectors t).bind (·.policies?) =
      (c.connectors t).bind (·.policies?) := by
    rw [trimmed, Option.bind_map]
    rfl
  rw [resolved, hpolicies, resolved]
  rfl

/-- A configuration is accepted with its blank endpoints made empty exactly if it is accepted and
has none. -/
theorem check_trimmed_eq_ok_iff :
    c.trimmed.check = .ok () ↔ c.check = .ok () ∧
      ∀ t s, c.connectors t = some s → ∀ e, s.endpoint? = some e → isBlank e = false := by
  have hshown (s : ConnectorSettings) : s.trimmed.endpoint? ≠ some "" ↔
      ∀ e, s.endpoint? = some e → isBlank e = false := by
    rw [Ne, ConnectorSettings.endpoint?_trimmed]
    simp only [not_exists, not_and, Bool.not_eq_true]
  have hconnectors (t : ConnectorType) :
      (∀ s, c.trimmed.connectors t = some s →
        s.endpoint? ≠ some "" ∧ (c.trimmed.resolved t).check = .ok ()) ↔
      ∀ s, c.connectors t = some s →
        (∀ e, s.endpoint? = some e → isBlank e = false) ∧ (c.resolved t).check = .ok () := by
    rw [resolved_trimmed, trimmed]
    simp only [Option.map_eq_some_iff, forall_exists_index, and_imp, forall_apply_eq_imp_iff₂,
      hshown]
  rw [check_eq_ok_iff, check_eq_ok_iff]
  simp only [hconnectors]
  constructor
  · rintro ⟨hdefaults, hall, hpipeline⟩
    refine ⟨⟨hdefaults, fun t s hs ↦ ⟨fun hempty ↦ ?_, (hall t s hs).2⟩, hpipeline⟩,
      fun t s hs ↦ (hall t s hs).1⟩
    exact absurd ((hall t s hs).1 "" hempty) (by rw [isBlank_empty]; exact nofun)
  · rintro ⟨⟨hdefaults, hall, hpipeline⟩, hblank⟩
    exact ⟨hdefaults, fun t s hs ↦ ⟨hblank t s hs, (hall t s hs).2⟩, hpipeline⟩

/-- Which connectors of an accepted configuration can be brought up. The context of a connector is
built as described exactly if its endpoint is not blank, and it is refused exactly if its endpoint
is a text of white space that is not empty. All of them can be brought up exactly if the check
accepts the configuration with its blank endpoints made empty. -/
theorem context_built_iff_not_blank (c : Configuration) (h : c.check = .ok ()) :
    (∀ t s, c.connectors t = some s →
      (s.context = .ok s.wanted? ↔ ∀ e, s.endpoint? = some e → isBlank e = false) ∧
      ∀ f, s.context = .error f ↔ f = blankEndpointFailure ∧
        ∃ e, s.endpoint? = some e ∧ e ≠ "" ∧ ∀ x ∈ e.toList, isSpace x = true) ∧
    ((∀ t s, c.connectors t = some s → ∃ context?, s.context = .ok context?) ↔
      c.trimmed.check = .ok ()) := by
  have hall := (check_eq_ok_iff.mp h).2.1
  refine ⟨fun t s hs ↦ ⟨s.context_eq_ok_iff, fun f ↦ ?_⟩, ?_⟩
  · rw [ConnectorSettings.context_eq_error_iff]
    refine and_congr_right fun _ ↦ exists_congr fun e ↦ and_congr_right fun he ↦ ?_
    rw [isBlank_iff, iff_and_self]
    rintro _ rfl
    exact (hall t s hs).1 he
  · rw [check_trimmed_eq_ok_iff]
    constructor
    · intro hbuilt
      refine ⟨h, fun t s hs ↦ ?_⟩
      obtain ⟨context?, hcontext⟩ := hbuilt t s hs
      obtain ⟨hshown, -⟩ | ⟨e, -, -, herror⟩ := s.context_cases
      · exact hshown
      · rw [herror] at hcontext
        cases hcontext
    · rintro ⟨-, hshown⟩ t s hs
      exact ⟨_, ConnectorSettings.context_eq_ok_iff.mpr (hshown t s hs)⟩

/-- A configuration of one connector, with an endpoint of two spaces. -/
def spaced : Configuration := ({} : Configuration).putConnector .http { endpoint? := some "  " }

private theorem check_spaced : spaced.check = .ok () := eq_ok_of_isOk (by decide +kernel)

/-- Its connector cannot be brought up. -/
theorem spaced_endpoint_not_built :
    spaced.check = .ok () ∧ ∃ s, spaced.connectors .http = some s ∧
      s.context = .error blankEndpointFailure := by
  refine ⟨check_spaced, _, rfl, ?_⟩
  obtain ⟨hcontexts, -⟩ := context_built_iff_not_blank spaced check_spaced
  have hspaces : isBlank "  " = true := by decide
  exact ((hcontexts .http _ rfl).2 _).mpr ⟨rfl, "  ", rfl, by decide, (isBlank_iff _).mp hspaces⟩

/-- An accepted configuration cannot always be brought up. -/
theorem accepted_endpoint_not_built :
    ¬ ∀ c : Configuration, c.check = .ok () → ∀ t s, c.connectors t = some s →
      ∃ context?, s.context = .ok context? := by
  intro hall
  obtain ⟨context?, hcontext⟩ := hall spaced check_spaced .http _ rfl
  have hrefused := ConnectorSettings.context_eq_error_iff (s := { endpoint? := some "  " })
    |>.mpr ⟨rfl, "  ", rfl, by decide⟩
  cases hrefused.symm.trans hcontext

end Configuration

end GuardedDispatch
