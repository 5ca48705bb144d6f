import GuardedDispatch.Proofs.Config.Sections
import GuardedDispatch.Config.Configuration

/-!
# Configurations that are read back

A configuration is read back from its document as it was, but for one value: the greatest wait of
the pipeline has a default, and where there is no greatest wait it is left out, so that the default
takes its place.
-/

namespace GuardedDispatch

open Number Yaml Member Section

/-! ### Sections of policies -/

private theorem BreakerSection.read?_settings {s : BreakerSection} (h : Section.Storable s) :
    Section.read? (Section.settings s).node = some s := by
  simp only [Section.Storable, Section.members, List.forall_mem_cons] at h
  obtain ⟨-, hfailure, hslow, hduration, hwindow, hminimum, hwait, hprobes, -⟩ := h
  rw [read?_node (by decide)]
  refine foldlM_carry? (carry?_flag ..) ?_
  refine foldlM_carry? (carry?_described (carry?_percentage hfailure)) ?_
  refine foldlM_carry? (carry?_described (carry?_percentage hslow)) ?_
  refine foldlM_carry? (carry?_count hduration) ?_
  refine foldlM_carry? (carry?_count hwindow) ?_
  refine foldlM_carry? (carry?_count hminimum) ?_
  refine foldlM_carry? (carry?_count hwait) ?_
  exact foldlM_carry? (carry?_count hprobes) rfl

private theorem RetrySection.read?_settings {s : RetrySection} (h : Section.Storable s) :
    Section.read? (Section.settings s).node = some s := by
  simp only [Section.Storable, Section.members, List.forall_mem_cons] at h
  obtain ⟨-, hattempts, hwait, hfactor, hgreatest, -⟩ := h
  rw [read?_node (by decide)]
  refine foldlM_carry? (carry?_flag ..) ?_
  refine foldlM_carry? (carry?_described (carry?_count hattempts)) ?_
  refine foldlM_carry? (carry?_described (carry?_count hwait)) ?_
  refine foldlM_carry? (carry?_factor hfactor) ?_
  exact foldlM_carry? (carry?_described (carry?_optionalCount (fun _ ↦ rfl) hgreatest)) rfl

private theorem BulkheadSection.read?_settings {s : BulkheadSection} (h : Section.Storable s) :
    Section.read? (Section.settings s).node = some s := by
  simp only [Section.Storable, Section.members, List.forall_mem_cons] at h
  obtain ⟨-, hcalls, hwait, hwaiting, -⟩ := h
  rw [read?_node (by decide)]
  refine foldlM_carry? (carry?_flag ..) ?_
  refine foldlM_carry? (carry?_count hcalls) ?_
  refine foldlM_carry? (carry?_described (carry?_count hwait)) ?_
  exact foldlM_carry? (carry?_described (carry?_count hwaiting)) rfl

private theorem RateLimiterSection.read?_settings {s : RateLimiterSection}
    (h : Section.Storable s) :
    Section.read? (Section.settings s).node = some s := by
  simp only [Section.Storable, Section.members, List.forall_mem_cons] at h
  obtain ⟨-, hlimit, hperiod, htimeout, -⟩ := h
  rw [read?_node (by decide)]
  refine foldlM_carry? (carry?_flag ..) ?_
  refine foldlM_carry? (carry?_described (carry?_count hlimit)) ?_
  refine foldlM_carry? (carry?_count hperiod) ?_
  exact foldlM_carry? (carry?_described (carry?_count htimeout)) rfl

private theorem TimeLimiterSection.read?_settings {s : TimeLimiterSection}
    (h : Section.Storable s) :
    Section.read? (Section.settings s).node = some s := by
  simp only [Section.Storable, Section.members, List.forall_mem_cons] at h
  obtain ⟨-, htimeout, -⟩ := h
  rw [read?_node (by decide)]
  refine foldlM_carry? (carry?_flag ..) ?_
  exact foldlM_carry? (carry?_count htimeout) rfl

/-- Sections of policies whose values can all be stored. -/
structure PolicySettings.Storable (p : PolicySettings) : Prop where
  breaker : Section.Storable p.breaker
  retry : Section.Storable p.retry
  bulkhead : Section.Storable p.bulkhead
  rateLimiter : Section.Storable p.rateLimiter
  timeLimiter : Section.Storable p.timeLimiter

private theorem PolicySettings.read?_settings {p : PolicySettings} (h : p.Storable) :
    Section.read? (Section.settings p).node = some p := by
  rw [read?_node (by decide)]
  refine foldlM_carry? (carry?_nested (BreakerSection.read?_settings h.breaker)) ?_
  refine foldlM_carry? (carry?_nested (RetrySection.read?_settings h.retry)) ?_
  refine foldlM_carry? (carry?_nested (BulkheadSection.read?_settings h.bulkhead)) ?_
  refine foldlM_carry? (carry?_nested (RateLimiterSection.read?_settings h.rateLimiter)) ?_
  exact foldlM_carry? (carry?_nested (TimeLimiterSection.read?_settings h.timeLimiter)) rfl

/-- Replaced sections whose values can all be stored. -/
structure PolicyOverrides.Storable (o : PolicyOverrides) : Prop where
  breaker : ∀ s, o.breaker? = some s → Section.Storable s
  retry : ∀ s, o.retries? = some s → Section.Storable s
  bulkhead : ∀ s, o.bulkhead? = some s → Section.Storable s
  rateLimiter : ∀ s, o.rateLimiter? = some s → Section.Storable s
  timeLimiter : ∀ s, o.timeLimiter? = some s → Section.Storable s

private theorem PolicyOverrides.read?_settings {o : PolicyOverrides} (h : o.Storable) :
    Section.read? (Section.settings o).node = some o := by
  rw [read?_node (by decide)]
  refine foldlM_carry? (carry?_optionalNested (fun _ ↦ rfl) fun s hs ↦
    BreakerSection.read?_settings (h.breaker s hs)) ?_
  refine foldlM_carry? (carry?_optionalNested (fun _ ↦ rfl) fun s hs ↦
    RetrySection.read?_settings (h.retry s hs)) ?_
  refine foldlM_carry? (carry?_optionalNested (fun _ ↦ rfl) fun s hs ↦
    BulkheadSection.read?_settings (h.bulkhead s hs)) ?_
  refine foldlM_carry? (carry?_optionalNested (fun _ ↦ rfl) fun s hs ↦
    RateLimiterSection.read?_settings (h.rateLimiter s hs)) ?_
  refine foldlM_carry? (carry?_optionalNested (fun _ ↦ rfl) fun s hs ↦
    TimeLimiterSection.read?_settings (h.timeLimiter s hs)) ?_
  rfl

/-! ### Connectors -/

/-- Settings of a connector whose values can all be stored. -/
def ConnectorSettings.Storable (s : ConnectorSettings) : Prop :=
  ∀ o, s.policies? = some o → o.Storable

private theorem ConnectorSettings.read?_settings {s : ConnectorSettings} (h : s.Storable) :
    Section.read? (Section.settings s).node = some s := by
  rw [read?_node (by decide)]
  refine foldlM_carry? (carry?_described (carry?_flag ..)) ?_
  refine foldlM_carry? (carry?_described (carry?_optionalText fun _ ↦ rfl)) ?_
  refine foldlM_carry? (carry?_described (carry?_optionalText fun _ ↦ rfl)) ?_
  exact foldlM_carry? (carry?_described (carry?_optionalNested (fun _ ↦ rfl) fun o ho ↦
    PolicyOverrides.read?_settings (h o ho))) rfl

namespace Configuration

variable {c : Configuration} {t : ConnectorType}

private theorem readConnectors?_memberNodes (c : Configuration)
    {l : List (ConnectorType × ConnectorSettings)} (h : ∀ p ∈ l, p.2.Storable) :
    readConnectors? c (Setting.memberNodes (l.map fun (t, s) ↦ (t.name, Section.settings s))) =
      some (l.foldl (fun c p ↦ c.putConnector p.1 p.2) c) := by
  induction l generalizing c with
  | nil => rfl
  | cons p rest ih =>
    obtain ⟨t, s⟩ := p
    obtain ⟨hs, hrest⟩ := List.forall_mem_cons.mp h
    change (ConnectorType.ofName? t.name >>= fun t ↦
      Section.read? (Section.settings s).node >>= fun s ↦ readConnectors? (c.putConnector t s) _) = _
    rw [ConnectorType.ofName?_name, ConnectorSettings.read?_settings hs]
    exact ih _ hrest

private theorem foldl_putConnector {l : List (ConnectorType × ConnectorSettings)}
    (h : ∀ p ∈ l, c.connectors p.1 = some p.2) (c' : Configuration) :
    l.foldl (fun c p ↦ c.putConnector p.1 p.2) c' =
      { c' with connectors := fun t ↦
          if t ∈ l.map (·.1) then c.connectors t else c'.connectors t } := by
  induction l generalizing c' with
  | nil => simp
  | cons p rest ih =>
    obtain ⟨hp, hrest⟩ := List.forall_mem_cons.mp h
    rw [List.foldl_cons, ih hrest, List.map_cons, putConnector]
    congr 1
    funext t
    by_cases ht : t = p.1
    · subst ht
      simp only [hp, if_true, ite_self, List.mem_cons, true_or]
    · simp only [List.mem_cons, ht, false_or, if_false]

private theorem connectors_of_mem_mentioned {p : ConnectorType × ConnectorSettings}
    (h : p ∈ c.mentioned) : c.connectors p.1 = some p.2 := by
  obtain ⟨t, -, ht⟩ := List.mem_filterMap.mp h
  obtain ⟨s, hs, rfl⟩ := Option.map_eq_some_iff.mp ht
  exact hs

/-- Every connector that the configuration has is mentioned. -/
theorem mem_map_mentioned_iff : t ∈ c.mentioned.map (·.1) ↔ (c.connectors t).isSome = true := by
  rw [List.mem_map, Option.isSome_iff_exists]
  constructor
  · rintro ⟨p, hp, rfl⟩
    exact ⟨p.2, connectors_of_mem_mentioned hp⟩
  · rintro ⟨s, hs⟩
    exact ⟨(t, s), List.mem_filterMap.mpr ⟨t, t.mem_all, by rw [hs]; rfl⟩, rfl⟩

private theorem foldl_putConnector_mentioned (c c' : Configuration) :
    c.mentioned.foldl (fun c p ↦ c.putConnector p.1 p.2) { c' with connectors := fun _ ↦ none } =
      { c' with connectors := c.connectors } := by
  rw [foldl_putConnector (c := c) (fun _ ↦ connectors_of_mem_mentioned)]
  congr 1
  funext t
  split
  · rfl
  · next hout =>
    rw [mem_map_mentioned_iff, Option.not_isSome_iff_eq_none] at hout
    exact hout.symm

end Configuration

/-! ### The pipeline -/

namespace Yaml.Node

private theorem mapM_choice?_itemNodes {α : Type} {name : α → String} {ofName? : String → Option α}
    (h : ∀ x, ofName? (name x) = some x) (l : List α) :
    (Setting.itemNodes (l.map fun x ↦ .text (name x))).mapM
      (fun item ↦ item.choice?.bind ofName?) = some l := by
  induction l with
  | nil => rfl
  | cons x rest ih =>
    rw [List.map_cons, Setting.itemNodes, List.mapM_cons, ih]
    change (ofName? (name x) >>= fun y ↦ some (y :: rest)) = _
    rw [h x]
    rfl

end Yaml.Node

namespace PipelineSettings

/-- The settings with the default greatest wait where they have none. -/
def capped (s : PipelineSettings) : PipelineSettings :=
  { s with backoff.max? := some (s.backoff.max?.getD 30000) }

private theorem read?_settings {s : PipelineSettings} (h : Section.Storable s) :
    Section.read? (Section.settings s).node = some s.capped := by
  simp only [Section.Storable, Section.members, List.forall_mem_cons] at h
  obtain ⟨hattempts, -, -, hwait, hfactor, hgreatest, -⟩ := h
  have hentry (acc : PipelineSettings) : (RetryEntry.ofName? s.retryEntry.name).map
      (fun e ↦ { acc with retryEntry := e }) = some { acc with retryEntry := s.retryEntry } := by
    cases s.retryEntry <;> rfl
  have hstages (acc : PipelineSettings) : (Setting.itemNodes
        (s.nonRetryable.map fun t ↦ .text t.name)).mapM
          (fun item ↦ item.choice?.bind Stage.ofName?) >>=
      (fun l ↦ some { acc with nonRetryable := l }) =
        some { acc with nonRetryable := s.nonRetryable } := by
    rw [Node.mapM_choice?_itemNodes fun t ↦ by cases t <;> decide]
    rfl
  rw [read?_node (by decide)]
  refine foldlM_carry? (carry?_described (carry?_count hattempts)) ?_
  refine foldlM_carry? (hentry _) ?_
  refine foldlM_carry? (hstages _) ?_
  refine foldlM_carry? (carry?_count hwait) ?_
  refine foldlM_carry? (carry?_factor hfactor) ?_
  cases hmax : s.backoff.max? with
  | none =>
    refine foldlM_carry? (carry?_of_absent (congrArg Setting.count? hmax)) ?_
    rw [capped, hmax]
    rfl
  | some n =>
    refine foldlM_carry? (carry?_optionalCount (fun hnone ↦ ?_) hgreatest) ?_
    · rw [hmax] at hnone
      cases hnone
    · rw [capped, hmax]
      rfl

end PipelineSettings

/-! ### Numerical equality -/

private theorem Number.Binary.sameNumber_self {f : Format} {x : Binary f} (h : x.isNan = false) :
    x.sameNumber x = true := by
  cases x with
  | nan => cases h
  | infinite s => exact beq_self_eq_true _
  | finite s n => exact beq_self_eq_true _

private theorem bothAgree_self {α : Type} {agrees : α → α → Bool} {x? : Option α}
    (h : ∀ x, x? = some x → agrees x x = true) : bothAgree agrees x? x? = true := by
  cases x? with
  | none => rfl
  | some x => exact h x rfl

private theorem BreakerSection.agrees_self {s : BreakerSection} (h : Section.Storable s) :
    s.config.agrees s.config = true := by
  simp only [Section.Storable, Section.members, List.forall_mem_cons] at h
  obtain ⟨-, hfailure, hslow, -⟩ := h
  have hfailure' := Binary.sameNumber_self (Shape.stores_percentage.mp hfailure).1
  have hslow' := Binary.sameNumber_self (Shape.stores_percentage.mp hslow).1
  simp only [BreakerConfig.agrees, hfailure', hslow', beq_self_eq_true, Bool.and_true]

private theorem RetrySection.agrees_self {s : RetrySection} (h : Section.Storable s) :
    s.config.agrees s.config = true := by
  simp only [Section.Storable, Section.members, List.forall_mem_cons] at h
  obtain ⟨-, -, -, hfactor, -⟩ := h
  have hfactor' := Binary.sameNumber_self (Shape.stores_factor.mp hfactor).1
  simp only [RetryConfig.agrees, Backoff.agrees, hfactor', beq_self_eq_true, Bool.and_true]

private theorem PolicySettings.agrees_self {p : PolicySettings} (h : p.Storable) :
    p.agrees p = true := by
  simp only [agrees, BreakerSection.agrees_self h.breaker, RetrySection.agrees_self h.retry,
    beq_self_eq_true, Bool.and_true]

private theorem PolicyOverrides.agrees_self {o : PolicyOverrides} (h : o.Storable) :
    o.agrees o = true := by
  have hbreaker : bothAgree (fun x y ↦ x.enabled == y.enabled && x.config.agrees y.config)
      o.breaker? o.breaker? = true :=
    bothAgree_self fun s hs ↦ by
      simp only [BreakerSection.agrees_self (h.breaker s hs), beq_self_eq_true, Bool.and_true]
  have hretry : bothAgree (fun x y ↦ x.enabled == y.enabled && x.config.agrees y.config)
      o.retries? o.retries? = true :=
    bothAgree_self fun s hs ↦ by
      simp only [RetrySection.agrees_self (h.retry s hs), beq_self_eq_true, Bool.and_true]
  simp only [agrees, hbreaker, hretry, beq_self_eq_true, Bool.and_true]

private theorem ConnectorSettings.agrees_self {s : ConnectorSettings} (h : s.Storable) :
    s.agrees s = true := by
  have hpolicies := bothAgree_self fun o ho ↦ PolicyOverrides.agrees_self (h o ho)
  simp only [agrees, hpolicies, beq_self_eq_true, Bool.and_true]

namespace PipelineSettings

variable {s : PipelineSettings}

/-- The settings of a pipeline are what is read back exactly if they have a greatest wait. -/
theorem capped_eq_self_iff : s.capped = s ↔ s.backoff.max? ≠ none := by
  obtain ⟨attempts, entry, stages, ⟨initial, multiplier, max?⟩⟩ := s
  cases max? with
  | none => exact ⟨nofun, fun h ↦ absurd rfl h⟩
  | some n => exact ⟨fun _ ↦ nofun, fun _ ↦ rfl⟩

/-- They agree with what is read back exactly if they have a greatest wait. -/
theorem agrees_capped_iff (h : Section.Storable s) :
    s.agrees s.capped = true ↔ s.backoff.max? ≠ none := by
  simp only [Section.Storable, Section.members, List.forall_mem_cons] at h
  obtain ⟨-, -, -, -, hfactor, -⟩ := h
  have hfactor' : s.backoff.multiplier.sameNumber s.backoff.multiplier = true :=
    Binary.sameNumber_self (Shape.stores_factor.mp hfactor).1
  have hagrees : s.agrees s.capped = (s.backoff.max? == some (s.backoff.max?.getD 30000)) := by
    simp only [agrees, capped, Backoff.agrees, hfactor', beq_self_eq_true, Bool.true_and]
  rw [hagrees, beq_iff_eq]
  cases s.backoff.max? with
  | none => exact ⟨nofun, fun h ↦ absurd rfl h⟩
  | some n => exact ⟨fun _ ↦ nofun, fun _ ↦ rfl⟩

/-- The policy in effect is what comes of the settings that are read back exactly if they have a
greatest wait. -/
theorem policy_capped_eq_iff : s.capped.policy = s.policy ↔ s.backoff.max? ≠ none := by
  refine ⟨fun h ↦ ?_, fun h ↦ congrArg policy (capped_eq_self_iff.mpr h)⟩
  have hmax : some (s.backoff.max?.getD 30000) = s.backoff.max? :=
    congrArg (fun p : PipelinePolicy ↦ p.backoff.max?) h
  exact hmax ▸ nofun

end PipelineSettings

/-! ### Configurations -/

namespace Configuration

variable {c : Configuration}

/-- A configuration whose values can all be stored. -/
structure Storable (c : Configuration) : Prop where
  defaults : c.defaults.Storable
  connectors : ∀ t s, c.connectors t = some s → s.Storable
  pipeline : Section.Storable c.pipeline

/-- The configuration with the default greatest wait where its pipeline has none. -/
def capped (c : Configuration) : Configuration := { c with pipeline := c.pipeline.capped }

private theorem read?_node (h : c.Storable) : Section.read? c.node = some c.capped := by
  have hmentioned : ∀ p ∈ c.mentioned, p.2.Storable := fun p hp ↦
    h.connectors p.1 p.2 (connectors_of_mem_mentioned hp)
  have hconnectors (acc : Configuration) :
      readConnectors? { acc with connectors := fun _ ↦ none }
        (Setting.memberNodes (c.mentioned.map fun (t, s) ↦ (t.name, Section.settings s))) =
      some { acc with connectors := c.connectors } := by
    rw [readConnectors?_memberNodes _ hmentioned, foldl_putConnector_mentioned]
  rw [node, Section.read?_node (by decide)]
  refine foldlM_carry? (carry?_described (carry?_text ..)) ?_
  refine foldlM_carry? (carry?_described (carry?_nested
    (PolicySettings.read?_settings h.defaults))) ?_
  refine foldlM_carry? (hconnectors _) ?_
  exact foldlM_carry? (carry?_described (carry?_nested
    (PipelineSettings.read?_settings h.pipeline))) rfl

/-- A configuration agrees with what is read back exactly if its pipeline has a greatest wait. -/
theorem agrees_capped_iff (h : c.Storable) :
    c.agrees c.capped = true ↔ c.pipeline.backoff.max? ≠ none := by
  have hdefaults := PolicySettings.agrees_self h.defaults
  have hconnectors (t : ConnectorType) := bothAgree_self fun s hs ↦
    ConnectorSettings.agrees_self (h.connectors t s hs)
  rw [← PipelineSettings.agrees_capped_iff h.pipeline]
  simp only [agrees, capped, hdefaults, hconnectors, beq_self_eq_true, List.all_eq_true,
    Bool.and_eq_true, implies_true, and_true, true_and]

/-- What becomes of a configuration that is written and read back: it is read back with the default
greatest wait where its pipeline has none, and as it was otherwise. So it is read back equal, and
with the same policy of the pipeline, exactly if the pipeline has a greatest wait; the policies of
the connectors are the same in any case. -/
theorem read_back_iff_wait_bounded (c : Configuration) (h : c.Storable) :
    Section.read? c.node = some c.capped ∧
    (c.capped = c ↔ c.pipeline.backoff.max? ≠ none) ∧
    (c.agrees c.capped = true ↔ c.pipeline.backoff.max? ≠ none) ∧
    (c.capped.pipeline.policy = c.pipeline.policy ↔ c.pipeline.backoff.max? ≠ none) ∧
    ∀ t, c.capped.policyFor t = c.policyFor t := by
  refine ⟨read?_node h, ?_, agrees_capped_iff h, PipelineSettings.policy_capped_eq_iff, ?_⟩
  · rw [← PipelineSettings.capped_eq_self_iff]
    refine ⟨congrArg Configuration.pipeline, fun hpipeline ↦ ?_⟩
    rw [capped, hpipeline]
  · exact fun _ ↦ rfl

/-- A configuration of one connector, which replaces two sections, and a pipeline with no greatest
wait. -/
def openEnded : Configuration where
  connectors t :=
    if t = .queue then
      some
        { endpoint? := some "~"
          policies? := some
            { retries? := some { config.maxAttempts := 5 }, timeLimiter? := some { enabled := false } } }
    else none
  pipeline := { backoff.max? := none }

private theorem storable_openEnded : openEnded.Storable where
  defaults :=
    { breaker := by decide +kernel
      retry := by decide +kernel
      bulkhead := by decide +kernel
      rateLimiter := by decide +kernel
      timeLimiter := by decide +kernel }
  connectors := by
    intro t s hs
    obtain ⟨-, hsome⟩ := Option.ite_none_right_eq_some.mp hs
    cases hsome
    rintro o ⟨⟩
    refine ⟨nofun, ?_, nofun, nofun, ?_⟩
    · rintro _ ⟨⟩
      decide +kernel
    · rintro _ ⟨⟩
      decide +kernel
  pipeline := by decide +kernel

/-- It is read back with the default greatest wait, which makes it another configuration. -/
theorem openEnded_not_read_back :
    openEnded.Storable ∧ Section.read? openEnded.node = some openEnded.capped ∧
      openEnded.agrees openEnded.capped = false ∧
      openEnded.capped.pipeline.policy ≠ openEnded.pipeline.policy := by
  obtain ⟨hread, -, hagrees, hpolicy, -⟩ := read_back_iff_wait_bounded openEnded storable_openEnded
  refine ⟨storable_openEnded, hread, ?_, fun h ↦ hpolicy.mp h rfl⟩
  exact Bool.eq_false_iff.mpr fun h ↦ hagrees.mp h rfl

/-- What is written is not always read back equal. -/
theorem written_not_always_read_back :
    ¬ ∀ c : Configuration, c.Storable →
      ∃ r, Section.read? c.node = some r ∧ c.agrees r = true := by
  intro hall
  obtain ⟨r, hread, hagrees⟩ := hall openEnded storable_openEnded
  rw [read?_node storable_openEnded] at hread
  cases hread
  exact (agrees_capped_iff storable_openEnded).mp hagrees rfl

end Configuration

end GuardedDispatch
