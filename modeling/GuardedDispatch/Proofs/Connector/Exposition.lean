import GuardedDispatch.Proofs.Connector.Scraping
import GuardedDispatch.Proofs.Lists
import Mathlib.Data.List.Nodup

/-!
# What an exposition shows

The text is the metric families in their order, each with one sample for every connector that has a
value in it, so a reader gets exactly these families, and from them the counters of every snapshot.
Snapshots that differ in a value that is shown are therefore shown differently.
-/

namespace GuardedDispatch

open Text Number

/-! ### Values in text -/

private theorem isSpace_of_isDigit {c : Char} (h : c.isDigit = true) : isSpace c = false := by
  simp only [Char.isDigit, Bool.and_eq_true, decide_eq_true_eq, ge_iff_le,
    UInt32.le_iff_toNat_le] at h
  have hlow : 48 ≤ c.toNat := h.1
  have hhigh : c.toNat ≤ 57 := h.2
  simp only [isSpace, wideSpaces, Bool.or_eq_false_iff, Bool.and_eq_false_iff,
    decide_eq_false_iff_not, beq_eq_false_iff_ne, List.contains_eq_mem, List.mem_cons,
    List.not_mem_nil, or_false]
  omega

/-- A text is a word if it is not empty and no character of it is white space. -/
theorem isWord_iff {cs : List Char} :
    isWord cs = true ↔ cs ≠ [] ∧ ∀ c ∈ cs, isSpace c = false := by
  simp [isWord]

private theorem isWord_append {a b : List Char} (ha : isWord a = true) (hb : isWord b = true) :
    isWord (a ++ b) = true := by
  obtain ⟨hne, hsolid⟩ := isWord_iff.mp ha
  obtain ⟨-, hsolid'⟩ := isWord_iff.mp hb
  refine isWord_iff.mpr ⟨List.append_ne_nil_of_left_ne_nil hne b, fun c hc ↦ ?_⟩
  exact (List.mem_append.mp hc).elim (hsolid c) (hsolid' c)

private theorem isWord_toDigits (n : Nat) : isWord (Nat.toDigits 10 n) = true :=
  isWord_iff.mpr ⟨Nat.toDigits_ne_nil, fun _ hc ↦
    isSpace_of_isDigit (Nat.isDigit_of_mem_toDigits (by decide) (by decide) hc)⟩

private theorem isWord_toString (n : Nat) : isWord (toString n).toList = true := by
  rw [Nat.toString_eq_ofList_toDigits, String.toList_ofList]
  exact isWord_toDigits n

private theorem isWord_padded (width n : Nat) : isWord (padded width n).toList = true := by
  rw [padded, String.toList_ofList]
  generalize width - (Nat.toDigits 10 n).length = zeros
  cases zeros with
  | zero => exact isWord_toDigits n
  | succ zeros =>
    refine isWord_append (isWord_iff.mpr ⟨List.replicate_succ_ne_nil, fun c hc ↦ ?_⟩)
      (isWord_toDigits n)
    rw [List.eq_of_mem_replicate hc]
    rfl

private theorem isWord_fixedText {f : Format} (x : Binary f) {places : Nat} (h : places ≠ 0) :
    isWord (x.fixedText places).toList = true := by
  cases x with
  | nan => exact (by decide : isWord "NaN".toList = true)
  | infinite negative =>
    cases negative with
    | false => exact (by decide : isWord "inf".toList = true)
    | true => exact (by decide : isWord "-inf".toList = true)
  | finite negative n =>
    have hbody (whole part : Nat) :
        isWord (toString whole ++ "." ++ padded places part).toList = true := by
      rw [String.toList_append, String.toList_append]
      exact isWord_append (isWord_append (isWord_toString whole) (by decide))
        (isWord_padded places part)
    simp only [Binary.fixedText, if_neg h]
    cases negative with
    | false => exact hbody _ _
    | true =>
      rw [if_pos rfl, String.toList_append]
      exact isWord_append (by decide) (hbody _ _)

private theorem Reading.isWord_text (v : Reading) : isWord v.text.toList = true := by
  cases v with
  | count n => exact isWord_toString n
  | percent x => exact isWord_fixedText x (by decide)

/-! ### The families of some metrics -/

/-- Every snapshot is filed under its own kind. -/
def MetricsByKind.Filed (metrics : MetricsByKind) : Prop :=
  ∀ t m, metrics t = some m → m.kind = t

namespace MetricFamily

/-- The value of a connector in text, if it is there and has one. -/
def value? (f : MetricFamily) (metrics : MetricsByKind) (t : ConnectorType) : Option String :=
  ((metrics t).bind f.reading?).map Reading.text

/-- The family with a sample for every connector that has a value, in the order of the kinds. -/
def exposed (f : MetricFamily) (metrics : MetricsByKind) : ExposedFamily where
  name := f.name
  sort := f.sort
  help := f.help
  samples := ConnectorType.all.filterMap fun t ↦ (f.value? metrics t).map fun v ↦ (t.name, v)

private theorem wellFormed_heading : ∀ f ∈ all,
    isMetricName f.name.toList = true ∧ f.sort ∈ metricSorts ∧ '\n' ∉ f.help.toList := by
  decide +kernel

private theorem nodup_names : (all.map MetricFamily.name).Nodup := by decide

end MetricFamily

/-- The families of some metrics. -/
def MetricsByKind.exposed (metrics : MetricsByKind) : List ExposedFamily :=
  MetricFamily.all.map (·.exposed metrics)

namespace MetricFamily

variable {metrics : MetricsByKind}

private theorem wellFormed_exposed {f : MetricFamily} (hf : f ∈ all) :
    (f.exposed metrics).WellFormed := by
  obtain ⟨hname, hsort, hhelp⟩ := wellFormed_heading f hf
  refine ⟨hname, hsort, hhelp, fun s hs ↦ ?_⟩
  obtain ⟨t, -, ht⟩ := List.mem_filterMap.mp hs
  obtain ⟨v, hv, rfl⟩ := Option.map_eq_some_iff.mp ht
  obtain ⟨reading, -, rfl⟩ := Option.map_eq_some_iff.mp hv
  have hquote : '"' ∉ t.name.toList := by cases t <;> decide
  have hnewline : '\n' ∉ t.name.toList := by cases t <;> decide
  exact ⟨hquote, hnewline, reading.isWord_text⟩

private theorem lines_eq (f : MetricFamily) (h : metrics.Filed) :
    f.lines metrics.inOrder = (f.exposed metrics).lines.map ExpositionLine.text := by
  have hsamples : metrics.inOrder.filterMap f.sampleLine? =
      (f.exposed metrics).sampleLines.map ExpositionLine.text := by
    rw [MetricsByKind.inOrder, List.filterMap_filterMap, ExposedFamily.sampleLines, exposed,
      List.map_map, List.map_filterMap]
    refine List.filterMap_congr fun t _ ↦ ?_
    -- A sample is written under the kind of its snapshot, which is where the snapshot is filed.
    cases ht : metrics t with
    | none => simp [value?, ht]
    | some m =>
      rw [value?, ht, Option.bind_some, Option.bind_some, sampleLine?, h t m ht]
      cases f.reading? m with
      | none => rfl
      | some v => rfl
  have hheading : [s!"# HELP {f.name} {f.help}", s!"# TYPE {f.name} {f.sort}"] =
      [ExpositionLine.help f.name f.help, .typed f.name f.sort].map ExpositionLine.text := by
    rfl
  rw [lines, hsamples, ExposedFamily.lines, List.map_append, List.map_append, hheading]
  rfl

end MetricFamily

private theorem expositionText_eq {metrics : MetricsByKind} (h : metrics.Filed) :
    expositionText metrics = writtenFamilies metrics.exposed := by
  rw [expositionText, expositionLines, writtenFamilies, MetricsByKind.exposed, List.flatMap_map]
  have hlines : MetricFamily.all.flatMap (·.lines metrics.inOrder) =
      (MetricFamily.all.flatMap fun f ↦ (f.exposed metrics).lines).map ExpositionLine.text := by
    rw [List.map_flatMap]
    exact List.flatMap_congr fun f _ ↦ f.lines_eq h
  rw [hlines, List.map_map]
  rfl

/-! ### Samples -/

/-- Finds the sample of a connector in the family with a name. -/
def sample? (families : List ExposedFamily) (name : String) (t : ConnectorType) : Option String :=
  (families.find? (·.name == name)).bind fun f ↦ f.samples.lookup t.name

/-- The number that a text of digits writes. -/
def readCount? (s : String) : Option Nat :=
  if s.toList.isEmpty || s.toList.any (!·.isDigit) then none
  else some (Nat.ofDigitChars 10 s.toList 0)

/-- Reads the sample of a connector as a count. -/
def count? (families : List ExposedFamily) (name : String) (t : ConnectorType) : Option Nat :=
  (sample? families name t).bind readCount?

private theorem readCount?_toString (n : Nat) : readCount? (toString n) = some n := by
  have hdigits : (toString n).toList = Nat.toDigits 10 n := by
    rw [Nat.toString_eq_ofList_toDigits, String.toList_ofList]
  have hempty : (Nat.toDigits 10 n).isEmpty = false :=
    List.isEmpty_eq_false_iff.mpr Nat.toDigits_ne_nil
  have hother : (Nat.toDigits 10 n).any (!·.isDigit) = false := by
    simpa using fun c ↦ Nat.isDigit_of_mem_toDigits (by decide) (by decide)
  rw [readCount?, hdigits, hempty, hother, Nat.ofDigitChars_ten_toDigits]
  rfl

private theorem lookup_filterMap_name {α : Type} (value? : ConnectorType → Option α)
    (t : ConnectorType)
    (kinds : List ConnectorType) :
    (kinds.filterMap fun u ↦ (value? u).map fun v ↦ (u.name, v)).lookup t.name =
      if t ∈ kinds then value? t else none := by
  induction kinds with
  | nil => rfl
  | cons u rest ih =>
    by_cases heq : t = u
    · subst heq
      cases ht : value? t with
      | none => simp [ht, ih]
      | some v => simp [ht]
    · have hname : (t.name == u.name) = false :=
        beq_eq_false_iff_ne.mpr (mt ConnectorType.name_injective heq)
      cases hu : value? u with
      | none => simp [hu, ih, heq]
      | some v => simp [hu, ih, heq, hname, List.lookup_cons]

private theorem sample?_exposed (metrics : MetricsByKind) {f : MetricFamily}
    (hf : f ∈ MetricFamily.all)
    (t : ConnectorType) : sample? metrics.exposed f.name t = f.value? metrics t := by
  have hfind : MetricFamily.all.find? ((·.name == f.name) ∘ (·.exposed metrics)) = some f :=
    find?_key_of_mem MetricFamily.nodup_names hf
  rw [sample?, MetricsByKind.exposed, List.find?_map, hfind]
  exact (lookup_filterMap_name _ t _).trans (if_pos t.mem_all)

private theorem count?_exposed (metrics : MetricsByKind) (t : ConnectorType) {i : Nat}
    {name sort help : String} {count : ConnectorMetrics → Option Nat}
    (hi : MetricFamily.all[i]? = some (.counts name sort help count)) :
    count? metrics.exposed name t = (metrics t).bind count := by
  have hsample := sample?_exposed metrics (List.mem_of_getElem? hi) t
  rw [count?, show sample? metrics.exposed name t = _ from hsample, MetricFamily.value?]
  cases metrics t with
  | none => rfl
  | some m =>
    rw [Option.bind_some, Option.bind_some]
    cases hcount : count m with
    | none => simp [MetricFamily.counts, hcount]
    | some n =>
      rw [← readCount?_toString n]
      simp [MetricFamily.counts, hcount, Reading.text]

/-- The values of a connector that an exposition shows. -/
structure ShownValues where
  callsTotal : Nat
  callsFailed : Nat
  inFlight : Nat
  running : Nat
  circuitState? : Option Nat
  failureRate? : Option String
  notPermitted? : Option Nat
  bulkheadAvailable? : Option Nat
  bulkheadRejected? : Option Nat
  rateLimited? : Option Nat
  waitMillis? : Option Nat
  failedWithRetry? : Option Nat
  succeededWithRetry? : Option Nat
  timedOut? : Option Nat
  deriving DecidableEq

/-- The values of a snapshot that are shown. Those of a policy are there if the policy is. -/
def ConnectorMetrics.shown (m : ConnectorMetrics) : ShownValues where
  callsTotal := m.callsTotal
  callsFailed := m.callsFailed
  inFlight := m.inFlight
  running := if m.status = .running then 1 else 0
  circuitState? := m.circuitState?.map (·.number)
  failureRate? := m.policies.breaker?.map (·.failureRate.fixedText 2)
  notPermitted? := m.policies.breaker?.map (·.notPermitted)
  bulkheadAvailable? := m.policies.bulkhead?.map (·.available)
  bulkheadRejected? := m.policies.bulkhead?.map (·.rejected)
  rateLimited? := m.policies.rateLimiter?.map (·.rejected)
  waitMillis? := m.policies.rateLimiter?.map (·.totalWaitMillis)
  failedWithRetry? := m.policies.retries?.map (·.failedWith)
  succeededWithRetry? := m.policies.retries?.map (·.okWith)
  timedOut? := m.policies.timeLimiter?.map (·.timedOut)

/-- The values of a connector, read from the families by their names. -/
def scraped? (families : List ExposedFamily) (t : ConnectorType) : Option ShownValues := do
  let callsTotal ← count? families "switchboard_connector_calls_total" t
  let callsFailed ← count? families "switchboard_connector_calls_failed_total" t
  let inFlight ← count? families "switchboard_connector_in_flight" t
  let running ← count? families "switchboard_connector_running" t
  return {
    callsTotal, callsFailed, inFlight, running
    circuitState? := count? families "switchboard_circuit_breaker_state" t
    failureRate? := sample? families "switchboard_circuit_breaker_failure_rate" t
    notPermitted? := count? families "switchboard_circuit_breaker_not_permitted_total" t
    bulkheadAvailable? := count? families "switchboard_bulkhead_available" t
    bulkheadRejected? := count? families "switchboard_bulkhead_rejected_total" t
    rateLimited? := count? families "switchboard_rate_limiter_rejected_total" t
    waitMillis? := count? families "switchboard_rate_limiter_wait_ms_total" t
    failedWithRetry? := count? families "switchboard_retry_failed_with_retry_total" t
    succeededWithRetry? := count? families "switchboard_retry_succeeded_with_retry_total" t
    timedOut? := count? families "switchboard_time_limiter_timed_out_total" t }

private theorem scraped?_exposed (metrics : MetricsByKind) (t : ConnectorType) :
    scraped? metrics.exposed t = (metrics t).map ConnectorMetrics.shown := by
  have hcount {i : Nat} {name sort help : String} {count : ConnectorMetrics → Option Nat}
      (hi : MetricFamily.all[i]? = some (.counts name sort help count)) :=
    count?_exposed metrics t hi
  have hrate : sample? metrics.exposed "switchboard_circuit_breaker_failure_rate" t =
      ((metrics t).bind fun m ↦ m.policies.breaker?.map fun b ↦ .percent b.failureRate).map
        Reading.text :=
    sample?_exposed metrics (f := MetricFamily.all[5]) (List.getElem_mem _) t
  rw [scraped?, hcount (i := 0) rfl, hcount (i := 1) rfl, hcount (i := 2) rfl, hcount (i := 3) rfl,
    hcount (i := 4) rfl, hrate, hcount (i := 6) rfl, hcount (i := 7) rfl, hcount (i := 8) rfl,
    hcount (i := 9) rfl, hcount (i := 10) rfl, hcount (i := 11) rfl, hcount (i := 12) rfl,
    hcount (i := 13) rfl]
  cases metrics t with
  | none => rfl
  | some m =>
    cases hb : m.policies.breaker? with
    | none => simp [ConnectorMetrics.shown, hb]
    | some b => simp [ConnectorMetrics.shown, hb, Reading.text]

/-! ### Well-formed and complete -/

/-- The samples of families, each as the metric and the connector that it is for. -/
def seriesOf (families : List ExposedFamily) : List (String × String) :=
  families.flatMap fun f ↦ f.samples.map fun s ↦ (f.name, s.1)

private theorem MetricFamily.nodup_connectors (f : MetricFamily) (metrics : MetricsByKind) :
    ((f.exposed metrics).samples.map Prod.fst).Nodup := by
  have hkinds : ConnectorType.all.Nodup := by decide
  rw [exposed, List.map_filterMap]
  refine hkinds.filterMap fun t u name ht hu ↦ ConnectorType.name_injective ?_
  have hname {t : ConnectorType}
      (hmem : name ∈ ((f.value? metrics t).map fun v ↦ (t.name, v)).map Prod.fst) :
      t.name = name := by
    obtain ⟨_, hpair, rfl⟩ := Option.map_eq_some_iff.mp hmem
    obtain ⟨_, -, rfl⟩ := Option.map_eq_some_iff.mp hpair
    rfl
  exact (hname ht).trans (hname hu).symm

private theorem nodup_seriesOf_exposed (metrics : MetricsByKind) :
    (seriesOf metrics.exposed).Nodup := by
  rw [seriesOf, MetricsByKind.exposed, List.flatMap_map, List.nodup_flatMap]
  refine ⟨fun f _ ↦ ?_, ?_⟩
  · have hpairs := (f.nodup_connectors metrics).map (f := fun name ↦ (f.name, name))
      fun a b heq ↦ (Prod.mk.inj heq).2
    rwa [List.map_map] at hpairs
  · refine (List.pairwise_map.mp MetricFamily.nodup_names).imp fun {f g} hne ↦ ?_
    refine List.disjoint_left.mpr fun series hf hg ↦ ?_
    obtain ⟨s, -, rfl⟩ := List.mem_map.mp hf
    obtain ⟨s', -, heq⟩ := List.mem_map.mp hg
    exact hne (Prod.mk.inj heq).1.symm

/-- An exposition is read as the families in their order, each with one sample for every connector
that has a value in it. No series occurs twice, what is read for a connector is what its snapshot
shows, and metrics that show something else are written differently. -/
theorem exposition_reads_back {metrics : MetricsByKind} (h : metrics.Filed) :
    readExposition? (expositionText metrics) = some metrics.exposed ∧
      (seriesOf metrics.exposed).Nodup ∧
      (∀ t, scraped? metrics.exposed t = (metrics t).map ConnectorMetrics.shown) ∧
      ∀ other : MetricsByKind, other.Filed →
        (∃ t, (other t).map ConnectorMetrics.shown ≠ (metrics t).map ConnectorMetrics.shown) →
        expositionText other ≠ expositionText metrics := by
  have hread {metrics : MetricsByKind} (h : metrics.Filed) :
      readExposition? (expositionText metrics) = some metrics.exposed := by
    rw [expositionText_eq h]
    refine readExposition?_writtenFamilies fun family hfamily ↦ ?_
    obtain ⟨f, hf, rfl⟩ := List.mem_map.mp hfamily
    exact MetricFamily.wellFormed_exposed hf
  refine ⟨hread h, nodup_seriesOf_exposed metrics, scraped?_exposed metrics,
    fun other hother ⟨t, hne⟩ heq ↦ hne ?_⟩
  -- Equal texts are read as equal families, from which the same values are scraped.
  have hfamilies : some other.exposed = some metrics.exposed :=
    (hread hother).symm.trans (heq ▸ hread h)
  rw [← scraped?_exposed, ← scraped?_exposed, Option.some.inj hfamilies]

/-- One connector with a number of calls. -/
def oneConnector (calls : Nat) : MetricsByKind := fun t ↦
  if t = .log then some { kind := .log, callsTotal := calls } else none

private theorem filed_oneConnector (calls : Nat) : (oneConnector calls).Filed := by
  intro t m hm
  obtain ⟨rfl, rfl⟩ : t = .log ∧ { kind := .log, callsTotal := calls } = m := by
    simpa [oneConnector] using hm
  rfl

/-- Its calls are read back, and one call more is seen in the text. -/
theorem one_more_call_is_exposed :
    (oneConnector 12).Filed ∧
      (∃ families, readExposition? (expositionText (oneConnector 12)) = some families ∧
        (scraped? families .log).map (·.callsTotal) = some 12) ∧
      expositionText (oneConnector 13) ≠ expositionText (oneConnector 12) := by
  have hfiled := filed_oneConnector 12
  obtain ⟨hread, -, hscraped, hother⟩ := exposition_reads_back hfiled
  refine ⟨hfiled, ⟨_, hread, ?_⟩, hother _ (filed_oneConnector 13) ⟨.log, by decide⟩⟩
  rw [hscraped]
  rfl

end GuardedDispatch
