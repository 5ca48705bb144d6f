import GuardedDispatch.Connector.Failure

/-!
# The failure at the root

Retries that give up wrap the failure of their last attempt, and can themselves be what another
retry tried. A caller is shown one failure for each of these layers, and behind them the failure of
the operation as it was, or that of a policy in its own words: however deep it lies, looking at one
last failure after the other leads to it, and the root kind is its kind.
-/

namespace GuardedDispatch

/-! ### Layers of exhaustion -/

namespace PolicyFailure

variable {ε δ : Type}

/-- A failure behind layers of exhaustion, the outermost first; a layer is the name of the retry
that gave up and the number of its attempts. -/
def exhaustedBy (q : PolicyFailure ε) : List (String × Nat) → PolicyFailure ε
  | [] => q
  | (name, attempts) :: rest => .exhausted name attempts (q.exhaustedBy rest)

/-- The kind by which a caller is shown a failure of a policy. -/
def shownKind? : PolicyFailure ε → Option FailureKind
  | .bulkheadFull .. => some .bulkheadRejected
  | .rateLimited .. => some .rateLimited
  | .circuitOpen .. => some .circuitOpen
  | .timedOut .. => some .timedOut
  | .exhausted .. => some .retryExhausted
  | .inner _ => none

/-- Every failure lies behind as many layers as there are, and is not itself one of them. -/
theorem exists_eq_exhaustedBy (p : PolicyFailure ε) :
    ∃ (q : PolicyFailure ε) (layers : List (String × Nat)),
      q.isExhausted = false ∧ p = q.exhaustedBy layers := by
  induction p with
  | exhausted name attempts last ih =>
    obtain ⟨q, layers, hq, rfl⟩ := ih
    exact ⟨q, (name, attempts) :: layers, hq, rfl⟩
  | bulkheadFull _ _ | rateLimited _ _ | circuitOpen _ _ | timedOut _ _ | inner _ =>
    exact ⟨_, [], rfl, rfl⟩

/-- Layers make no difference to the operation's failure. -/
@[simp] theorem inner?_exhaustedBy (q : PolicyFailure ε) (layers : List (String × Nat)) :
    (q.exhaustedBy layers).inner? = q.inner? := by
  induction layers with
  | nil => rfl
  | cons layer rest ih => exact ih

private theorem map_exhaustedBy (f : ε → δ) (q : PolicyFailure ε) (layers : List (String × Nat)) :
    (q.exhaustedBy layers).map f = (q.map f).exhaustedBy layers := by
  induction layers with
  | nil => rfl
  | cons layer rest ih => exact congrArg (PolicyFailure.exhausted layer.1 layer.2) ih

private theorem takeInner?_eq_inner? (p : PolicyFailure ε) : p.takeInner? = p.inner? := by
  induction p with
  | exhausted name attempts last ih => exact ih
  | bulkheadFull _ _ | rateLimited _ _ | circuitOpen _ _ | timedOut _ _ | inner _ => rfl

private theorem inner?_map (f : ε → δ) (p : PolicyFailure ε) :
    (p.map f).inner? = p.inner?.map f := by
  induction p with
  | exhausted name attempts last ih => exact ih
  | bulkheadFull _ _ | rateLimited _ _ | circuitOpen _ _ | timedOut _ _ | inner _ => rfl

/-- Without layers the operation's failure is seen only where it is the failure itself. -/
theorem inner?_eq_some_iff {q : PolicyFailure ε} (hq : q.isExhausted = false) {e : ε} :
    q.inner? = some e ↔ q = .inner e := by
  cases q with
  | exhausted name attempts last => cases hq
  | inner e' => rw [inner?, Option.some.injEq, inner.injEq]
  | bulkheadFull _ _ | rateLimited _ _ | circuitOpen _ _ | timedOut _ _ =>
    exact ⟨nofun, nofun⟩

end PolicyFailure

/-! ### What a caller is shown -/

namespace ConnectorFailure

/-- The failure found by looking so many times at the last failure. -/
def lastFailureAt? (e : ConnectorFailure) : Nat → Option ConnectorFailure
  | 0 => some e
  | depth + 1 => e.lastFailure?.bind (·.lastFailureAt? depth)

private theorem lastFailureAt?_ofPolicy (q : PolicyFailure ConnectorFailure)
    (layers : List (String × Nat)) {depth : Nat} (hdepth : depth ≤ layers.length) :
    (ofPolicy (q.exhaustedBy layers)).lastFailureAt? depth =
      some (ofPolicy (q.exhaustedBy (layers.drop depth))) := by
  induction layers generalizing depth with
  | nil =>
    obtain rfl := Nat.le_zero.mp hdepth
    rfl
  | cons layer rest ih =>
    cases depth with
    | zero => rfl
    | succ depth => exact ih (Nat.le_of_succ_le_succ hdepth)

private theorem rootKind_ofPolicy (q : PolicyFailure ConnectorFailure)
    (layers : List (String × Nat)) :
    (ofPolicy (q.exhaustedBy layers)).rootKind = (ofPolicy q).rootKind := by
  induction layers with
  | nil => rfl
  | cons layer rest ih => exact ih

private theorem ofPolicy_of_shownKind? {q : PolicyFailure ConnectorFailure} {kind : FailureKind}
    (hq : q.isExhausted = false) (hkind : q.shownKind? = some kind) :
    ofPolicy q = .plain { kind, message := q.message display } := by
  cases q with
  | exhausted name attempts last => cases hq
  | inner e => cases hkind
  | bulkheadFull _ _ | rateLimited _ _ | circuitOpen _ _ | timedOut _ _ =>
    cases hkind
    rfl

/-- The root of a failure survives every layer of exhaustion. Each layer is shown as one failure of
exhausted retries. Behind them, at exactly their number, lies the root: the operation's own failure
as it was, or a policy's failure of its kind, in its words and without place or cause. The root kind
is the root's. The operation's failure is seen from outside, and taken out, exactly if it is the
root, also after it was changed. -/
theorem root_cause_survives (q : PolicyFailure ConnectorFailure) (hq : q.isExhausted = false)
    (layers : List (String × Nat)) :
    (∀ depth < layers.length, ∃ e,
      (ofPolicy (q.exhaustedBy layers)).lastFailureAt? depth = some e ∧ e.kind = .retryExhausted) ∧
    (∃ root, (ofPolicy (q.exhaustedBy layers)).lastFailureAt? layers.length = some root ∧
      (ofPolicy (q.exhaustedBy layers)).rootKind = root.rootKind ∧
      (∀ e, q = .inner e → root = e) ∧
      ∀ kind, q.shownKind? = some kind → root = .plain { kind, message := q.message display }) ∧
    (∀ e, (q.exhaustedBy layers).inner? = some e ↔ q = .inner e) ∧
    (q.exhaustedBy layers).takeInner? = (q.exhaustedBy layers).inner? ∧
    ∀ (δ : Type) (f : ConnectorFailure → δ),
      (q.exhaustedBy layers).map f = (q.map f).exhaustedBy layers ∧
      ((q.exhaustedBy layers).map f).inner? = (q.exhaustedBy layers).inner?.map f ∧
      ((q.exhaustedBy layers).map f).takeInner? = (q.exhaustedBy layers).inner?.map f := by
  have hroot := lastFailureAt?_ofPolicy q layers (Nat.le_refl _)
  rw [List.drop_length] at hroot
  refine ⟨fun depth hdepth ↦ ⟨_, lastFailureAt?_ofPolicy q layers (Nat.le_of_lt hdepth), ?_⟩,
    ⟨ofPolicy q, hroot, rootKind_ofPolicy q layers, ?_, fun kind ↦ ofPolicy_of_shownKind? hq⟩,
    fun e ↦ ?_, (q.exhaustedBy layers).takeInner?_eq_inner?, fun δ f ↦ ⟨?_, ?_, ?_⟩⟩
  · rw [List.drop_eq_getElem_cons hdepth]
    rfl
  · rintro e rfl
    rfl
  · rw [PolicyFailure.inner?_exhaustedBy]
    exact PolicyFailure.inner?_eq_some_iff hq
  · exact PolicyFailure.map_exhaustedBy f q layers
  · exact PolicyFailure.inner?_map f _
  · rw [PolicyFailure.takeInner?_eq_inner?]
    exact PolicyFailure.inner?_map f _

/-- Retries that tried retries: the gateway's own failure, with its code, is found behind both. -/
theorem gateway_failure_survives_two_retries :
    let gateway := (of .backendCommunication "bad gateway").withCode 502
    let shown := ofPolicy (.exhausted "orders-retry" 3 (.exhausted "http-retry" 2 (.inner gateway)))
    (PolicyFailure.inner gateway).isExhausted = false ∧ shown.lastFailureAt? 2 = some gateway ∧
      shown.rootKind = .backendCommunication := by
  intro gateway shown
  have hsurvives := root_cause_survives (.inner gateway) rfl
    [("orders-retry", 3), ("http-retry", 2)]
  obtain ⟨-, ⟨root, hroot, hkind, hinner, -⟩, -⟩ := hsurvives
  cases hinner gateway rfl
  exact ⟨rfl, hroot, hkind⟩

end ConnectorFailure

end GuardedDispatch
