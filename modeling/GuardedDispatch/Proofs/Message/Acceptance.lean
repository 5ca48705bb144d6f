import GuardedDispatch.Proofs.Message.Fields

/-!
# Which requests are accepted

A draft is checked by rules that look at its fields one after the other and at how they go together.
What the rules come to is said here of the values in effect, for each kind of request. A draft that
is acceptable becomes a request with these values, and any other is refused as invalid, for good.
Only a blank reply destination is not carried over: it counts as not given.
-/

namespace GuardedDispatch

open Text

/-- A check accepts exactly what is acceptable, with a result of which something holds, and refuses
anything else as invalid. -/
inductive Checked {α : Type} (acceptable : Prop) (holds : α → Prop) :
    Except ConnectorFailure α → Prop
  | accepted (h : acceptable) {r : α} (hr : holds r) : Checked acceptable holds (.ok r)
  | refused (h : ¬ acceptable) (message : String) :
      Checked acceptable holds (.error (.validation message))

namespace Checked

variable {α β : Type} {acceptable : Prop} {holds : α → Prop} {x : Except ConnectorFailure α}

/-- What a check gave has what it promises. -/
theorem holds_of_ok {r : α} (h : Checked acceptable holds (.ok r)) : holds r := by
  cases h with
  | accepted _ hr => exact hr

private theorem map {acceptable' : Prop} {holds' : β → Prop} {f : α → β}
    (h : Checked acceptable holds x) (hacceptable : acceptable ↔ acceptable')
    (hholds : ∀ r, holds r → holds' (f r)) : Checked acceptable' holds' (x.map f) := by
  cases h with
  | accepted h hr => exact .accepted (hacceptable.mp h) (hholds _ hr)
  | refused h message => exact .refused (mt hacceptable.mpr h) message

end Checked

/-- A text that is given and not blank. -/
def IsGiven (s? : Option String) : Prop := ∃ s, s? = some s ∧ isBlank s = false

/-- A text that is given and not blank is not left out. -/
theorem isGiven_iff {s? : Option String} : IsGiven s? ↔ given? s? ≠ none := by
  rw [Option.ne_none_iff_exists']
  simp only [IsGiven, given?_eq_some_iff]

/-! ### HTTP requests -/

/-- The values of an acceptable HTTP request: a path from the root, and a body exactly if the method
has one. -/
structure HttpAcceptable (method : HttpMethod) (value? : (f : HttpField) → Option f.Value) :
    Prop where
  path : ∃ s : String, value? .path = some s ∧ isBlank s = false ∧ s.toList.head? = some '/'
  body : (value? .body).isSome = true ↔ method ∈ [.post, .put, .patch]

/-- An HTTP request with the values of a draft. -/
structure HttpRequest.Carries (d : HttpDraft) (r : HttpRequest) : Prop where
  method_eq : r.method = d.method
  query_eq : r.query = d.query
  get?_eq : ∀ f, r.get? f = d.get? f

/-- A method has a body if it posts, puts or patches. -/
theorem HttpMethod.hasBody_iff {m : HttpMethod} :
    m.hasBody = true ↔ m ∈ [.post, .put, .patch] := by
  cases m <;> decide

/-- A text starts with a slash if that is its first character. -/
theorem startsWith_slash_iff {s : String} :
    s.startsWith "/" = true ↔ s.toList.head? = some '/' := by
  rw [String.startsWith_string_iff]
  cases s.toList with
  | nil => simp
  | cons c rest => simp [eq_comm]

private theorem HttpDraft.checked_build (d : HttpDraft) :
    Checked (HttpAcceptable d.method d.get?) (HttpRequest.Carries d) d.build := by
  unfold build
  split
  · next hpath =>
    refine .refused (fun h ↦ ?_) _
    obtain ⟨s, hs, hblank, -⟩ := h.path
    exact isGiven_iff.mp ⟨s, hs, hblank⟩ hpath
  · next path hpath =>
    obtain ⟨hgiven, hblank⟩ := (given?_eq_some_iff _ _).mp hpath
    split
    · next hslash =>
      refine .refused (fun h ↦ ?_) _
      obtain ⟨s, hs, -, hroot⟩ := h.path
      obtain rfl : path = s := Option.some.inj (hgiven.symm.trans hs)
      rw [startsWith_slash_iff.mpr hroot] at hslash
      cases hslash
    · next hslash =>
      split
      · next hmethod hbody =>
        refine .refused (fun h ↦ ?_) _
        have hsome : d.body?.isSome = true := h.body.mpr (HttpMethod.hasBody_iff.mp hmethod)
        rw [hbody] at hsome
        cases hsome
      · next b hmethod hbody =>
        refine .refused (fun h ↦ ?_) _
        have hbears := HttpMethod.hasBody_iff.mpr (h.body.mp (congrArg Option.isSome hbody))
        rw [hmethod] at hbears
        cases hbears
      · next hmissing hextra =>
        have hroot : path.toList.head? = some '/' :=
          startsWith_slash_iff.mp (by simpa using hslash)
        -- Neither a body is missing nor one is too much.
        have hbody : d.body?.isSome = true ↔ d.method.hasBody = true := by
          refine ⟨fun hsome ↦ ?_, fun hbears ↦ Option.isSome_iff_ne_none.mpr (hmissing hbears)⟩
          obtain ⟨b, hb⟩ := Option.isSome_iff_exists.mp hsome
          exact Bool.not_eq_false _ |>.mp fun hbare ↦ hextra b hbare hb
        refine .accepted ⟨⟨path, hgiven, hblank, hroot⟩, hbody.trans HttpMethod.hasBody_iff⟩
          ⟨rfl, rfl, fun f ↦ ?_⟩
        cases f with
        | path => exact hgiven.symm
        | _ => rfl

/-! ### Queue requests -/

/-- The values of an acceptable queue request: a destination and something to carry, a priority in
range, time to live, and a reply destination exactly if a reply is expected. -/
structure QueueAcceptable (value? : (f : QueueField) → Option f.Value) : Prop where
  destination : IsGiven (value? .destination)
  payload : ∃ b : Bytes, value? .payload = some b ∧ b ≠ []
  priority : ∀ n : Nat, value? .priority = some n → n ≤ 9
  timeToLive : ∀ ms : Nat, value? .timeToLive = some ms → ms ≠ 0
  replyTo : IsGiven (value? .replyTo) ↔ value? .exchangePattern = some .requestResponse

/-- A queue request with the values of a draft. A blank reply destination counts as not given. -/
structure QueueRequest.Carries (d : QueueDraft) (r : QueueRequest) : Prop where
  get?_eq : ∀ f, f ≠ .replyTo → r.get? f = d.get? f
  replyTo?_eq : r.replyTo? = given? d.replyTo?

private theorem QueueDraft.checked_build (d : QueueDraft) :
    Checked (QueueAcceptable d.get?) (QueueRequest.Carries d) d.build := by
  unfold build
  split
  · next hdestination =>
    exact .refused (fun h ↦ isGiven_iff.mp h.destination hdestination) _
  · next hpayload =>
    refine .refused (fun h ↦ ?_) _
    obtain ⟨b, hb, hne⟩ := h.payload
    refine Option.filter_eq_none_iff.mp hpayload b hb ?_
    simpa using hne
  · next destination payload hdestination hpayload =>
    have hgiven := (given?_eq_some_iff _ _).mp hdestination
    obtain ⟨hcarried, hne⟩ := Option.filter_eq_some_iff.mp hpayload
    split
    · next hpriority =>
      refine .refused (fun h ↦ ?_) _
      obtain ⟨n, hn, hhigh⟩ := (Option.any_eq_true _ _).mp hpriority
      exact absurd (h.priority n hn) (Nat.not_le.mpr (of_decide_eq_true hhigh))
    · next hpriority =>
      split
      · next httl => exact .refused (fun h ↦ h.timeToLive 0 httl rfl) _
      · next httl =>
        have hlow (n : Nat) (hn : d.priority? = some n) : n ≤ maxPriority := by
          refine Nat.not_lt.mp fun hhigh ↦ hpriority ?_
          exact (Option.any_eq_true _ _).mpr ⟨n, hn, decide_eq_true hhigh⟩
        split
        · next hpattern hreply =>
          refine .refused (fun h ↦ ?_) _
          exact isGiven_iff.mp (h.replyTo.mpr (congrArg some hpattern)) hreply
        · next s hpattern hreply =>
          refine .refused (fun h ↦ ?_) _
          have hexpected := h.replyTo.mp ⟨s, (given?_eq_some_iff _ _).mp hreply⟩
          rw [show d.get? .exchangePattern = some .fireAndForget from congrArg some hpattern]
            at hexpected
          cases hexpected
        · next hmissing hextra =>
          -- Neither a reply destination is missing nor one is too much.
          have hreply : IsGiven d.replyTo? ↔ some d.exchangePattern = some .requestResponse := by
            refine isGiven_iff.trans ⟨fun hsome ↦ ?_, fun hp ↦ hmissing (Option.some.inj hp)⟩
            obtain ⟨s, hs⟩ := Option.ne_none_iff_exists'.mp hsome
            cases hp : d.exchangePattern with
            | requestResponse => rfl
            | fireAndForget => exact (hextra s hp hs).elim
          refine .accepted ⟨⟨destination, hgiven⟩, ⟨payload, hcarried, by simpa using hne⟩, hlow,
            fun ms hms hzero ↦ httl (hzero ▸ hms), hreply⟩ ⟨fun f hf ↦ ?_, rfl⟩
          cases f with
          | destination => exact hgiven.1.symm
          | payload => exact hcarried.symm
          | replyTo => exact absurd rfl hf
          | _ => rfl

/-! ### Log records -/

/-- The values of an acceptable log record: a topic without white space, a payload, and full
acknowledgement if repeated sends are to be recognised. -/
structure LogAcceptable (value? : (f : LogField) → Option f.Value) : Prop where
  topic : ∃ s : String, value? .topic = some s ∧ isBlank s = false ∧
    ∀ c ∈ s.toList, isSpace c = false
  payload : (value? .payload).isSome = true
  idempotent : value? .idempotent = some true → value? .acks = some .all

/-- A log record with the values of a draft. -/
def LogRequest.Carries (d : LogDraft) (r : LogRequest) : Prop := ∀ f, r.get? f = d.get? f

private theorem LogDraft.checked_build (d : LogDraft) :
    Checked (LogAcceptable d.get?) (LogRequest.Carries d) d.build := by
  unfold build
  split
  · next htopic =>
    refine .refused (fun h ↦ ?_) _
    obtain ⟨s, hs, hblank, -⟩ := h.topic
    exact isGiven_iff.mp ⟨s, hs, hblank⟩ htopic
  · next topic htopic =>
    obtain ⟨hgiven, hblank⟩ := (given?_eq_some_iff _ _).mp htopic
    split
    · next hspace =>
      refine .refused (fun h ↦ ?_) _
      obtain ⟨s, hs, -, hsolid⟩ := h.topic
      obtain rfl : topic = s := Option.some.inj (hgiven.symm.trans hs)
      obtain ⟨c, hc, hcspace⟩ := List.any_eq_true.mp hspace
      rw [hsolid c hc] at hcspace
      cases hcspace
    · next hspace =>
      have hsolid : ∀ c ∈ topic.toList, isSpace c = false := by simpa using hspace
      split
      · next hpayload =>
        refine .refused (fun h ↦ ?_) _
        have hsome : d.payload?.isSome = true := h.payload
        rw [hpayload] at hsome
        cases hsome
      · next payload hpayload =>
        split
        · next hacks =>
          refine .refused (fun h ↦ ?_) _
          obtain ⟨hon, hall⟩ := (Bool.and_eq_true _ _).mp hacks
          exact bne_iff_ne.mp hall (Option.some.inj (h.idempotent (congrArg some hon)))
        · next hacks =>
          have hall (hon : some d.idempotent = some true) : some d.acks = some .all := by
            rw [Option.some.inj hon] at hacks
            simpa using hacks
          have hsome : d.payload?.isSome = true := congrArg Option.isSome hpayload
          refine .accepted ⟨⟨topic, hgiven, hblank, hsolid⟩, hsome, hall⟩ fun f ↦ ?_
          cases f with
          | topic => exact hgiven.symm
          | payload => exact hpayload.symm
          | _ => rfl

/-! ### Graph queries -/

/-- The values of an acceptable graph query: a resource, a query, and a page size in range. -/
structure GraphQueryAcceptable (value? : (f : GraphQueryField) → Option f.Value) : Prop where
  resource : IsGiven (value? .resource)
  query : IsGiven (value? .query)
  pageSize : ∀ n : Nat, value? .pageSize = some n → 1 ≤ n ∧ n ≤ 999

/-- A graph query with the values of a draft. -/
def GraphQueryRequest.Carries (d : GraphQueryDraft) (r : GraphQueryRequest) : Prop :=
  ∀ f, r.get? f = d.get? f

private theorem GraphQueryDraft.checked_build (d : GraphQueryDraft) :
    Checked (GraphQueryAcceptable d.get?) (GraphQueryRequest.Carries d) d.build := by
  unfold build
  split
  · next hresource => exact .refused (fun h ↦ isGiven_iff.mp h.resource hresource) _
  · next hquery => exact .refused (fun h ↦ isGiven_iff.mp h.query hquery) _
  · next resource query hresource hquery =>
    have hres := (given?_eq_some_iff _ _).mp hresource
    have hq := (given?_eq_some_iff _ _).mp hquery
    split
    · next hsize =>
      refine .refused (fun h ↦ ?_) _
      obtain ⟨n, hn, hout⟩ := (Option.any_eq_true _ _).mp hsize
      obtain ⟨hlow, hhigh⟩ := h.pageSize n hn
      rcases of_decide_eq_true hout with rfl | hover
      · cases hlow
      · exact absurd hhigh (Nat.not_le.mpr hover)
    · next hsize =>
      have hin (n : Nat) (hn : d.pageSize? = some n) : 1 ≤ n ∧ n ≤ maxPageSize := by
        have hout : ¬ (n = 0 ∨ maxPageSize < n) := fun hout ↦
          hsize ((Option.any_eq_true _ _).mpr ⟨n, hn, decide_eq_true hout⟩)
        omega
      refine .accepted ⟨⟨resource, hres⟩, ⟨query, hq⟩, hin⟩ fun f ↦ ?_
      cases f with
      | resource => exact hres.1.symm
      | query => exact hq.1.symm
      | _ => rfl

/-! ### Requests of any kind -/

namespace RequestRemarks

/-- The values in effect are those of an acceptable request. -/
def Valid : RequestRemarks → Prop
  | .http method remarks => HttpAcceptable method (HttpRemark.inEffect remarks)
  | .queue remarks => QueueAcceptable (QueueField.inEffect remarks)
  | .log remarks => LogAcceptable (LogRemark.inEffect remarks)
  | .graphQuery remarks => GraphQueryAcceptable fun f ↦ latest? f remarks

/-- A request has the values in effect and, if it is an HTTP request, all the query parameters that
were given, in their order. A blank reply destination counts as not given. -/
def Supplies : RequestRemarks → Request → Prop
  | .http method remarks, .http r =>
    r.method = method ∧ r.query = remarks.filterMap HttpRemark.query? ∧
      ∀ f, r.get? f = HttpRemark.inEffect remarks f
  | .queue remarks, .queue r =>
    (∀ f, f ≠ .replyTo → r.get? f = QueueField.inEffect remarks f) ∧
      r.get? .replyTo = given? (QueueField.inEffect remarks .replyTo)
  | .log remarks, .log r => ∀ f, r.get? f = LogRemark.inEffect remarks f
  | .graphQuery remarks, .graphQuery r => ∀ f, r.get? f = latest? f remarks
  | _, _ => False

/-- The check of a request of any kind. -/
theorem checked_build (d : RequestRemarks) : Checked d.Valid d.Supplies d.build := by
  cases d with
  | http method remarks =>
    obtain ⟨hmethod, hquery⟩ := HttpDraft.foldl_remark { method } remarks
    refine (HttpDraft.ofRemarks method remarks).checked_build.map ?_ fun r hr ↦ ?_
    · rw [funext (HttpDraft.get?_ofRemarks method remarks), HttpDraft.ofRemarks, hmethod]
      rfl
    · refine ⟨hr.method_eq.trans hmethod, hr.query_eq.trans hquery, fun f ↦ ?_⟩
      rw [hr.get?_eq, HttpDraft.get?_ofRemarks]
  | queue remarks =>
    have hget := QueueDraft.get?_ofRemarks remarks
    refine (QueueDraft.ofRemarks remarks).checked_build.map ?_ fun r hr ↦ ?_
    · rw [funext hget]
      rfl
    · refine ⟨fun f hf ↦ (hr.get?_eq f hf).trans (hget f), ?_⟩
      exact hr.replyTo?_eq.trans (congrArg given? (hget .replyTo))
  | log remarks =>
    have hget := LogDraft.get?_ofRemarks remarks
    refine (LogDraft.ofRemarks remarks).checked_build.map ?_ fun r hr f ↦ (hr f).trans (hget f)
    rw [funext hget]
    rfl
  | graphQuery remarks =>
    have hget := GraphQueryDraft.get?_ofRemarks remarks
    refine (GraphQueryDraft.ofRemarks remarks).checked_build.map ?_ fun r hr f ↦
      (hr f).trans (hget f)
    rw [funext hget]
    rfl

/-- A request is built exactly if the values in effect are those of an acceptable request; any other
is refused as invalid, and another attempt could not help. -/
theorem built_exactly_if_valid (d : RequestRemarks) :
    ((∃ r, d.build = .ok r) ↔ d.Valid) ∧
      (¬ d.Valid → ∃ e, d.build = .error e ∧ e.kind = .validation ∧ e.isRetryable = false) := by
  have hchecked := d.checked_build
  generalize d.build = result at hchecked ⊢
  cases hchecked with
  | accepted hvalid hr =>
    exact ⟨iff_of_true ⟨_, rfl⟩ hvalid, fun hinvalid ↦ absurd hvalid hinvalid⟩
  | refused hinvalid message =>
    have hnone : ¬ ∃ r : Request, Except.error (ConnectorFailure.validation message) = .ok r :=
      fun ⟨_, hr⟩ ↦ nomatch hr
    exact ⟨iff_of_false hnone hinvalid, fun _ ↦ ⟨_, rfl, rfl, rfl⟩⟩

end RequestRemarks

end GuardedDispatch
