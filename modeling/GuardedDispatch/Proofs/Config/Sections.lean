import GuardedDispatch.Config.Policies
import GuardedDispatch.Proofs.Yaml.Scalars

/-!
# Sections that are read back

A section is written member by member and read in the same way. A member that is written gives the
section back the value it had; one that is left out keeps the value of a fresh section, whatever
value was left out. So a section is read back as it was if what it leaves out is what a fresh one
has.
-/

namespace GuardedDispatch

open Number Yaml

/-! ### Values that can be stored -/

/-- Whether a value of a form can be stored: a count is no greater than its width allows, and a
number with a fraction is a number that its digits stand for. -/
def Shape.stores : Shape → Setting → Bool
  | .count width _ _, .count n => n ≤ width.greatest
  | .percentage, .single x => !x.isNan && decide (KeepsSingle x)
  | .factor, .double x => !x.isNan && decide (KeepsDouble x)
  | .optional shape, x => !x.isPresent || shape.stores x
  | _, _ => true

namespace Shape

private theorem stores_count {width : Width} {least n : Nat} {greatest? : Option Nat} :
    (count width least greatest?).stores (.count n) = true ↔ n ≤ width.greatest :=
  decide_eq_true_iff

private theorem stores_optionalCount {width : Width} {least : Nat} {greatest? n? : Option Nat} :
    (optional (count width least greatest?)).stores (.count? n?) = true ↔
      ∀ n, n? = some n → n ≤ width.greatest := by
  cases n? with
  | none => exact ⟨fun _ ↦ nofun, fun _ ↦ rfl⟩
  | some n =>
    simp only [Option.some.injEq, forall_eq']
    exact @stores_count width least n greatest?

/-- A percentage can be stored if it is a number that is kept. -/
theorem stores_percentage {x : Single} :
    percentage.stores (.single x) = true ↔ x.isNan = false ∧ KeepsSingle x := by
  rw [stores, Bool.and_eq_true, Bool.not_eq_true', decide_eq_true_iff]

/-- A factor can be stored if it is a number that is kept. -/
theorem stores_factor {x : Double} :
    factor.stores (.double x) = true ↔ x.isNan = false ∧ KeepsDouble x := by
  rw [stores, Bool.and_eq_true, Bool.not_eq_true', decide_eq_true_iff]

end Shape

/-- Whether the values of a section's own members can be stored. -/
def Section.Storable {σ : Type} [Section σ] (x : σ) : Prop :=
  ∀ m ∈ Section.members (σ := σ), m.shape.stores (m.get x) = true

instance {σ : Type} [Section σ] (x : σ) : Decidable (Section.Storable x) :=
  inferInstanceAs (Decidable (∀ m ∈ Section.members (σ := σ), m.shape.stores (m.get x) = true))

/-! ### One member -/

namespace Member

variable {σ τ : Type} {name : String} {x acc : σ}

/-- What comes of a section when it is read up to this member and goes on with the member as it is
written in another one. -/
def carry? (m : Member σ) (x acc : σ) : Option σ :=
  if (m.get x).isPresent then m.read? (m.get x).node acc else some acc

private theorem carry?_of_present {m : Member σ} (h : (m.get x).isPresent = true) :
    m.carry? x acc = m.read? (m.get x).node acc :=
  if_pos h

/-- A member that is left out changes nothing. -/
theorem carry?_of_absent {m : Member σ} (h : m.get x = .absent) : m.carry? x acc = some acc := by
  rw [carry?, h]
  exact if_neg Bool.false_ne_true

/-- A description makes no difference. -/
theorem carry?_described {m : Member σ} {description : String} {y : σ}
    (h : m.carry? x acc = some y) : (m.described description).carry? x acc = some y :=
  h

/-- A truth value is carried over. -/
theorem carry?_flag (get : σ → Bool) (set : σ → Bool → σ) :
    (flag name get set).carry? x acc = some (set acc (get x)) := by
  change (flagOf? (toString (get x))).map (set acc) = _
  rw [flagOf?_toString]
  rfl

/-- A count that fits its width is carried over. -/
theorem carry?_count {width : Width} {get : σ → Nat} {set : σ → Nat → σ} {least : Nat}
    {greatest? : Option Nat}
    (h : (Shape.count width least greatest?).stores (.count (get x)) = true) :
    (count name width get set least greatest?).carry? x acc = some (set acc (get x)) :=
  congrArg (Option.map (set acc)) (Node.natural?_plain (Shape.stores_count.mp h))

/-- A count that may be missing is carried over if it is there, or missing as well where it is
carried to. -/
theorem carry?_optionalCount {get : σ → Option Nat} {set : σ → Option Nat → σ}
    (hnone : get x = none → set acc none = acc)
    (h : (Shape.optional (.count .word64 0 none)).stores (.count? (get x)) = true) :
    (optionalCount name get set).carry? x acc = some (set acc (get x)) := by
  cases hn : get x with
  | none => rw [carry?_of_absent (congrArg Setting.count? hn), hnone hn]
  | some n =>
    have hget : (optionalCount name get set).get x = .count n := congrArg Setting.count? hn
    rw [carry?_of_present (hget ▸ rfl), hget]
    change ((Node.plain (toString n)).optional? (·.natural? Width.word64.greatest)).map (set acc) = _
    rw [Node.plain, Node.optional?, isNull_of_naturalOf? (naturalOf?_toString n),
      if_neg Bool.false_ne_true, ← Node.plain,
      Node.natural?_plain (Shape.stores_optionalCount.mp h n hn)]
    rfl

/-- A percentage that can be stored is carried over. -/
theorem carry?_percentage {get : σ → Single} {set : σ → Single → σ}
    (h : Shape.percentage.stores (.single (get x)) = true) :
    (percentage name get set).carry? x acc = some (set acc (get x)) := by
  change (doubleOf? (numberScalar Binary.storedSingleLayout (get x))).map
    (fun d ↦ set acc d.convert) = _
  have hset := congrArg (Option.map (set acc)) (Shape.stores_percentage.mp h).2
  rwa [Option.map_map] at hset

/-- A factor that can be stored is carried over. -/
theorem carry?_factor {get : σ → Double} {set : σ → Double → σ}
    (h : Shape.factor.stores (.double (get x)) = true) :
    (factor name get set).carry? x acc = some (set acc (get x)) :=
  congrArg (Option.map (set acc)) (Shape.stores_factor.mp h).2

/-- A text is carried over. -/
theorem carry?_text (get : σ → String) (set : σ → String → σ) :
    (text name get set).carry? x acc = some (set acc (get x)) :=
  rfl

/-- A text that may be missing is carried over if it is there, or missing as well where it is
carried to. -/
theorem carry?_optionalText {get : σ → Option String} {set : σ → Option String → σ}
    (hnone : get x = none → set acc none = acc) :
    (optionalText name get set).carry? x acc = some (set acc (get x)) := by
  cases hs : get x with
  | none => rw [carry?_of_absent (congrArg Setting.text? hs), hnone hs]
  | some s =>
    have hget : (optionalText name get set).get x = .text s := congrArg Setting.text? hs
    rw [carry?_of_present (hget ▸ rfl), hget]
    rfl

/-- A section within a section is carried over as it is read back. -/
theorem carry?_nested [Section τ] {record : String} {get : σ → τ} {set : σ → τ → σ} {y : τ}
    (h : Section.read? (Section.settings (get x)).node = some y) :
    (nested name record get set).carry? x acc = some (set acc y) :=
  congrArg (Option.map (set acc)) h

/-- A section that may be missing is carried over if it is there and read back as it was, or missing
as well where it is carried to. -/
theorem carry?_optionalNested [Section τ] {record : String} {get : σ → Option τ}
    {set : σ → Option τ → σ} (hnone : get x = none → set acc none = acc)
    (h : ∀ y, get x = some y → Section.read? (Section.settings y).node = some y) :
    (optionalNested name record get set).carry? x acc = some (set acc (get x)) := by
  cases hy : get x with
  | none =>
    rw [carry?_of_absent (congrArg (Option.elim · Setting.absent Section.settings) hy), hnone hy]
  | some y =>
    have hget : (optionalNested name record get set).get x = Section.settings y :=
      congrArg (Option.elim · Setting.absent Section.settings) hy
    rw [carry?_of_present (hget ▸ rfl), hget]
    exact congrArg (fun r ↦ (r.map some).map (set acc)) (h y hy)

end Member

/-! ### A section -/

namespace Section

variable {σ : Type}

private theorem find?_members {members : List (Member σ)} (hnames : (members.map (·.name)).Nodup)
    {m : Member σ} (hm : m ∈ members) : members.find? (·.name == m.name) = some m := by
  induction members with
  | nil => cases hm
  | cons first rest ih =>
    rw [List.map_cons, List.nodup_cons] at hnames
    obtain rfl | hrest := List.mem_cons.mp hm
    · exact List.find?_cons_of_pos (BEq.refl m.name)
    · have hother : (first.name == m.name) = false := by
        rw [beq_eq_false_iff_ne]
        intro hsame
        exact hnames.1 (hsame ▸ List.mem_map_of_mem hrest)
      rw [List.find?_cons, hother]
      exact ih hnames.2 hrest

private theorem readEntries?_memberNodes {members : List (Member σ)}
    (hnames : (members.map (·.name)).Nodup) (x : σ) :
    ∀ (ms : List (Member σ)) (seen : List String) (acc : σ), ms ⊆ members →
      (ms.map (·.name)).Nodup → (∀ m ∈ ms, m.name ∉ seen) →
      readEntries? members seen acc (Setting.memberNodes (ms.map fun m ↦ (m.name, m.get x))) =
        ms.foldlM (fun acc m ↦ m.carry? x acc) acc := by
  intro ms
  induction ms with
  | nil => exact fun _ _ _ _ _ ↦ rfl
  | cons m rest ih =>
    intro seen acc hsub hdistinct hseen
    obtain ⟨hm, hrest⟩ := List.cons_subset.mp hsub
    rw [List.map_cons, List.nodup_cons] at hdistinct
    obtain ⟨hnew, hnew'⟩ := List.forall_mem_cons.mp hseen
    rw [List.map_cons, Setting.memberNodes, List.foldlM_cons, Member.carry?]
    cases hpresent : (m.get x).isPresent with
    | false => exact ih seen acc hrest hdistinct.2 hnew'
    | true =>
      rw [if_pos rfl, if_pos rfl]
      have hkey : (Node.plain m.name).text? = some m.name := rfl
      have hnotseen : ¬ seen.contains m.name = true := mt List.contains_iff_mem.mp hnew
      rw [readEntries?, hkey, Option.bind_eq_bind, Option.bind_some, find?_members hnames hm]
      simp only [hnotseen]
      refine congrArg (m.read? (m.get x).node acc >>= ·) (funext fun acc' ↦ ?_)
      refine ih (m.name :: seen) acc' hrest hdistinct.2 fun m' hm' hmem ↦ ?_
      obtain hsame | hold := List.mem_cons.mp hmem
      · exact hdistinct.1 (hsame ▸ List.mem_map_of_mem hm')
      · exact hnew' m' hm' hold

/-- Once one member is carried over, the ones after it are. -/
theorem foldlM_carry? {x acc acc' y : σ} {m : Member σ} {ms : List (Member σ)}
    (h : m.carry? x acc = some acc')
    (hrest : ms.foldlM (fun acc m ↦ m.carry? x acc) acc' = some y) :
    (m :: ms).foldlM (fun acc m ↦ m.carry? x acc) acc = some y := by
  rw [List.foldlM_cons, h]
  exact hrest

/-- A section whose members have different names is read back with each of them carried over to a
fresh section. -/
theorem read?_node [Section σ] (hnames : ((members (σ := σ)).map (·.name)).Nodup) (x : σ) :
    read? (settings x).node =
      (members (σ := σ)).foldlM (fun acc m ↦ m.carry? x acc) fresh :=
  readEntries?_memberNodes hnames x members [] fresh (List.Subset.refl _) hnames
    (fun _ _ ↦ List.not_mem_nil)

end Section

end GuardedDispatch
