import GuardedDispatch.Config.Placeholder
import Mathlib.Data.List.TakeWhile

/-!
# Expansion of placeholders

What a placeholder looks like is said here by its grammar: a slot is a name and perhaps a default,
and it is written in one way. A text is cut up at slots into a template, which says what is kept and
what is filled in. Every text has exactly one template that takes the leftmost slot each time, and
expansion fills that template for every environment; so it depends on the text alone where values
are put in, and no value is looked at for slots of its own.
-/

namespace GuardedDispatch

/-! ### Slots -/

/-- A letter of the alphabet in either case, or an underscore. -/
def IsInitial (c : Char) : Prop := 'a' ≤ c ∧ c ≤ 'z' ∨ 'A' ≤ c ∧ c ≤ 'Z' ∨ c = '_'

/-- The name of a variable: an initial, and then initials and digits. -/
def IsName : List Char → Prop
  | [] => False
  | c :: rest => IsInitial c ∧ ∀ d ∈ rest, IsInitial d ∨ '0' ≤ d ∧ d ≤ '9'

/-- A place in a text that a value is put in at. -/
@[ext] structure Slot where
  name : List Char
  /-- What stands in for a variable that is not set. -/
  default? : Option (List Char)
  isName : IsName name
  /-- The first closing brace ends the slot. -/
  open_default : ∀ d ∈ default?, '}' ∉ d

namespace Slot

/-- What follows the name of a slot. -/
def ending : Option (List Char) → List Char
  | none => ['}']
  | some d => ':' :: '-' :: (d ++ ['}'])

/-- A slot as it is written. -/
def text (s : Slot) : List Char := '$' :: '{' :: (s.name ++ ending s.default?)

/-- What is put in at a slot: the value of its variable if that is set, also if it is empty, else
its default, else nothing. -/
def filling (s : Slot) (env : Environment) : List Char :=
  match env (String.ofList s.name) with
  | some value => value.toList
  | none => s.default?.getD []

private theorem text_append (s : Slot) (after : List Char) :
    s.text ++ after = '$' :: '{' :: (s.name ++ (ending s.default? ++ after)) := by
  rw [text, List.cons_append, List.cons_append, List.append_assoc]

/-- A slot as it is read. -/
def placeholder (s : Slot) : Placeholder :=
  ⟨String.ofList s.name, String.ofList (s.default?.getD [])⟩

private theorem value_placeholder (s : Slot) (env : Environment) :
    (s.placeholder.value env).toList = s.filling env := by
  simp only [placeholder, Placeholder.value, filling]
  cases env (String.ofList s.name) with
  | none => rw [Option.getD_none, String.toList_ofList]
  | some value => rw [Option.getD_some]

end Slot

/-! ### Reading a slot -/

/-- The characters that begin a name are the initials. -/
theorem beginsName_iff {c : Char} : beginsName c = true ↔ IsInitial c := by
  have hranges : beginsName c =
      ((decide ('A' ≤ c ∧ c ≤ 'Z') || (decide ('a' ≤ c) && decide (c ≤ 'z'))) || c == '_') := rfl
  simp only [hranges, IsInitial, Bool.or_eq_true, Bool.and_eq_true, decide_eq_true_eq, beq_iff_eq]
  exact or_assoc.trans or_left_comm

/-- The characters that continue a name are the initials and the digits. -/
theorem continuesName_iff {c : Char} :
    continuesName c = true ↔ IsInitial c ∨ '0' ≤ c ∧ c ≤ '9' := by
  have hranges : continuesName c =
      ((c.isAlpha || (decide ('0' ≤ c) && decide (c ≤ '9'))) || c == '_') := rfl
  rw [← beginsName_iff]
  simp only [hranges, beginsName, Bool.or_eq_true, Bool.and_eq_true, decide_eq_true_eq, beq_iff_eq]
  exact or_right_comm

/-- A name is what the scanner takes for one. -/
theorem isName_cons_iff {c : Char} {rest : List Char} :
    IsName (c :: rest) ↔ beginsName c = true ∧ ∀ d ∈ rest, continuesName d = true := by
  simp only [IsName, beginsName_iff, continuesName_iff]

-- It is decided over the characters of the name, not over all the characters that there are.
instance : DecidablePred IsName
  | [] => inferInstanceAs (Decidable False)
  | c :: rest => decidable_of_iff ((beginsName c && rest.all continuesName) = true) (by
      rw [isName_cons_iff, Bool.and_eq_true, List.all_eq_true])

private theorem span_append_cons {p : Char → Bool} {body : List Char} {stop : Char}
    (rest : List Char)
    (hbody : ∀ c ∈ body, p c = true) (hstop : p stop = false) :
    (body ++ stop :: rest).takeWhile p = body ∧
      (body ++ stop :: rest).dropWhile p = stop :: rest := by
  have hstop : ¬ p stop = true := Bool.eq_false_iff.mp hstop
  rw [List.takeWhile_append_of_pos hbody, List.dropWhile_append_of_pos hbody,
    List.takeWhile_cons_of_neg hstop, List.dropWhile_cons_of_neg hstop, List.append_nil]
  exact ⟨rfl, rfl⟩

private theorem eq_of_dropWhile_bne {stop c : Char} {cs after : List Char}
    (h : cs.dropWhile (· != stop) = c :: after) :
    stop ∉ cs.takeWhile (· != stop) ∧ cs = cs.takeWhile (· != stop) ++ stop :: after := by
  have hstop : c = stop := by
    have hne : cs.dropWhile (· != stop) ≠ [] := h ▸ List.cons_ne_nil c after
    simpa [h] using List.head_dropWhile_not (· != stop) hne
  rw [hstop] at h
  refine ⟨fun hmem => ?_, ?_⟩
  · simpa using List.mem_takeWhile_imp hmem
  · rw [← h, List.takeWhile_append_dropWhile]

namespace Slot

private theorem exists_ending_eq_cons (default? : Option (List Char)) :
    ∃ stop rest, ending default? = stop :: rest ∧ continuesName stop = false := by
  cases default? with
  | none => exact ⟨'}', [], rfl, by decide⟩
  | some d => exact ⟨':', '-' :: (d ++ ['}']), rfl, by decide⟩

private theorem closing?_ending_append {default? : Option (List Char)} (name : String)
    (after : List Char)
    (hopen : ∀ d ∈ default?, '}' ∉ d) :
    Placeholder.closing? name (ending default? ++ after) =
      some (⟨name, String.ofList (default?.getD [])⟩, after) := by
  cases default? with
  | none => rfl
  | some d =>
    have hbody : ∀ c ∈ d, (c != '}') = true := fun c hc =>
      bne_iff_ne.mpr (ne_of_mem_of_not_mem hc (hopen d rfl))
    obtain ⟨htake, hdrop⟩ := span_append_cons after hbody (show ('}' != '}') = false from rfl)
    rw [ending, List.cons_append, List.cons_append, List.append_assoc, List.singleton_append,
      Placeholder.closing?, hdrop, htake, Option.getD_some]

private theorem read?_text_append (s : Slot) (after : List Char) :
    Placeholder.read? (s.text ++ after) = some (s.placeholder, after) := by
  obtain ⟨name, default?, hname, hopen⟩ := s
  cases name with
  | nil => exact hname.elim
  | cons c rest =>
    obtain ⟨hbegins, hcontinues⟩ := isName_cons_iff.mp hname
    obtain ⟨stop, more, hending, hstop⟩ := exists_ending_eq_cons default?
    obtain ⟨htake, hdrop⟩ := span_append_cons (more ++ after) hcontinues hstop
    rw [← List.cons_append, ← hending] at htake hdrop
    rw [text_append, List.cons_append, Placeholder.read?, if_pos hbegins, htake, hdrop,
      closing?_ending_append _ _ hopen, placeholder]

private theorem exists_of_closing? {name : String} {cs after : List Char} {p : Placeholder}
    (h : Placeholder.closing? name cs = some (p, after)) :
    ∃ default? : Option (List Char), (∀ d ∈ default?, '}' ∉ d) ∧ cs = ending default? ++ after ∧
      p = ⟨name, String.ofList (default?.getD [])⟩ := by
  unfold Placeholder.closing? at h
  split at h
  · cases h
    exact ⟨none, by simp, rfl, rfl⟩
  · rename_i rest
    split at h
    · rename_i hdrop
      cases h
      obtain ⟨hopen, hrest⟩ := eq_of_dropWhile_bne hdrop
      refine ⟨some (rest.takeWhile (· != '}')), ?_, ?_, rfl⟩
      · rintro _ ⟨⟩
        exact hopen
      · rw [ending, List.cons_append, List.cons_append, List.append_assoc, List.singleton_append,
          ← hrest]
    · cases h
  · cases h

private theorem exists_of_read? {cs after : List Char} {p : Placeholder}
    (h : Placeholder.read? cs = some (p, after)) :
    ∃ s : Slot, cs = s.text ++ after ∧ p = s.placeholder := by
  unfold Placeholder.read? at h
  split at h
  · rename_i c rest
    split at h
    · rename_i hbegins
      obtain ⟨default?, hopen, hdrop, rfl⟩ := exists_of_closing? h
      have hname : IsName (c :: rest.takeWhile continuesName) :=
        isName_cons_iff.mpr ⟨hbegins, fun d hd => List.mem_takeWhile_imp hd⟩
      refine ⟨⟨_, default?, hname, hopen⟩, ?_, rfl⟩
      rw [text_append, ← hdrop, List.cons_append, List.takeWhile_append_dropWhile]
    · cases h
  · cases h

/-- The front of a text is read as a slot exactly if one is written there. -/
theorem read?_eq_some_iff {cs after : List Char} {p : Placeholder} :
    Placeholder.read? cs = some (p, after) ↔
      ∃ s : Slot, cs = s.text ++ after ∧ p = s.placeholder := by
  constructor
  · exact exists_of_read?
  · rintro ⟨s, rfl, rfl⟩
    exact read?_text_append s after

private theorem ending_injective : Function.Injective ending := by
  intro default? default?' h
  cases default? <;> cases default?' <;> simp_all [ending]

private theorem text_append_inj {s s' : Slot} {after after' : List Char}
    (h : s.text ++ after = s'.text ++ after') : s = s' ∧ after = after' := by
  -- Reading tells the names and what follows; then nothing but the defaults is left to compare.
  have hread : some (s.placeholder, after) = some (s'.placeholder, after') := by
    rw [← read?_text_append, ← read?_text_append, h]
  obtain ⟨hplaceholder, rfl⟩ := Prod.mk.inj (Option.some.inj hread)
  have hname : s.name = s'.name :=
    String.ofList_injective (congrArg Placeholder.name hplaceholder)
  rw [text_append, text_append, hname] at h
  have hending : ending s.default? = ending s'.default? := by simpa using h
  exact ⟨Slot.ext hname (ending_injective hending), rfl⟩

end Slot

/-- Whether a slot is written at the front of a text. -/
def BeginsSlot (cs : List Char) : Prop := ∃ s : Slot, s.text <+: cs

/-- A slot is written at the front of a text unless reading one fails. -/
theorem not_beginsSlot_iff {cs : List Char} : ¬ BeginsSlot cs ↔ Placeholder.read? cs = none := by
  constructor
  · intro hnone
    cases hread : Placeholder.read? cs with
    | none => rfl
    | some found =>
      obtain ⟨s, hcs, -⟩ := Slot.read?_eq_some_iff.mp hread
      exact (hnone ⟨s, found.2, hcs.symm⟩).elim
  · rintro hread ⟨s, after, rfl⟩
    rw [Slot.read?_text_append] at hread
    cases hread

instance (cs : List Char) : Decidable (BeginsSlot cs) :=
  decidable_of_iff (¬ Placeholder.read? cs = none) (not_iff_comm.mp not_beginsSlot_iff)

/-- No slot is written at any of the first `n` places of a text. -/
def NoSlotBefore (n : Nat) (cs : List Char) : Prop := ∀ i < n, ¬ BeginsSlot (cs.drop i)

instance (n : Nat) (cs : List Char) : Decidable (NoSlotBefore n cs) :=
  inferInstanceAs (Decidable (∀ i < n, ¬ BeginsSlot (cs.drop i)))

private theorem noSlotBefore_succ_cons {n : Nat} {c : Char} {cs : List Char} :
    NoSlotBefore (n + 1) (c :: cs) ↔ ¬ BeginsSlot (c :: cs) ∧ NoSlotBefore n cs := by
  constructor
  · exact fun h => ⟨h 0 n.succ_pos, fun i hi => h (i + 1) (Nat.succ_lt_succ hi)⟩
  · rintro ⟨hfront, hlater⟩ i hi
    cases i with
    | zero => exact hfront
    | succ i => exact hlater i (Nat.lt_of_succ_lt_succ hi)

private theorem NoSlotBefore.le_length {n : Nat} {kept after : List Char} {s : Slot}
    (h : NoSlotBefore n (kept ++ (s.text ++ after))) : n ≤ kept.length := by
  by_contra hlt
  refine h kept.length (Nat.lt_of_not_le hlt) ⟨s, ?_⟩
  rw [List.drop_left]
  exact List.prefix_append _ _

private theorem not_noSlotBefore_length {kept after : List Char} {s : Slot} :
    ¬ NoSlotBefore (kept ++ (s.text ++ after)).length (kept ++ (s.text ++ after)) := by
  intro h
  have hle := h.le_length
  rw [Slot.text_append] at hle
  simp only [List.length_append, List.length_cons] at hle
  omega

/-! ### Templates -/

/-- A text that is cut up at some of its slots: what is kept before each of them, and what is kept
after the last one. -/
inductive Template
  | plain (kept : List Char)
  | fill (kept : List Char) (slot : Slot) (after : Template)

namespace Template

/-- The text that is cut up. -/
def text : Template → List Char
  | plain kept => kept
  | fill kept slot after => kept ++ (slot.text ++ after.text)

/-- The text with each slot filled, and all else in its place. -/
def filled (env : Environment) : Template → List Char
  | plain kept => kept
  | fill kept slot after => kept ++ (slot.filling env ++ after.filled env)

/-- Each slot is the leftmost one after the slot before it, and no slot is left out at the end. -/
def Leftmost : Template → Prop
  | plain kept => NoSlotBefore kept.length kept
  | fill kept slot after =>
    NoSlotBefore kept.length (kept ++ (slot.text ++ after.text)) ∧ after.Leftmost

instance decidableLeftmost : (t : Template) → Decidable t.Leftmost
  | plain kept => inferInstanceAs (Decidable (NoSlotBefore kept.length kept))
  | fill kept _ after =>
    haveI := decidableLeftmost after
    inferInstanceAs (Decidable (NoSlotBefore kept.length _ ∧ after.Leftmost))

/-- A template with one more character in front. -/
def cons (c : Char) : Template → Template
  | plain kept => plain (c :: kept)
  | fill kept slot after => fill (c :: kept) slot after

variable {c : Char} {t t' : Template}

private theorem text_cons : (t.cons c).text = c :: t.text := by
  cases t <;> rfl

private theorem filled_cons {env : Environment} : (t.cons c).filled env = c :: t.filled env := by
  cases t <;> rfl

private theorem leftmost_cons (hfront : ¬ BeginsSlot (c :: t.text)) (ht : t.Leftmost) :
    (t.cons c).Leftmost := by
  cases t with
  | plain kept => exact noSlotBefore_succ_cons.mpr ⟨hfront, ht⟩
  | fill kept slot after => exact ⟨noSlotBefore_succ_cons.mpr ⟨hfront, ht.1⟩, ht.2⟩

private theorem eq_of_leftmost (ht : t.Leftmost) (ht' : t'.Leftmost) (htext : t.text = t'.text) :
    t = t' := by
  induction t generalizing t' with
  | plain kept =>
    cases t' with
    | plain kept' => exact congrArg plain htext
    | fill kept' s' after' =>
      change kept = _ at htext
      subst htext
      exact (not_noSlotBefore_length ht).elim
  | fill kept s after ih =>
    cases t' with
    | plain kept' =>
      change _ = kept' at htext
      subst htext
      exact (not_noSlotBefore_length ht').elim
    | fill kept' s' after' =>
      -- Either one's first slot bounds what the other keeps before its own.
      change kept ++ (s.text ++ after.text) = kept' ++ (s'.text ++ after'.text) at htext
      have hlength : kept.length = kept'.length :=
        Nat.le_antisymm (NoSlotBefore.le_length (htext ▸ ht.1))
          (NoSlotBefore.le_length (htext.symm ▸ ht'.1))
      obtain ⟨hkept, hslots⟩ := List.append_inj htext hlength
      obtain ⟨rfl, hafter⟩ := Slot.text_append_inj hslots
      rw [hkept, ih ht.2 ht'.2 hafter]

end Template

/-! ### Expansion -/

private theorem exists_leftmost_of_expandChars {fuel : Nat} {cs : List Char}
    (hfuel : cs.length ≤ fuel) :
    ∃ t : Template, t.text = cs ∧ t.Leftmost ∧ ∀ env, expandChars env fuel cs = t.filled env := by
  -- The scanner goes on after one character or after a slot, and so does the template.
  induction fuel generalizing cs with
  | zero =>
    rw [List.eq_nil_of_length_eq_zero (Nat.le_zero.mp hfuel)]
    exact ⟨.plain [], rfl, nofun, fun _ => rfl⟩
  | succ fuel ih =>
    cases cs with
    | nil => exact ⟨.plain [], rfl, nofun, fun _ => rfl⟩
    | cons c rest =>
      cases hread : Placeholder.read? (c :: rest) with
      | none =>
        obtain ⟨t, rfl, ht, hfilled⟩ := ih (Nat.le_of_succ_le_succ hfuel)
        refine ⟨t.cons c, t.text_cons, t.leftmost_cons (not_beginsSlot_iff.mpr hread) ht, ?_⟩
        intro env
        simp only [expandChars, hread, hfilled env, Template.filled_cons]
      | some found =>
        obtain ⟨p, after⟩ := found
        obtain ⟨s, hcs, rfl⟩ := Slot.read?_eq_some_iff.mp hread
        have hshorter : after.length ≤ fuel := by
          have hlength := congrArg List.length hcs
          rw [Slot.text_append] at hlength
          simp only [List.length_append, List.length_cons] at hlength hfuel
          omega
        obtain ⟨t, rfl, ht, hfilled⟩ := ih hshorter
        refine ⟨.fill [] s t, hcs.symm, ⟨nofun, ht⟩, ?_⟩
        intro env
        simp only [expandChars, hread, hfilled env, Slot.value_placeholder, Template.filled,
          List.nil_append]

private theorem Template.filled_of_forall_not_infix {t : Template} (env : Environment)
    (h : ∀ s : Slot, ¬ s.text <:+: t.text) : t.filled env = t.text := by
  cases t with
  | plain kept => rfl
  | fill kept s after => exact (h s ⟨kept, after.text, List.append_assoc _ _ _⟩).elim

/-- Expansion fills the slots of a text that are found from left to right, each of them as far left
as there is one after the slot before it: there is exactly one way to cut the text up like that,
whatever the environment, and in every environment the expansion is the text cut up so with its
slots filled. A text without a slot stays as it is. -/
theorem expand_fills_leftmost_slots (text : String) :
    ∃ t : Template, (t.text = text.toList ∧ t.Leftmost) ∧
      (∀ t' : Template, t'.text = text.toList → t'.Leftmost → t' = t) ∧
      (∀ env, (expand env text).toList = t.filled env) ∧
      ((∀ s : Slot, ¬ s.text <:+: text.toList) → ∀ env, expand env text = text) := by
  obtain ⟨t, htext, ht, hfilled⟩ :=
    exists_leftmost_of_expandChars (Nat.le_of_eq text.length_toList)
  have hexpand : ∀ env, (expand env text).toList = t.filled env := fun env => by
    rw [expand, String.toList_ofList, hfilled]
  refine ⟨t, ⟨htext, ht⟩, ?_, hexpand, ?_⟩
  · intro t' htext' ht'
    exact Template.eq_of_leftmost ht' ht (htext'.trans htext.symm)
  · intro hnone env
    rw [← htext] at hnone
    exact String.toList_injective
      ((hexpand env).trans ((Template.filled_of_forall_not_infix env hnone).trans htext))

/-- Slots without and with a default, an opening within a default, a dollar sign and a number
before a slot, and a slot that is not closed. -/
def Template.motley : Template :=
  .fill [] ⟨['A'], none, by decide, by decide⟩
    (.fill [] ⟨['B'], some "x$\x7bC".toList, by decide, by decide⟩
      (.fill "\x7d$$\x7b1\x7d".toList ⟨['_', '2'], some ['d'], by decide, by decide⟩
        (.plain "$\x7bE:-z".toList)))

/-- A variable whose value looks like a slot, and a variable that is set to nothing. -/
def motleyValues : Environment
  | "A" => some "$\x7b_2\x7d"
  | "_2" => some ""
  | _ => none

/-- A value that looks like a slot is left alone, a default ends at the first closing brace, and a
variable that is set to nothing does not fall back on its default. -/
theorem expand_motley :
    expand motleyValues
        "$\x7bA\x7d$\x7bB:-x$\x7bC\x7d\x7d$$\x7b1\x7d$\x7b_2:-d\x7d$\x7bE:-z" =
      "$\x7b_2\x7dx$\x7bC\x7d$$\x7b1\x7d$\x7bE:-z" := by
  obtain ⟨t, -, hunique, hexpand, -⟩ := expand_fills_leftmost_slots
    "$\x7bA\x7d$\x7bB:-x$\x7bC\x7d\x7d$$\x7b1\x7d$\x7b_2:-d\x7d$\x7bE:-z"
  have hmotley : Template.motley = t := hunique Template.motley (by decide) (by decide)
  apply String.toList_injective
  rw [hexpand, ← hmotley]
  decide

/-! ### Mentioned variables -/

private theorem expandChars_congr {env env' : Environment} {fuel : Nat} {cs : List Char}
    (h : ∀ name ∈ mentionedNames fuel cs, env name = env' name) :
    expandChars env fuel cs = expandChars env' fuel cs := by
  induction fuel generalizing cs with
  | zero => rfl
  | succ fuel ih =>
    cases cs with
    | nil => rfl
    | cons c rest =>
      cases hread : Placeholder.read? (c :: rest) with
      | none =>
        simp only [mentionedNames, hread] at h
        simp only [expandChars, hread, ih h]
      | some found =>
        simp only [mentionedNames, hread, List.mem_cons, forall_eq_or_imp] at h
        obtain ⟨hfront, hafter⟩ := h
        simp only [expandChars, hread, Placeholder.value, hfront, ih hafter]

/-- To expand a text it is enough to know the values of the variables that it mentions. -/
theorem expand_congr {env env' : Environment} {text : String}
    (h : ∀ name ∈ mentionedNames text.length text.toList, env name = env' name) :
    expand env text = expand env' text := by
  rw [expand, expand, expandChars_congr h]

end GuardedDispatch
