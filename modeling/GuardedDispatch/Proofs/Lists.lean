import Mathlib.Algebra.BigOperators.Group.List.Basic
import Mathlib.Algebra.GroupWithZero.Nat
import Mathlib.Data.List.Perm.Basic

/-!
# One entry of a list and the others

What calls hold and account for is collected over lists of which a step changes one entry. These
facts take that entry out.
-/

namespace GuardedDispatch

variable {α β : Type}

/-- Counting with one entry more. -/
theorem countP_cons_toNat (p : α → Bool) (x : α) (l : List α) :
    (x :: l).countP p = l.countP p + (p x).toNat := by
  rw [List.countP_cons]
  cases p x <;> rfl

/-- Summing with one entry more. -/
theorem sum_map_cons (f : α → Nat) (x : α) (l : List α) :
    ((x :: l).map f).sum = (l.map f).sum + f x := by
  rw [List.map_cons, List.sum_cons, Nat.add_comm]

/-- Collecting with one entry more. -/
theorem filterMap_cons_toList (f : α → Option β) (x : α) (l : List α) :
    (x :: l).filterMap f = (f x).toList ++ l.filterMap f := by
  rw [List.filterMap_cons]
  cases f x <;> rfl

/-- What holds of exactly one of two counts holds of their sum. -/
theorem countP_eq_add {p q r : α → Bool} {l : List α}
    (h : ∀ x ∈ l, (p x).toNat = (q x).toNat + (r x).toNat) :
    l.countP p = l.countP q + l.countP r := by
  induction l with
  | nil => rfl
  | cons x rest ih =>
    have hrest := ih fun y hy ↦ h y (List.mem_cons_of_mem x hy)
    have hx := h x List.mem_cons_self
    rw [countP_cons_toNat, countP_cons_toNat, countP_cons_toNat]
    omega

/-- Sums of terms that are sums. -/
theorem sum_map_eq_add {f g k : α → Nat} {l : List α} (h : ∀ x ∈ l, f x = g x + k x) :
    (l.map f).sum = (l.map g).sum + (l.map k).sum := by
  rw [List.map_congr_left h, List.sum_map_add]

/-- A list is any of its entries and the others. -/
theorem perm_cons_eraseIdx {l : List α} {i : Nat} {x : α} (h : l[i]? = some x) :
    l.Perm (x :: l.eraseIdx i) := by
  obtain ⟨hi, rfl⟩ := List.getElem?_eq_some_iff.mp h
  exact (List.getElem_cons_eraseIdx_perm hi).symm

/-- A list with one entry changed is the changed one and the others. -/
theorem set_perm_cons_eraseIdx {l : List α} {i : Nat} {x : α} (h : l[i]? = some x)
    (y : α) : (l.set i y).Perm (y :: l.eraseIdx i) := by
  obtain ⟨hi, rfl⟩ := List.getElem?_eq_some_iff.mp h
  exact List.set_perm_cons_eraseIdx hi y

/-- The changed entry stands where the old one stood. -/
theorem getElem?_set_of_some {l : List α} {i : Nat} {x : α} (h : l[i]? = some x) (y : α) :
    (l.set i y)[i]? = some y :=
  List.getElem?_set_self (List.getElem?_eq_some_iff.mp h).1

/-- A list without two entries of one key is any of its entries and those of other keys. -/
theorem perm_cons_filter_key {key : α → Nat} {l : List α}
    (hnodup : (l.map key).Nodup) {a : α} (ha : a ∈ l) :
    l.Perm (a :: l.filter fun x ↦ key x != key a) := by
  induction l with
  | nil => cases ha
  | cons c rest ih =>
    rw [List.map_cons, List.nodup_cons] at hnodup
    obtain ⟨hout, hrest⟩ := hnodup
    obtain rfl | ha := List.mem_cons.mp ha
    · have hself : rest.filter (fun x ↦ key x != key a) = rest := by
        rw [List.filter_eq_self]
        intro x hx
        rw [bne_iff_ne]
        intro he
        exact hout (he ▸ List.mem_map_of_mem hx)
      rw [List.filter_cons_of_neg (by simp), hself]
    · have hne : key c ≠ key a := fun he ↦ hout (he ▸ List.mem_map_of_mem ha)
      rw [List.filter_cons_of_pos (by simpa using hne)]
      exact ((ih hrest ha).cons c).trans (.swap _ _ _)

/-- In a list without two entries of one key every entry is found by its key. -/
theorem find?_key_of_mem {κ : Type} [BEq κ] [LawfulBEq κ] {key : α → κ} {l : List α}
    (hnodup : (l.map key).Nodup) {a : α} (ha : a ∈ l) :
    l.find? (fun x ↦ key x == key a) = some a := by
  induction l with
  | nil => cases ha
  | cons c rest ih =>
    rw [List.map_cons, List.nodup_cons] at hnodup
    obtain ⟨hout, hrest⟩ := hnodup
    rw [List.find?_cons]
    obtain rfl | ha := List.mem_cons.mp ha
    · rw [beq_self_eq_true]
    · have hne : key c ≠ key a := fun he ↦ hout (he ▸ List.mem_map_of_mem ha)
      rw [beq_false_of_ne hne]
      exact ih hrest ha

end GuardedDispatch
