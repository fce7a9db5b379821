import Mathlib.Algebra.BigOperators.Fin
import Mathlib.Algebra.Order.BigOperators.Group.Finset
import CraftRelay.Lib.Wraparound

/-!
# An optimistic counter

A bound kept by a counter that everybody raises before looking at it. Who finds the
counter within the capacity has a place until lowering it again; who finds it above the
capacity was too many and lowers it at once. In between others come and go, so the counter
counts the places and those who are too many (`Ledger`), and the places alone stay within
the capacity.

The places and the surplus are spread over the parties: each weighs what it holds, and
`tally` and `weigh` add up a family of threads and a list of objects.
-/

namespace Slots

open Wraparound

/-- The counter is the places held and the surplus, and the places fit. -/
structure Ledger (capacity count : Int32) (held surplus : Nat) : Prop where
  count_eq : count.toInt = held + surplus
  held_le : held ≤ capacity.toInt

namespace Ledger

variable {capacity count : Int32} {held surplus : Nat}

theorem new (h : 0 ≤ capacity.toInt) : Ledger capacity 0 0 0 := ⟨rfl, h⟩

theorem raise_toInt (h : Ledger capacity count held surplus)
    (hfits : held + surplus + 1 < 2 ^ 31) : (count + 1).toInt = held + surplus + 1 := by
  have hone : (1 : Int32).toInt = 1 := rfl
  have hcount := h.count_eq
  rw [toInt_add_of_range, hone, hcount]
  · omega
  · omega

/-- Whether the counter is found within the capacity. -/
theorem lt_raise_iff (h : Ledger capacity count held surplus)
    (hfits : held + surplus + 1 < 2 ^ 31) :
    capacity < count + 1 ↔ capacity.toInt ≤ held + surplus := by
  rw [Int32.lt_iff_toInt_lt, h.raise_toInt hfits]
  omega

/-- Raised within the capacity: a place. -/
theorem raise_held (h : Ledger capacity count held surplus)
    (hfits : held + surplus + 1 < 2 ^ 31) (hle : ¬ capacity < count + 1) :
    Ledger capacity (count + 1) (held + 1) surplus := by
  have hroom := (not_congr (h.lt_raise_iff hfits)).mp hle
  refine ⟨?_, by omega⟩
  rw [h.raise_toInt hfits]
  omega

/-- Raised above the capacity: too many. -/
theorem raise_surplus (h : Ledger capacity count held surplus)
    (hfits : held + surplus + 1 < 2 ^ 31) : Ledger capacity (count + 1) held (surplus + 1) := by
  refine ⟨?_, h.held_le⟩
  rw [h.raise_toInt hfits]
  omega

theorem lower_toInt (hpos : 0 < count.toInt) : (count - 1).toInt = count.toInt - 1 := by
  have hone : (1 : Int32).toInt = 1 := rfl
  have hlt := count.toInt_lt
  rw [toInt_sub_of_range, hone]
  · omega
  · omega

/-- A place given back. -/
theorem lower_held (h : Ledger capacity count (held + 1) surplus) :
    Ledger capacity (count - 1) held surplus := by
  have hcount := h.count_eq
  have hheld := h.held_le
  refine ⟨?_, by omega⟩
  rw [lower_toInt (by omega)]
  omega

/-- Who was too many is gone. -/
theorem lower_surplus (h : Ledger capacity count held (surplus + 1)) :
    Ledger capacity (count - 1) held surplus := by
  have hcount := h.count_eq
  refine ⟨?_, h.held_le⟩
  rw [lower_toInt (by omega)]
  omega

end Ledger

/-! ## Adding up -/

variable {α : Type} {n : Nat}

/-- What a family of parties weighs. -/
def tally (weight : α → Nat) (parties : Fin n → α) : Nat := ∑ i, weight (parties i)

/-- What a list of parties weighs. -/
def weigh (weight : α → Nat) (parties : List α) : Nat := (parties.map weight).sum

/-- One party changed. -/
theorem tally_update (weight : α → Nat) (parties : Fin n → α) (t : Fin n) (x : α) :
    tally weight (Function.update parties t x) + weight (parties t) =
      tally weight parties + weight x := by
  have hrest : ∑ i ∈ Finset.univ.erase t, weight (Function.update parties t x i) =
      ∑ i ∈ Finset.univ.erase t, weight (parties i) := by
    apply Finset.sum_congr rfl
    intro i hi
    rw [Function.update_of_ne (Finset.ne_of_mem_erase hi)]
  unfold tally
  rw [← Finset.sum_erase_add _ _ (Finset.mem_univ t), hrest, Function.update_self,
    ← Finset.sum_erase_add _ _ (Finset.mem_univ t)]
  omega

/-- Parties that weigh at most one. -/
theorem tally_le {weight : α → Nat} (h : ∀ a, weight a ≤ 1) (parties : Fin n → α) :
    tally weight parties ≤ n := by
  calc tally weight parties ≤ ∑ _i : Fin n, 1 := Finset.sum_le_sum fun i _ => h (parties i)
    _ = n := by simp

/-- One party weighs no more than all. -/
theorem le_tally (weight : α → Nat) (parties : Fin n → α) (t : Fin n) :
    weight (parties t) ≤ tally weight parties :=
  Finset.single_le_sum (f := fun i => weight (parties i)) (fun _ _ => Nat.zero_le _)
    (Finset.mem_univ t)

theorem tally_eq_zero {weight : α → Nat} {parties : Fin n → α}
    (h : ∀ i, weight (parties i) = 0) : tally weight parties = 0 :=
  Finset.sum_eq_zero fun i _ => h i

@[simp] theorem weigh_nil (weight : α → Nat) : weigh weight [] = 0 := rfl

theorem weigh_append (weight : α → Nat) (parties : List α) (a : α) :
    weigh weight (parties ++ [a]) = weigh weight parties + weight a := by
  simp [weigh]

/-- An element of a list with one more. -/
theorem getElem?_snoc_cases {parties : List α} {a b : α} {i : Nat}
    (h : (parties ++ [a])[i]? = some b) : parties[i]? = some b ∨ b = a := by
  by_cases hi : i < parties.length
  · rw [List.getElem?_append_left hi] at h
    exact .inl h
  · rw [List.getElem?_append_right (by omega), List.getElem?_singleton] at h
    split at h
    · exact .inr (Option.some.inj h).symm
    · cases h

/-- One party of the list changed. -/
theorem weigh_modify (weight : α → Nat) {parties : List α} {i : Nat} {a : α} (f : α → α)
    (h : parties[i]? = some a) :
    weigh weight (parties.modify i f) + weight a = weigh weight parties + weight (f a) := by
  induction parties generalizing i with
  | nil => cases h
  | cons b parties ih =>
      cases i with
      | zero =>
          obtain rfl : b = a := by simpa using h
          simp only [weigh, List.modify_zero_cons, List.map_cons, List.sum_cons]
          omega
      | succ i =>
          have hrest := ih (by simpa using h)
          simp only [weigh, List.modify_succ_cons, List.map_cons, List.sum_cons] at hrest ⊢
          omega

/-- Where each party weighs at most one, their weight counts them. -/
theorem weigh_eq_length_filter (p : α → Bool) (parties : List α) :
    weigh (fun a => (p a).toNat) parties = (parties.filter p).length := by
  induction parties with
  | nil => rfl
  | cons a parties ih =>
      have hcons : weigh (fun a => (p a).toNat) (a :: parties) =
        (p a).toNat + weigh (fun a => (p a).toNat) parties := rfl
      rw [hcons, ih]
      cases hp : p a with
      | false => simp [hp]
      | true =>
          simp [hp]
          omega

end Slots
