import Mathlib.Data.List.Sort

/-!
# Sorting by a key

A stable sort by a key in a linear order. When no two elements have the same key, the
result depends on the set of elements alone, whatever order they came in.
-/

namespace SortedBy

variable {α κ : Type} [LinearOrder κ] (key : α → κ) {xs ys : List α}

/-- Elements with equal keys keep their order. -/
def sortBy (xs : List α) : List α := xs.insertionSort fun a b => key a ≤ key b

theorem perm_sortBy (xs : List α) : (sortBy key xs).Perm xs := List.perm_insertionSort _ xs

theorem mem_sortBy {a : α} : a ∈ sortBy key xs ↔ a ∈ xs := (perm_sortBy key xs).mem_iff

theorem length_sortBy : (sortBy key xs).length = xs.length := (perm_sortBy key xs).length_eq

theorem pairwise_sortBy (xs : List α) : (sortBy key xs).Pairwise fun a b => key a ≤ key b := by
  have htotal : Std.Total fun a b : α => key a ≤ key b := ⟨fun a b => le_total (key a) (key b)⟩
  have htrans : IsTrans α fun a b => key a ≤ key b := ⟨fun _ _ _ => le_trans⟩
  exact List.pairwise_insertionSort _ xs

/-- A sorted list stays as it is. -/
theorem sortBy_sortBy (xs : List α) : sortBy key (sortBy key xs) = sortBy key xs := by
  have htotal : Std.Total fun a b : α => key a ≤ key b := ⟨fun a b => le_total (key a) (key b)⟩
  exact (pairwise_sortBy key xs).insertionSort_eq

theorem map_sortBy_nodup : ((sortBy key xs).map key).Nodup ↔ (xs.map key).Nodup :=
  ((perm_sortBy key xs).map key).nodup_iff

/-- Sorting commutes with a map that keeps the keys. -/
theorem map_sortBy {β : Type} {key' : β → κ} (f : α → β) (hkey : ∀ a, key' (f a) = key a)
    (xs : List α) : (sortBy key xs).map f = sortBy key' (xs.map f) := by
  apply List.map_insertionSort
  intro a _ b _
  rw [hkey, hkey]

variable {key}

/-- The order of the input does not matter when the keys are apart. -/
theorem sortBy_eq_of_perm (hkeys : (xs.map key).Nodup) (h : xs.Perm ys) :
    sortBy key xs = sortBy key ys := by
  have hperm : (sortBy key xs).Perm (sortBy key ys) :=
    ((perm_sortBy key xs).trans h).trans (perm_sortBy key ys).symm
  refine hperm.eq_of_pairwise ?_ (pairwise_sortBy key xs) (pairwise_sortBy key ys)
  intro a b ha hb hab hba
  rw [mem_sortBy] at ha hb
  exact List.inj_on_of_nodup_map hkeys ha (h.mem_iff.mpr hb) (le_antisymm hab hba)

/-- Nor do repetitions matter, of which there are none. -/
theorem sortBy_eq_of_mem_iff (hx : (xs.map key).Nodup) (hy : (ys.map key).Nodup)
    (h : ∀ a, a ∈ xs ↔ a ∈ ys) : sortBy key xs = sortBy key ys :=
  sortBy_eq_of_perm hx ((List.perm_ext_iff_of_nodup hx.of_map hy.of_map).mpr h)

/-- In a sorted list equal keys are neighbours. -/
theorem nodup_of_neighbours (hsorted : xs.Pairwise fun a b => key a ≤ key b)
    (hne : xs.IsChain fun a b => key a ≠ key b) : (xs.map key).Nodup := by
  induction xs with
  | nil => exact List.nodup_nil
  | cons a xs ih =>
      cases xs with
      | nil => exact List.nodup_singleton _
      | cons b ys =>
          rw [List.pairwise_cons] at hsorted
          rw [List.isChain_cons_cons] at hne
          have hab : key a < key b := lt_of_le_of_ne (hsorted.1 b List.mem_cons_self) hne.1
          rw [List.map_cons, List.nodup_cons]
          refine ⟨fun hmem => ?_, ih hsorted.2 hne.2⟩
          obtain ⟨c, hc, heq⟩ := List.mem_map.mp hmem
          have hbc : key b ≤ key c := by
            rcases List.mem_cons.mp hc with rfl | hc
            · exact le_rfl
            · exact (List.pairwise_cons.mp hsorted.2).1 c hc
          exact (lt_of_lt_of_le hab hbc).ne' heq

end SortedBy
