import Mathlib.Data.List.Induction

/-!
# Cutting a list greedily into batches

A batch takes the first element of what is left, whatever it is, and then each next element
as long as that fits the batch so far. `batches` cuts a whole list that way. What it gives is
the whole list again, in non-empty batches, each of which fits all along and could not
take the element after it.
-/

namespace GreedyCut

variable {α : Type} (fits : List α → α → Prop) [∀ batch x, Decidable (fits batch x)]

/-- How many elements of a list a batch takes, after those it has. -/
def takenAfter (batch : List α) : List α → Nat
  | [] => 0
  | x :: xs => if batch ≠ [] ∧ ¬ fits batch x then 0 else takenAfter (batch ++ [x]) xs + 1

def taken (xs : List α) : Nat := takenAfter fits [] xs

omit [∀ batch x, Decidable (fits batch x)] in
/-- Every element of the batch but the first fitted the ones before it. -/
def Fitting (batch : List α) : Prop :=
  ∀ before x after, batch = before ++ x :: after → before ≠ [] → fits before x

variable {fits}

/-! ## One batch -/

variable (fits) in
theorem takenAfter_le (batch xs : List α) : takenAfter fits batch xs ≤ xs.length := by
  induction xs generalizing batch with
  | nil => exact Nat.le_refl 0
  | cons x xs ih =>
      unfold takenAfter
      split
      · exact Nat.zero_le _
      · exact Nat.succ_le_succ (ih _)

variable (fits) in
/-- The first element is taken. -/
theorem taken_pos {xs : List α} (h : xs ≠ []) : 0 < taken fits xs := by
  cases xs with
  | nil => exact absurd rfl h
  | cons x xs =>
      unfold taken takenAfter
      rw [if_neg fun hbreak => hbreak.1 rfl]
      exact Nat.succ_pos _

omit [∀ batch x, Decidable (fits batch x)] in
theorem Fitting.snoc {batch : List α} {x : α} (h : Fitting fits batch)
    (hx : batch ≠ [] → fits batch x) : Fitting fits (batch ++ [x]) := by
  intro before y after heq hne
  induction after using List.reverseRecOn with
  | nil =>
      obtain ⟨rfl, rfl⟩ := List.append_singleton_inj.mp heq
      exact hx hne
  | append_singleton after z =>
      rw [← List.cons_append, ← List.append_assoc] at heq
      obtain ⟨rfl, rfl⟩ := List.append_singleton_inj.mp heq
      exact h _ _ _ rfl hne

theorem fitting_takenAfter {batch : List α} (h : Fitting fits batch) (xs : List α) :
    Fitting fits (batch ++ xs.take (takenAfter fits batch xs)) := by
  induction xs generalizing batch with
  | nil => simpa [takenAfter] using h
  | cons x xs ih =>
      unfold takenAfter
      split
      · simpa using h
      · rename_i hcont
        have hx : batch ≠ [] → fits batch x := fun hne =>
          Classical.byContradiction fun hfit => hcont ⟨hne, hfit⟩
        simpa using ih (h.snoc hx)

/-- The element after the batch did not fit. -/
theorem not_fits_after_takenAfter {batch : List α} {xs : List α} {x : α}
    (h : (xs.drop (takenAfter fits batch xs)).head? = some x) :
    ¬ fits (batch ++ xs.take (takenAfter fits batch xs)) x := by
  induction xs generalizing batch with
  | nil => simp [takenAfter] at h
  | cons y xs ih =>
      unfold takenAfter at h ⊢
      split at h
      · rename_i hbreak
        obtain rfl : y = x := by simpa using h
        rw [if_pos hbreak]
        simpa using hbreak.2
      · rename_i hcont
        rw [if_neg hcont, List.take_succ_cons, List.append_cons]
        exact ih (by simpa using h)

/-! ## All batches -/

variable (fits) in
def batches : List α → List (List α)
  | [] => []
  | x :: xs =>
      (x :: xs).take (taken fits (x :: xs)) :: batches ((x :: xs).drop (taken fits (x :: xs)))
termination_by xs => xs.length
decreasing_by
  have hpos := taken_pos fits (List.cons_ne_nil x xs)
  rw [List.length_drop, List.length_cons]
  omega

@[simp] theorem batches_nil : batches fits ([] : List α) = [] := by
  unfold batches
  rfl

theorem batches_of_ne_nil {xs : List α} (h : xs ≠ []) :
    batches fits xs = xs.take (taken fits xs) :: batches fits (xs.drop (taken fits xs)) := by
  cases xs with
  | nil => exact absurd rfl h
  | cons x xs => rw [batches]

theorem flatten_batches (xs : List α) : (batches fits xs).flatten = xs := by
  induction xs using batches.induct fits with
  | case1 => simp
  | case2 x xs ih =>
      rw [batches_of_ne_nil (List.cons_ne_nil x xs), List.flatten_cons, ih, List.take_append_drop]

/-- A batch is not empty, fitted all along, and could not take the element after it. -/
theorem batch_spec {xs : List α} {before after : List (List α)} {batch : List α}
    (h : batches fits xs = before ++ batch :: after) :
    batch ≠ [] ∧ Fitting fits batch ∧
      ∀ x, after.flatten.head? = some x → ¬ fits batch x := by
  induction xs using batches.induct fits generalizing before with
  | case1 => simp at h
  | case2 x xs ih =>
      have hne := List.cons_ne_nil x xs
      rw [batches_of_ne_nil hne] at h
      cases before with
      | cons first before =>
          obtain ⟨-, hrest⟩ := List.cons_eq_cons.mp h
          exact ih hrest
      | nil =>
          obtain ⟨rfl, rfl⟩ := List.cons_eq_cons.mp h
          refine ⟨?_, ?_, fun y hy => ?_⟩
          · have hpos := taken_pos fits hne
            have hlen := List.length_pos_iff.mpr hne
            rw [← List.length_pos_iff, List.length_take]
            omega
          · have hempty : Fitting fits [] := by simp [Fitting]
            exact fitting_takenAfter hempty (x :: xs)
          · rw [flatten_batches] at hy
            exact not_fits_after_takenAfter hy

end GreedyCut
