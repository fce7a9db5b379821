import Mathlib.Data.Option.Basic
import Mathlib.Order.Basic

/-!
# The verdict of a comparison

Comparing an earlier value with a later one has four outcomes: they are the same, the later
one dominates, it does not, or they are not to be compared at all. Over a partial order in
which only comparable values are ordered, the verdicts of all pairs hang together.

The vectors at the end are such values: numbers under keys, in a scope.
-/

namespace Dominance

inductive Verdict where
  | equal | advanced | incomparable | conflict
  deriving DecidableEq, Repr

section Verdict

variable {α : Type} [PartialOrder α] {related : α → α → Prop} {a b c : α}

/-- An equivalence that holds of all ordered pairs. -/
structure Comparability (related : α → α → Prop) : Prop where
  equivalence : Equivalence related
  of_le : ∀ {a b}, a ≤ b → related a b

open Classical in
/-- The later value is `b`. -/
noncomputable def verdict (related : α → α → Prop) (a b : α) : Verdict :=
  if ¬ related a b then .incomparable
  else if a = b then .equal
  else if a ≤ b then .advanced
  else .conflict

namespace Comparability

theorem verdict_eq_incomparable_iff : verdict related a b = .incomparable ↔ ¬ related a b := by
  unfold verdict
  split
  · rename_i h
    simp [h]
  · rename_i h
    split
    · simp [not_not.mp h]
    split
    · simp [not_not.mp h]
    · simp [not_not.mp h]

theorem verdict_eq_equal_iff (h : Comparability related) :
    verdict related a b = .equal ↔ a = b := by
  constructor
  · intro hverdict
    unfold verdict at hverdict
    split at hverdict
    · cases hverdict
    split at hverdict
    · assumption
    split at hverdict
    · cases hverdict
    · cases hverdict
  · rintro rfl
    unfold verdict
    rw [if_neg (not_not.mpr (h.equivalence.refl a)), if_pos rfl]

theorem verdict_eq_advanced_iff (h : Comparability related) :
    verdict related a b = .advanced ↔ a < b := by
  constructor
  · intro hverdict
    unfold verdict at hverdict
    split at hverdict
    · cases hverdict
    split at hverdict
    · cases hverdict
    rename_i hne
    split at hverdict
    · rename_i hle
      exact lt_of_le_of_ne hle hne
    · cases hverdict
  · intro hlt
    unfold verdict
    rw [if_neg (not_not.mpr (h.of_le hlt.le)), if_neg hlt.ne, if_pos hlt.le]

theorem verdict_eq_conflict_iff :
    verdict related a b = .conflict ↔ related a b ∧ ¬ a ≤ b := by
  constructor
  · intro hverdict
    unfold verdict at hverdict
    split at hverdict
    · cases hverdict
    rename_i hrelated
    split at hverdict
    · cases hverdict
    split at hverdict
    · cases hverdict
    rename_i hle
    exact ⟨not_not.mp hrelated, hle⟩
  · intro ⟨hrelated, hle⟩
    have hne : a ≠ b := fun heq => hle heq.le
    unfold verdict
    rw [if_neg (not_not.mpr hrelated), if_neg hne, if_neg hle]

/-! ### The laws -/

theorem verdict_self (h : Comparability related) : verdict related a a = .equal :=
  h.verdict_eq_equal_iff.mpr rfl

theorem verdict_equal_symm (h : Comparability related) :
    verdict related a b = .equal ↔ verdict related b a = .equal := by
  rw [h.verdict_eq_equal_iff, h.verdict_eq_equal_iff]
  exact eq_comm

theorem verdict_incomparable_symm (h : Comparability related) :
    verdict related a b = .incomparable ↔ verdict related b a = .incomparable := by
  rw [verdict_eq_incomparable_iff, verdict_eq_incomparable_iff]
  exact not_congr ⟨h.equivalence.symm, h.equivalence.symm⟩

/-- What has advanced cannot have been behind. -/
theorem verdict_conflict_of_advanced (h : Comparability related)
    (hadvanced : verdict related a b = .advanced) : verdict related b a = .conflict := by
  have hlt := h.verdict_eq_advanced_iff.mp hadvanced
  exact verdict_eq_conflict_iff.mpr
    ⟨h.equivalence.symm (h.of_le hlt.le), not_le_of_gt hlt⟩

/-- The later value is at least as far. -/
theorem le_iff_verdict (h : Comparability related) :
    a ≤ b ↔ verdict related a b = .equal ∨ verdict related a b = .advanced := by
  rw [h.verdict_eq_equal_iff, h.verdict_eq_advanced_iff]
  exact le_iff_eq_or_lt

/-- Two steps forward are one step forward, and an advance when one of them is. -/
theorem verdict_trans (h : Comparability related)
    (hab : verdict related a b = .equal ∨ verdict related a b = .advanced)
    (hbc : verdict related b c = .equal ∨ verdict related b c = .advanced) :
    verdict related a c =
      if verdict related a b = .advanced ∨ verdict related b c = .advanced then .advanced
      else .equal := by
  have hle := h.le_iff_verdict.mpr hab
  have hle' := h.le_iff_verdict.mpr hbc
  split
  · rename_i hadvanced
    rw [h.verdict_eq_advanced_iff]
    rcases hadvanced with hadvanced | hadvanced
    · exact lt_of_lt_of_le (h.verdict_eq_advanced_iff.mp hadvanced) hle'
    · exact lt_of_le_of_lt hle (h.verdict_eq_advanced_iff.mp hadvanced)
  · rename_i hno
    rw [h.verdict_eq_advanced_iff, h.verdict_eq_advanced_iff] at hno
    obtain ⟨hnot, hnot'⟩ := not_or.mp hno
    rw [h.verdict_eq_equal_iff, eq_of_le_of_not_lt hle hnot, eq_of_le_of_not_lt hle' hnot']

end Comparability

end Verdict

/-! ## Vectors in a scope -/

/-- Numbers under keys, of a scope. -/
@[ext] structure ScopedVector (σ κ ν : Type) where
  scope : σ
  entry : κ → Option ν

namespace ScopedVector

variable {σ κ ν : Type}

/-- The same scope and the same keys. -/
def Related (a b : ScopedVector σ κ ν) : Prop :=
  a.scope = b.scope ∧ ∀ k, (a.entry k).isSome = (b.entry k).isSome

theorem related_equivalence :
    Equivalence (Related : ScopedVector σ κ ν → ScopedVector σ κ ν → Prop) where
  refl _ := ⟨rfl, fun _ => rfl⟩
  symm h := ⟨h.1.symm, fun k => (h.2 k).symm⟩
  trans h h' := ⟨h.1.trans h'.1, fun k => (h.2 k).trans (h'.2 k)⟩

/-- A related vector has a number where the other one has. -/
theorem Related.exists_entry {a b : ScopedVector σ κ ν} (h : a.Related b) {k : κ} {x : ν}
    (hx : a.entry k = some x) : ∃ y, b.entry k = some y := by
  have hsome := h.2 k
  rw [hx] at hsome
  exact Option.isSome_iff_exists.mp hsome.symm

variable [PartialOrder ν]

/-- Related, and every number at least as large. -/
instance : LE (ScopedVector σ κ ν) where
  le a b := a.Related b ∧ ∀ k x y, a.entry k = some x → b.entry k = some y → x ≤ y

theorem le_def {a b : ScopedVector σ κ ν} :
    a ≤ b ↔ a.Related b ∧ ∀ k x y, a.entry k = some x → b.entry k = some y → x ≤ y := Iff.rfl

instance : PartialOrder (ScopedVector σ κ ν) where
  le_refl a := by
    refine ⟨related_equivalence.refl a, ?_⟩
    intro k x y hx hy
    rw [hx] at hy
    cases hy
    exact le_rfl
  le_trans a b c hab hbc := by
    refine ⟨related_equivalence.trans hab.1 hbc.1, ?_⟩
    intro k x z hx hz
    obtain ⟨y, hy⟩ := hab.1.exists_entry hx
    exact (hab.2 k x y hx hy).trans (hbc.2 k y z hy hz)
  le_antisymm a b hab hba := by
    apply ScopedVector.ext hab.1.1
    funext k
    cases hx : a.entry k with
    | none =>
        have hsome := hab.1.2 k
        rw [hx] at hsome
        exact (Option.isSome_eq_false_iff.mp hsome.symm |> Option.isNone_iff_eq_none.mp).symm
    | some x =>
        obtain ⟨y, hy⟩ := hab.1.exists_entry hx
        rw [hy, le_antisymm (hab.2 k x y hx hy) (hba.2 k y x hy hx)]

/-- Vectors are compared within their scope and keys. -/
theorem comparability :
    Comparability (Related : ScopedVector σ κ ν → ScopedVector σ κ ν → Prop) where
  equivalence := related_equivalence
  of_le h := h.1

end ScopedVector

end Dominance
