import Mathlib.Algebra.Order.Ring.Int

/-!
# Capped exponential backoff

The delay before a try: a base doubled once for each try before it, up to a number of
doublings, and never more than a cap.
-/

namespace Backoff

/-- The delay after `k` tries. -/
def delay (base cap : Int) (limit k : Nat) : Int := min (base * 2 ^ min k limit) cap

variable {base cap : Int} {limit : Nat}

theorem delay_le_cap (k : Nat) : delay base cap limit k ≤ cap := Int.min_le_right _ _

/-- The delays never shrink. -/
theorem delay_mono (hbase : 0 ≤ base) {k m : Nat} (hkm : k ≤ m) :
    delay base cap limit k ≤ delay base cap limit m := by
  have hpow : (2 : Int) ^ min k limit ≤ 2 ^ min m limit :=
    pow_le_pow_right₀ (by decide) (min_le_min_right limit hkm)
  exact min_le_min_right cap (Int.mul_le_mul_of_nonneg_left hpow hbase)

theorem base_le_delay (hbase : 0 ≤ base) (hcap : base ≤ cap) (k : Nat) :
    base ≤ delay base cap limit k := by
  have hzero : delay base cap limit 0 = base := by
    unfold delay
    simp [hcap]
  calc base = delay base cap limit 0 := hzero.symm
    _ ≤ delay base cap limit k := delay_mono hbase k.zero_le

/-- The delay has grown exactly when there was a doubling and room for it. -/
theorem base_lt_delay_iff (hbase : 0 ≤ base) {k : Nat} :
    base < delay base cap limit k ↔ 0 < base ∧ 0 < min k limit ∧ base < cap := by
  unfold delay
  rw [lt_min_iff]
  refine ⟨fun ⟨hgrown, hcap⟩ => ?_, fun ⟨hpos, hdouble, hcap⟩ => ⟨?_, hcap⟩⟩
  · refine ⟨?_, Nat.pos_of_ne_zero fun hzero => ?_, hcap⟩
    · rcases hbase.lt_or_eq with h | h
      · exact h
      · simp [← h] at hgrown
    · rw [hzero] at hgrown
      simp at hgrown
  · have hpow : (2 : Int) ≤ 2 ^ min k limit := by
      simpa using pow_le_pow_right₀ (a := (2 : Int)) (by decide) hdouble
    calc base < base * 2 := by omega
      _ ≤ base * 2 ^ min k limit := Int.mul_le_mul_of_nonneg_left hpow hbase

/-- A product above the cap gives the cap. -/
theorem delay_eq_cap {k : Nat} (h : cap ≤ base * 2 ^ min k limit) :
    delay base cap limit k = cap := Int.min_eq_right h

end Backoff
