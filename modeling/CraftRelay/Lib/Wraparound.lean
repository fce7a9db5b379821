/-!
# Machine integers where they are exact

Two's-complement arithmetic agrees with that of the integers while the result is in range,
and a sum of non-negative numbers that is out of range is negative.
-/

namespace Wraparound

theorem toInt_sub_of_range {a b : Int32} (h : -2147483648 ≤ a.toInt - b.toInt)
    (h' : a.toInt - b.toInt ≤ 2147483647) : (a - b).toInt = a.toInt - b.toInt := by
  rw [Int32.toInt_sub]
  apply Int.bmod_eq_of_le
  · show -(4294967296 / 2 : Int) ≤ _
    omega
  · show _ < ((4294967296 + 1) / 2 : Int)
    omega

theorem toInt_add_of_range {a b : Int32} (h : -2147483648 ≤ a.toInt + b.toInt)
    (h' : a.toInt + b.toInt ≤ 2147483647) : (a + b).toInt = a.toInt + b.toInt := by
  rw [Int32.toInt_add]
  apply Int.bmod_eq_of_le
  · show -(4294967296 / 2 : Int) ≤ _
    omega
  · show _ < ((4294967296 + 1) / 2 : Int)
    omega

/-- A difference of non-negative numbers is in range. -/
theorem toInt_sub_of_nonneg {a b : Int32} (ha : 0 ≤ a.toInt) (hb : 0 ≤ b.toInt) :
    (a - b).toInt = a.toInt - b.toInt := by
  have ha' := a.toInt_lt
  have hb' := b.toInt_lt
  exact toInt_sub_of_range (by omega) (by omega)

theorem toInt_min (a b : Int32) : (min a b).toInt = min a.toInt b.toInt := by
  show (if a ≤ b then a else b).toInt = _
  split
  · rename_i h
    exact (Int.min_eq_left (Int32.le_iff_toInt_le.mp h)).symm
  · rename_i h
    exact (Int.min_eq_right (Int.le_of_not_le (mt Int32.le_iff_toInt_le.mpr h))).symm

theorem toInt_min_long (a b : Int64) : (min a b).toInt = min a.toInt b.toInt := by
  show (if a ≤ b then a else b).toInt = _
  split
  · rename_i h
    exact (Int.min_eq_left (Int64.le_iff_toInt_le.mp h)).symm
  · rename_i h
    exact (Int.min_eq_right (Int.le_of_not_le (mt Int64.le_iff_toInt_le.mpr h))).symm

theorem toInt_max_zero (a : Int32) : (max a 0).toInt = max 0 a.toInt := by
  show (if a ≤ 0 then (0 : Int32) else a).toInt = _
  split
  · rename_i h
    rw [Int32.le_iff_toInt_le, Int32.toInt_zero] at h
    rw [Int32.toInt_zero]
    omega
  · rename_i h
    rw [Int32.le_iff_toInt_le, Int32.toInt_zero] at h
    omega

/-- A sum of sizes wraps to a negative number when it does not fit. -/
theorem toInt_add_of_nonneg {a b : Int64} (ha : 0 ≤ a.toInt) (hb : 0 ≤ b.toInt) :
    (a + b).toInt = a.toInt + b.toInt ∧ a.toInt + b.toInt ≤ 9223372036854775807 ∨
      (a + b).toInt < 0 ∧ 9223372036854775807 < a.toInt + b.toInt := by
  have ha' := a.toInt_lt
  have hb' := b.toInt_lt
  rw [Int64.toInt_add, Int.bmod_def]
  by_cases h : a.toInt + b.toInt ≤ 9223372036854775807
  · left
    have hmod : (a.toInt + b.toInt) % ((2 ^ 64 : Nat) : Int) = a.toInt + b.toInt :=
      Int.emod_eq_of_lt (by omega) (by simp; omega)
    rw [hmod, if_pos (by simp; omega)]
    exact ⟨rfl, h⟩
  · right
    have hmod : (a.toInt + b.toInt) % ((2 ^ 64 : Nat) : Int) = a.toInt + b.toInt :=
      Int.emod_eq_of_lt (by omega) (by simp; omega)
    rw [hmod, if_neg (by simp; omega)]
    exact ⟨by simp; omega, by omega⟩

end Wraparound
