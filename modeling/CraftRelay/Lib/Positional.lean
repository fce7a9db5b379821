import Mathlib.Algebra.Order.Ring.Nat

/-!
# Numbers in a fixed number of places

The digits of a number in a base, the first one the highest, in a given number of places.
Every list of digits is that of its value, and the digits of a number are those of its
remainder: a printer of fixed width prints every text of its form and nothing else.
-/

namespace Positional

variable {b w n k d : Nat} {ds : List Nat}

/-- `w` places of `n`. -/
def digits (b : Nat) : Nat → Nat → List Nat
  | 0, _ => []
  | w + 1, n => n / b ^ w % b :: digits b w n

def value (b : Nat) : List Nat → Nat
  | [] => 0
  | d :: ds => d * b ^ ds.length + value b ds

@[simp] theorem length_digits : (digits b w n).length = w := by
  induction w with
  | zero => rfl
  | succ w ih => simp [digits, ih]

theorem digits_eq_map :
    digits b w n = (List.range w).reverse.map fun i => n / b ^ i % b := by
  induction w with
  | zero => rfl
  | succ w ih => simp [digits, ih, List.range_succ]

theorem lt_of_mem_digits (hb : 0 < b) (h : d ∈ digits b w n) : d < b := by
  rw [digits_eq_map, List.mem_map] at h
  obtain ⟨i, -, rfl⟩ := h
  exact Nat.mod_lt _ hb

theorem value_lt (h : ∀ d ∈ ds, d < b) : value b ds < b ^ ds.length := by
  induction ds with
  | nil => simp [value]
  | cons d ds ih =>
      have hrest := ih fun x hx => h x (List.mem_cons_of_mem d hx)
      have hd := h d List.mem_cons_self
      calc value b (d :: ds) < d * b ^ ds.length + b ^ ds.length := Nat.add_lt_add_left hrest _
        _ = (d + 1) * b ^ ds.length := (Nat.succ_mul d _).symm
        _ ≤ b * b ^ ds.length := Nat.mul_le_mul_right _ hd
        _ = b ^ (d :: ds).length := (Nat.pow_succ').symm

/-- What is above the places does not show. -/
theorem digits_add_mul (hb : 0 < b) : digits b w (n + b ^ w * k) = digits b w n := by
  induction w generalizing k with
  | zero => rfl
  | succ w ih =>
      have hpow : b ^ (w + 1) * k = b ^ w * (b * k) := by rw [Nat.pow_succ, Nat.mul_assoc]
      have htop : (n + b ^ w * (b * k)) / b ^ w % b = n / b ^ w % b := by
        rw [Nat.add_mul_div_left _ _ (Nat.pow_pos hb), Nat.add_mul_mod_self_left]
      unfold digits
      rw [hpow, htop, ih]

/-- The places of a number are its high ones and its low ones. -/
theorem digits_append (v : Nat) :
    digits b (w + v) n = digits b w (n / b ^ v) ++ digits b v n := by
  induction w with
  | zero => simp [digits]
  | succ w ih =>
      have htop : n / b ^ (w + v) = n / b ^ v / b ^ w := by
        rw [Nat.div_div_eq_div_mul, ← Nat.pow_add, Nat.add_comm]
      rw [Nat.succ_add]
      show n / b ^ (w + v) % b :: digits b (w + v) n =
        n / b ^ v / b ^ w % b :: (digits b w (n / b ^ v) ++ digits b v n)
      rw [ih, htop]

/-- A list of digits is read back from its value. -/
theorem digits_value (h : ∀ d ∈ ds, d < b) : digits b ds.length (value b ds) = ds := by
  induction ds with
  | nil => rfl
  | cons d ds ih =>
      have hd := h d List.mem_cons_self
      have hb : 0 < b := Nat.zero_lt_of_lt hd
      have hrest : ∀ x ∈ ds, x < b := fun x hx => h x (List.mem_cons_of_mem d hx)
      have htop : (d * b ^ ds.length + value b ds) / b ^ ds.length % b = d := by
        rw [Nat.mul_comm, Nat.mul_add_div (Nat.pow_pos hb), Nat.div_eq_of_lt (value_lt hrest),
          Nat.add_zero, Nat.mod_eq_of_lt hd]
      have hlow : digits b ds.length (d * b ^ ds.length + value b ds) = ds := by
        rw [Nat.add_comm, Nat.mul_comm, digits_add_mul hb, ih hrest]
      show (d * b ^ ds.length + value b ds) / b ^ ds.length % b ::
        digits b ds.length (d * b ^ ds.length + value b ds) = d :: ds
      rw [htop, hlow]

/-- The value of the places is the remainder. -/
theorem value_digits : value b (digits b w n) = n % b ^ w := by
  induction w with
  | zero => simp [digits, value, Nat.mod_one]
  | succ w ih =>
      unfold digits value
      rw [length_digits, ih, Nat.mod_pow_succ, Nat.mul_comm, Nat.add_comm]

/-- Numbers that fit are told apart by their places. -/
theorem digits_inj (hn : n < b ^ w) (hk : k < b ^ w) (h : digits b w n = digits b w k) :
    n = k := by
  have hvalue : n % b ^ w = k % b ^ w := by rw [← value_digits, h, value_digits]
  rw [Nat.mod_eq_of_lt hn, Nat.mod_eq_of_lt hk] at hvalue
  exact hvalue

/-- The value as it is read, digit by digit. -/
theorem value_concat : value b (ds ++ [d]) = value b ds * b + d := by
  induction ds with
  | nil => simp [value]
  | cons x ds ih =>
      show x * b ^ (ds ++ [d]).length + value b (ds ++ [d]) =
        (x * b ^ ds.length + value b ds) * b + d
      rw [ih, List.length_append, List.length_singleton, Nat.pow_succ, Nat.add_mul,
        Nat.mul_assoc, Nat.add_assoc]

end Positional
