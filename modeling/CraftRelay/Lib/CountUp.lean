import Mathlib.Data.List.Basic
import Mathlib.Algebra.Order.Ring.Int

/-!
# The sequence 1, 2, …, n

A counter that is allocated as "the largest used so far, plus one" and is never
given back in the middle produces exactly this list. The lemmas are what such an
allocator needs: the next element, the largest element, and how a position and
its number determine each other. Where some of the numbers go unseen, what is
left still increases.
-/

/-- `[1, 2, …, n]`. -/
def countUp (n : Nat) : List Int := (List.range n).map fun i : Nat => (i : Int) + 1

@[simp] theorem length_countUp (n : Nat) : (countUp n).length = n := by
  simp [countUp]

theorem countUp_succ (n : Nat) : countUp (n + 1) = countUp n ++ [(n : Int) + 1] := by
  simp [countUp, List.range_succ]

theorem mem_countUp {n : Nat} {i : Int} : i ∈ countUp n ↔ 1 ≤ i ∧ i ≤ n := by
  unfold countUp
  rw [List.mem_map]
  constructor
  · rintro ⟨k, hk, rfl⟩
    have := List.mem_range.mp hk
    omega
  · rintro ⟨h1, h2⟩
    exact ⟨(i - 1).toNat, List.mem_range.mpr (by omega), by omega⟩

/-- The numbers increase along the list. -/
theorem countUp_sorted (n : Nat) : (countUp n).Pairwise (· < ·) := by
  induction n with
  | zero => exact List.Pairwise.nil
  | succ n ih =>
      rw [countUp_succ, List.pairwise_append]
      refine ⟨ih, List.pairwise_singleton _ _, ?_⟩
      intro a ha b hb
      have := (mem_countUp.mp ha).2
      rw [List.mem_singleton] at hb
      omega

theorem take_countUp (m n : Nat) : (countUp n).take m = countUp (min m n) := by
  unfold countUp
  rw [← List.map_take, List.take_range]

/-- `COALESCE(MAX(…), 0)` over the numbers used so far. -/
theorem max_countUp (n : Nat) : ((countUp n).max?).getD 0 = n := by
  cases n with
  | zero => rfl
  | succ n =>
      have hmax : (countUp (n + 1)).max? = some ((n : Int) + 1) := by
        rw [List.max?_eq_some_iff]
        refine ⟨mem_countUp.mpr (by omega), ?_⟩
        intro b hb
        have := (mem_countUp.mp hb).2
        omega
      rw [hmax]
      simp

/-- `[base + 1, …, base + n]`: the numbers an allocator gives after `base`. -/
def countFrom (base : Int) (n : Nat) : List Int := (List.range n).map fun i : Nat => base + i + 1

@[simp] theorem length_countFrom (base : Int) (n : Nat) : (countFrom base n).length = n := by
  simp [countFrom]

theorem countFrom_zero_left (n : Nat) : countFrom 0 n = countUp n := by
  simp [countFrom, countUp]

theorem countFrom_succ (base : Int) (n : Nat) :
    countFrom base (n + 1) = countFrom base n ++ [base + n + 1] := by
  simp [countFrom, List.range_succ]

/-- An allocator goes on where it stopped. -/
theorem countFrom_append (base : Int) (m n : Nat) :
    countFrom base m ++ countFrom (base + m) n = countFrom base (m + n) := by
  induction n with
  | zero => simp [countFrom]
  | succ n ih =>
      rw [countFrom_succ, ← List.append_assoc, ih, ← Nat.add_assoc, countFrom_succ]
      push_cast
      rw [← Int.add_assoc]

theorem countFrom_cons (base : Int) (n : Nat) :
    countFrom base (n + 1) = (base + 1) :: countFrom (base + 1) n := by
  have hone : countFrom base 1 = [base + 1] := by simp [countFrom]
  have happend := countFrom_append base 1 n
  rw [hone, Nat.add_comm] at happend
  exact happend.symm

theorem le_of_mem_countFrom {base i : Int} {n : Nat} (h : i ∈ countFrom base n) :
    base < i ∧ i ≤ base + n := by
  unfold countFrom at h
  obtain ⟨k, hk, rfl⟩ := List.mem_map.mp h
  have := List.mem_range.mp hk
  omega

/-- Increasing numbers up to `n`. -/
def IncreasesTo (l : List Int) (n : Int) : Prop := l.Pairwise (· < ·) ∧ ∀ a ∈ l, a ≤ n

theorem IncreasesTo.nil (n : Int) : IncreasesTo [] n :=
  ⟨List.Pairwise.nil, fun a ha => by cases ha⟩

/-- The next number is used, and it may or may not be seen. -/
theorem IncreasesTo.next {l : List Int} {n : Int} (h : IncreasesTo l n) {x : Option Int}
    (hx : ∀ a, x = some a → a = n + 1) : IncreasesTo (l ++ x.toList) (n + 1) := by
  obtain ⟨hsorted, hbound⟩ := h
  cases x with
  | none =>
      rw [Option.toList_none, List.append_nil]
      refine ⟨hsorted, fun a ha => ?_⟩
      have := hbound a ha
      omega
  | some b =>
      have hb := hx b rfl
      rw [Option.toList_some]
      refine ⟨List.pairwise_append.mpr ⟨hsorted, List.pairwise_singleton _ _, ?_⟩, ?_⟩
      · intro a ha c hc
        have := hbound a ha
        rw [List.mem_singleton] at hc
        omega
      · intro a ha
        rcases List.mem_append.mp ha with ha | ha
        · have := hbound a ha
          omega
        · rw [List.mem_singleton] at ha
          omega
