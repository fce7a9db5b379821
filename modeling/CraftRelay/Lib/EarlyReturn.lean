import Mathlib.Data.List.Forall2

/-!
# Early returns

A procedure with early returns is a value of `Except`: `error r` has returned
`r`, `ok a` goes on with `a`. These are the inversions that take a chain of such
steps apart, one step at a time, and the rule that puts one together.
-/

namespace Except

variable {ε α β : Type}

/-- The chain went to its end: every step did. -/
theorem bind_eq_ok_iff {x : Except ε α} {f : α → Except ε β} {b : β} :
    (x >>= f) = .ok b ↔ ∃ a, x = .ok a ∧ f a = .ok b := by
  cases x with
  | error e => simp [bind, Except.bind]
  | ok a => simp [bind, Except.bind]

/-- A check in the chain passed, and the rest went to its end. -/
theorem check_eq_ok_iff {x : Except ε Unit} {f : Unit → Except ε β} {b : β} :
    (x >>= f) = .ok b ↔ x = .ok () ∧ f () = .ok b := by
  rw [bind_eq_ok_iff]
  constructor
  · rintro ⟨⟨⟩, h⟩
    exact h
  · exact fun h => ⟨(), h⟩

/-- A check that returns the value it was given. -/
theorem returns_bind_iff {x : Except ε α} {f : α → Except ε β} {b : β} {v : α} {P : Prop}
    (hx : ∀ a, x = .ok a ↔ P ∧ a = v) : (x >>= f) = .ok b ↔ P ∧ f v = .ok b := by
  rw [bind_eq_ok_iff]
  constructor
  · rintro ⟨a, ha, h⟩
    obtain ⟨hP, rfl⟩ := (hx a).mp ha
    exact ⟨hP, h⟩
  · rintro ⟨hP, h⟩
    exact ⟨v, (hx v).mpr ⟨hP, rfl⟩, h⟩

/-- The chain returned early: its first step did, or the rest did. -/
theorem bind_eq_error_iff {x : Except ε α} {f : α → Except ε β} {e : ε} :
    (x >>= f) = .error e ↔ x = .error e ∨ ∃ a, x = .ok a ∧ f a = .error e := by
  cases x with
  | error e' => simp [bind, Except.bind]
  | ok a => simp [bind, Except.bind]

/-- Another message for early returns does not change what goes on. -/
theorem mapError_eq_ok_iff {ε' : Type} {x : Except ε α} {f : ε → ε'} {a : α} :
    x.mapError f = .ok a ↔ x = .ok a := by
  cases x with
  | error e =>
      show Except.error (f e) = Except.ok a ↔ _
      simp
  | ok b =>
      show Except.ok b = Except.ok a ↔ _
      simp

theorem mapError_eq_error {ε' : Type} {x : Except ε α} {f : ε → ε'} {e : ε'}
    (h : x.mapError f = .error e) : ∃ e', e = f e' := by
  cases x with
  | error e' =>
      have h : Except.error (f e') = (Except.error e : Except ε' α) := h
      cases h
      exact ⟨e', rfl⟩
  | ok a =>
      have h : Except.ok a = (Except.error e : Except ε' α) := h
      cases h

/-- A step that went on, followed by steps that go to the end. -/
theorem exists_ok_bind {x : Except ε α} {f : α → Except ε β} {a : α} (hx : x = .ok a)
    (hf : ∃ b, f a = .ok b) : ∃ b, (x >>= f) = .ok b := by
  subst hx
  exact hf

/-! ## A step for every element -/

theorem mapM_eq_ok_iff {f : α → Except ε β} {xs : List α} {ys : List β} :
    xs.mapM f = .ok ys ↔ List.Forall₂ (fun a b => f a = .ok b) xs ys := by
  induction xs generalizing ys with
  | nil =>
      rw [List.mapM_nil, List.forall₂_nil_left_iff]
      show Except.ok [] = Except.ok ys ↔ _
      rw [Except.ok.injEq, eq_comm]
  | cons a xs ih =>
      rw [List.mapM_cons, bind_eq_ok_iff, List.forall₂_cons_left_iff]
      constructor
      · intro ⟨b, hb, hrest⟩
        obtain ⟨bs, hbs, h⟩ := bind_eq_ok_iff.mp hrest
        cases h
        exact ⟨b, bs, hb, ih.mp hbs, rfl⟩
      · intro ⟨b, bs, hb, hbs, h⟩
        refine ⟨b, hb, bind_eq_ok_iff.mpr ⟨bs, ih.mpr hbs, ?_⟩⟩
        rw [h]
        rfl

/-- All steps go on when each of them does. -/
theorem exists_mapM_iff {f : α → Except ε β} {xs : List α} :
    (∃ ys, xs.mapM f = .ok ys) ↔ ∀ a ∈ xs, ∃ b, f a = .ok b := by
  simp only [mapM_eq_ok_iff]
  induction xs with
  | nil => simp
  | cons a xs ih =>
      rw [List.forall_mem_cons, ← ih]
      constructor
      · intro ⟨ys, h⟩
        obtain ⟨b, bs, hb, hbs, -⟩ := List.forall₂_cons_left_iff.mp h
        exact ⟨⟨b, hb⟩, bs, hbs⟩
      · intro ⟨⟨b, hb⟩, bs, hbs⟩
        exact ⟨b :: bs, .cons hb hbs⟩

/-! ## Guards -/

/-- Return early with `e` when `c` holds. -/
def refuseIf (c : Prop) [Decidable c] (e : ε) : Except ε Unit := if c then .error e else .ok ()

theorem refuseIf_eq_ok_iff {c : Prop} [Decidable c] {e : ε} {u : Unit} :
    refuseIf c e = .ok u ↔ ¬ c := by
  unfold refuseIf
  by_cases hc : c
  · simp [hc]
  · simp [hc]

theorem refuseIf_eq_error_iff {c : Prop} [Decidable c] {e e' : ε} :
    refuseIf c e = .error e' ↔ c ∧ e = e' := by
  unfold refuseIf
  by_cases hc : c
  · simp [hc]
  · simp [hc]

theorem refuseIf_bind_iff {c : Prop} [Decidable c] {e : ε} {f : Unit → Except ε β} {b : β} :
    (refuseIf c e >>= f) = .ok b ↔ ¬ c ∧ f () = .ok b := by
  rw [check_eq_ok_iff, refuseIf_eq_ok_iff]

theorem mapError_refuseIf {ε' : Type} {c : Prop} [Decidable c] {e : ε} {f : ε → ε'} :
    (refuseIf c e).mapError f = refuseIf c (f e) := by
  unfold refuseIf
  by_cases hc : c
  · rw [if_pos hc, if_pos hc]
    rfl
  · rw [if_neg hc, if_neg hc]
    rfl

theorem mapError_bind {ε' : Type} {x : Except ε α} {f : α → Except ε β} {g : ε → ε'} :
    (x >>= f).mapError g = x.mapError g >>= fun a => (f a).mapError g := by
  cases x with
  | error e => rfl
  | ok a => rfl

end Except
