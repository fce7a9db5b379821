import CraftRelay.Lib.Lts

/-!
# Unwinding

Two runs that an observer cannot tell apart. A relation `R` on states says that the
observer sees the same in both: a step the observer makes answers alike in related
states and relates what it leads to, and a step that is none of the observer's keeps
the relation. Then the observer's steps alone are a run, with every answer as it was
(`Run.purge`).

A computation with early returns is compared by `Except.Matched`: it stops with the
same early return, or goes on with related values.
-/

namespace Lts

variable {σ α : Type} {T : Lts σ α}

/-- The labels of `seen` are a run of their own from every related state. -/
theorem Run.purge {R : σ → σ → Prop} {seen : α → Bool}
    (hseen : ∀ s a s' t, R s t → seen a = true → T.step s a s' → ∃ t', T.step t a t' ∧ R s' t')
    (hother : ∀ s a s' t, R s t → seen a = false → T.step s a s' → R s' t)
    {s s' t : σ} {tr : List α} (h : T.Run s tr s') (hR : R s t) :
    ∃ t', T.Run t (tr.filter seen) t' ∧ R s' t' := by
  induction h with
  | nil => exact ⟨t, .nil, hR⟩
  | snoc hrun hst ih =>
      rename_i tr s₁ a s₂
      obtain ⟨t₁, hrun₁, hR₁⟩ := ih
      rw [List.filter_append]
      cases hsee : seen a with
      | false =>
          have hnone : [a].filter seen = [] := by simp [hsee]
          rw [hnone, List.append_nil]
          exact ⟨t₁, hrun₁, hother _ _ _ _ hR₁ hsee hst⟩
      | true =>
          have hone : [a].filter seen = [a] := by simp [hsee]
          rw [hone]
          obtain ⟨t₂, hst₂, hR₂⟩ := hseen _ _ _ _ hR₁ hsee hst
          exact ⟨t₂, hrun₁.snoc hst₂, hR₂⟩

/-- Where what is put in determines a step, it determines a run. -/
theorem Run.eq_of_inputs {ι : Type} {input : α → ι}
    (hdet : ∀ s a s₁ b s₂, T.step s a s₁ → T.step s b s₂ → input a = input b → a = b ∧ s₁ = s₂)
    {s t u : σ} {tr tr' : List α} (h : T.Run s tr t) (h' : T.Run s tr' u)
    (hinput : tr.map input = tr'.map input) : tr = tr' ∧ t = u := by
  induction h generalizing tr' u with
  | nil =>
      have hnil : tr' = [] := by simpa using hinput.symm
      subst hnil
      exact ⟨rfl, h'.eq_of_nil.symm⟩
  | snoc hrun hst ih =>
      rename_i tr s₁ a s₂
      rw [List.map_append, List.map_singleton] at hinput
      obtain ⟨tr₁, last, rfl, hpre, hlast⟩ := List.map_eq_append_iff.mp hinput.symm
      obtain ⟨b, rfl, hb⟩ := List.map_eq_singleton_iff.mp hlast
      obtain ⟨u₁, hrun', hst'⟩ := h'.last
      obtain ⟨rfl, rfl⟩ := ih hrun' hpre.symm
      obtain ⟨rfl, rfl⟩ := hdet _ _ _ _ _ hst hst' hb.symm
      exact ⟨rfl, rfl⟩

end Lts

namespace Except

variable {ε ε' α β α' β' : Type}

/-- Both computations return early with the same value, or go on with related ones. -/
inductive Matched (R : α → β → Prop) : Except ε α → Except ε β → Prop
  | error (e : ε) : Matched R (.error e) (.error e)
  | ok {a : α} {b : β} : R a b → Matched R (.ok a) (.ok b)

namespace Matched

variable {R : α → β → Prop} {R' : α' → β' → Prop}

/-- One computation matches itself. -/
theorem refl (x : Except ε α) : Matched Eq x x := by
  cases x with
  | error e => exact .error e
  | ok a => exact .ok rfl

/-- Matching steps, each followed by matching steps. -/
theorem bind {x : Except ε α} {y : Except ε β} {f : α → Except ε α'} {g : β → Except ε β'}
    (h : Matched R x y) (hnext : ∀ a b, R a b → Matched R' (f a) (g b)) :
    Matched R' (x >>= f) (y >>= g) := by
  cases h with
  | error e => exact .error e
  | ok hab => exact hnext _ _ hab

/-- The same step in both. -/
theorem bind_same (x : Except ε α) {f : α → Except ε α'} {g : α → Except ε β'}
    (hnext : ∀ a, Matched R' (f a) (g a)) : Matched R' (x >>= f) (x >>= g) :=
  (refl x).bind fun a _ hab => hab ▸ hnext a

/-- The same message put on the early returns of both. -/
theorem mapError {x : Except ε α} {y : Except ε β} (h : Matched R x y) (f : ε → ε') :
    Matched R (x.mapError f) (y.mapError f) := by
  cases h with
  | error e => exact .error (f e)
  | ok hab => exact .ok hab

end Matched

end Except
