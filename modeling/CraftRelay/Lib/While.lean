import Mathlib.Logic.Basic

/-!
# While loops

A loop is a condition and a body. `run?` executes it with a bound on the number of
iterations, and a loop returns a state when some bound is enough. The rules are those of a
loop invariant: it holds at the end of a loop that returns, a decreasing measure makes the
loop return, and an invariant that keeps the condition true makes it run forever.
-/

/-- `while cond { body }` on a state. -/
structure While (σ : Type) where
  cond : σ → Bool
  body : σ → σ

namespace While

variable {σ : Type} (loop : While σ)

/-- Run the loop for at most `fuel` iterations. -/
def run? : Nat → σ → Option σ
  | 0, s => if loop.cond s then none else some s
  | fuel + 1, s => if loop.cond s then run? fuel (loop.body s) else some s

def Returns (s t : σ) : Prop := ∃ fuel, loop.run? fuel s = some t

/-- The states the loop is in between its iterations. -/
inductive Reaches (s : σ) : σ → Prop
  | start : Reaches s s
  | next {t : σ} : Reaches s t → loop.cond t = true → Reaches s (loop.body t)

variable {loop} {s t u : σ}

theorem returns_of_cond_false (h : loop.cond s = false) : loop.Returns s s :=
  ⟨0, by simp [run?, h]⟩

theorem returns_of_body (h : loop.cond s = true) (hbody : loop.Returns (loop.body s) t) :
    loop.Returns s t := by
  obtain ⟨fuel, hfuel⟩ := hbody
  exact ⟨fuel + 1, by simp [run?, h, hfuel]⟩

/-! ## Invariants -/

theorem Reaches.invariant {I : σ → Prop} (h : loop.Reaches s t) (hinit : I s)
    (hstep : ∀ s, I s → loop.cond s = true → I (loop.body s)) : I t := by
  induction h with
  | start => exact hinit
  | next _ hcond ih => exact hstep _ ih hcond

/-- What the body keeps holds when the loop returns, and the condition does not. -/
theorem Returns.invariant {I : σ → Prop} (h : loop.Returns s t) (hinit : I s)
    (hstep : ∀ s, I s → loop.cond s = true → I (loop.body s)) :
    I t ∧ loop.cond t = false := by
  obtain ⟨fuel, hfuel⟩ := h
  induction fuel generalizing s with
  | zero =>
      cases hcond : loop.cond s with
      | true => simp [run?, hcond] at hfuel
      | false =>
          obtain rfl : s = t := by simpa [run?, hcond] using hfuel
          exact ⟨hinit, hcond⟩
  | succ fuel ih =>
      cases hcond : loop.cond s with
      | true =>
          apply ih (hstep s hinit hcond)
          simpa [run?, hcond] using hfuel
      | false =>
          obtain rfl : s = t := by simpa [run?, hcond] using hfuel
          exact ⟨hinit, hcond⟩

/-! ## Termination -/

/-- A measure that the body makes smaller, where the invariant holds, ends the loop. -/
theorem exists_returns {I : σ → Prop} (variant : σ → Nat) (hinit : I s)
    (hstep : ∀ s, I s → loop.cond s = true → I (loop.body s))
    (hless : ∀ s, I s → loop.cond s = true → variant (loop.body s) < variant s) :
    ∃ t, loop.Returns s t := by
  induction hv : variant s using Nat.strongRecOn generalizing s with
  | _ n ih =>
      cases hcond : loop.cond s with
      | false => exact ⟨s, returns_of_cond_false hcond⟩
      | true =>
          have hlt : variant (loop.body s) < n := hv ▸ hless s hinit hcond
          obtain ⟨t, ht⟩ := ih _ hlt (hstep s hinit hcond) rfl
          exact ⟨t, returns_of_body hcond ht⟩

/-- Where the invariant keeps the condition true, the loop does not return. -/
theorem not_returns {I : σ → Prop} (hinit : I s) (hcond : ∀ s, I s → loop.cond s = true)
    (hstep : ∀ s, I s → I (loop.body s)) (t : σ) : ¬ loop.Returns s t := by
  intro h
  obtain ⟨hI, hfalse⟩ := h.invariant hinit fun s hs _ => hstep s hs
  rw [hcond t hI] at hfalse
  cases hfalse

end While
