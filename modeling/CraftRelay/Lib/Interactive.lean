import Mathlib.Logic.Basic

/-!
# Interactive programs over a shared state

A program is a tree of operations: it names an operation, is given a reply and
goes on, or it is done. The tree fixes the control flow of a procedure and
nothing about the state its operations act on, so the same procedure can run
alone, or with the operations of other threads between any two of its own.

`Safe` is the rely–guarantee judgement for such a tree: whatever the other
threads do between two operations (a step of `rely`), each operation the
program issues satisfies `guard` in the state it is issued in, and a value it
ends with satisfies `post`. It is stable under `rely` by construction
(`Safe.stable`), and it is kept by the program's own operations (`Safe.op`), so
a pool of threads that are each `Safe` stays so in every interleaving.
-/

/-- A program with operations `E`, replies `R` and result `α`. -/
inductive Prog (E : Type) (R : E → Type) (α : Type) where
  | done (a : α)
  | op (e : E) (k : R e → Prog E R α)

namespace Prog

variable {E α S : Type} {R : E → Type}

/-- The operations a program may be at, and what it may end with, in every
state the rely relation and its own steps can lead to. -/
def Safe (rely : S → S → Prop) (step : S → (e : E) → R e → S → Prop)
    (guard : S → E → Prop) (post : S → α → Prop) : Prog E R α → S → Prop
  | .done a, s => ∀ s', rely s s' → post s' a
  | .op e k, s => ∀ s', rely s s' →
      guard s' e ∧ ∀ r s'', step s' e r s'' → (k r).Safe rely step guard post s''

variable {rely : S → S → Prop} {step : S → (e : E) → R e → S → Prop}
  {guard : S → E → Prop} {post : S → α → Prop}

/-- What other threads do does not end safety. -/
theorem Safe.stable (htrans : ∀ a b c, rely a b → rely b c → rely a c)
    {p : Prog E R α} {s s' : S} (h : p.Safe rely step guard post s) (hrely : rely s s') :
    p.Safe rely step guard post s' := by
  cases p with
  | done a => exact fun s'' h'' => h s'' (htrans _ _ _ hrely h'')
  | op e k => exact fun s'' h'' => h s'' (htrans _ _ _ hrely h'')

/-- A safe program's operation is guarded and leads to a safe rest. -/
theorem Safe.op {e : E} {k : R e → Prog E R α} {s : S}
    (h : (Prog.op e k).Safe rely step guard post s) (hself : rely s s) :
    guard s e ∧ ∀ r s', step s e r s' → (k r).Safe rely step guard post s' :=
  h s hself

/-- A safe program that is done ends with its postcondition. -/
theorem Safe.done {a : α} {s : S}
    (h : (Prog.done a : Prog E R α).Safe rely step guard post s) (hself : rely s s) :
    post s a :=
  h s hself

/-! ## Runs -/

/-- Performing the operations `tr`, oldest first, leads from the program `p` in `s` to
what is left of it, `p'`, in `s'`. -/
inductive Run (step : S → (e : E) → R e → S → Prop) :
    Prog E R α → S → List ((e : E) × R e) → Prog E R α → S → Prop
  | refl (p : Prog E R α) (s : S) : Run step p s [] p s
  | op {e : E} {k : R e → Prog E R α} {s s₁ s' : S} {r : R e} {tr : List ((e : E) × R e)}
      {p' : Prog E R α} (h : step s e r s₁) (hrest : Run step (k r) s₁ tr p' s') :
      Run step (.op e k) s (⟨e, r⟩ :: tr) p' s'

/-- A program that is done performs nothing. -/
theorem Run.done_inv {a : α} {s s' : S} {tr : List ((e : E) × R e)} {p' : Prog E R α}
    (h : Run step (.done a) s tr p' s') : tr = [] ∧ p' = .done a ∧ s' = s := by
  cases h with
  | refl => exact ⟨rfl, rfl, rfl⟩

/-- A program at an operation is still there, or performed it first. -/
theorem Run.op_inv {e : E} {k : R e → Prog E R α} {s s' : S} {tr : List ((e : E) × R e)}
    {p' : Prog E R α} (h : Run step (.op e k) s tr p' s') :
    (tr = [] ∧ p' = .op e k ∧ s' = s) ∨
      ∃ r s₁ tr', tr = ⟨e, r⟩ :: tr' ∧ step s e r s₁ ∧ Run step (k r) s₁ tr' p' s' := by
  cases h with
  | refl => exact .inl ⟨rfl, rfl, rfl⟩
  | op h hrest => exact .inr ⟨_, _, _, rfl, h, hrest⟩

/-- A run goes on with the operation it is at. -/
theorem Run.snoc {e : E} {k : R e → Prog E R α} {p : Prog E R α} {s s₁ s' : S} {r : R e}
    {tr : List ((e : E) × R e)} (hrun : Run step p s tr (.op e k) s₁) (h : step s₁ e r s') :
    Run step p s (tr ++ [⟨e, r⟩]) (k r) s' := by
  generalize hat : Prog.op e k = p' at hrun
  induction hrun with
  | refl =>
      subst hat
      exact .op h (.refl _ _)
  | op hst hrest ih => exact .op hst (ih h hat)

/-- What is left of a safe program is safe, when nobody else does anything. -/
theorem Safe.run (hself : ∀ s, rely s s) {p p' : Prog E R α} {s s' : S}
    {tr : List ((e : E) × R e)} (hrun : Run step p s tr p' s')
    (h : p.Safe rely step guard post s) : p'.Safe rely step guard post s' := by
  induction hrun with
  | refl => exact h
  | op hst _ ih => exact ih ((h.op (hself _)).2 _ _ hst)

/-- Run the program, with a function that performs its operations. -/
def exec (perform : S → (e : E) → R e × S) : Prog E R α → S → α × S
  | .done a, s => (a, s)
  | .op e k, s => (k (perform s e).1).exec perform (perform s e).2

/-- When the operations are performed as the steps allow, that is a run. -/
theorem exec_run {perform : S → (e : E) → R e × S}
    (hperform : ∀ s e, step s e (perform s e).1 (perform s e).2) (p : Prog E R α) (s : S) :
    ∃ tr, Run step p s tr (.done (p.exec perform s).1) (p.exec perform s).2 := by
  induction p generalizing s with
  | done a => exact ⟨[], .refl _ _⟩
  | op e k ih =>
      obtain ⟨tr, hrun⟩ := ih (perform s e).1 (perform s e).2
      exact ⟨_, .op (hperform s e) hrun⟩

/-- Whatever it is answered, the program ends with a value that satisfies `Q`. -/
inductive Ends (Q : α → Prop) : Prog E R α → Prop
  | done {a : α} (h : Q a) : Ends Q (.done a)
  | op {e : E} {k : R e → Prog E R α} (hk : ∀ r, Ends Q (k r)) : Ends Q (.op e k)

theorem Ends.run {Q : α → Prop} {p p' : Prog E R α} {s s' : S} {tr : List ((e : E) × R e)}
    (hrun : Run step p s tr p' s') (h : Ends Q p) : Ends Q p' := by
  induction hrun with
  | refl => exact h
  | op _ _ ih =>
      cases h with
      | op hk => exact ih (hk _)

theorem Ends.value {Q : α → Prop} {a : α} (h : Ends Q (.done a : Prog E R α)) : Q a := by
  cases h with
  | done h => exact h

/-- At most `n` of the operations a program performs satisfy `P`, whatever it is
answered. -/
inductive AtMost (P : E → Prop) : Nat → Prog E R α → Prop
  | done (n : Nat) (a : α) : AtMost P n (.done a)
  | counted {n : Nat} {e : E} {k : R e → Prog E R α} (hk : ∀ r, AtMost P n (k r)) :
      AtMost P (n + 1) (.op e k)
  | other {n : Nat} {e : E} {k : R e → Prog E R α} (he : ¬ P e) (hk : ∀ r, AtMost P n (k r)) :
      AtMost P n (.op e k)

variable {P : E → Prop}

/-- What a run performed comes out of the bound, and what is left keeps the rest. -/
theorem AtMost.run [DecidablePred P] {n : Nat} {p p' : Prog E R α} {s s' : S}
    {tr : List ((e : E) × R e)} (hrun : Run step p s tr p' s') (h : AtMost P n p) :
    ∃ m, AtMost P m p' ∧ tr.countP (fun o => P o.1) + m ≤ n := by
  induction hrun generalizing n with
  | refl => exact ⟨n, h, by simp⟩
  | op _ _ ih =>
      cases h with
      | counted hk =>
          obtain ⟨m, hm, hle⟩ := ih (hk _)
          refine ⟨m, hm, ?_⟩
          rw [List.countP_cons]
          split <;> omega
      | other he hk =>
          obtain ⟨m, hm, hle⟩ := ih (hk _)
          exact ⟨m, hm, by simpa [List.countP_cons, he] using hle⟩

theorem AtMost.mono {n m : Nat} {p : Prog E R α} (h : AtMost P n p) (hle : n ≤ m) :
    AtMost P m p := by
  induction h generalizing m with
  | done n a => exact .done m a
  | counted hk ih =>
      cases m with
      | zero => omega
      | succ m => exact .counted fun r => ih r (by omega)
  | other he hk ih => exact .other he fun r => ih r hle

/-- A program with no such operation left is not at one. -/
theorem AtMost.not_at {e : E} {k : R e → Prog E R α} (h : AtMost P 0 (.op e k)) : ¬ P e := by
  cases h with
  | other he _ => exact he

end Prog
