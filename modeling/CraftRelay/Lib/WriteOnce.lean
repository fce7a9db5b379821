import CraftRelay.Lib.Lts

/-!
# Entries that are written once

`firstBy` keeps the first element of a list for each key. A store that writes an entry
the first time its key comes and keeps it ever after holds what its events established,
at the end of every run (`Run.established`).
-/

namespace WriteOnce

variable {α κ : Type*} [DecidableEq κ] (key : α → κ)

/-- One more element, kept when its key is new. -/
def addFirst (kept : List α) (x : α) : List α :=
  if key x ∈ kept.map key then kept else kept ++ [x]

/-- The first element for each key. -/
def firstBy (xs : List α) : List α := xs.foldl (addFirst key) []

@[simp] theorem firstBy_nil : firstBy key [] = [] := rfl

theorem firstBy_snoc (xs : List α) (x : α) :
    firstBy key (xs ++ [x]) = addFirst key (firstBy key xs) x := by
  simp [firstBy]

end WriteOnce

namespace Lts

variable {σ α β : Type} {T : Lts σ α}

/-- What an event of the run established, and every step keeps, holds at the end. -/
theorem Run.established {P : β → σ → Prop} {Q : α → β → Prop} {s t : σ} {tr : List α}
    (hkeep : ∀ b t a u, P b t → T.step t a u → P b u)
    (hnew : ∀ b t a u, Q a b → T.step t a u → P b u) (hrun : T.Run s tr t) {a : α} {b : β}
    (ha : a ∈ tr) (hb : Q a b) : P b t := by
  induction hrun with
  | nil => cases ha
  | snoc _ hst ih =>
      rcases List.mem_append.mp ha with ha | ha
      · exact hkeep b _ _ _ (ih ha) hst
      · rw [List.mem_singleton] at ha
        subst ha
        exact hnew b _ _ _ hb hst

end Lts
