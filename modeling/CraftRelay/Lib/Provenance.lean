import Mathlib.Data.Set.Insert
import CraftRelay.Lib.Interactive

/-!
# Programs that act on what they were told

A program is answered by its surroundings, and the operations it performs later may
depend on the answers. `Justified ok` says that every operation it comes to is one that
`ok` allows after the operations and replies there were before. The judgement looks at
the control flow alone: it holds whatever the replies are, so also when the state behind
the operations is shared with others.
-/

namespace Prog

variable {E α : Type} {R : E → Type}

/-- Whatever it is answered, each operation of the program is allowed after those in
`past` and its own before it. -/
def Justified (ok : Set ((e : E) × R e) → E → Prop) :
    Prog E R α → Set ((e : E) × R e) → Prop
  | .done _, _ => True
  | .op e k, past => ok past e ∧ ∀ r, (k r).Justified ok (insert ⟨e, r⟩ past)

variable {ok : Set ((e : E) × R e) → E → Prop} {past past' : Set ((e : E) × R e)}

theorem Justified.done (a : α) : (Prog.done a : Prog E R α).Justified ok past := trivial

/-- More that was performed takes nothing away. -/
theorem Justified.mono (hok : ∀ past past' e, past ⊆ past' → ok past e → ok past' e)
    {p : Prog E R α} (h : p.Justified ok past) (hsub : past ⊆ past') : p.Justified ok past' := by
  induction p generalizing past past' with
  | done a => trivial
  | op e k ih =>
      refine ⟨hok _ _ e hsub h.1, fun r => ?_⟩
      exact ih r (h.2 r) (Set.insert_subset_insert hsub)

end Prog
