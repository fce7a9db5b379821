import CraftRelay.Lib.CountUp

/-!
# Logs that are only appended to

A log takes a new entry when the entries it has admit it. The condition is a relation
between a list and an entry, and it is part of the type that every entry of the log met
it, so whatever the condition says about earlier entries holds along the whole log.
-/

/-- Every entry was admitted by those before it. -/
inductive Appended {ε : Type} (admits : List ε → ε → Prop) : List ε → Prop
  | nil : Appended admits []
  | snoc {l e} (h : Appended admits l) (he : admits l e) : Appended admits (l ++ [e])

namespace Appended

variable {ε : Type} {admits : List ε → ε → Prop} {l : List ε}

/-- What admission says about an earlier entry and the new one holds along the log. -/
theorem pairwise {R : ε → ε → Prop} (h : Appended admits l)
    (hR : ∀ l e, admits l e → ∀ e' ∈ l, R e' e) : l.Pairwise R := by
  induction h with
  | nil => exact List.Pairwise.nil
  | snoc h he ih =>
      refine List.pairwise_append.mpr ⟨ih, List.pairwise_singleton _ _, ?_⟩
      intro e' he' e'' he''
      rw [List.mem_singleton.mp he'']
      exact hR _ _ he e' he'

/-- Entries that are admitted under the next number have the numbers of their places. -/
theorem map_eq_countUp {number : ε → Int} (h : Appended admits l)
    (hnumber : ∀ l e, admits l e → number e = l.length + 1) :
    l.map number = countUp l.length := by
  induction h with
  | nil => rfl
  | snoc h he ih =>
      rw [List.map_append, ih, List.length_append, List.length_singleton, countUp_succ,
        ← hnumber _ _ he]
      rfl

end Appended

/-- A log every entry of which was admitted. -/
structure GuardedLog {ε : Type} (admits : List ε → ε → Prop) where
  entries : List ε
  appended : Appended admits entries

namespace GuardedLog

variable {ε : Type} {admits : List ε → ε → Prop}

def empty : GuardedLog admits := ⟨[], .nil⟩

/-- The log with an entry it admits. -/
def append (log : GuardedLog admits) (e : ε) (he : admits log.entries e) : GuardedLog admits :=
  ⟨log.entries ++ [e], log.appended.snoc he⟩

@[simp] theorem entries_append (log : GuardedLog admits) (e : ε) (he : admits log.entries e) :
    (log.append e he).entries = log.entries ++ [e] := rfl

end GuardedLog
