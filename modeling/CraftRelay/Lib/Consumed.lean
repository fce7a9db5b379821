import Mathlib.Data.List.Nodup

/-!
# Queues read at the front

What was taken from a queue, oldest first, is a prefix of what was put into it. The two
lemmas are what a proof of this needs when the taker does not see the queue: the element
taken next is the one whose predecessors are all taken, and entries are told apart by
their keys.
-/

namespace List

variable {α β : Type*}

/-- One more element is taken, and what comes before it has been taken. -/
theorem IsPrefix.snoc_of_before {taken queue : List α} {a : α} {before : α → α → Prop}
    (h : taken <+: queue) (hordered : queue.Pairwise before) (hnodup : queue.Nodup)
    (ha : a ∈ queue) (hnew : a ∉ taken)
    (hbefore : ∀ x ∈ queue, before x a → x ∈ taken) : taken ++ [a] <+: queue := by
  obtain ⟨rest, rfl⟩ := h
  have hrest : a ∈ rest := (mem_append.mp ha).resolve_left hnew
  cases rest with
  | nil => cases hrest
  | cons x rest =>
      by_cases hx : x = a
      · subst hx
        exact ⟨rest, by simp⟩
      · -- the head of the rest comes before the element and has not been taken
        have hmem : a ∈ rest := (mem_cons.mp hrest).resolve_left (Ne.symm hx)
        have hxa : before x a :=
          rel_of_pairwise_cons (pairwise_append.mp hordered).2.1 hmem
        have htaken := hbefore x (by simp) hxa
        exact absurd rfl ((nodup_append.mp hnodup).2.2 x htaken x (by simp))

/-- What was taken is a prefix when its keys are, and each entry is one of the queue. -/
theorem isPrefix_of_keys (key : α → β) {taken queue : List α}
    (h : taken.map key <+: queue.map key) (hmem : ∀ x ∈ taken, x ∈ queue)
    (hnodup : (queue.map key).Nodup) : taken <+: queue := by
  induction taken generalizing queue with
  | nil => exact nil_prefix
  | cons x taken ih =>
      cases queue with
      | nil => exact absurd (hmem x (by simp)) (by simp)
      | cons y queue =>
          rw [map_cons, map_cons, cons_prefix_cons] at h
          obtain ⟨hkey, hrest⟩ := h
          obtain rfl : x = y :=
            inj_on_of_nodup_map hnodup (hmem x (by simp)) (by simp) hkey
          rw [cons_prefix_cons]
          rw [map_cons, nodup_cons] at hnodup
          refine ⟨rfl, ih hrest (fun z hz => ?_) hnodup.2⟩
          rcases mem_cons.mp (hmem z (mem_cons_of_mem _ hz)) with rfl | hz'
          · -- a second entry with the key of the first is not in the queue
            exact absurd (hrest.subset (mem_map_of_mem hz)) hnodup.1
          · exact hz'

end List
