import Mathlib.Data.List.Sort

/-!
# The first match of a ranked list

A list is sorted by descending rank, elements of one rank in the order they came in, and
searched for the first element that satisfies a predicate. What is found is the element
of the highest rank among those that satisfy it, and of these the earliest. Sorting
procedures differ in how they are told the order; `Ranks` is what they have to mean.
-/

namespace Ranked

variable {α κ : Type} [LinearOrder κ] {r : α → α → Prop} [DecidableRel r] {rank : α → κ}
  {p : α → Bool} {xs ys : List α} {a b x : α}

/-- The relation puts higher ranks first. -/
def Ranks (r : α → α → Prop) (rank : α → κ) : Prop := ∀ a b, r a b ↔ rank b ≤ rank a

/-- `a` satisfies `p`; what satisfies it before `a` ranks lower, and what does after `a`
does not rank higher. -/
def First (rank : α → κ) (p : α → Bool) (xs : List α) (a : α) : Prop :=
  ∃ before after, xs = before ++ a :: after ∧ p a = true ∧
    (∀ b ∈ before, p b = true → rank b < rank a) ∧ ∀ b ∈ after, p b = true → rank b ≤ rank a

/-! ## What `First` says -/

theorem First.mem (h : First rank p xs a) : a ∈ xs := by
  obtain ⟨before, after, rfl, -⟩ := h
  simp

theorem First.satisfies (h : First rank p xs a) : p a = true := by
  obtain ⟨-, -, -, hp, -⟩ := h
  exact hp

/-- Nothing that satisfies the predicate ranks higher. -/
theorem First.rank_le (h : First rank p xs a) (hb : b ∈ xs) (hp : p b = true) :
    rank b ≤ rank a := by
  obtain ⟨before, after, rfl, -, hbefore, hafter⟩ := h
  rcases List.mem_append.mp hb with hb | hb
  · exact le_of_lt (hbefore b hb hp)
  · rcases List.mem_cons.mp hb with rfl | hb
    · exact le_refl _
    · exact hafter b hb hp

theorem first_cons_iff : First rank p (x :: xs) a ↔
    (a = x ∧ p x = true ∧ ∀ b ∈ xs, p b = true → rank b ≤ rank x) ∨
      First rank p xs a ∧ (p x = true → rank x < rank a) := by
  constructor
  · rintro ⟨before, after, hxs, hp, hbefore, hafter⟩
    cases before with
    | nil =>
        injection hxs with hx hxs
        subst hx hxs
        exact .inl ⟨rfl, hp, hafter⟩
    | cons y before =>
        injection hxs with hx hxs
        subst hx
        exact .inr ⟨⟨before, after, hxs, hp, fun b hb => hbefore b (List.mem_cons_of_mem _ hb),
          hafter⟩, hbefore x List.mem_cons_self⟩
  · rintro (⟨rfl, hp, hafter⟩ | ⟨⟨before, after, rfl, hp, hbefore, hafter⟩, hx⟩)
    · exact ⟨[], xs, rfl, hp, by simp, hafter⟩
    · exact ⟨x :: before, after, rfl, hp, List.forall_mem_cons.mpr ⟨hx, hbefore⟩, hafter⟩

/-- A map that keeps ranks and predicate keeps the first match. -/
theorem First.map {β : Type} {rank' : β → κ} {p' : β → Bool} {f : α → β}
    (h : First rank p xs a) (hrank : ∀ b, rank' (f b) = rank b) (hp : ∀ b, p' (f b) = p b) :
    First rank' p' (xs.map f) (f a) := by
  obtain ⟨before, after, rfl, ha, hbefore, hafter⟩ := h
  refine ⟨before.map f, after.map f, by simp, (hp a).trans ha, ?_, ?_⟩
  · simpa [hp, hrank] using hbefore
  · simpa [hp, hrank] using hafter

/-- The first match among the elements that satisfy `q`. -/
theorem first_filter_iff {q : α → Bool} :
    First rank p (xs.filter q) a ↔ First rank (fun b => q b && p b) xs a := by
  induction xs with
  | nil => simp [First]
  | cons x xs ih =>
      rw [first_cons_iff, ← ih]
      by_cases hq : q x = true
      · rw [List.filter_cons_of_pos hq, first_cons_iff]
        simp [hq]
      · rw [List.filter_cons_of_neg hq]
        simp [hq]

/-- There is one first match at most. -/
theorem First.unique (ha : First rank p xs a) (hb : First rank p xs b) : a = b := by
  induction xs with
  | nil => simpa using ha.mem
  | cons x xs ih =>
      rcases first_cons_iff.mp ha with ⟨hax, hx, hle⟩ | ⟨hrest, hlt⟩
      · rcases first_cons_iff.mp hb with ⟨hbx, -⟩ | ⟨hrest, hlt⟩
        · exact hax.trans hbx.symm
        · exact absurd (hle b hrest.mem hrest.satisfies) (not_le_of_gt (hlt hx))
      · rcases first_cons_iff.mp hb with ⟨-, hx, hle⟩ | ⟨hrest', -⟩
        · exact absurd (hle a hrest.mem hrest.satisfies) (not_le_of_gt (hlt hx))
        · exact ih hrest hrest'

/-! ## Search in the sorted list -/

/-- An element sorted in is found when it outranks, or ties with, what was found. -/
theorem find?_orderedInsert (hr : Ranks r rank) (hsorted : xs.Pairwise r) :
    (xs.orderedInsert r x).find? p =
      match xs.find? p with
      | some a => if p x = true ∧ rank a ≤ rank x then some x else some a
      | none => if p x = true then some x else none := by
  induction xs with
  | nil => cases hx : p x <;> simp [hx]
  | cons y xs ih =>
      obtain ⟨hy, htail⟩ := List.pairwise_cons.mp hsorted
      rw [List.orderedInsert_cons]
      by_cases hxy : r x y
      · rw [if_pos hxy]
        -- `x` stands first: whatever is found behind it does not rank higher
        by_cases hx : p x = true
        · rw [List.find?_cons_of_pos hx]
          cases hfind : (y :: xs).find? p with
          | none => simp [hx]
          | some a =>
              have hle : rank a ≤ rank x := by
                rcases List.mem_cons.mp (List.mem_of_find?_eq_some hfind) with rfl | ha
                · exact (hr _ _).mp hxy
                · exact le_trans ((hr _ _).mp (hy a ha)) ((hr _ _).mp hxy)
              simp [hx, hle]
        · rw [List.find?_cons_of_neg hx]
          cases hfind : (y :: xs).find? p <;> simp [hx]
      · rw [if_neg hxy]
        have hlt : ¬ rank y ≤ rank x := fun hle => hxy ((hr _ _).mpr hle)
        by_cases hpy : p y = true
        · simp [List.find?_cons_of_pos hpy, hlt]
        · rw [List.find?_cons_of_neg hpy, List.find?_cons_of_neg hpy, ih htail]

theorem pairwise_insertionSort (hr : Ranks r rank) (xs : List α) :
    (xs.insertionSort r).Pairwise r := by
  have htotal : Std.Total r := ⟨fun a b => by
    rw [hr a b, hr b a]
    exact le_total _ _⟩
  have htrans : IsTrans α r := ⟨fun a b c hab hbc => by
    rw [hr] at hab hbc ⊢
    exact le_trans hbc hab⟩
  exact List.pairwise_insertionSort r xs

/-- Nothing is found when nothing satisfies the predicate. -/
theorem find?_insertionSort_eq_none :
    (xs.insertionSort r).find? p = none ↔ ∀ b ∈ xs, ¬ p b = true := by
  simp [List.find?_eq_none]

/-- What is found in the sorted list is the first match of the list. -/
theorem find?_insertionSort_iff (hr : Ranks r rank) :
    (xs.insertionSort r).find? p = some a ↔ First rank p xs a := by
  induction xs generalizing a with
  | nil => simp [First]
  | cons x xs ih =>
      rw [List.insertionSort_cons, find?_orderedInsert hr (pairwise_insertionSort hr xs),
        first_cons_iff]
      cases hfind : (xs.insertionSort r).find? p with
      | none =>
          have hnone := find?_insertionSort_eq_none.mp hfind
          have hfirst : ¬ First rank p xs a := fun h => hnone a h.mem h.satisfies
          by_cases hx : p x = true
          · simp only [hx, if_true, Option.some.injEq, hfirst, false_and, or_false, true_and]
            constructor
            · intro hax
              exact ⟨hax.symm, fun b hb hp => absurd hp (hnone b hb)⟩
            · exact fun h => h.1.symm
          · simp [hx, hfirst]
      | some c =>
          have hc : First rank p xs c := ih.mp hfind
          simp only
          by_cases hx : p x = true ∧ rank c ≤ rank x
          · rw [if_pos hx, Option.some.injEq]
            constructor
            · intro hxa
              exact .inl ⟨hxa.symm, hx.1, fun b hb hp => le_trans (hc.rank_le hb hp) hx.2⟩
            · rintro (⟨rfl, -⟩ | ⟨ha, hlt⟩)
              · rfl
              · rw [hc.unique ha] at hx
                exact absurd hx.2 (not_le_of_gt (hlt hx.1))
          · rw [if_neg hx, Option.some.injEq]
            constructor
            · rintro rfl
              exact .inr ⟨hc, fun hp => lt_of_not_ge fun hle => hx ⟨hp, hle⟩⟩
            · rintro (⟨rfl, hp, hle⟩ | ⟨ha, -⟩)
              · exact absurd ⟨hp, hle c hc.mem hc.satisfies⟩ hx
              · exact hc.unique ha

/-! ## Other orders of the list -/

/-- Where something satisfies the predicate, there is a first match. -/
theorem exists_first (rank : α → κ) (h : ∃ b ∈ xs, p b = true) : ∃ a, First rank p xs a := by
  have hr : Ranks (fun a b : α => rank b ≤ rank a) rank := fun _ _ => Iff.rfl
  cases hfind : (xs.insertionSort fun a b => rank b ≤ rank a).find? p with
  | none =>
      obtain ⟨b, hb, hp⟩ := h
      exact absurd hp (find?_insertionSort_eq_none.mp hfind b hb)
  | some a => exact ⟨a, (find?_insertionSort_iff hr).mp hfind⟩

/-- The first match of another order has the same rank. -/
theorem First.of_perm (h : First rank p xs a) (hperm : xs.Perm ys) :
    ∃ b, First rank p ys b ∧ rank b = rank a := by
  obtain ⟨b, hb⟩ := exists_first rank ⟨a, hperm.mem_iff.mp h.mem, h.satisfies⟩
  refine ⟨b, hb, le_antisymm ?_ ?_⟩
  · exact h.rank_le (hperm.mem_iff.mpr hb.mem) hb.satisfies
  · exact hb.rank_le (hperm.mem_iff.mp h.mem) h.satisfies

/-- Every element of the highest rank is the first match of some order. -/
theorem exists_perm_first (ha : a ∈ xs) (hp : p a = true)
    (hle : ∀ b ∈ xs, p b = true → rank b ≤ rank a) :
    ∃ ys, xs.Perm ys ∧ First rank p ys a := by
  obtain ⟨before, after, rfl⟩ := List.append_of_mem ha
  refine ⟨a :: (before ++ after), List.perm_middle, [], before ++ after, rfl, hp, by simp, ?_⟩
  intro b hb
  rcases List.mem_append.mp hb with hb | hb
  · exact hle b (by simp [hb])
  · exact hle b (by simp [hb])

end Ranked
