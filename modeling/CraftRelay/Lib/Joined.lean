import Mathlib.Data.List.Basic

/-!
# Fields joined by a separator

What a text says about the fields it was joined from, when the fields may contain
the separator themselves. The text determines the pieces between separators, in
their order; it does not say where one field ends and the next begins. Two lists
of fields with the same text are therefore either equal or recut: the same pieces,
with the separators distributed over the fields in another way.
-/

namespace Joined

section

variable {α : Type} [DecidableEq α]

/-- The pieces between separators of all fields, in order. -/
def pieces (sep : α) (fields : List (List α)) : List (List α) :=
  fields.flatMap fun f => f.splitOn sep

/-- The same pieces, but some field has another number of separators. -/
structure Recut (sep : α) (xs ys : List (List α)) : Prop where
  pieces : pieces sep xs = pieces sep ys
  moved : xs.map (fun f => f.count sep) ≠ ys.map fun f => f.count sep

instance (sep : α) (xs ys : List (List α)) : Decidable (Recut sep xs ys) :=
  decidable_of_iff (pieces sep xs = pieces sep ys ∧
    xs.map (fun f => f.count sep) ≠ ys.map fun f => f.count sep)
    ⟨fun h => ⟨h.1, h.2⟩, fun h => ⟨h.1, h.2⟩⟩

variable {sep : α}

/-- Splitting a joined text gives the pieces of its fields. -/
theorem splitOn_intercalate_eq_pieces {fields : List (List α)} (h : fields ≠ []) :
    ([sep].intercalate fields).splitOn sep = pieces sep fields := by
  induction fields with
  | nil => exact absurd rfl h
  | cons f rest ih =>
      cases rest with
      | nil => simp [pieces]
      | cons g rest =>
          have hsplit := List.splitOn_append_cons_self (a := sep) f ([sep].intercalate (g :: rest))
          rw [List.intercalate_cons_cons, List.append_assoc, List.singleton_append, hsplit,
            ih (List.cons_ne_nil _ _)]
          rfl

/-- A text determines the pieces and nothing more. -/
theorem intercalate_eq_iff {xs ys : List (List α)} (hx : xs ≠ []) (hy : ys ≠ []) :
    [sep].intercalate xs = [sep].intercalate ys ↔ pieces sep xs = pieces sep ys := by
  constructor
  · intro h
    rw [← splitOn_intercalate_eq_pieces hx, ← splitOn_intercalate_eq_pieces hy, h]
  · intro h
    rw [← splitOn_intercalate_eq_pieces hx, ← splitOn_intercalate_eq_pieces hy] at h
    have hjoin := congrArg ([sep].intercalate ·) h
    simpa using hjoin

theorem length_splitOn (f : List α) : (f.splitOn sep).length = f.count sep + 1 := by
  induction f with
  | nil => simp
  | cons a f ih =>
      rw [List.splitOn_cons_eq_if_modifyHead, List.count_cons]
      by_cases ha : a = sep
      · simp [ha, ih]
      · simp [ha, ih]

theorem splitOn_injective {f g : List α} (h : f.splitOn sep = g.splitOn sep) : f = g := by
  have hf : [sep].intercalate (f.splitOn sep) = f := List.intercalate_splitOn sep
  rw [← hf, h, List.intercalate_splitOn]

/-- The pieces and the number of separators in each field determine the fields. -/
theorem eq_of_pieces {xs ys : List (List α)} (hpieces : pieces sep xs = pieces sep ys)
    (hcount : xs.map (fun f => f.count sep) = ys.map fun f => f.count sep) : xs = ys := by
  induction xs generalizing ys with
  | nil =>
      rw [List.map_nil, eq_comm, List.map_eq_nil_iff] at hcount
      exact hcount.symm
  | cons f xs ih =>
      cases ys with
      | nil => cases hcount
      | cons g ys =>
          rw [List.map_cons, List.map_cons, List.cons_eq_cons] at hcount
          obtain ⟨hfg, hrest⟩ := hcount
          -- the first fields have the same number of pieces, so the rest starts at the same one
          have hlen : (f.splitOn sep).length = (g.splitOn sep).length := by
            rw [length_splitOn, length_splitOn, hfg]
          obtain ⟨hhead, htail⟩ := List.append_inj hpieces hlen
          rw [splitOn_injective hhead, ih htail hrest]

/-- Fields that give the same text are equal, exactly when they are not recut. -/
theorem eq_of_intercalate_iff {xs ys : List (List α)} (hx : xs ≠ []) (hy : ys ≠ []) :
    ([sep].intercalate xs = [sep].intercalate ys → xs = ys) ↔ ¬ Recut sep xs ys := by
  rw [intercalate_eq_iff hx hy]
  constructor
  · intro h hrecut
    exact hrecut.moved (by rw [h hrecut.pieces])
  · intro h hpieces
    exact eq_of_pieces hpieces (by_contra fun hmoved => h ⟨hpieces, hmoved⟩)

/-- Fields without the separator are their own pieces. -/
theorem pieces_of_notMem {fields : List (List α)} (h : ∀ f ∈ fields, sep ∉ f) :
    pieces sep fields = fields := by
  cases fields with
  | nil => rfl
  | cons f rest =>
      have hne : f :: rest ≠ [] := List.cons_ne_nil _ _
      rw [← splitOn_intercalate_eq_pieces hne]
      exact List.splitOn_intercalate sep h hne

/-- Without the separator nothing can be recut. -/
theorem not_recut_of_notMem {xs ys : List (List α)} (hx : ∀ f ∈ xs, sep ∉ f)
    (hy : ∀ f ∈ ys, sep ∉ f) : ¬ Recut sep xs ys := by
  intro h
  have heq : xs = ys := by
    rw [← pieces_of_notMem hx, ← pieces_of_notMem hy]
    exact h.pieces
  exact h.moved (by rw [heq])

theorem pieces_cons_ne_nil (f : List α) (rest : List (List α)) : pieces sep (f :: rest) ≠ [] := by
  intro h
  have hlen := congrArg List.length h
  rw [pieces, List.flatMap_cons, List.length_append, length_splitOn, List.length_nil] at hlen
  omega

omit [DecidableEq α] in
theorem intercalate_cons_ne_nil {f : List α} (hf : f ≠ []) (rest : List (List α)) :
    [sep].intercalate (f :: rest) ≠ [] := by
  intro h
  cases rest with
  | nil => exact hf (by simpa using h)
  | cons g rest =>
      rw [List.intercalate_cons_cons, List.append_assoc] at h
      exact hf (List.append_eq_nil_iff.mp h).1

/-- The lists may be empty when no field is. -/
theorem eq_of_intercalate_iff_of_filled {xs ys : List (List α)} (hx : ∀ f ∈ xs, f ≠ [])
    (hy : ∀ f ∈ ys, f ≠ []) :
    ([sep].intercalate xs = [sep].intercalate ys → xs = ys) ↔ ¬ Recut sep xs ys := by
  cases xs with
  | nil =>
      cases ys with
      | nil =>
          constructor
          · exact fun _ hrecut => hrecut.moved rfl
          · exact fun _ _ => rfl
      | cons g ys =>
          constructor
          · exact fun _ hrecut => pieces_cons_ne_nil g ys hrecut.pieces.symm
          · intro _ h
            exact absurd h.symm (intercalate_cons_ne_nil (hy g List.mem_cons_self) ys)
  | cons f xs =>
      cases ys with
      | nil =>
          constructor
          · exact fun _ hrecut => pieces_cons_ne_nil f xs hrecut.pieces
          · intro _ h
            exact absurd h (intercalate_cons_ne_nil (hx f List.mem_cons_self) xs)
      | cons g ys =>
          exact eq_of_intercalate_iff (List.cons_ne_nil f xs) (List.cons_ne_nil g ys)

end

/-! ## Two fields -/

section

variable {α : Type} {sep : α}

/-- The boundary between the fields of `y₁, y₂` moved right over `w` gives `x₁, x₂`. -/
def Shifted (sep : α) (x₁ x₂ y₁ y₂ : List α) : Prop :=
  ∃ w, x₁ = y₁ ++ sep :: w ∧ y₂ = w ++ sep :: x₂

theorem Shifted.join_eq {x₁ x₂ y₁ y₂ : List α} (h : Shifted sep x₁ x₂ y₁ y₂) :
    x₁ ++ sep :: x₂ = y₁ ++ sep :: y₂ := by
  obtain ⟨w, rfl, rfl⟩ := h
  simp

theorem Shifted.ne {x₁ x₂ y₁ y₂ : List α} (h : Shifted sep x₁ x₂ y₁ y₂) : x₁ ≠ y₁ := by
  obtain ⟨w, rfl, -⟩ := h
  simp

/-- Pairs that give the same text are equal, exactly when neither boundary is the
other one shifted. -/
theorem eq_of_pair_iff {x₁ x₂ y₁ y₂ : List α} :
    (x₁ ++ sep :: x₂ = y₁ ++ sep :: y₂ → x₁ = y₁ ∧ x₂ = y₂) ↔
      ¬ Shifted sep x₁ x₂ y₁ y₂ ∧ ¬ Shifted sep y₁ y₂ x₁ x₂ := by
  constructor
  · intro h
    refine ⟨fun hs => ?_, fun hs => ?_⟩
    · exact hs.ne (h hs.join_eq).1
    · exact hs.ne (h hs.join_eq.symm).1.symm
  · rintro ⟨hleft, hright⟩ hjoin
    -- one of the first fields starts with the other; what follows is empty or a shift
    rcases List.append_eq_append_iff.mp hjoin with ⟨w, hy, hx⟩ | ⟨w, hx, hy⟩
    · cases w with
      | nil => simpa [hy] using hx
      | cons a w =>
          injection hx with ha hx
          subst ha
          exact absurd ⟨w, hy, hx⟩ hright
    · cases w with
      | nil => simpa [hx, eq_comm] using hy
      | cons a w =>
          injection hy with ha hy
          subst ha
          exact absurd ⟨w, hx, hy⟩ hleft

end

/-! ## Texts -/

/-- A shifted boundary between two texts. -/
def TextShifted (sep : Char) (x₁ x₂ y₁ y₂ : String) : Prop :=
  ∃ w : String, x₁ = y₁ ++ String.singleton sep ++ w ∧ y₂ = w ++ String.singleton sep ++ x₂

theorem textShifted_iff {sep : Char} {x₁ x₂ y₁ y₂ : String} :
    TextShifted sep x₁ x₂ y₁ y₂ ↔ Shifted sep x₁.toList x₂.toList y₁.toList y₂.toList := by
  constructor
  · rintro ⟨w, rfl, rfl⟩
    exact ⟨w.toList, by simp, by simp⟩
  · rintro ⟨w, hx, hy⟩
    refine ⟨String.ofList w, ?_, ?_⟩
    · rw [← String.toList_inj, hx]
      simp
    · rw [← String.toList_inj, hy]
      simp

theorem eq_of_text_pair_iff {sep : Char} {x₁ x₂ y₁ y₂ : String} :
    (x₁ ++ String.singleton sep ++ x₂ = y₁ ++ String.singleton sep ++ y₂ →
        x₁ = y₁ ∧ x₂ = y₂) ↔
      ¬ TextShifted sep x₁ x₂ y₁ y₂ ∧ ¬ TextShifted sep y₁ y₂ x₁ x₂ := by
  rw [textShifted_iff, textShifted_iff, ← eq_of_pair_iff]
  simp [← String.toList_inj]

/-- Fields that are recut, as lists of characters. -/
def TextRecut (sep : Char) (xs ys : List String) : Prop :=
  Recut sep (xs.map String.toList) (ys.map String.toList)

instance (sep : Char) (xs ys : List String) : Decidable (TextRecut sep xs ys) :=
  inferInstanceAs (Decidable (Recut sep _ _))

theorem toList_map_inj {xs ys : List String} :
    xs.map String.toList = ys.map String.toList ↔ xs = ys :=
  (List.map_injective_iff.mpr fun _ _ h => String.toList_inj.mp h).eq_iff

/-- Texts are joined like their characters. -/
theorem intercalate_text_inj_iff {sep : Char} {xs ys : List String} :
    ((String.singleton sep).intercalate xs = (String.singleton sep).intercalate ys → xs = ys) ↔
      ([sep].intercalate (xs.map String.toList) = [sep].intercalate (ys.map String.toList) →
        xs.map String.toList = ys.map String.toList) := by
  rw [← String.toList_inj, String.toList_intercalate, String.toList_intercalate,
    String.toList_singleton, ← toList_map_inj]

/-- The same for texts joined by a one-character separator. -/
theorem eq_of_intercalate_text_iff {sep : Char} {xs ys : List String} (hx : xs ≠ [])
    (hy : ys ≠ []) :
    ((String.singleton sep).intercalate xs = (String.singleton sep).intercalate ys → xs = ys) ↔
      ¬ TextRecut sep xs ys := by
  rw [intercalate_text_inj_iff]
  exact eq_of_intercalate_iff (by simpa using hx) (by simpa using hy)

theorem eq_of_intercalate_text_iff_of_filled {sep : Char} {xs ys : List String}
    (hx : ∀ f ∈ xs, f ≠ "") (hy : ∀ f ∈ ys, f ≠ "") :
    ((String.singleton sep).intercalate xs = (String.singleton sep).intercalate ys → xs = ys) ↔
      ¬ TextRecut sep xs ys := by
  have hfilled : ∀ {fs : List String}, (∀ f ∈ fs, f ≠ "") →
      ∀ f ∈ fs.map String.toList, f ≠ [] := by
    intro fs h
    rw [List.forall_mem_map]
    intro f hf hnil
    exact h f hf (String.toList_eq_nil_iff.mp hnil)
  rw [intercalate_text_inj_iff]
  exact eq_of_intercalate_iff_of_filled (hfilled hx) (hfilled hy)

theorem not_textRecut_of_notMem {sep : Char} {xs ys : List String}
    (hx : ∀ f ∈ xs, sep ∉ f.toList) (hy : ∀ f ∈ ys, sep ∉ f.toList) : ¬ TextRecut sep xs ys := by
  apply not_recut_of_notMem
  · rwa [List.forall_mem_map]
  · rwa [List.forall_mem_map]

end Joined
