import Mathlib.Data.List.Basic

/-!
# Codes that end where they end

A record is written as the codes of its fields, one after the other, and nothing
between them. It can be read back when each code says itself where it ends: codes of
one fixed length do, so do texts behind their length and lists behind their count.
`Determines` is what such a code says about a record, whatever follows it, and the
rules put the codes of fields together.
-/

namespace Framed

variable {ρ α β γ δ : Type}

/-- The code of a record determines a value of it, and where the code ends. -/
def Determines (P : ρ → Prop) (code : ρ → List β) (value : ρ → γ) : Prop :=
  ∀ ⦃a b r s⦄, P a → P b → code a ++ r = code b ++ s → value a = value b ∧ r = s

variable {P Q : ρ → Prop} {code : ρ → List β} {value : ρ → γ}

/-- Nothing has to follow. -/
theorem Determines.eq (h : Determines P code value) {a b : ρ} (ha : P a) (hb : P b)
    (hcode : code a = code b) : value a = value b :=
  (h (r := []) (s := []) ha hb (by rw [hcode])).1

theorem Determines.mono (h : Determines P code value) (hQ : ∀ a, Q a → P a) :
    Determines Q code value :=
  fun _ _ _ _ ha hb hcode => h (hQ _ ha) (hQ _ hb) hcode

/-- One code after the other. -/
theorem Determines.append {code' : ρ → List β} {value' : ρ → δ}
    (h : Determines P code value) (h' : Determines P code' value') :
    Determines P (fun a => code a ++ code' a) (fun a => (value a, value' a)) := by
  intro a b r s ha hb hcode
  rw [List.append_assoc, List.append_assoc] at hcode
  obtain ⟨hvalue, hrest⟩ := h ha hb hcode
  obtain ⟨hvalue', hend⟩ := h' ha hb hrest
  exact ⟨Prod.ext hvalue hvalue', hend⟩

/-- The code of a field. -/
theorem Determines.comp {Q : α → Prop} {code : α → List β} {value : α → γ}
    (h : Determines Q code value) (field : ρ → α) (hQ : ∀ a, P a → Q (field a)) :
    Determines P (fun a => code (field a)) (fun a => value (field a)) :=
  fun _ _ _ _ ha hb hcode => h (hQ _ ha) (hQ _ hb) hcode

/-- Codes of one length. -/
theorem determines_of_length {n : Nat} (hlen : ∀ a, P a → (code a).length = n)
    (hinj : ∀ a b, P a → P b → code a = code b → value a = value b) :
    Determines P code value := by
  intro a b r s ha hb hcode
  obtain ⟨heq, hrest⟩ := List.append_inj hcode ((hlen a ha).trans (hlen b hb).symm)
  exact ⟨hinj a b ha hb heq, hrest⟩

/-! ## Fields joined by a separator -/

/-- Texts without a terminator end at the same one. -/
theorem eq_of_append_cons {t : β} {xs ys r s : List β} (hx : t ∉ xs) (hy : t ∉ ys)
    (h : xs ++ t :: r = ys ++ t :: s) : xs = ys ∧ r = s := by
  induction xs generalizing ys with
  | nil =>
      cases ys with
      | nil => exact ⟨rfl, (List.cons.inj h).2⟩
      | cons b ys => exact absurd (List.cons.inj h).1 fun hb => hy (hb ▸ List.mem_cons_self)
  | cons a xs ih =>
      cases ys with
      | nil => exact absurd (List.cons.inj h).1 fun ha => hx (ha ▸ List.mem_cons_self)
      | cons b ys =>
          obtain ⟨rfl, htail⟩ := List.cons.inj h
          obtain ⟨rfl, hrest⟩ := ih (fun hm => hx (List.mem_cons_of_mem _ hm))
            (fun hm => hy (List.mem_cons_of_mem _ hm)) htail
          exact ⟨rfl, hrest⟩

section Joined

variable {field next : ρ → List β} {rest : ρ → List (List β)} {value' : ρ → δ}

/-- A field that ends by itself, and the fields behind the separator. -/
theorem Determines.joined {sep : List β} (h : Determines P field value)
    (h' : Determines P (fun a => sep.intercalate (next a :: rest a)) value') :
    Determines P (fun a => sep.intercalate (field a :: next a :: rest a))
      (fun a => (value a, value' a)) := by
  intro a b r s ha hb hcode
  simp only [List.intercalate_cons_cons, List.append_assoc] at hcode
  obtain ⟨hvalue, hrest⟩ := h ha hb hcode
  obtain ⟨hvalue', hend⟩ := h' ha hb (List.append_cancel_left hrest)
  exact ⟨Prod.ext hvalue hvalue', hend⟩

/-- A field that ends where the separator comes for the first time. -/
theorem Determines.joined_free {sep : β} (hfree : ∀ a, P a → sep ∉ field a)
    (h' : Determines P (fun a => [sep].intercalate (next a :: rest a)) value') :
    Determines P (fun a => [sep].intercalate (field a :: next a :: rest a))
      (fun a => (field a, value' a)) := by
  intro a b r s ha hb hcode
  simp only [List.intercalate_cons_cons, List.append_assoc, List.cons_append,
    List.nil_append] at hcode
  obtain ⟨hfield, hrest⟩ := eq_of_append_cons (hfree a ha) (hfree b hb) hcode
  obtain ⟨hvalue', hend⟩ := h' ha hb hrest
  exact ⟨Prod.ext hfield hvalue', hend⟩

/-- The last field ends by itself. -/
theorem Determines.joined_last {sep : List β} (h : Determines P field value) :
    Determines P (fun a => sep.intercalate [field a]) value := by
  intro a b r s ha hb hcode
  simp only [List.intercalate_singleton] at hcode
  exact h ha hb hcode

end Joined

/-! ## Lists -/

/-- The codes of as many elements. -/
theorem Determines.flatMap (h : Determines P code value) {xs ys : List ρ} {r s : List β}
    (hlen : xs.length = ys.length) (hx : ∀ a ∈ xs, P a) (hy : ∀ b ∈ ys, P b)
    (hcode : xs.flatMap code ++ r = ys.flatMap code ++ s) :
    xs.map value = ys.map value ∧ r = s := by
  induction xs generalizing ys with
  | nil =>
      obtain rfl := List.length_eq_zero_iff.mp hlen.symm
      exact ⟨rfl, hcode⟩
  | cons a xs ih =>
      cases ys with
      | nil => cases hlen
      | cons b ys =>
          rw [List.flatMap_cons, List.flatMap_cons, List.append_assoc, List.append_assoc] at hcode
          obtain ⟨hvalue, hrest⟩ := h (hx a List.mem_cons_self) (hy b List.mem_cons_self) hcode
          obtain ⟨hvalues, hend⟩ := ih (Nat.succ.inj hlen)
            (fun a ha => hx a (List.mem_cons_of_mem _ ha))
            (fun b hb => hy b (List.mem_cons_of_mem _ hb)) hrest
          rw [List.map_cons, List.map_cons, hvalue, hvalues]
          exact ⟨rfl, hend⟩

variable {N : Nat → Prop} {count : Nat → List β}

/-- A list behind its count. -/
theorem Determines.counted (hcount : Determines N count id) (h : Determines P code value) :
    Determines (fun xs : List ρ => N xs.length ∧ ∀ a ∈ xs, P a)
      (fun xs => count xs.length ++ xs.flatMap code) (fun xs => xs.map value) := by
  rintro xs ys r s ⟨hx, hxs⟩ ⟨hy, hys⟩ hcode
  rw [List.append_assoc, List.append_assoc] at hcode
  obtain ⟨hlen, hrest⟩ := hcount hx hy hcode
  exact h.flatMap hlen hxs hys hrest

/-- A text behind its length. -/
theorem Determines.measured (hcount : Determines N count id) :
    Determines (fun xs : List β => N xs.length) (fun xs => count xs.length ++ xs) id := by
  intro xs ys r s hx hy hcode
  rw [List.append_assoc, List.append_assoc] at hcode
  obtain ⟨hlen, hrest⟩ := hcount hx hy hcode
  exact List.append_inj hrest hlen

/-- Values that determine the elements of a list determine the list. -/
theorem eq_of_map_eq (hvalue : ∀ a b, P a → P b → value a = value b → a = b) {xs ys : List ρ}
    (hx : ∀ a ∈ xs, P a) (hy : ∀ b ∈ ys, P b) (h : xs.map value = ys.map value) : xs = ys := by
  induction xs generalizing ys with
  | nil => exact (List.map_eq_nil_iff.mp h.symm).symm
  | cons a xs ih =>
      cases ys with
      | nil => cases h
      | cons b ys =>
          rw [List.map_cons, List.map_cons, List.cons.injEq] at h
          rw [List.forall_mem_cons] at hx hy
          rw [hvalue a b hx.1 hy.1 h.1, ih hx.2 hy.2 h.2]

end Framed
