import Mathlib.Data.List.Induction

/-!
# Labelled transition systems and their runs

A run carries the list of its labels, so a property may speak about what
happened on the way (how often a call answered, in which order) and not only
about the state at the end. Runs grow at the end: an induction over a run adds
the newest label last, which is the direction in which histories are counted.
-/

/-- A transition relation with labels. -/
structure Lts (σ α : Type) where
  step : σ → α → σ → Prop

namespace Lts

variable {σ α : Type} {T : Lts σ α}

/-- `T.Run s tr t`: the labels `tr`, oldest first, lead from `s` to `t`. -/
inductive Run (T : Lts σ α) (s : σ) : List α → σ → Prop
  | nil : Run T s [] s
  | snoc {tr t a u} : Run T s tr t → T.step t a u → Run T s (tr ++ [a]) u

/-- An invariant of every step that the run may take holds at its end. -/
theorem Run.invariant {P : σ → Prop} {Q : α → Prop} {s t : σ} {tr : List α}
    (hrun : T.Run s tr t) (hok : ∀ a ∈ tr, Q a) (hinit : P s)
    (hstep : ∀ t a u, Q a → P t → T.step t a u → P u) : P t := by
  induction hrun with
  | nil => exact hinit
  | snoc hrun hst ih =>
      have hpre := ih fun a ha => hok a (List.mem_append_left _ ha)
      exact hstep _ _ _ (hok _ (by simp)) hpre hst

/-- A measure that every step makes smaller bounds the length of a run. -/
theorem Run.length_le (μ : σ → Nat) (hless : ∀ t a u, T.step t a u → μ u < μ t) {s t : σ}
    {tr : List α} (hrun : T.Run s tr t) : tr.length + μ t ≤ μ s := by
  induction hrun with
  | nil => simp
  | snoc _ hst ih =>
      have hlt := hless _ _ _ hst
      rw [List.length_append, List.length_singleton]
      omega

/-- The steps of a system that satisfy a condition. -/
def restrict (T : Lts σ α) (Q : σ → α → σ → Prop) : Lts σ α where
  step s a t := T.step s a t ∧ Q s a t

theorem Run.of_restrict {Q : σ → α → σ → Prop} {s t : σ} {tr : List α}
    (h : (T.restrict Q).Run s tr t) : T.Run s tr t := by
  induction h with
  | nil => exact .nil
  | snoc _ hst ih => exact ih.snoc hst.1

/-- Two runs in a row are a run. -/
theorem Run.append {s t u : σ} {tr tr' : List α} (h : T.Run s tr t) (h' : T.Run t tr' u) :
    T.Run s (tr ++ tr') u := by
  induction h' with
  | nil => simpa using h
  | snoc _ hst ih => simpa using ih.snoc hst

/-- Steps of one system that another allows are a run of the other. -/
theorem Run.mono {U : Lts σ α} {Q : α → Prop} {s t : σ} {tr : List α} (h : T.Run s tr t)
    (hok : ∀ a ∈ tr, Q a) (hstep : ∀ t a u, Q a → T.step t a u → U.step t a u) :
    U.Run s tr t := by
  induction h with
  | nil => exact .nil
  | snoc _ hst ih =>
      have hpre := ih fun a ha => hok a (List.mem_append_left _ ha)
      exact hpre.snoc (hstep _ _ _ (hok _ (by simp)) hst)

/-- Where another system answers every step by a run of its own, it answers every run. -/
theorem Run.simulate {τ β : Type} {U : Lts τ β} {R : σ → τ → Prop}
    (hstep : ∀ s a s' t, R s t → T.step s a s' → ∃ tr' t', U.Run t tr' t' ∧ R s' t')
    {s s' : σ} {t : τ} {tr : List α} (h : T.Run s tr s') (hR : R s t) :
    ∃ tr' t', U.Run t tr' t' ∧ R s' t' := by
  induction h with
  | nil => exact ⟨[], t, .nil, hR⟩
  | snoc _ hst ih =>
      obtain ⟨tr₁, t₁, hrun₁, hR₁⟩ := ih
      obtain ⟨tr₂, t₂, hrun₂, hR₂⟩ := hstep _ _ _ _ hR₁ hst
      exact ⟨tr₁ ++ tr₂, t₂, hrun₁.append hrun₂, hR₂⟩

/-- The last step of a run. -/
theorem Run.last {s u : σ} {tr : List α} {a : α} (h : T.Run s (tr ++ [a]) u) :
    ∃ t, T.Run s tr t ∧ T.step t a u := by
  generalize hall : tr ++ [a] = all at h
  cases h with
  | nil => simp at hall
  | snoc hrun hst =>
      obtain ⟨rfl, rfl⟩ := List.append_singleton_inj.mp hall
      exact ⟨_, hrun, hst⟩

/-- A run can be cut at any point of its trace. -/
theorem Run.split {s u : σ} {tr tr' : List α} (h : T.Run s (tr ++ tr') u) :
    ∃ t, T.Run s tr t ∧ T.Run t tr' u := by
  induction tr' using List.reverseRecOn generalizing u with
  | nil => exact ⟨u, by simpa using h, .nil⟩
  | append_singleton tr' a ih =>
      rw [← List.append_assoc] at h
      obtain ⟨t, hrun, hst⟩ := h.last
      obtain ⟨t', hpre, hpost⟩ := ih hrun
      exact ⟨t', hpre, hpost.snoc hst⟩

/-- The step of a label of the trace. -/
theorem Run.step_at {s u : σ} {tr tr' : List α} {a : α} (h : T.Run s (tr ++ a :: tr') u) :
    ∃ t v, T.Run s tr t ∧ T.step t a v ∧ T.Run v tr' u := by
  rw [List.append_cons] at h
  obtain ⟨v, hrun, hrest⟩ := h.split
  obtain ⟨t, hbefore, hst⟩ := hrun.last
  exact ⟨t, v, hbefore, hst, hrest⟩

theorem Run.eq_of_nil {s u : σ} (h : T.Run s [] u) : u = s := by
  generalize hall : ([] : List α) = all at h
  cases h with
  | nil => rfl
  | snoc => simp at hall

/-- The first step of a run. -/
theorem Run.head {s u : σ} {tr : List α} {a : α} (h : T.Run s (a :: tr) u) :
    ∃ t, T.step s a t ∧ T.Run t tr u := by
  have hall : T.Run s ([] ++ a :: tr) u := h
  obtain ⟨t, v, hnil, hst, hrest⟩ := hall.step_at
  obtain rfl := hnil.eq_of_nil
  exact ⟨v, hst, hrest⟩

/-- Where a label determines its step, a trace determines its run. -/
theorem Run.deterministic (hdet : ∀ t a u u', T.step t a u → T.step t a u' → u = u')
    {s t t' : σ} {tr : List α} (h : T.Run s tr t) (h' : T.Run s tr t') : t = t' := by
  induction h generalizing t' with
  | nil =>
      generalize hall : ([] : List α) = all at h'
      cases h' with
      | nil => rfl
      | snoc => simp at hall
  | snoc _ hst ih =>
      obtain ⟨u, hrun, hst'⟩ := h'.last
      rw [← ih hrun] at hst'
      exact hdet _ _ _ _ hst hst'

/-- Some label of the trace is a `start`, and every label after it a `keep`. -/
def Since (start keep : α → Prop) (tr : List α) : Prop :=
  ∃ before a after, tr = before ++ a :: after ∧ start a ∧ ∀ b ∈ after, keep b

@[simp] theorem not_since_nil {start keep : α → Prop} : ¬ Since start keep [] := by
  simp [Since]

theorem since_snoc {start keep : α → Prop} {tr : List α} {b : α} :
    Since start keep (tr ++ [b]) ↔ start b ∨ Since start keep tr ∧ keep b := by
  constructor
  · rintro ⟨before, a, after, htr, ha, hafter⟩
    induction after using List.reverseRecOn with
    | nil =>
        obtain ⟨-, rfl⟩ := List.append_singleton_inj.mp htr
        exact .inl ha
    | append_singleton after c =>
        rw [← List.cons_append, ← List.append_assoc] at htr
        obtain ⟨rfl, rfl⟩ := List.append_singleton_inj.mp htr
        exact .inr ⟨⟨before, a, after, rfl, ha, fun d hd => hafter d (List.mem_append_left _ hd)⟩,
          hafter b (by simp)⟩
  · rintro (hb | ⟨⟨before, a, after, rfl, ha, hafter⟩, hb⟩)
    · exact ⟨tr, b, [], rfl, hb, by simp⟩
    · refine ⟨before, a, after ++ [b], by simp, ha, fun d hd => ?_⟩
      rcases List.mem_append.mp hd with hd | hd
      · exact hafter d hd
      · rw [List.mem_singleton.mp hd]
        exact hb

/-- What a trace shows, with one more label. -/
theorem filterMap_snoc {β : Type*} (f : α → Option β) (tr : List α) (a : α) :
    (tr ++ [a]).filterMap f = tr.filterMap f ++ (f a).toList := by
  rw [List.filterMap_append]
  cases h : f a with
  | none => simp [h]
  | some b => simp [h]

/-- A part of the state makes a run of its own of the labels that concern it. -/
theorem Run.part {τ β : Type} {U : Lts τ β} {f : σ → τ} {g : α → Option β}
    (hmoves : ∀ s a t b, T.step s a t → g a = some b → U.step (f s) b (f t))
    (hstays : ∀ s a t, T.step s a t → g a = none → f t = f s) {s t : σ} {tr : List α}
    (h : T.Run s tr t) : U.Run (f s) (tr.filterMap g) (f t) := by
  induction h with
  | nil => exact .nil
  | snoc hrun hst ih =>
      rename_i tr u a t
      rw [filterMap_snoc]
      cases hg : g a with
      | none =>
          rw [hstays _ _ _ hst hg]
          simpa using ih
      | some b => exact ih.snoc (hmoves _ _ _ b hst hg)

end Lts
