import Mathlib.Data.List.Nodup

/-!
# Tables with a primary key

A table is a list of rows in insertion order together with the proof that no
two rows share their key, so the uniqueness a database enforces on a primary
key is part of the type. The statements a program can issue are here as total
functions: keyed lookup (`find?`), insertion that a taken key refuses
(`insert?`), `upsert`, and the row update of a `WHERE` clause (`updateWhere`,
with the number of rows it touches, `affected`).

Everything a client needs is a statement about `find?` after one of these
operations, or about the list of rows itself.
-/

/-- Rows in insertion order, at most one for each key. -/
@[ext] structure KeyedTable {ρ κ : Type} (key : ρ → κ) where
  rows : List ρ
  nodup : (rows.map key).Nodup

namespace KeyedTable

variable {ρ κ : Type} {key : ρ → κ}

/-- The table with no row. -/
def empty : KeyedTable key := ⟨[], List.nodup_nil⟩

section Ops

variable [DecidableEq κ]

/-- The row with key `k`. -/
def find? (t : KeyedTable key) (k : κ) : Option ρ :=
  t.rows.find? fun r => key r = k

/-- Insert a row; a taken key refuses it. -/
def insert? (t : KeyedTable key) (r : ρ) : Option (KeyedTable key) :=
  if h : key r ∈ t.rows.map key then none
  else some ⟨t.rows ++ [r], by
    rw [List.map_append, List.map_singleton]
    exact List.nodup_append.mpr ⟨t.nodup, List.nodup_singleton _, by
      intro a ha b hb hab
      rw [List.mem_singleton] at hb
      exact h (hb ▸ hab ▸ ha)⟩⟩

/-- Rewrite the rows that satisfy `p`; the key column is not written. -/
def updateWhere (t : KeyedTable key) (p : ρ → Bool) (f : ρ → ρ)
    (hf : ∀ r, p r = true → key (f r) = key r) : KeyedTable key :=
  ⟨t.rows.map fun r => if p r then f r else r, by
    have hkeys : (t.rows.map fun r => if p r then f r else r).map key = t.rows.map key := by
      rw [List.map_map]
      apply List.map_congr_left
      intro r _
      by_cases hp : p r = true
      · simp [hp, hf r hp]
      · simp [hp]
    rw [hkeys]
    exact t.nodup⟩

/-- How many rows a `WHERE` clause selects. -/
def affected (t : KeyedTable key) (p : ρ → Bool) : Nat := t.rows.countP p

/-- Insert a row, or overwrite the one that has its key. -/
def upsert (t : KeyedTable key) (r : ρ) : KeyedTable key :=
  match t.insert? r with
  | some t' => t'
  | none => t.updateWhere (fun r' => key r' = key r) (fun _ => r) (by simp_all)

/-- The table without the row that has key `k`. -/
def erase (t : KeyedTable key) (k : κ) : KeyedTable key :=
  ⟨t.rows.filter fun r => key r ≠ k, t.nodup.sublist (List.filter_sublist.map key)⟩

/-! ## Lookup -/

theorem find?_eq_some_iff {t : KeyedTable key} {k : κ} {r : ρ} :
    t.find? k = some r ↔ r ∈ t.rows ∧ key r = k := by
  unfold find?
  constructor
  · intro h
    exact ⟨List.mem_of_find?_eq_some h, by simpa using List.find?_some h⟩
  · rintro ⟨hmem, rfl⟩
    cases hfind : t.rows.find? (fun r' => key r' = key r) with
    | none => exact absurd (List.find?_eq_none.mp hfind r hmem) (by simp)
    | some r' =>
        have hkey : key r' = key r := by simpa using List.find?_some hfind
        have heq : r' = r :=
          List.inj_on_of_nodup_map t.nodup (List.mem_of_find?_eq_some hfind) hmem hkey
        rw [heq]

theorem find?_eq_none_iff {t : KeyedTable key} {k : κ} :
    t.find? k = none ↔ ∀ r ∈ t.rows, key r ≠ k := by
  simp [find?]

theorem mem_of_find? {t : KeyedTable key} {k : κ} {r : ρ} (h : t.find? k = some r) :
    r ∈ t.rows := (find?_eq_some_iff.mp h).1

theorem key_of_find? {t : KeyedTable key} {k : κ} {r : ρ} (h : t.find? k = some r) :
    key r = k := (find?_eq_some_iff.mp h).2

theorem find?_of_mem {t : KeyedTable key} {r : ρ} (h : r ∈ t.rows) :
    t.find? (key r) = some r := find?_eq_some_iff.mpr ⟨h, rfl⟩

omit [DecidableEq κ] in
/-- Two rows of a table with the same key are the same row. -/
theorem eq_of_key_eq {t : KeyedTable key} {r r' : ρ} (h : r ∈ t.rows) (h' : r' ∈ t.rows)
    (hkey : key r = key r') : r = r' :=
  List.inj_on_of_nodup_map t.nodup h h' hkey

/-! ## Insertion -/

theorem insert?_eq_some_iff {t t' : KeyedTable key} {r : ρ} :
    t.insert? r = some t' ↔ t.find? (key r) = none ∧ t'.rows = t.rows ++ [r] := by
  unfold insert?
  by_cases h : key r ∈ t.rows.map key
  · simp only [h, dite_true, reduceCtorEq, false_iff, not_and]
    intro hnone
    obtain ⟨r', hr', hkey⟩ := List.mem_map.mp h
    exact absurd hkey (find?_eq_none_iff.mp hnone r' hr')
  · have hnone : t.find? (key r) = none := by
      rw [find?_eq_none_iff]
      intro r' hr' hkey
      exact h (hkey ▸ List.mem_map_of_mem hr')
    simp only [h, dite_false, Option.some.injEq, hnone, true_and]
    constructor
    · intro heq
      rw [← heq]
    · intro heq
      exact KeyedTable.ext heq.symm

/-- A new key is not refused. -/
theorem insert?_of_new {t : KeyedTable key} {r : ρ} (h : t.find? (key r) = none) :
    ∃ t', t.insert? r = some t' := by
  unfold insert?
  split
  · rename_i htaken
    obtain ⟨r', hr', hkey⟩ := List.mem_map.mp htaken
    exact absurd hkey (find?_eq_none_iff.mp h r' hr')
  · exact ⟨_, rfl⟩

/-- A taken key is refused. -/
theorem insert?_of_taken {t : KeyedTable key} {r r' : ρ} (h : t.find? (key r) = some r') :
    t.insert? r = none := by
  cases hins : t.insert? r with
  | none => rfl
  | some t' =>
      have hnone := (insert?_eq_some_iff.mp hins).1
      rw [h] at hnone
      cases hnone

/-- Lookup after one more row. -/
theorem find?_append {t t' : KeyedTable key} {r : ρ} (hrows : t'.rows = t.rows ++ [r])
    (k : κ) : t'.find? k = if key r = k then some r else t.find? k := by
  by_cases hk : key r = k
  · rw [if_pos hk, find?_eq_some_iff, hrows]
    exact ⟨by simp, hk⟩
  · rw [if_neg hk]
    simp [find?, hrows, hk]

/-- A row could only be appended under a key that was new. -/
theorem find?_eq_none_of_append {t t' : KeyedTable key} {r : ρ}
    (hrows : t'.rows = t.rows ++ [r]) : t.find? (key r) = none := by
  rw [find?_eq_none_iff]
  intro r' hr' hkey
  have hnodup := t'.nodup
  rw [hrows, List.map_append, List.nodup_append] at hnodup
  exact hnodup.2.2 _ (List.mem_map_of_mem hr') _ (List.mem_map_of_mem (List.mem_singleton.mpr rfl))
    hkey

/-! ## Updates -/

omit [DecidableEq κ] in
@[simp] theorem rows_updateWhere (t : KeyedTable key) (p : ρ → Bool) (f : ρ → ρ)
    (hf : ∀ r, p r = true → key (f r) = key r) :
    (t.updateWhere p f hf).rows = t.rows.map fun r => if p r then f r else r := rfl

/-- Lookup after a row update. -/
theorem find?_updateWhere (t : KeyedTable key) (p : ρ → Bool) (f : ρ → ρ)
    (hf : ∀ r, p r = true → key (f r) = key r) (k : κ) :
    (t.updateWhere p f hf).find? k = (t.find? k).map fun r => if p r then f r else r := by
  have hkey : ∀ r, key (if p r then f r else r) = key r := by
    intro r
    by_cases hp : p r = true
    · simp [hp, hf r hp]
    · simp [hp]
  simp only [find?, rows_updateWhere, List.find?_map]
  congr 1
  apply congrArg (fun q => List.find? q t.rows)
  funext r
  simp [hkey r]

/-- A clause `key = k AND q` selects the row with key `k` when it satisfies `q`,
and nothing else. -/
theorem affected_key (t : KeyedTable key) (k : κ) (q : ρ → Bool) :
    t.affected (fun r => decide (key r = k) && q r) =
      match t.find? k with
      | some r => if q r then 1 else 0
      | none => 0 := by
  unfold affected
  cases hfind : t.find? k with
  | none =>
      rw [List.countP_eq_zero]
      intro r hr
      simp [find?_eq_none_iff.mp hfind r hr]
  | some r =>
      obtain ⟨hmem, rfl⟩ := find?_eq_some_iff.mp hfind
      -- every other row has another key, so the count is that of `r` alone
      have hcount : t.rows.countP (fun r' => decide (key r' = key r) && q r') =
          if q r then (t.rows.map key).count (key r) else 0 := by
        by_cases hq : q r = true
        · rw [if_pos hq, List.count, List.countP_map]
          apply List.countP_congr
          intro r' hr'
          by_cases hkey : key r' = key r
          · simp [eq_of_key_eq hr' hmem hkey, hq]
          · simp [hkey]
        · rw [if_neg hq, List.countP_eq_zero]
          intro r' hr'
          by_cases hkey : key r' = key r
          · simp [eq_of_key_eq hr' hmem hkey, hq]
          · simp [hkey]
      rw [hcount, List.count_eq_one_of_mem t.nodup (List.mem_map_of_mem hmem)]

/-- Lookup after an upsert. -/
theorem find?_upsert (t : KeyedTable key) (r : ρ) (k : κ) :
    (t.upsert r).find? k = if key r = k then some r else t.find? k := by
  unfold upsert
  cases hins : t.insert? r with
  | some t' => exact find?_append (insert?_eq_some_iff.mp hins).2 k
  | none =>
      -- the key is taken: the row that has it is overwritten
      have htaken : key r ∈ t.rows.map key := by
        unfold insert? at hins
        split at hins
        · assumption
        · cases hins
      obtain ⟨r', hr', hkey⟩ := List.mem_map.mp htaken
      simp only [find?_updateWhere]
      by_cases hk : key r = k
      · rw [if_pos hk]
        have hfind : t.find? k = some r' := find?_eq_some_iff.mpr ⟨hr', hkey.trans hk⟩
        simp [hfind, hkey]
      · rw [if_neg hk]
        cases hfind : t.find? k with
        | none => rfl
        | some r'' =>
            have : key r'' ≠ key r := by
              rw [key_of_find? hfind]
              exact fun h => hk h.symm
            simp [this]

/-- The number of rows after an upsert. -/
theorem length_upsert (t : KeyedTable key) (r : ρ) :
    (t.upsert r).rows.length =
      if t.find? (key r) = none then t.rows.length + 1 else t.rows.length := by
  unfold upsert
  cases hins : t.insert? r with
  | some t' =>
      obtain ⟨hnone, hrows⟩ := insert?_eq_some_iff.mp hins
      simp [hnone, hrows]
  | none =>
      have htaken : t.find? (key r) ≠ none := by
        intro hnone
        obtain ⟨t', ht'⟩ := insert?_of_new hnone
        rw [hins] at ht'
        cases ht'
      rw [if_neg htaken]
      simp

/-- Lookup after a row was removed. -/
theorem find?_erase (t : KeyedTable key) (k k' : κ) :
    (t.erase k).find? k' = if k = k' then none else t.find? k' := by
  by_cases hk : k = k'
  · rw [if_pos hk, find?_eq_none_iff]
    intro r hr
    have hne := (List.mem_filter.mp hr).2
    simpa [hk] using hne
  · rw [if_neg hk]
    unfold find? erase
    rw [List.find?_filter]
    congr 1
    funext r
    by_cases hr : key r = k'
    · simp [hr, Ne.symm hk]
    · simp [hr]

/-! ## One row changed -/

/-- `t'` is `t` with `r` under the key `k`, whether or not `t` had a row there. -/
def Puts (t : KeyedTable key) (k : κ) (r : ρ) (t' : KeyedTable key) : Prop :=
  ∀ k', t'.find? k' = if k = k' then some r else t.find? k'

theorem Puts.self {t t' : KeyedTable key} {k : κ} {r : ρ} (h : t.Puts k r t') :
    t'.find? k = some r := by
  rw [h k, if_pos rfl]

theorem Puts.other {t t' : KeyedTable key} {k k' : κ} {r : ρ} (h : t.Puts k r t')
    (hne : k ≠ k') : t'.find? k' = t.find? k' := by
  rw [h k', if_neg hne]

/-- What holds of every row and of the row put holds of every row after. -/
theorem Puts.all {t t' : KeyedTable key} {k : κ} {r : ρ} (h : t.Puts k r t') {P : ρ → Prop}
    (hold : ∀ k' x, t.find? k' = some x → P x) (hnew : P r) :
    ∀ k' x, t'.find? k' = some x → P x := by
  intro k' x hx
  by_cases hk : k = k'
  · subst hk
    cases h.self.symm.trans hx
    exact hnew
  · exact hold k' x ((h.other hk).symm.trans hx)

/-- A row put into a table with no other keys is the only one. -/
theorem Puts.rows_eq {t t' : KeyedTable key} {k : κ} {r : ρ} (h : t.Puts k r t')
    (hempty : ∀ k', k ≠ k' → t.find? k' = none) : t'.rows = [r] := by
  have honly : ∀ x ∈ t'.rows, x = r := by
    intro x hx
    have hfind := find?_of_mem hx
    by_cases hk : k = key x
    · rw [← hk, h.self] at hfind
      exact (Option.some.inj hfind).symm
    · rw [h.other hk, hempty _ hk] at hfind
      cases hfind
  have hmem := mem_of_find? h.self
  have hnodup := List.Nodup.of_map key t'.nodup
  cases hrows : t'.rows with
  | nil =>
      rw [hrows] at hmem
      cases hmem
  | cons x xs =>
      cases xs with
      | nil => rw [honly x (by simp [hrows])]
      | cons y ys =>
          -- a second row would be a second copy
          rw [hrows, honly x (by simp [hrows]), honly y (by simp [hrows])] at hnodup
          simp at hnodup

/-- A property of the row under a key, after one row changed. -/
theorem Puts.exists_iff {t t' : KeyedTable key} {k : κ} {r : ρ} (h : t.Puts k r t')
    (P : ρ → Prop) (k' : κ) :
    (∃ x, t'.find? k' = some x ∧ P x) ↔
      if k = k' then P r else ∃ x, t.find? k' = some x ∧ P x := by
  by_cases hk : k = k'
  · subst hk
    rw [if_pos rfl, h.self]
    simp
  · rw [if_neg hk, h.other hk]

/-- The clause `key = k AND q` on a table whose row under `k` satisfies `q`. -/
theorem puts_updateWhere {t : KeyedTable key} {k : κ} {q : ρ → Bool} {f : ρ → ρ} {r : ρ}
    (hf : ∀ r, (decide (key r = k) && q r) = true → key (f r) = key r)
    (hfind : t.find? k = some r) (hq : q r = true) :
    t.Puts k (f r) (t.updateWhere (fun r => decide (key r = k) && q r) f hf) := by
  intro k'
  rw [find?_updateWhere]
  by_cases hk : k = k'
  · subst hk
    simp [hfind, key_of_find? hfind, hq]
  · rw [if_neg hk]
    cases hfind' : t.find? k' with
    | none => rfl
    | some r' =>
        have hkey : key r' ≠ k := by
          rw [key_of_find? hfind']
          exact fun h => hk h.symm
        simp [hkey]

end Ops

end KeyedTable
