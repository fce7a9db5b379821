import Mathlib.Data.List.DropRight
import Mathlib.Data.List.Nodup

/-!
# Append-only logs with an automatic row id

A log is a table whose integer primary key is assigned by the database: a new
row gets the id after the largest one ever used, so the rows stand in id order
and an id is never reused, even after rows are deleted. `trim` is the bounded
history idiom: of the rows a predicate selects, delete all but the newest few. A log
that is trimmed after every insert holds the newest rows of each kind (`select_record`).
-/

/-- Rows with their ids, in id order, below the largest id ever assigned. -/
structure AutoLog (ρ : Type) where
  lastId : Nat
  rows : List (Nat × ρ)
  sorted : rows.Pairwise fun a b => a.1 < b.1
  bounded : ∀ r ∈ rows, r.1 ≤ lastId

namespace AutoLog

variable {ρ : Type}

/-- The log with no row and no id used. -/
def empty : AutoLog ρ := ⟨0, [], List.Pairwise.nil, by simp⟩

/-- Append a row under the next id. -/
def insert (l : AutoLog ρ) (r : ρ) : AutoLog ρ where
  lastId := l.lastId + 1
  rows := l.rows ++ [(l.lastId + 1, r)]
  sorted := by
    rw [List.pairwise_append]
    refine ⟨l.sorted, List.pairwise_singleton _ _, ?_⟩
    intro a ha b hb
    rw [List.mem_singleton] at hb
    rw [hb]
    exact Nat.lt_succ_of_le (l.bounded a ha)
  bounded := by
    intro a ha
    rcases List.mem_append.mp ha with ha | ha
    · exact Nat.le_succ_of_le (l.bounded a ha)
    · rw [List.mem_singleton] at ha
      exact Nat.le_of_eq (congrArg Prod.fst ha)

/-- The ids `trim` deletes: newest first, everything after the first `keep`
rows that `p` selects. -/
def trimmed (l : AutoLog ρ) (p : ρ → Bool) (keep : Nat) : List Nat :=
  ((l.rows.filter fun r => p r.2).reverse.drop keep).map Prod.fst

/-- Of the rows `p` selects, keep the `keep` newest. -/
def trim (l : AutoLog ρ) (p : ρ → Bool) (keep : Nat) : AutoLog ρ where
  lastId := l.lastId
  rows := l.rows.filter fun r => r.1 ∉ l.trimmed p keep
  sorted := l.sorted.sublist List.filter_sublist
  bounded := fun r hr => l.bounded r (List.mem_of_mem_filter hr)

/-- The rows of a kind, oldest first, without their ids. -/
def select (l : AutoLog ρ) (p : ρ → Bool) : List ρ :=
  (l.rows.filter fun r => p r.2).map Prod.snd

/-! ## Bounded histories -/

section

variable {l : AutoLog ρ} {p q : ρ → Bool} {r : ρ} {keep : Nat}

/-- An id belongs to one row. -/
theorem eq_of_id_eq {a b : Nat × ρ} (ha : a ∈ l.rows) (hb : b ∈ l.rows) (hid : a.1 = b.1) :
    a = b := by
  have hnodup : (l.rows.map Prod.fst).Nodup := by
    rw [List.Nodup, List.pairwise_map]
    exact l.sorted.imp Nat.ne_of_lt
  exact List.inj_on_of_nodup_map hnodup ha hb hid

theorem mem_trimmed {id : Nat} (h : id ∈ l.trimmed p keep) :
    ∃ a ∈ l.rows, p a.2 = true ∧ a.1 = id := by
  obtain ⟨a, ha, hid⟩ := List.mem_map.mp h
  obtain ⟨hmem, hp⟩ := List.mem_filter.mp (List.mem_reverse.mp (List.mem_of_mem_drop ha))
  exact ⟨a, hmem, hp, hid⟩

/-- Trimming leaves the rows of another kind alone. -/
theorem filter_trim_of_disjoint (h : ∀ a, q a = true → p a = false) :
    (l.trim p keep).rows.filter (fun a => q a.2) = l.rows.filter fun a => q a.2 := by
  show (l.rows.filter _).filter _ = _
  rw [List.filter_filter]
  refine List.filter_congr fun a ha => ?_
  cases hq : q a.2 with
  | false => rfl
  | true =>
      have hkept : a.1 ∉ l.trimmed p keep := by
        intro hmem
        obtain ⟨b, hb, hp, hid⟩ := mem_trimmed hmem
        rw [eq_of_id_eq hb ha hid, h _ hq] at hp
        cases hp
      simp [hkept]

theorem filter_drop_ids {rows : List (Nat × ρ)} (hids : (rows.map Prod.fst).Nodup) (k : Nat) :
    rows.filter (fun a => a.1 ∉ (rows.take k).map Prod.fst) = rows.drop k := by
  have hsplit := List.take_append_drop k rows
  rw [← hsplit, List.map_append, List.nodup_append] at hids
  calc rows.filter (fun a => a.1 ∉ (rows.take k).map Prod.fst)
      = (rows.take k ++ rows.drop k).filter fun a => a.1 ∉ (rows.take k).map Prod.fst := by
        rw [hsplit]
    _ = rows.drop k := by
        rw [List.filter_append, List.filter_eq_nil_iff.mpr, List.filter_eq_self.mpr,
          List.nil_append]
        · intro a ha
          rw [decide_eq_true_eq]
          intro hmem
          exact hids.2.2 _ hmem _ (List.mem_map_of_mem ha) rfl
        · intro a ha
          simpa using List.mem_map_of_mem ha

/-- Of its own kind it leaves the newest. -/
theorem filter_trim (l : AutoLog ρ) (p : ρ → Bool) (keep : Nat) :
    (l.trim p keep).rows.filter (fun a => p a.2) =
      (l.rows.filter fun a => p a.2).rtake keep := by
  have hcomm : (l.trim p keep).rows.filter (fun a => p a.2) =
      (l.rows.filter fun a => p a.2).filter fun a => a.1 ∉ l.trimmed p keep :=
    List.filter_comm ..
  have hids : ((l.rows.filter fun a => p a.2).map Prod.fst).Nodup := by
    rw [List.Nodup, List.pairwise_map]
    exact (l.sorted.sublist List.filter_sublist).imp Nat.ne_of_lt
  rw [hcomm]
  unfold trimmed List.rtake
  rw [List.drop_reverse, List.map_reverse, ← filter_drop_ids hids]
  simp

theorem filter_insert (l : AutoLog ρ) (r : ρ) (q : ρ → Bool) :
    (l.insert r).rows.filter (fun a => q a.2) =
      l.rows.filter (fun a => q a.2) ++ if q r then [(l.lastId + 1, r)] else [] := by
  show (l.rows ++ [(l.lastId + 1, r)]).filter _ = _
  rw [List.filter_append]
  cases hq : q r <;> simp [hq]

/-- Recording a row of one kind leaves the rows of another alone. -/
theorem filter_record_of_disjoint (h : ∀ a, q a = true → p a = false) (hr : q r = false) :
    ((l.insert r).trim p keep).rows.filter (fun a => q a.2) =
      l.rows.filter fun a => q a.2 := by
  rw [filter_trim_of_disjoint h, filter_insert, hr]
  simp

theorem rtake_rtake_append_singleton {α : Type} (xs : List α) (x : α) (n : Nat) :
    (xs.rtake n ++ [x]).rtake n = (xs ++ [x]).rtake n := by
  cases n with
  | zero => simp
  | succ n =>
      rw [List.rtake_concat_succ, List.rtake_concat_succ]
      congr 1
      simp [List.rtake_eq_reverse_take_reverse, List.take_take]

/-- A log that holds the newest rows of a kind does so after one more. -/
theorem select_record {history : List ρ} (h : l.select p = history.rtake keep)
    (hr : p r = true) :
    ((l.insert r).trim p keep).select p = (history ++ [r]).rtake keep := by
  have hmap (xs : List (Nat × ρ)) : (xs.rtake keep).map Prod.snd =
      (xs.map Prod.snd).rtake keep := by
    simp [List.rtake, List.map_drop]
  rw [← rtake_rtake_append_singleton, ← h]
  unfold select
  rw [filter_trim, hmap, filter_insert, hr]
  simp

end

end AutoLog
