import Mathlib
import CraftRelay.Lib.Dominance
import CraftRelay.Lib.Joined
import CraftRelay.Lib.KeyedTable
import CraftRelay.Client.ProjectionBytes

/-!
# Comparing barrier vectors

`BarrierVectorComparison.java`: four versions and the sets of partitions have to be the
same, then the offsets are compared one by one. The comparison is the verdict of the
product order on the offsets, whatever order the entries of a `HashMap` come in.
-/

namespace CraftRelay.Client

/-! ## The keys -/

/-- A number that is not negative is written in digits. -/
theorem digits_of_nonneg {n : Int} (h : 0 ≤ n) :
    ∀ u ∈ JavaString.ofString (toString n), Ascii.isDigit u.toNat = true := by
  obtain ⟨m, rfl⟩ := Int.eq_ofNat_of_zero_le h
  have hchars : ∀ c ∈ (toString (m : Int)).toList, Ascii.isDigit c.toNat = true := by
    intro c hc
    have hdigits : (toString (m : Int)).toList = Nat.toDigits 10 m := Nat.toList_repr
    rw [hdigits] at hc
    have hdigit := Nat.isDigit_of_mem_toDigits (by decide) (by decide) hc
    simp only [Char.isDigit, Bool.and_eq_true, decide_eq_true_eq, ge_iff_le,
      UInt32.le_iff_toNat_le] at hdigit
    exact Ascii.isDigit_iff.mpr hdigit
  rw [← List.all_eq_true, JavaString.all_ofString
    (JavaString.oneUnit_of_narrow Ascii.narrow_isDigit), List.all_eq_true]
  exact hchars

theorem PartitionBarrier.partition_nonneg (p : PartitionBarrier) : 0 ≤ p.partition.toInt := by
  have h := p.constructed
  unfold checkPartitionBarrier at h
  rw [boundedText_bind, Except.refuseIf_eq_ok_iff, not_or] at h
  omega

/-- The last zero of the text ends the topic, whatever the topic contains. -/
theorem PartitionBarrier.text_eq_iff {p q : PartitionBarrier} :
    p.text = q.text ↔ p.topic = q.topic ∧ p.partition = q.partition := by
  have hno : ∀ {x y : PartitionBarrier} {t : JavaString},
      ¬ Joined.Shifted (0 : UInt16) t (JavaString.ofString (toString x.partition.toInt)) y.topic
        (JavaString.ofString (toString y.partition.toInt)) := by
    intro x y t ⟨w, _, hw⟩
    have hzero : (0 : UInt16) ∈ JavaString.ofString (toString y.partition.toInt) := by
      rw [hw]
      simp
    have hdigit := digits_of_nonneg y.partition_nonneg _ hzero
    exact absurd hdigit (by decide)
  unfold text
  rw [List.append_assoc, List.append_assoc, List.singleton_append, List.singleton_append]
  constructor
  · intro h
    obtain ⟨htopic, hnumber⟩ := Joined.eq_of_pair_iff.mpr ⟨hno, hno⟩ h
    refine ⟨htopic, Int32.toInt_inj.mp ?_⟩
    exact Int.repr_injective (JavaString.ofString_injective hnumber)
  · intro ⟨htopic, hpartition⟩
    rw [htopic, hpartition]

namespace BarrierVectorComparison

open Dominance

/-! ## The code -/

/-- `Result`. -/
abbrev Result := Verdict

/-- A `HashMap<String, Long>`. -/
abbrev Offsets := KeyedTable (Prod.fst : JavaString × Int64 → JavaString)

def offsets (barrier : ProjectionBarrier) : Offsets :=
  barrier.partitions.foldl
    (fun values partition => values.upsert (partition.text, partition.requiredNextOffset)) .empty

/-- `get`, where `none` is `null`. -/
def get (values : Offsets) (key : JavaString) : Option Int64 := (values.find? key).map Prod.snd

/-- `equals` of two key sets. -/
def keySetsEqual (a b : Offsets) : Prop :=
  a.rows.length = b.rows.length ∧ ∀ key ∈ b.rows.map Prod.fst, key ∈ a.rows.map Prod.fst

instance (a b : Offsets) : Decidable (keySetsEqual a b) := inferInstanceAs (Decidable (_ ∧ _))

/-- The order the entries of a map are walked in, whatever it is. -/
structure EntryOrder where
  walk : List (JavaString × Int64) → List (JavaString × Int64)
  perm : ∀ entries, (walk entries).Perm entries

/-- The loop. `none` is the exception for a `null` that is unboxed. -/
def compareOffsets (newOffsets : Offsets) : List (JavaString × Int64) → Bool → Option Result
  | [], advanced => some (if advanced then .advanced else .equal)
  | (key, offset) :: rest, advanced =>
      match get newOffsets key with
      | none => none
      | some nextOffset =>
          if nextOffset < offset then some .conflict
          else compareOffsets newOffsets rest (advanced || decide (offset < nextOffset))

def compare (order : EntryOrder) (previous next : ProjectionBarrier) : Option Result :=
  if previous.barrierVersion ≠ next.barrierVersion ∨
      previous.queryDefinitionVersion ≠ next.queryDefinitionVersion ∨
      previous.projectionTopologyVersion ≠ next.projectionTopologyVersion ∨
      previous.routingVersion ≠ next.routingVersion then
    some .incomparable
  else if ¬ keySetsEqual (offsets previous) (offsets next) then some .incomparable
  else compareOffsets (offsets next) (order.walk (offsets previous).rows) false

/-! ## Maps -/

theorem get_eq_some_iff {values : Offsets} {key : JavaString} {offset : Int64} :
    get values key = some offset ↔ (key, offset) ∈ values.rows := by
  unfold get
  rw [Option.map_eq_some_iff]
  constructor
  · intro ⟨entry, hfind, hoffset⟩
    obtain ⟨hmem, hkey⟩ := KeyedTable.find?_eq_some_iff.mp hfind
    rw [← hkey, ← hoffset]
    exact hmem
  · intro hmem
    exact ⟨_, KeyedTable.find?_eq_some_iff.mpr ⟨hmem, rfl⟩, rfl⟩

theorem isSome_get_iff {values : Offsets} {key : JavaString} :
    (get values key).isSome = true ↔ key ∈ values.rows.map Prod.fst := by
  rw [Option.isSome_iff_exists, List.mem_map]
  simp only [get_eq_some_iff]
  constructor
  · intro ⟨offset, hmem⟩
    exact ⟨_, hmem, rfl⟩
  · intro ⟨entry, hmem, hkey⟩
    subst hkey
    exact ⟨entry.2, hmem⟩

/-- Sets of the same size are equal when one contains the other. -/
theorem keySetsEqual_iff {a b : Offsets} :
    keySetsEqual a b ↔ ∀ key, (get a key).isSome = (get b key).isSome := by
  have hkeys : (∀ key, (get a key).isSome = (get b key).isSome) ↔
      ∀ key, key ∈ b.rows.map Prod.fst ↔ key ∈ a.rows.map Prod.fst := by
    refine forall_congr' fun key => ?_
    rw [Bool.eq_iff_iff, isSome_get_iff, isSome_get_iff]
    exact Iff.comm
  rw [hkeys]
  constructor
  · intro ⟨hlength, hsub⟩
    have hperm : (b.rows.map Prod.fst).Perm (a.rows.map Prod.fst) := by
      apply (List.subperm_of_subset b.nodup hsub).perm_of_length_le
      rw [List.length_map, List.length_map]
      omega
    exact fun key => hperm.mem_iff
  · intro h
    have hperm := (List.perm_ext_iff_of_nodup b.nodup a.nodup).mpr h
    refine ⟨?_, fun key => (h key).mp⟩
    have hlength := hperm.length_eq
    rw [List.length_map, List.length_map] at hlength
    exact hlength.symm

theorem mem_keys_upserts {ps : List PartitionBarrier} {values : Offsets} {key : JavaString} :
    (get (ps.foldl (fun values p => values.upsert (p.text, p.requiredNextOffset)) values)
        key).isSome = true ↔
      key ∈ ps.map PartitionBarrier.text ∨ (get values key).isSome = true := by
  induction ps generalizing values with
  | nil => simp
  | cons p ps ih =>
      rw [List.foldl_cons, ih, List.map_cons, List.mem_cons]
      unfold get
      rw [KeyedTable.find?_upsert]
      by_cases hkey : p.text = key
      · simp [hkey]
      · simp [hkey, Ne.symm hkey]

/-- The keys are the texts of the partitions. -/
theorem isSome_get_offsets {barrier : ProjectionBarrier} {key : JavaString} :
    (get (offsets barrier) key).isSome = true ↔
      key ∈ barrier.partitions.map PartitionBarrier.text := by
  unfold offsets
  rw [mem_keys_upserts]
  simp [get, KeyedTable.find?, KeyedTable.empty]

/-! ## The loop -/

section Loop

variable {newOffsets : Offsets} {entries : List (JavaString × Int64)} {advanced : Bool}

/-- An offset that went back ends the loop, at whatever entry it is. -/
theorem compareOffsets_of_lt (hkeys : ∀ entry ∈ entries, ∃ n, get newOffsets entry.1 = some n)
    (hback : ∃ entry ∈ entries, ∃ n, get newOffsets entry.1 = some n ∧ n < entry.2) :
    compareOffsets newOffsets entries advanced = some .conflict := by
  induction entries generalizing advanced with
  | nil =>
      obtain ⟨_, hmem, _⟩ := hback
      cases hmem
  | cons entry rest ih =>
      obtain ⟨n, hn⟩ := hkeys entry List.mem_cons_self
      simp only [compareOffsets, hn]
      split
      · rfl
      · rename_i hle
        apply ih fun e he => hkeys e (List.mem_cons_of_mem entry he)
        obtain ⟨e, he, m, hm, hlt⟩ := hback
        rcases List.mem_cons.mp he with rfl | he
        · rw [hn] at hm
          cases hm
          exact absurd hlt hle
        · exact ⟨e, he, m, hm, hlt⟩

/-- Otherwise all entries are walked, and the vector has advanced when one of them has. -/
theorem compareOffsets_of_le
    (hle : ∀ entry ∈ entries, ∃ n, get newOffsets entry.1 = some n ∧ entry.2 ≤ n) :
    compareOffsets newOffsets entries advanced =
      some (if advanced = true ∨ ∃ entry ∈ entries, get newOffsets entry.1 ≠ some entry.2
        then .advanced else .equal) := by
  induction entries generalizing advanced with
  | nil => simp [compareOffsets]
  | cons entry rest ih =>
      obtain ⟨n, hn, hentry⟩ := hle entry List.mem_cons_self
      have hmoved : entry.2 < n ↔ n ≠ entry.2 := by
        rw [Int64.lt_iff_toInt_lt, ne_eq, ← Int64.toInt_inj]
        rw [Int64.le_iff_toInt_le] at hentry
        omega
      have hcond : ((advanced || decide (entry.2 < n)) = true ∨
          ∃ e ∈ rest, get newOffsets e.1 ≠ some e.2) ↔
          advanced = true ∨ ∃ e ∈ entry :: rest, get newOffsets e.1 ≠ some e.2 := by
        rw [Bool.or_eq_true, decide_eq_true_eq, hmoved, or_assoc]
        simp only [List.mem_cons, exists_eq_or_imp, hn, ne_eq, Option.some.injEq]
      simp only [compareOffsets, hn]
      rw [if_neg (Int64.not_lt.mpr hentry), ih fun e he => hle e (List.mem_cons_of_mem entry he)]
      exact congrArg some (if_congr hcond rfl rfl)

end Loop

/-! ## The vector of a barrier -/

/-- What is compared of a barrier: the offsets under the texts of their partitions, and the
four versions. -/
def vector (barrier : ProjectionBarrier) :
    ScopedVector (Int32 × Int32 × Int64 × Int64) JavaString Int where
  scope := (barrier.barrierVersion, barrier.queryDefinitionVersion,
    barrier.projectionTopologyVersion, barrier.routingVersion)
  entry key := (get (offsets barrier) key).map Int64.toInt

variable {a b : ProjectionBarrier}

theorem related_iff :
    (vector a).Related (vector b) ↔
      (a.barrierVersion = b.barrierVersion ∧
        a.queryDefinitionVersion = b.queryDefinitionVersion ∧
        a.projectionTopologyVersion = b.projectionTopologyVersion ∧
        a.routingVersion = b.routingVersion) ∧
      keySetsEqual (offsets a) (offsets b) := by
  rw [keySetsEqual_iff]
  unfold ScopedVector.Related vector
  simp only [Prod.mk.injEq, Option.isSome_map]

theorem vector_le_iff (h : (vector a).Related (vector b)) :
    vector a ≤ vector b ↔
      ∀ entry ∈ (offsets a).rows, ∃ n, get (offsets b) entry.1 = some n ∧ entry.2 ≤ n := by
  rw [ScopedVector.le_def]
  constructor
  · intro ⟨_, hle⟩ entry hentry
    have hold : (vector a).entry entry.1 = some entry.2.toInt := by
      simp [vector, get_eq_some_iff.mpr hentry]
    obtain ⟨y, hy⟩ := h.exists_entry hold
    obtain ⟨n, hn, rfl⟩ := Option.map_eq_some_iff.mp hy
    exact ⟨n, hn, Int64.le_iff_toInt_le.mpr (hle entry.1 _ _ hold hy)⟩
  · intro hle
    refine ⟨h, ?_⟩
    intro key x y hx hy
    obtain ⟨old, hold, rfl⟩ := Option.map_eq_some_iff.mp hx
    obtain ⟨new, hnew, rfl⟩ := Option.map_eq_some_iff.mp hy
    obtain ⟨n, hn, hentry⟩ := hle (key, old) (get_eq_some_iff.mp hold)
    rw [hnew] at hn
    cases hn
    exact Int64.le_iff_toInt_le.mp hentry

theorem vector_eq_iff (h : (vector a).Related (vector b)) :
    vector a = vector b ↔ ∀ entry ∈ (offsets a).rows, get (offsets b) entry.1 = some entry.2 := by
  constructor
  · intro heq entry hentry
    have hkey := congrArg (fun v => v.entry entry.1) heq
    simp only [vector, get_eq_some_iff.mpr hentry, Option.map_some] at hkey
    obtain ⟨n, hn, hnat⟩ := Option.map_eq_some_iff.mp hkey.symm
    rw [hn, Int64.toInt_inj.mp hnat]
  · intro heq
    apply ScopedVector.ext h.1
    funext key
    cases hold : get (offsets a) key with
    | none =>
        have hsome := h.2 key
        simp only [vector, hold, Option.map_none, Option.isSome_none, Option.isSome_map] at hsome
        simp [vector, hold, Option.isSome_eq_false_iff.mp hsome.symm |> Option.isNone_iff_eq_none.mp]
    | some offset =>
        have hnew := heq (key, offset) (get_eq_some_iff.mp hold)
        simp [vector, hold, hnew]

theorem compare_of_not_related (order : EntryOrder) (h : ¬ (vector a).Related (vector b)) :
    compare order a b = some .incomparable := by
  unfold compare
  split
  · rfl
  · rename_i hversions
    split
    · rfl
    · rename_i hkeys
      simp only [not_or, not_not] at hversions
      exact absurd (related_iff.mpr ⟨hversions, not_not.mp hkeys⟩) h

theorem compare_of_related (order : EntryOrder) (h : (vector a).Related (vector b)) :
    compare order a b = compareOffsets (offsets b) (order.walk (offsets a).rows) false := by
  obtain ⟨⟨h1, h2, h3, h4⟩, hkeys⟩ := related_iff.mp h
  unfold compare
  rw [if_neg (by simp [h1, h2, h3, h4]), if_neg (not_not.mpr hkeys)]

/-- The keys of one map are those of the other, so `get` never answers `null`. -/
theorem exists_get_of_related (h : (vector a).Related (vector b))
    {entry : JavaString × Int64} (hentry : entry ∈ (offsets a).rows) :
    ∃ n, get (offsets b) entry.1 = some n := by
  have hsome := keySetsEqual_iff.mp (related_iff.mp h).2 entry.1
  rw [get_eq_some_iff.mpr hentry] at hsome
  exact Option.isSome_iff_exists.mp hsome.symm

/-- The loop decides the order of related vectors, whatever order it walks the map in. -/
theorem compareOffsets_eq_verdict (order : EntryOrder) (h : (vector a).Related (vector b)) :
    compareOffsets (offsets b) (order.walk (offsets a).rows) false =
      some (verdict ScopedVector.Related (vector a) (vector b)) := by
  have hmem : ∀ {entry}, entry ∈ order.walk (offsets a).rows ↔ entry ∈ (offsets a).rows :=
    (order.perm _).mem_iff
  by_cases hle : vector a ≤ vector b
  · have hentries := (vector_le_iff h).mp hle
    rw [compareOffsets_of_le fun entry hentry => hentries entry (hmem.mp hentry)]
    congr 1
    by_cases heq : vector a = vector b
    · have hsame := (vector_eq_iff h).mp heq
      rw [ScopedVector.comparability.verdict_eq_equal_iff.mpr heq, if_neg]
      simpa [hmem] using hsame
    · have hmoved := mt (vector_eq_iff h).mpr heq
      rw [ScopedVector.comparability.verdict_eq_advanced_iff.mpr (lt_of_le_of_ne hle heq), if_pos]
      simpa [hmem] using hmoved
  · rw [Comparability.verdict_eq_conflict_iff.mpr ⟨h, hle⟩]
    apply compareOffsets_of_lt fun entry hentry => exists_get_of_related h (hmem.mp hentry)
    by_contra hno
    apply hle
    rw [vector_le_iff h]
    intro entry hentry
    obtain ⟨n, hn⟩ := exists_get_of_related h hentry
    refine ⟨n, hn, Int64.not_lt.mp ?_⟩
    intro hlt
    exact hno ⟨entry, hmem.mpr hentry, n, hn, hlt⟩

/-- The comparison is the verdict of the order. -/
theorem compare_eq_verdict (order : EntryOrder) :
    compare order a b = some (verdict ScopedVector.Related (vector a) (vector b)) := by
  by_cases h : (vector a).Related (vector b)
  · rw [compare_of_related order h, compareOffsets_eq_verdict order h]
  · rw [compare_of_not_related order h, Comparability.verdict_eq_incomparable_iff.mpr h]

end BarrierVectorComparison

end CraftRelay.Client
