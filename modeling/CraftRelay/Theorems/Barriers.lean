import CraftRelay.Client.BarrierVectorComparison
import CraftRelay.Theorems.Client

/-!
# Barrier vectors

The comparison of barriers as an order, and what two barriers that are compared have in
common.
-/

namespace CraftRelay.Client

open Dominance BarrierVectorComparison

/-! ## The order -/

/-- The laws of the comparison, for any barriers and whatever order the maps are walked in;
the order in which the partitions are given does not matter either. -/
theorem barrier_comparison_laws :
    (∀ (order : EntryOrder) (a b c : ProjectionBarrier),
      compare order a a = some .equal ∧
      (compare order a b = some .equal ↔ compare order b a = some .equal) ∧
      (compare order a b = some .advanced → compare order b a = some .conflict) ∧
      (compare order a b = some .equal ∨ compare order a b = some .advanced →
        compare order b c = some .equal ∨ compare order b c = some .advanced →
        compare order a c =
          if compare order a b = some .advanced ∨ compare order b c = some .advanced
          then some .advanced else some .equal) ∧
      (compare order a b = some .incomparable ↔ compare order b a = some .incomparable)) ∧
    ∀ (order order' : EntryOrder) (given a a' b : ProjectionBarrier)
      (partitions : List PartitionBarrier), partitions.Perm given.partitions →
      given.construct = .ok a →
      ProjectionBarrier.construct { given with partitions := partitions } = .ok a' →
      compare order' a' b = compare order a b ∧ compare order' b a' = compare order b a := by
  have laws : Comparability
      (ScopedVector.Related : ScopedVector (Int32 × Int32 × Int64 × Int64) JavaString Int → _) :=
    ScopedVector.comparability
  refine ⟨?_, ?_⟩
  · intro order a b c
    simp only [compare_eq_verdict, Option.some.injEq]
    refine ⟨laws.verdict_self, laws.verdict_equal_symm, laws.verdict_conflict_of_advanced, ?_,
      laws.verdict_incomparable_symm⟩
    intro hab hbc
    rw [laws.verdict_trans hab hbc]
    split
    · rfl
    · rfl
  · intro order order' given a a' b partitions hperm ha ha'
    have hsame := (ProjectionBarrier.construct_perm hperm).mp ha'
    rw [ha] at hsame
    cases hsame
    rw [compare_eq_verdict, compare_eq_verdict, compare_eq_verdict, compare_eq_verdict]
    exact ⟨rfl, rfl⟩

/-- The entries as they were inserted. -/
def insertionOrder : EntryOrder := ⟨id, fun _ => List.Perm.refl _⟩

/-- The sample barrier with another offset of its first partition. -/
def laterBarrier : ProjectionBarrier :=
  sampleBarrier (samplePartition 1 41 (by decide +kernel) :: samplePartitions.tail)

/-- The sample barrier without its second partition. -/
def narrowBarrier : ProjectionBarrier :=
  sampleBarrier (samplePartitions.take 1)

theorem laterBarrier_accepted : laterBarrier.Accepted := by
  refine ⟨?_, ⟨?_, ?_⟩, ⟨?_, ?_⟩, ⟨?_, ?_⟩, ?_, ?_, ?_, ?_, ?_, ⟨List.cons_ne_nil _ _, ?_⟩, ?_⟩
  all_goals decide +kernel

theorem narrowBarrier_accepted : narrowBarrier.Accepted := by
  refine ⟨?_, ⟨?_, ?_⟩, ⟨?_, ?_⟩, ⟨?_, ?_⟩, ?_, ?_, ?_, ?_, ?_, ⟨List.cons_ne_nil _ _, ?_⟩, ?_⟩
  all_goals decide +kernel

/-- The sample barrier, the one given the same partitions in reverse, a later one and one
about fewer partitions: all four verdicts. -/
theorem barrier_comparison_laws_reversed :
    ∃ a a' later narrow, (sampleBarrier samplePartitions).construct = .ok a ∧
      (sampleBarrier samplePartitions.reverse).construct = .ok a' ∧
      laterBarrier.construct = .ok later ∧ narrowBarrier.construct = .ok narrow ∧
      compare insertionOrder a' a = some .equal ∧
      compare insertionOrder a later = some .advanced ∧
      compare insertionOrder later a = some .conflict ∧
      compare insertionOrder a narrow = some .incomparable ∧
      compare insertionOrder narrow a = some .incomparable := by
  obtain ⟨hlaws, hperm⟩ := barrier_comparison_laws
  have ha := ProjectionBarrier.construct_eq_ok_iff.mpr ⟨sampleBarrier_accepted, rfl⟩
  have ha' := (ProjectionBarrier.construct_perm (c := sampleBarrier samplePartitions)
    (List.reverse_perm samplePartitions)).mpr ha
  have hlater := ProjectionBarrier.construct_eq_ok_iff.mpr ⟨laterBarrier_accepted, rfl⟩
  have hnarrow := ProjectionBarrier.construct_eq_ok_iff.mpr ⟨narrowBarrier_accepted, rfl⟩
  let a := (sampleBarrier samplePartitions).sorted
  have hsame := (hperm insertionOrder insertionOrder _ a a a _
    (List.reverse_perm samplePartitions) ha ha').1
  have hadvanced : compare insertionOrder a laterBarrier.sorted = some .advanced := by
    decide +kernel
  have hincomparable : compare insertionOrder a narrowBarrier.sorted = some .incomparable := by
    decide +kernel
  obtain ⟨hself, -, hconflict, -, -⟩ := hlaws insertionOrder a laterBarrier.sorted a
  obtain ⟨-, -, -, -, hsymm⟩ := hlaws insertionOrder a narrowBarrier.sorted a
  exact ⟨a, a, _, _, ha, ha', hlater, hnarrow, hsame.trans hself, hadvanced,
    hconflict hadvanced, hincomparable, hsymm.mp hincomparable⟩

/-! ## The question -/

namespace ProjectionBarrier

/-- The partitions a barrier is about. -/
def partitionSet (barrier : ProjectionBarrier) : Set (JavaString × Int32) :=
  {k | ∃ p ∈ barrier.partitions, (p.topic, p.partition) = k}

/-- Barriers for the same query of the same installation, over the same partitions. -/
structure SameQuestion (a b : ProjectionBarrier) : Prop where
  installationId : a.installationId = b.installationId
  queryId : a.queryId = b.queryId
  queryDefinitionVersion : a.queryDefinitionVersion = b.queryDefinitionVersion
  projectionTopologyVersion : a.projectionTopologyVersion = b.projectionTopologyVersion
  routingVersion : a.routingVersion = b.routingVersion
  partitionSetChecksum : a.partitionSetChecksum = b.partitionSetChecksum
  partitions : a.partitionSet = b.partitionSet

/-- What the comparison looks at besides the offsets. -/
structure SameVersions (a b : ProjectionBarrier) : Prop where
  barrierVersion : a.barrierVersion = b.barrierVersion
  queryDefinitionVersion : a.queryDefinitionVersion = b.queryDefinitionVersion
  projectionTopologyVersion : a.projectionTopologyVersion = b.projectionTopologyVersion
  routingVersion : a.routingVersion = b.routingVersion
  partitions : a.partitionSet = b.partitionSet

variable {a b : ProjectionBarrier}

theorem mem_partitionSet_iff {p : PartitionBarrier} :
    (p.topic, p.partition) ∈ a.partitionSet ↔ p.text ∈ a.partitions.map PartitionBarrier.text := by
  rw [List.mem_map]
  constructor
  · intro ⟨q, hq, heq⟩
    exact ⟨q, hq, PartitionBarrier.text_eq_iff.mpr (Prod.mk.inj heq)⟩
  · intro ⟨q, hq, heq⟩
    exact ⟨q, hq, Prod.ext_iff.mpr (PartitionBarrier.text_eq_iff.mp heq)⟩

/-- The keys tell the partitions. -/
theorem keySetsEqual_iff_partitionSet :
    keySetsEqual (offsets a) (offsets b) ↔ a.partitionSet = b.partitionSet := by
  have hsub : ∀ {x y : ProjectionBarrier}, x.partitionSet ⊆ y.partitionSet ↔
      ∀ key ∈ x.partitions.map PartitionBarrier.text,
        key ∈ y.partitions.map PartitionBarrier.text := by
    intro x y
    constructor
    · intro h key hkey
      obtain ⟨p, hp, rfl⟩ := List.mem_map.mp hkey
      exact mem_partitionSet_iff.mp (h ⟨p, hp, rfl⟩)
    · intro h k hk
      obtain ⟨p, hp, rfl⟩ := hk
      exact mem_partitionSet_iff.mpr (h p.text (List.mem_map_of_mem hp))
  have hkey : ∀ key, (get (offsets a) key).isSome = (get (offsets b) key).isSome ↔
      (key ∈ a.partitions.map PartitionBarrier.text ↔
        key ∈ b.partitions.map PartitionBarrier.text) := by
    intro key
    rw [Bool.eq_iff_iff, isSome_get_offsets, isSome_get_offsets]
  rw [keySetsEqual_iff, forall_congr' hkey, Set.Subset.antisymm_iff, hsub, hsub]
  constructor
  · intro h
    exact ⟨fun key => (h key).mp, fun key => (h key).mpr⟩
  · intro ⟨hab, hba⟩ key
    exact ⟨hab key, hba key⟩

theorem compared_iff (order : EntryOrder) :
    compare order a b = some .equal ∨ compare order a b = some .advanced ∨
      compare order a b = some .conflict ↔ a.SameVersions b := by
  have hrelated : (vector a).Related (vector b) ↔ a.SameVersions b := by
    rw [related_iff, keySetsEqual_iff_partitionSet]
    constructor
    · intro ⟨⟨h1, h2, h3, h4⟩, h5⟩
      exact ⟨h1, h2, h3, h4, h5⟩
    · intro h
      exact ⟨⟨h.1, h.2, h.3, h.4⟩, h.5⟩
  have hincomparable : verdict ScopedVector.Related (vector a) (vector b) = .incomparable ↔
      ¬ (vector a).Related (vector b) := Comparability.verdict_eq_incomparable_iff
  rw [← hrelated, ← not_iff_not, ← hincomparable, compare_eq_verdict]
  simp only [Option.some.injEq]
  cases verdict ScopedVector.Related (vector a) (vector b) with
  | equal => simp
  | advanced => simp
  | incomparable => simp
  | conflict => simp

end ProjectionBarrier

/-- Barriers that are compared are for the same question, exactly when installation, query
and checksum agree or something the comparison looks at differs. -/
theorem compared_same_question_iff (order : EntryOrder) (a b : ProjectionBarrier) :
    (compare order a b = some .equal ∨ compare order a b = some .advanced ∨
        compare order a b = some .conflict → a.SameQuestion b) ↔
      (a.installationId = b.installationId ∧ a.queryId = b.queryId ∧
        a.partitionSetChecksum = b.partitionSetChecksum) ∨
      a.barrierVersion ≠ b.barrierVersion ∨
      a.queryDefinitionVersion ≠ b.queryDefinitionVersion ∨
      a.projectionTopologyVersion ≠ b.projectionTopologyVersion ∨
      a.routingVersion ≠ b.routingVersion ∨ a.partitionSet ≠ b.partitionSet := by
  rw [ProjectionBarrier.compared_iff]
  constructor
  · intro h
    by_cases hversions : a.SameVersions b
    · have hquestion := h hversions
      exact .inl ⟨hquestion.installationId, hquestion.queryId, hquestion.partitionSetChecksum⟩
    · right
      by_contra hno
      simp only [not_or, not_not] at hno
      obtain ⟨h1, h2, h3, h4, h5⟩ := hno
      exact hversions ⟨h1, h2, h3, h4, h5⟩
  · intro h hversions
    obtain ⟨h1, h2, h3, h4, h5⟩ := hversions
    rcases h with ⟨hinstallation, hquery, hchecksum⟩ | h
    · exact ⟨hinstallation, hquery, h2, h3, h4, hchecksum, h5⟩
    · simp [h1, h2, h3, h4, h5] at h

/-- The installation is checked by itself. -/
theorem ProjectionBarrier.Accepted.of_installation {c : ProjectionBarrier} (h : c.Accepted)
    {installationId : JavaString} (hid : Bounded installationId 128) :
    ProjectionBarrier.Accepted { c with installationId := installationId } :=
  { h with installationId := hid }

/-- The sample barrier of another installation. -/
def foreignBarrier : ProjectionBarrier :=
  { sampleBarrier samplePartitions with installationId := .ofString "install-b" }

theorem foreign_barrier_compared :
    (sampleBarrier samplePartitions).construct = .ok (sampleBarrier samplePartitions).sorted ∧
      foreignBarrier.construct = .ok foreignBarrier.sorted ∧
      compare insertionOrder (sampleBarrier samplePartitions).sorted foreignBarrier.sorted =
        some .equal ∧
      ¬ (sampleBarrier samplePartitions).sorted.SameQuestion foreignBarrier.sorted := by
  have hinstallation : Bounded (.ofString "install-b") 128 := ⟨by decide +kernel, by decide +kernel⟩
  have haccepted := sampleBarrier_accepted.of_installation hinstallation
  have hsample := ProjectionBarrier.construct_eq_ok_iff.mpr ⟨sampleBarrier_accepted, rfl⟩
  have hforeign := ProjectionBarrier.construct_eq_ok_iff.mpr ⟨haccepted, rfl⟩
  refine ⟨hsample, hforeign, ?_, ?_⟩
  · have hvector :
        vector (sampleBarrier samplePartitions).sorted = vector foreignBarrier.sorted := by
      simp only [vector, offsets, ProjectionBarrier.sorted, foreignBarrier]
    rw [compare_eq_verdict, ScopedVector.comparability.verdict_eq_equal_iff.mpr hvector]
  · intro h
    have hinstallation := h.installationId
    exact absurd hinstallation (by decide +kernel)

end CraftRelay.Client
