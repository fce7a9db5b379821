import CraftRelay.Client.Projection

/-!
# What the bytes of barriers and tokens determine

The constructors accept components of the right form and keep them, with the partitions
sorted. Every length and count a record writes fits its four bytes, so the record is read
back from its bytes: the numbers as they are, the texts up to their UTF-8 bytes, the
instants up to the millisecond.
-/

namespace CraftRelay.Client

/-! ## Instants -/

/-- What an instant has below the millisecond. -/
def Instant.belowMilli (a : Instant) : Nat := a.nano % 1000000

/-- The milliseconds and what is below them are the instant. -/
theorem Instant.eq_of_toEpochMilli {a b : Instant} {m : Int64} (ha : a.toEpochMilli = some m)
    (hb : b.toEpochMilli = some m) (hbelow : a.belowMilli = b.belowMilli) : a = b := by
  have hmillis : ∀ {c : Instant}, c.toEpochMilli = some m →
      m.toInt = c.epochSecond * 1000 + (c.nano / 1000000 : Nat) := by
    intro c hc
    unfold toEpochMilli at hc
    simp only at hc
    split at hc
    · rename_i hrange
      rw [← Option.some.inj hc]
      exact Int64.toInt_ofInt_of_le (by simpa using hrange.1) (by simp; omega)
    · cases hc
  have heq := (hmillis ha).symm.trans (hmillis hb)
  have hanano := a.nano_lt
  have hbnano := b.nano_lt
  unfold belowMilli at hbelow
  have hsecond : a.epochSecond = b.epochSecond := by omega
  have hnano : a.nano = b.nano := by omega
  cases a
  cases b
  simp_all

/-! ## Partitions -/

theorem PartitionBarrier.topic_bounded (p : PartitionBarrier) : Bounded p.topic 249 := by
  have h := p.constructed
  unfold checkPartitionBarrier at h
  rw [boundedText_bind] at h
  exact h.1

/-- The parts of a partition barrier, the topic as its bytes. -/
def PartitionBarrier.values (p : PartitionBarrier) : (Bytes × Int32) × Int64 :=
  ((p.topic.getBytes, p.partition), p.requiredNextOffset)

theorem PartitionBarrier.write_determines :
    Framed.Determines (fun _ => True) PartitionBarrier.write PartitionBarrier.values := by
  have htopic := writeText_determines_bytes.comp (P := fun _ => True) PartitionBarrier.topic
    fun p _ => lt_of_le_of_lt p.topic_bounded.bytes (by decide)
  exact (htopic.append (writeInt_determines.comp PartitionBarrier.partition fun _ _ => trivial)).append
    (writeLong_determines.comp PartitionBarrier.requiredNextOffset fun _ _ => trivial)

theorem PartitionBarrier.eq_of_values {p q : PartitionBarrier} (hp : p.topic.WellFormed)
    (hq : q.topic.WellFormed) (h : p.values = q.values) : p = q := by
  simp only [values, Prod.mk.injEq] at h
  have htopic := JavaString.getBytes_injective hp hq h.1.1
  cases p
  cases q
  simp_all

/-- Partitions with the same place in the order are the same partition of a topic. -/
theorem PartitionBarrier.order_eq_iff {p q : PartitionBarrier} :
    p.order = q.order ↔ p.topic = q.topic ∧ p.partition = q.partition := by
  unfold order
  rw [toLex_inj, Prod.mk.injEq, Int32.toInt_inj]
  exact ⟨fun h => ⟨JavaString.units_injective h.1, h.2⟩, fun h => ⟨by rw [h.1], h.2⟩⟩

theorem repeatsNeighbour_eq_false_iff {ps : List PartitionBarrier} :
    repeatsNeighbour ps = false ↔ ps.IsChain fun p q => p.order ≠ q.order := by
  induction ps with
  | nil => simp [repeatsNeighbour]
  | cons p ps ih =>
      cases ps with
      | nil => simp [repeatsNeighbour]
      | cons q rest =>
          rw [List.isChain_cons_cons, ← ih, ne_eq, PartitionBarrier.order_eq_iff]
          simp [repeatsNeighbour]

/-- After the sort the loop over neighbours finds any duplicate. -/
theorem repeatsNeighbour_sortBy {ps : List PartitionBarrier} :
    repeatsNeighbour (SortedBy.sortBy PartitionBarrier.order ps) = false ↔
      (ps.map PartitionBarrier.order).Nodup := by
  rw [repeatsNeighbour_eq_false_iff]
  constructor
  · intro h
    exact (SortedBy.map_sortBy_nodup _).mp
      (SortedBy.nodup_of_neighbours (SortedBy.pairwise_sortBy _ _) h)
  · intro h
    have hsorted := (SortedBy.map_sortBy_nodup PartitionBarrier.order).mpr h
    exact (List.pairwise_map.mp hsorted).isChain

/-- So does the set of texts. -/
theorem order_nodup_of_text {ps : List PartitionBarrier}
    (h : (ps.map PartitionBarrier.text).Nodup) : (ps.map PartitionBarrier.order).Nodup := by
  refine (List.nodup_map_iff_inj_on h.of_map).mpr ?_
  intro p hp q hq hpq
  refine List.inj_on_of_nodup_map h hp hq ?_
  obtain ⟨htopic, hpartition⟩ := PartitionBarrier.order_eq_iff.mp hpq
  unfold PartitionBarrier.text
  rw [htopic, hpartition]

theorem count_perm {ps qs : List PartitionBarrier} (h : ps.Perm qs) :
    (ps ≠ [] ∧ ps.length ≤ maxBarrierPartitions) ↔
      (qs ≠ [] ∧ qs.length ≤ maxBarrierPartitions) := by
  rw [← List.length_pos_iff, ← List.length_pos_iff, h.length_eq]

/-! ## Mutations -/

namespace ProjectionMutationReference

theorem bounded (m : ProjectionMutationReference) :
    Bounded m.projectionId 128 ∧ Bounded m.entityType 128 ∧ Bounded m.entityId 256 ∧
      Bounded m.topic 249 := by
  have h := m.constructed
  unfold checkMutationReference at h
  simp only [boundedText_bind, positiveInt64_bind] at h
  obtain ⟨hprojection, htype, hid, -, htopic, -⟩ := h
  exact ⟨hprojection, htype, hid, htopic⟩

/-- The parts of a mutation reference, the texts as their bytes. -/
def values (m : ProjectionMutationReference) :
    (((((Bytes × Bytes) × Bytes) × Int64) × Bytes) × Int32) × Int64 :=
  ((((((m.projectionId.getBytes, m.entityType.getBytes), m.entityId.getBytes), m.domainVersion),
    m.topic.getBytes), m.partition), m.requiredNextOffset)

theorem write_determines :
    Framed.Determines (fun _ => True) ProjectionMutationReference.write values := by
  have text := fun (field : ProjectionMutationReference → JavaString)
    (hfield : ∀ m, Bounded (field m) 256) => writeText_determines_bytes.comp (P := fun _ => True)
      field fun m _ => lt_of_le_of_lt (hfield m).bytes (by decide)
  have wider : ∀ {s : JavaString} {n : Nat}, Bounded s n → n ≤ 256 → Bounded s 256 :=
    fun h hn => ⟨h.notBlank, h.bytes.trans hn⟩
  have long := fun field : ProjectionMutationReference → Int64 =>
    writeLong_determines.comp (P := fun _ => True) field fun _ _ => trivial
  exact ((((((text projectionId fun m => wider m.bounded.1 (by decide)).append
    (text entityType fun m => wider m.bounded.2.1 (by decide))).append
    (text entityId fun m => m.bounded.2.2.1)).append
    (long domainVersion)).append
    (text topic fun m => wider m.bounded.2.2.2 (by decide))).append
    (writeInt_determines.comp partition fun _ _ => trivial)).append
    (long requiredNextOffset)

structure WellFormed (m : ProjectionMutationReference) : Prop where
  projectionId : m.projectionId.WellFormed
  entityType : m.entityType.WellFormed
  entityId : m.entityId.WellFormed
  topic : m.topic.WellFormed

theorem eq_of_values {m n : ProjectionMutationReference} (hm : m.WellFormed) (hn : n.WellFormed)
    (h : m.values = n.values) : m = n := by
  simp only [values, Prod.mk.injEq] at h
  obtain ⟨⟨⟨⟨⟨⟨h1, h2⟩, h3⟩, h4⟩, h5⟩, h6⟩, h7⟩ := h
  have hprojection := JavaString.getBytes_injective hm.projectionId hn.projectionId h1
  have htype := JavaString.getBytes_injective hm.entityType hn.entityType h2
  have hid := JavaString.getBytes_injective hm.entityId hn.entityId h3
  have htopic := JavaString.getBytes_injective hm.topic hn.topic h5
  cases m
  cases n
  simp_all

end ProjectionMutationReference

theorem partitions_eq {ps qs : List PartitionBarrier} (hp : ∀ p ∈ ps, p.topic.WellFormed)
    (hq : ∀ q ∈ qs, q.topic.WellFormed)
    (h : ps.map PartitionBarrier.values = qs.map PartitionBarrier.values) : ps = qs :=
  Framed.eq_of_map_eq (fun _ _ => PartitionBarrier.eq_of_values) hp hq h

theorem partitions_determines :
    Framed.Determines (fun ps : List PartitionBarrier => ps.length ≤ maxBarrierPartitions)
      (fun ps => writeSize ps.length ++ ps.flatMap PartitionBarrier.write)
      (fun ps => ps.map PartitionBarrier.values) := by
  refine (writeSize_determines.counted PartitionBarrier.write_determines).mono ?_
  intro ps hps
  exact ⟨lt_of_le_of_lt hps (by decide), fun _ _ => trivial⟩

theorem text_determines {ρ : Type} {P : ρ → Prop} (field : ρ → JavaString)
    (hfield : ∀ a, P a → Bounded (field a) 256) :
    Framed.Determines P (fun a => writeText (field a)) (fun a => (field a).getBytes) :=
  writeText_determines_bytes.comp field fun a ha =>
    lt_of_le_of_lt (hfield a ha).bytes (by decide)

/-! ## Barriers -/

namespace ProjectionBarrier

variable {a b c x y : ProjectionBarrier}

structure Accepted (c : ProjectionBarrier) : Prop where
  barrierVersion : 0 < c.barrierVersion.toInt
  barrierId : Bounded c.barrierId 128
  installationId : Bounded c.installationId 128
  queryId : Bounded c.queryId 128
  queryDefinitionVersion : 0 < c.queryDefinitionVersion.toInt
  projectionTopologyVersion : 0 < c.projectionTopologyVersion.toInt
  routingVersion : 0 < c.routingVersion.toInt
  partitionSetChecksum : c.partitionSetChecksum.length = 32
  barrierChecksum : c.barrierChecksum.length = 32
  count : c.partitions ≠ [] ∧ c.partitions.length ≤ maxBarrierPartitions
  distinct : (c.partitions.map PartitionBarrier.order).Nodup

/-- The record that is built from accepted components. -/
def sorted (c : ProjectionBarrier) : ProjectionBarrier :=
  { c with partitions := SortedBy.sortBy PartitionBarrier.order c.partitions }

theorem construct_eq_ok_iff : c.construct = .ok x ↔ c.Accepted ∧ x = c.sorted := by
  unfold construct
  simp only [boundedText_bind, positiveInt32_bind, positiveInt64_bind, fixedChecksum_bind,
    Except.refuseIf_bind_iff, not_or, Nat.not_lt, Bool.not_eq_true, repeatsNeighbour_sortBy,
    ← ne_eq, count_perm (SortedBy.perm_sortBy PartitionBarrier.order c.partitions)]
  constructor
  · rintro ⟨h1, h2, h3, h4, h5, h6, h7, h8, h9, h10, h11, h⟩
    cases h
    exact ⟨⟨h1, h2, h3, h4, h5, h6, h7, h8, h9, h10, h11⟩, rfl⟩
  · rintro ⟨⟨h1, h2, h3, h4, h5, h6, h7, h8, h9, h10, h11⟩, rfl⟩
    exact ⟨h1, h2, h3, h4, h5, h6, h7, h8, h9, h10, h11, rfl⟩

/-- The order in which partitions are given does not matter. -/
theorem construct_perm {ps : List PartitionBarrier} (hperm : ps.Perm c.partitions) :
    construct { c with partitions := ps } = .ok x ↔ c.construct = .ok x := by
  have hacc : Accepted { c with partitions := ps } ↔ c.Accepted := by
    have hdistinct := (hperm.map PartitionBarrier.order).nodup_iff
    exact ⟨fun h => { h with
        count := (count_perm hperm).mp h.count
        distinct := hdistinct.mp h.distinct },
      fun h => { h with
        count := (count_perm hperm).mpr h.count
        distinct := hdistinct.mpr h.distinct }⟩
  rw [construct_eq_ok_iff, construct_eq_ok_iff, hacc]
  refine and_congr_right fun h => ?_
  unfold sorted
  rw [SortedBy.sortBy_eq_of_perm h.distinct hperm.symm]

/-- A record is accepted again. -/
theorem Accepted.sorted (h : c.Accepted) : c.sorted.Accepted := by
  have hperm := SortedBy.perm_sortBy PartitionBarrier.order c.partitions
  exact { h with
    count := (count_perm hperm).mpr h.count
    distinct := (SortedBy.map_sortBy_nodup _).mpr h.distinct }

structure WellFormed (x : ProjectionBarrier) : Prop where
  barrierId : x.barrierId.WellFormed
  installationId : x.installationId.WellFormed
  queryId : x.queryId.WellFormed
  partitions : ∀ p ∈ x.partitions, p.topic.WellFormed

/-- The same barrier, whenever it was captured. -/
structure SameBarrier (x y : ProjectionBarrier) : Prop where
  barrierVersion : x.barrierVersion = y.barrierVersion
  barrierId : x.barrierId = y.barrierId
  installationId : x.installationId = y.installationId
  queryId : x.queryId = y.queryId
  queryDefinitionVersion : x.queryDefinitionVersion = y.queryDefinitionVersion
  projectionTopologyVersion : x.projectionTopologyVersion = y.projectionTopologyVersion
  routingVersion : x.routingVersion = y.routingVersion
  partitionSetChecksum : x.partitionSetChecksum = y.partitionSetChecksum
  partitions : x.partitions = y.partitions

theorem sameBarrier_of_canonicalBytes (hx : x.Accepted) (hy : y.Accepted) (hwfx : x.WellFormed)
    (hwfy : y.WellFormed) (h : x.canonicalBytes = y.canonicalBytes) : x.SameBarrier y := by
  have text := fun (field : ProjectionBarrier → JavaString) (hfield : ∀ z : ProjectionBarrier,
    z.Accepted → Bounded (field z) 128) => text_determines (P := Accepted) field
      fun z hz => ⟨(hfield z hz).notBlank, (hfield z hz).bytes.trans (by decide)⟩
  have number := fun field : ProjectionBarrier → Int32 =>
    writeInt_determines.comp (P := Accepted) field fun _ _ => trivial
  have long := fun field : ProjectionBarrier → Int64 =>
    writeLong_determines.comp (P := Accepted) field fun _ _ => trivial
  have checksum := writeBytes_determines.comp (P := Accepted) partitionSetChecksum fun _ h =>
    lt_of_eq_of_lt h.partitionSetChecksum (by decide)
  have hall := ((((((((number barrierVersion).append
    (text barrierId fun _ h => h.barrierId)).append
    (text installationId fun _ h => h.installationId)).append
    (text queryId fun _ h => h.queryId)).append
    (number queryDefinitionVersion)).append
    (long projectionTopologyVersion)).append
    (long routingVersion)).append
    checksum).append
    (partitions_determines.comp partitions fun _ h => h.count.2)
  have hvalues := hall.eq hx hy h
  simp only [Prod.mk.injEq, id_eq] at hvalues
  obtain ⟨⟨⟨⟨⟨⟨⟨⟨h1, h2⟩, h3⟩, h4⟩, h5⟩, h6⟩, h7⟩, h8⟩, h9⟩ := hvalues
  exact ⟨h1, JavaString.getBytes_injective hwfx.barrierId hwfy.barrierId h2,
    JavaString.getBytes_injective hwfx.installationId hwfy.installationId h3,
    JavaString.getBytes_injective hwfx.queryId hwfy.queryId h4, h5, h6, h7, h8,
    partitions_eq hwfx.partitions hwfy.partitions h9⟩

end ProjectionBarrier

/-! ## Tokens -/

namespace ProjectionConsistencyToken

variable {a b c x y : ProjectionConsistencyToken}

structure Accepted (c : ProjectionConsistencyToken) : Prop where
  tokenVersion : 0 < c.tokenVersion.toInt
  installationId : Bounded c.installationId 128
  authenticatedProducerId : Bounded c.authenticatedProducerId 128
  projectorId : Bounded c.projectorId 128
  projectionName : Bounded c.projectionName 128
  queryScope : Bounded c.queryScope 256
  queryDefinitionVersion : 0 < c.queryDefinitionVersion.toInt
  topologyVersion : 0 < c.topologyVersion.toInt
  routingVersion : 0 < c.routingVersion.toInt
  issuerAgentId : Bounded c.issuerAgentId 128
  keyId : Bounded c.keyId 128
  eventId : canonicalUuidV7 c.eventId "eventId" = .ok c.eventId
  vectors : (c.requiredNextOffsets ≠ [] ∧ c.requiredNextOffsets.length ≤ maxBarrierPartitions) ∧
    c.mutationReferences.length ≤ maxTokenMutationReferences
  distinct : (c.requiredNextOffsets.map PartitionBarrier.text).Nodup
  size : c.estimatedBytes ≤ maxTokenBytes
  tokenChecksum : c.tokenChecksum.length = 32
  mac : c.mac.length = 32

/-- The record that is built from accepted components. -/
def sorted (c : ProjectionConsistencyToken) : ProjectionConsistencyToken :=
  { c with requiredNextOffsets := SortedBy.sortBy PartitionBarrier.order c.requiredNextOffsets }

/-- Only the number of partitions counts for the size. -/
theorem estimatedBytes_perm {ps : List PartitionBarrier} (h : ps.Perm c.requiredNextOffsets) :
    estimatedBytes { c with requiredNextOffsets := ps } = c.estimatedBytes := by
  unfold estimatedBytes
  simp only [h.length_eq]

theorem construct_eq_ok_iff : c.construct = .ok x ↔ c.Accepted ∧ x = c.sorted := by
  have hperm := SortedBy.perm_sortBy PartitionBarrier.order c.requiredNextOffsets
  have hvectors : ∀ n, ¬ (SortedBy.sortBy PartitionBarrier.order c.requiredNextOffsets = [] ∨
      maxBarrierPartitions < (SortedBy.sortBy PartitionBarrier.order c.requiredNextOffsets).length ∨
      maxTokenMutationReferences < n) ↔
      (c.requiredNextOffsets ≠ [] ∧ c.requiredNextOffsets.length ≤ maxBarrierPartitions) ∧
        n ≤ maxTokenMutationReferences := by
    intro n
    rw [← count_perm hperm, not_or, not_or, Nat.not_lt, Nat.not_lt, and_assoc]
  unfold construct
  simp only [boundedText_bind, positiveInt32_bind, positiveInt64_bind, fixedChecksum_bind,
    canonicalUuidV7_bind, Except.refuseIf_bind_iff, hvectors, not_not, Nat.not_lt, ne_eq,
    estimatedBytes_perm hperm, (hperm.map PartitionBarrier.text).nodup_iff]
  constructor
  · rintro ⟨h1, h2, h3, h4, h5, h6, h7, h8, h9, h10, h11, h12, h13, h14, h15, h16, h17, h⟩
    cases h
    exact ⟨⟨h1, h2, h3, h4, h5, h6, h7, h8, h9, h10, h11, h12, h13, h14, h15, h16, h17⟩, rfl⟩
  · rintro ⟨⟨h1, h2, h3, h4, h5, h6, h7, h8, h9, h10, h11, h12, h13, h14, h15, h16, h17⟩, rfl⟩
    exact ⟨h1, h2, h3, h4, h5, h6, h7, h8, h9, h10, h11, h12, h13, h14, h15, h16, h17, rfl⟩

theorem accepted_perm {ps : List PartitionBarrier} (hperm : ps.Perm c.requiredNextOffsets) :
    Accepted { c with requiredNextOffsets := ps } ↔ c.Accepted := by
  have hdistinct := (hperm.map PartitionBarrier.text).nodup_iff
  have hsize := estimatedBytes_perm hperm
  exact ⟨fun h => { h with
      vectors := ⟨(count_perm hperm).mp h.vectors.1, h.vectors.2⟩
      distinct := hdistinct.mp h.distinct
      size := hsize.symm.trans_le h.size },
    fun h => { h with
      vectors := ⟨(count_perm hperm).mpr h.vectors.1, h.vectors.2⟩
      distinct := hdistinct.mpr h.distinct
      size := hsize.trans_le h.size }⟩

/-- The order in which partitions are given does not matter. -/
theorem construct_perm {ps : List PartitionBarrier} (hperm : ps.Perm c.requiredNextOffsets) :
    construct { c with requiredNextOffsets := ps } = .ok x ↔ c.construct = .ok x := by
  rw [construct_eq_ok_iff, construct_eq_ok_iff, accepted_perm hperm]
  refine and_congr_right fun h => ?_
  unfold sorted
  rw [SortedBy.sortBy_eq_of_perm (order_nodup_of_text h.distinct) hperm.symm]

/-- A record is accepted again. -/
theorem Accepted.sorted (h : c.Accepted) : c.sorted.Accepted :=
  (accepted_perm (SortedBy.perm_sortBy _ _)).mpr h

theorem sorted_sorted : c.sorted.sorted = c.sorted := by
  unfold sorted
  rw [SortedBy.sortBy_sortBy]

/-! ## The bytes of a token -/

/-- The parts of a token, the texts as their bytes and the instants as milliseconds. -/
def values (x : ProjectionConsistencyToken) (issued expires : Int64) :=
  (((((((((((((((x.tokenVersion, x.installationId.getBytes), x.authenticatedProducerId.getBytes),
    x.projectorId.getBytes), x.projectionName.getBytes), x.queryScope.getBytes),
    x.queryDefinitionVersion), x.topologyVersion), x.routingVersion), issued), expires),
    x.issuerAgentId.getBytes), x.keyId.getBytes), x.eventId.getBytes),
    x.requiredNextOffsets.map PartitionBarrier.values),
    x.mutationReferences.map ProjectionMutationReference.values)

theorem values_eq_of_bytesAt {issued expires issued' expires' : Int64} (hx : x.Accepted)
    (hy : y.Accepted) (h : x.bytesAt issued expires = y.bytesAt issued' expires') :
    x.values issued expires = y.values issued' expires' := by
  let P : ProjectionConsistencyToken × Int64 × Int64 → Prop := fun z => z.1.Accepted
  have text := fun (field : ProjectionConsistencyToken → JavaString) (n : Nat) (hn : n ≤ 256)
    (hfield : ∀ z : ProjectionConsistencyToken, z.Accepted → Bounded (field z) n) =>
      text_determines (P := P) (fun z => field z.1)
        fun z hz => ⟨(hfield z.1 hz).notBlank, (hfield z.1 hz).bytes.trans hn⟩
  have id := writeText_determines_bytes.comp (P := P) (fun z => z.1.eventId) fun z hz => by
    have hlen := (canonicalUuidV7_length hz.eventId).1
    have hbytes := z.1.eventId.length_getBytes_le
    unfold IsSize
    omega
  have number := fun field : ProjectionConsistencyToken → Int32 =>
    writeInt_determines.comp (P := P) (fun z => field z.1) fun _ _ => trivial
  have long := fun field : ProjectionConsistencyToken × Int64 × Int64 → Int64 =>
    writeLong_determines.comp (P := P) field fun _ _ => trivial
  have mutations := (writeSize_determines.counted
    ProjectionMutationReference.write_determines).comp (P := P) (fun z => z.1.mutationReferences)
      fun _ h => ⟨lt_of_le_of_lt h.vectors.2 (by decide), fun _ _ => trivial⟩
  have hall := (((((((((((((((number tokenVersion).append
    (text installationId 128 (by decide) fun _ h => h.installationId)).append
    (text authenticatedProducerId 128 (by decide) fun _ h => h.authenticatedProducerId)).append
    (text projectorId 128 (by decide) fun _ h => h.projectorId)).append
    (text projectionName 128 (by decide) fun _ h => h.projectionName)).append
    (text queryScope 256 (by decide) fun _ h => h.queryScope)).append
    (number queryDefinitionVersion)).append
    (long fun z => z.1.topologyVersion)).append
    (long fun z => z.1.routingVersion)).append
    (long fun z => z.2.1)).append
    (long fun z => z.2.2)).append
    (text issuerAgentId 128 (by decide) fun _ h => h.issuerAgentId)).append
    (text keyId 128 (by decide) fun _ h => h.keyId)).append
    id).append
    (partitions_determines.comp (fun z => z.1.requiredNextOffsets) fun _ h => h.vectors.1.2)).append
    mutations
  exact hall.eq (a := (x, issued, expires)) (b := (y, issued', expires')) hx hy h

theorem unsignedCanonicalBytes_eq_some {bytes : Bytes} :
    x.unsignedCanonicalBytes = some bytes ↔
      ∃ issued expires, x.issuedAt.toEpochMilli = some issued ∧
        x.expiresAt.toEpochMilli = some expires ∧ x.bytesAt issued expires = bytes := by
  unfold unsignedCanonicalBytes
  simp [Option.bind_eq_some_iff]

/-- Every string is well-formed Unicode. -/
structure WellFormed (x : ProjectionConsistencyToken) : Prop where
  installationId : x.installationId.WellFormed
  authenticatedProducerId : x.authenticatedProducerId.WellFormed
  projectorId : x.projectorId.WellFormed
  projectionName : x.projectionName.WellFormed
  queryScope : x.queryScope.WellFormed
  issuerAgentId : x.issuerAgentId.WellFormed
  keyId : x.keyId.WellFormed
  eventId : x.eventId.WellFormed
  requiredNextOffsets : ∀ p ∈ x.requiredNextOffsets, p.topic.WellFormed
  mutationReferences : ∀ m ∈ x.mutationReferences, m.WellFormed

/-- The instants are on whole milliseconds. -/
def WholeMillis (x : ProjectionConsistencyToken) : Prop :=
  x.issuedAt.belowMilli = 0 ∧ x.expiresAt.belowMilli = 0

/-- The same claims, whatever authenticates them. -/
structure SameClaims (x y : ProjectionConsistencyToken) : Prop where
  tokenVersion : x.tokenVersion = y.tokenVersion
  installationId : x.installationId = y.installationId
  authenticatedProducerId : x.authenticatedProducerId = y.authenticatedProducerId
  projectorId : x.projectorId = y.projectorId
  projectionName : x.projectionName = y.projectionName
  queryScope : x.queryScope = y.queryScope
  queryDefinitionVersion : x.queryDefinitionVersion = y.queryDefinitionVersion
  topologyVersion : x.topologyVersion = y.topologyVersion
  routingVersion : x.routingVersion = y.routingVersion
  issuedAt : x.issuedAt = y.issuedAt
  expiresAt : x.expiresAt = y.expiresAt
  issuerAgentId : x.issuerAgentId = y.issuerAgentId
  keyId : x.keyId = y.keyId
  eventId : x.eventId = y.eventId
  requiredNextOffsets : ∀ p, p ∈ x.requiredNextOffsets ↔ p ∈ y.requiredNextOffsets
  mutationReferences : x.mutationReferences = y.mutationReferences

/-- The bytes determine the instants up to what is below the millisecond. -/
theorem instants_eq_of_bytes {bytes : Bytes} (hx : x.Accepted) (hy : y.Accepted)
    (hxbytes : x.unsignedCanonicalBytes = some bytes)
    (hybytes : y.unsignedCanonicalBytes = some bytes) :
    (x.issuedAt.belowMilli = y.issuedAt.belowMilli → x.issuedAt = y.issuedAt) ∧
      (x.expiresAt.belowMilli = y.expiresAt.belowMilli → x.expiresAt = y.expiresAt) := by
  obtain ⟨issued, expires, hissued, hexpires, rfl⟩ := unsignedCanonicalBytes_eq_some.mp hxbytes
  obtain ⟨issued', expires', hissued', hexpires', h⟩ := unsignedCanonicalBytes_eq_some.mp hybytes
  have hvalues := values_eq_of_bytesAt hx hy h.symm
  simp only [values, Prod.mk.injEq] at hvalues
  obtain ⟨⟨⟨⟨⟨⟨⟨-, rfl⟩, rfl⟩, -⟩, -⟩, -⟩, -⟩, -⟩ := hvalues
  exact ⟨Instant.eq_of_toEpochMilli hissued hissued', Instant.eq_of_toEpochMilli hexpires hexpires'⟩

theorem sameClaims_of_bytes {bytes : Bytes} (hx : x.Accepted) (hy : y.Accepted)
    (hwfx : x.WellFormed) (hwfy : y.WellFormed) (hmx : x.WholeMillis) (hmy : y.WholeMillis)
    (hxbytes : x.unsignedCanonicalBytes = some bytes)
    (hybytes : y.unsignedCanonicalBytes = some bytes) : x.SameClaims y := by
  obtain ⟨hissued, hexpires⟩ := instants_eq_of_bytes hx hy hxbytes hybytes
  obtain ⟨_, _, -, -, rfl⟩ := unsignedCanonicalBytes_eq_some.mp hxbytes
  obtain ⟨_, _, -, -, h⟩ := unsignedCanonicalBytes_eq_some.mp hybytes
  have hvalues := values_eq_of_bytesAt hx hy h.symm
  simp only [values, Prod.mk.injEq] at hvalues
  obtain ⟨⟨⟨⟨⟨⟨⟨⟨⟨⟨⟨⟨⟨⟨⟨h1, h2⟩, h3⟩, h4⟩, h5⟩, h6⟩, h7⟩, h8⟩, h9⟩, -⟩, -⟩, h12⟩, h13⟩, h14⟩, h15⟩, h16⟩ :=
    hvalues
  have hoffsets := partitions_eq hwfx.requiredNextOffsets hwfy.requiredNextOffsets h15
  exact {
    tokenVersion := h1
    installationId := JavaString.getBytes_injective hwfx.installationId hwfy.installationId h2
    authenticatedProducerId := JavaString.getBytes_injective hwfx.authenticatedProducerId
      hwfy.authenticatedProducerId h3
    projectorId := JavaString.getBytes_injective hwfx.projectorId hwfy.projectorId h4
    projectionName := JavaString.getBytes_injective hwfx.projectionName hwfy.projectionName h5
    queryScope := JavaString.getBytes_injective hwfx.queryScope hwfy.queryScope h6
    queryDefinitionVersion := h7
    topologyVersion := h8
    routingVersion := h9
    issuedAt := hissued (hmx.1.trans hmy.1.symm)
    expiresAt := hexpires (hmx.2.trans hmy.2.symm)
    issuerAgentId := JavaString.getBytes_injective hwfx.issuerAgentId hwfy.issuerAgentId h12
    keyId := JavaString.getBytes_injective hwfx.keyId hwfy.keyId h13
    eventId := JavaString.getBytes_injective hwfx.eventId hwfy.eventId h14
    requiredNextOffsets := fun p => by rw [hoffsets]
    mutationReferences := Framed.eq_of_map_eq
      (fun _ _ => ProjectionMutationReference.eq_of_values) hwfx.mutationReferences
      hwfy.mutationReferences h16 }

end ProjectionConsistencyToken

end CraftRelay.Client
