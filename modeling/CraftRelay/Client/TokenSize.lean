import CraftRelay.Client.ProjectionBytes
import CraftRelay.Client.Uuid

/-!
# The size of a token

The constructor of a token bounds an estimate: the bytes of its texts, 128 for the rest, 280
for each partition and 900 for each mutation. Each allowance is at least what is written.
-/

namespace CraftRelay.Client

/-- A list of codes is no longer than its allowance. -/
theorem length_flatMap_le {α : Type} {f : α → Bytes} {allowance : Nat} (xs : List α)
    (h : ∀ x ∈ xs, (f x).length ≤ allowance) : (xs.flatMap f).length ≤ xs.length * allowance := by
  induction xs with
  | nil => simp
  | cons x xs ih =>
      have hx := h x List.mem_cons_self
      have hxs := ih fun y hy => h y (List.mem_cons_of_mem x hy)
      rw [List.flatMap_cons, List.length_append, List.length_cons, Nat.succ_mul]
      omega

theorem PartitionBarrier.length_write (p : PartitionBarrier) :
    p.write.length = 16 + p.topic.getBytes.length := by
  unfold write
  simp
  omega

theorem PartitionBarrier.length_write_le (p : PartitionBarrier) : p.write.length ≤ 280 := by
  have htopic := p.topic_bounded.bytes
  rw [length_write]
  omega

theorem ProjectionMutationReference.length_write (m : ProjectionMutationReference) :
    m.write.length = 36 + m.projectionId.getBytes.length + m.entityType.getBytes.length +
      m.entityId.getBytes.length + m.topic.getBytes.length := by
  unfold write
  simp
  omega

theorem ProjectionMutationReference.length_write_le (m : ProjectionMutationReference) :
    m.write.length ≤ 900 := by
  obtain ⟨hprojection, htype, hid, htopic⟩ := m.bounded
  have h₁ := hprojection.bytes
  have h₂ := htype.bytes
  have h₃ := hid.bytes
  have h₄ := htopic.bytes
  rw [length_write]
  omega

/-- An accepted event identifier is ASCII. -/
theorem length_getBytes_of_canonicalUuidV7 {s v : JavaString} {field : String}
    (h : canonicalUuidV7 s field = .ok v) : s.getBytes.length = s.length := by
  rw [canonicalUuidV7_eq_reading] at h
  exact JavaString.length_getBytes_of_narrow narrow_isUuidChar (isUuidV7Text_of_reading h).all

namespace ProjectionConsistencyToken

variable {x : ProjectionConsistencyToken} {issued expires : Int64}

/-- The bytes that are written, each of the lists as it is. -/
theorem length_bytesAt : (x.bytesAt issued expires).length =
    80 + x.installationId.getBytes.length + x.authenticatedProducerId.getBytes.length +
      x.projectorId.getBytes.length + x.projectionName.getBytes.length +
      x.queryScope.getBytes.length + x.issuerAgentId.getBytes.length + x.keyId.getBytes.length +
      x.eventId.getBytes.length + (x.requiredNextOffsets.flatMap PartitionBarrier.write).length +
      (x.mutationReferences.flatMap ProjectionMutationReference.write).length := by
  unfold bytesAt
  simp only [List.length_append, length_writeInt, length_writeLong, length_writeSize,
    length_writeText]
  omega

/-- The estimate is an upper bound. -/
theorem length_bytesAt_le (h : canonicalUuidV7 x.eventId "eventId" = .ok x.eventId) :
    (x.bytesAt issued expires).length ≤ x.estimatedBytes := by
  have hevent := length_getBytes_of_canonicalUuidV7 h
  have hpartitions := length_flatMap_le x.requiredNextOffsets fun p _ => p.length_write_le
  have hmutations := length_flatMap_le x.mutationReferences fun m _ => m.length_write_le
  rw [length_bytesAt, hevent]
  unfold estimatedBytes
  omega

end ProjectionConsistencyToken

end CraftRelay.Client
