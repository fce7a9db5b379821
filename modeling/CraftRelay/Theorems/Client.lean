import CraftRelay.Client.EnvelopeInput
import CraftRelay.Client.TokenSize
import CraftRelay.Client.TokenValidation

/-!
# Canonical bytes of the client's records

The bytes of an envelope input, a consistency token or a barrier determine what the
record was built from, whatever order its lists came in.
-/

namespace CraftRelay.Client

/-! ## Envelope inputs -/

/-- Two accepted envelope inputs of well-formed strings have the same bytes exactly when
they are the same input, and the order in which metadata are given does not matter. -/
theorem envelope_bytes_canonical {a b x y : EnvelopeInput} (hx : a.construct = .ok x)
    (hy : b.construct = .ok y) (hwfx : x.WellFormed) (hwfy : y.WellFormed) :
    (x.canonicalBytes = y.canonicalBytes ↔ x.SameInput y) ∧
      ∀ entries, entries.Perm a.clientMetadata →
        ∃ z, EnvelopeInput.construct { a with clientMetadata := entries } = .ok z ∧
          z.canonicalBytes = x.canonicalBytes := by
  obtain ⟨ha, rfl⟩ := EnvelopeInput.construct_eq_ok_iff.mp hx
  obtain ⟨hb, rfl⟩ := EnvelopeInput.construct_eq_ok_iff.mp hy
  rw [EnvelopeInput.sorted_wellFormed] at hwfx hwfy
  rw [EnvelopeInput.sorted_sameInput]
  refine ⟨⟨fun hbytes => ?_, fun hsame => ?_⟩, ?_⟩
  · have heq := EnvelopeInput.eq_of_canonicalBytes (ha.framable hwfx) (hb.framable hwfy) hbytes
    exact (EnvelopeInput.sorted_eq_iff ha hb).mp heq
  · rw [(EnvelopeInput.sorted_eq_iff ha hb).mpr hsame]
  · intro entries hperm
    have hacc : EnvelopeInput.Accepted { a with clientMetadata := entries } :=
      { ha with clientMetadata := ha.clientMetadata.perm hperm }
    refine ⟨_, EnvelopeInput.construct_eq_ok_iff.mpr ⟨hacc, rfl⟩, ?_⟩
    have hsort := SortedBy.sortBy_eq_of_perm hacc.clientMetadata.unsignedKeys hperm
    unfold EnvelopeInput.sorted
    rw [hsort]

/-- A metadata entry of two texts. -/
def sampleEntry (key value : String)
    (h : checkMetadataEntry (.ofString key) (.ofString value) = .ok ()) : MetadataEntry :=
  ⟨.ofString key, .ofString value, h⟩

def sampleEnvelope (entries : List MetadataEntry) : EnvelopeInput where
  eventId := .ofString "01890f3e-7b4c-7cc2-98c8-3f0f5f3f9b4a"
  «namespace» := .ofString "economy"
  logicalStreamType := .ofString "player"
  streamKey := [1, 2, 3]
  eventType := .ofString "balance.changed"
  schemaVersion := 1
  operationType := .ofString "transfer"
  operationId := .ofString "op-1"
  eventRole := .ofString "primary"
  requestedMinimumDurability := .ofString "REPLICATED_DURABLE"
  clientMetadata := entries
  typedPayload := [9, 9]
  canonicalizationVersion := 1
  eventContractHandle := .ofString "economy/v1"

def sampleEntries : List MetadataEntry :=
  [sampleEntry "world" "overworld" (by decide +kernel), sampleEntry "actor" "ä" (by decide +kernel)]

theorem sampleEnvelope_accepted : (sampleEnvelope sampleEntries).Accepted := by
  refine ⟨?_, ⟨?_, ?_⟩, ⟨?_, ?_⟩, ⟨?_, ?_⟩, ?_, ⟨?_, ?_⟩, ⟨?_, ?_⟩, ⟨?_, ?_⟩, ⟨?_, ?_⟩, ?_, ⟨?_, ?_⟩,
    ?_, ?_, ⟨?_, ?_, ?_⟩⟩
  all_goals decide +kernel

theorem sampleEnvelope_wellFormed : (sampleEnvelope sampleEntries).WellFormed := by
  refine ⟨⟨_, rfl⟩, ⟨_, rfl⟩, ⟨_, rfl⟩, ⟨_, rfl⟩, ⟨_, rfl⟩, ⟨_, rfl⟩, ⟨_, rfl⟩, ⟨_, rfl⟩, ?_,
    ⟨_, rfl⟩⟩
  intro entry hentry
  rcases List.mem_cons.mp hentry with rfl | hentry
  · exact ⟨⟨_, rfl⟩, ⟨_, rfl⟩⟩
  · obtain rfl := List.mem_singleton.mp hentry
    exact ⟨⟨_, rfl⟩, ⟨_, rfl⟩⟩

/-- The sample input with its two entries in either order. -/
theorem envelope_bytes_canonical_reversed :
    ∃ x z, (sampleEnvelope sampleEntries).construct = .ok x ∧
      (sampleEnvelope sampleEntries.reverse).construct = .ok z ∧
      z.canonicalBytes = x.canonicalBytes := by
  have hx := EnvelopeInput.construct_eq_ok_iff.mpr ⟨sampleEnvelope_accepted, rfl⟩
  have hwf := EnvelopeInput.sorted_wellFormed.mpr sampleEnvelope_wellFormed
  obtain ⟨z, hz, hbytes⟩ := (envelope_bytes_canonical hx hx hwf hwf).2 sampleEntries.reverse
    (List.reverse_perm _)
  exact ⟨_, z, hx, hz, hbytes⟩

/-! ## Tokens and barriers -/

/-- Equal bytes of accepted tokens, or of accepted barriers, are equal fields, and neither
constructor depends on the order in which it is given the partitions. -/
theorem projection_bytes_canonical :
    (∀ {a b x y : ProjectionConsistencyToken} {bytes : Bytes}, a.construct = .ok x →
      b.construct = .ok y → x.WellFormed → y.WellFormed → x.WholeMillis → y.WholeMillis →
      x.unsignedCanonicalBytes = some bytes → y.unsignedCanonicalBytes = some bytes →
      x.SameClaims y) ∧
    (∀ {a b x y : ProjectionBarrier}, a.construct = .ok x → b.construct = .ok y → x.WellFormed →
      y.WellFormed → x.canonicalBytes = y.canonicalBytes → x.SameBarrier y) ∧
    (∀ {c x : ProjectionConsistencyToken} {offsets : List PartitionBarrier},
      offsets.Perm c.requiredNextOffsets →
        (ProjectionConsistencyToken.construct { c with requiredNextOffsets := offsets } = .ok x ↔
          c.construct = .ok x)) ∧
    (∀ {c x : ProjectionBarrier} {partitions : List PartitionBarrier},
      partitions.Perm c.partitions →
        (ProjectionBarrier.construct { c with partitions := partitions } = .ok x ↔
          c.construct = .ok x)) := by
  refine ⟨?_, ?_, ProjectionConsistencyToken.construct_perm, ProjectionBarrier.construct_perm⟩
  · intro a b x y bytes hx hy hwfx hwfy hmx hmy hxbytes hybytes
    obtain ⟨ha, rfl⟩ := ProjectionConsistencyToken.construct_eq_ok_iff.mp hx
    obtain ⟨hb, rfl⟩ := ProjectionConsistencyToken.construct_eq_ok_iff.mp hy
    exact ProjectionConsistencyToken.sameClaims_of_bytes ha.sorted hb.sorted hwfx hwfy hmx hmy
      hxbytes hybytes
  · intro a b x y hx hy hwfx hwfy hbytes
    obtain ⟨ha, rfl⟩ := ProjectionBarrier.construct_eq_ok_iff.mp hx
    obtain ⟨hb, rfl⟩ := ProjectionBarrier.construct_eq_ok_iff.mp hy
    exact ProjectionBarrier.sameBarrier_of_canonicalBytes ha.sorted hb.sorted hwfx hwfy hbytes

/-- Partition `n` of a topic. -/
def samplePartition (n : Int32) (offset : Int64)
    (h : checkPartitionBarrier (.ofString "economy.v1") n offset = .ok ()) : PartitionBarrier :=
  ⟨.ofString "economy.v1", n, offset, h⟩

def samplePartitions : List PartitionBarrier :=
  [samplePartition 1 40 (by decide +kernel), samplePartition 0 7 (by decide +kernel)]

def sampleToken (expiresAt : Instant) (offsets : List PartitionBarrier) :
    ProjectionConsistencyToken where
  tokenVersion := 1
  installationId := .ofString "install-a"
  authenticatedProducerId := .ofString "producer-a"
  projectorId := .ofString "balances"
  projectionName := .ofString "balance"
  queryScope := .ofString "player"
  queryDefinitionVersion := 1
  topologyVersion := 1
  routingVersion := 1
  issuedAt := ⟨1000, 0, by decide, by decide⟩
  expiresAt := expiresAt
  issuerAgentId := .ofString "agent-a"
  keyId := .ofString "key-1"
  eventId := .ofString "01890f3e-7b4c-7cc2-98c8-3f0f5f3f9b4a"
  requiredNextOffsets := offsets
  mutationReferences := []
  tokenChecksum := List.replicate 32 0
  mac := List.replicate 32 0

def sampleBarrier (partitions : List PartitionBarrier) : ProjectionBarrier where
  barrierVersion := 1
  barrierId := .ofString "barrier-1"
  installationId := .ofString "install-a"
  queryId := .ofString "query-1"
  queryDefinitionVersion := 1
  projectionTopologyVersion := 1
  routingVersion := 1
  partitionSetChecksum := List.replicate 32 0
  capturedAt := ⟨1500, 0, by decide, by decide⟩
  partitions := partitions
  barrierChecksum := List.replicate 32 0

/-- 2000 s and `nano` ns after the epoch. -/
def sampleInstant (nano : Nat) (h : nano < 1000000000) : Instant := ⟨2000, nano, h, by decide⟩

theorem sampleToken_accepted (expiresAt : Instant) :
    (sampleToken expiresAt samplePartitions).Accepted := by
  have haccepted : (sampleToken (sampleInstant 0 (by decide)) samplePartitions).Accepted := by
    refine ⟨?_, ⟨?_, ?_⟩, ⟨?_, ?_⟩, ⟨?_, ?_⟩, ⟨?_, ?_⟩, ⟨?_, ?_⟩, ?_, ?_, ?_, ⟨?_, ?_⟩, ⟨?_, ?_⟩, ?_,
      ⟨⟨List.cons_ne_nil _ _, ?_⟩, ?_⟩, ?_, ?_, ?_, ?_⟩
    all_goals decide +kernel
  exact { haccepted with }

theorem samplePartitions_wellFormed : ∀ p ∈ samplePartitions, p.topic.WellFormed := by
  intro p hp
  rcases List.mem_cons.mp hp with rfl | hp
  · exact ⟨_, rfl⟩
  · obtain rfl := List.mem_singleton.mp hp
    exact ⟨_, rfl⟩

theorem sampleBarrier_accepted : (sampleBarrier samplePartitions).Accepted := by
  refine ⟨?_, ⟨?_, ?_⟩, ⟨?_, ?_⟩, ⟨?_, ?_⟩, ?_, ?_, ?_, ?_, ?_, ⟨List.cons_ne_nil _ _, ?_⟩, ?_⟩
  all_goals decide +kernel

/-- The sample token and barrier with their two partitions in either order have one encoding,
and it tells their fields. -/
theorem projection_bytes_canonical_reversed :
    ∃ x x' y y' bytes,
      ((sampleToken (sampleInstant 0 (by decide)) samplePartitions).construct = .ok x ∧
        (sampleToken (sampleInstant 0 (by decide)) samplePartitions.reverse).construct = .ok x' ∧
        x.unsignedCanonicalBytes = some bytes ∧ x'.unsignedCanonicalBytes = some bytes ∧
        x.SameClaims x') ∧
      ((sampleBarrier samplePartitions).construct = .ok y ∧
        (sampleBarrier samplePartitions.reverse).construct = .ok y' ∧
        y.canonicalBytes = y'.canonicalBytes ∧ y.SameBarrier y') := by
  obtain ⟨htoken, hbarrier, htokenPerm, hbarrierPerm⟩ := projection_bytes_canonical
  have hx := ProjectionConsistencyToken.construct_eq_ok_iff.mpr
    ⟨sampleToken_accepted (sampleInstant 0 (by decide)), rfl⟩
  have hy := ProjectionBarrier.construct_eq_ok_iff.mpr ⟨sampleBarrier_accepted, rfl⟩
  have hsorted : ∀ p ∈ SortedBy.sortBy PartitionBarrier.order samplePartitions,
      p.topic.WellFormed :=
    fun p hp => samplePartitions_wellFormed p ((SortedBy.mem_sortBy _).mp hp)
  have hwfx : ProjectionConsistencyToken.WellFormed
      (sampleToken (sampleInstant 0 (by decide)) samplePartitions).sorted :=
    ⟨⟨_, rfl⟩, ⟨_, rfl⟩, ⟨_, rfl⟩, ⟨_, rfl⟩, ⟨_, rfl⟩, ⟨_, rfl⟩, ⟨_, rfl⟩, ⟨_, rfl⟩, hsorted,
      fun m hm => (by cases hm)⟩
  have hwfy : ProjectionBarrier.WellFormed (sampleBarrier samplePartitions).sorted :=
    ⟨⟨_, rfl⟩, ⟨_, rfl⟩, ⟨_, rfl⟩, hsorted⟩
  have hreversed := (htokenPerm (c := sampleToken (sampleInstant 0 (by decide)) samplePartitions)
    (List.reverse_perm samplePartitions)).mpr hx
  have hreversed' := (hbarrierPerm (c := sampleBarrier samplePartitions)
    (List.reverse_perm samplePartitions)).mpr hy
  have hmillis : ProjectionConsistencyToken.WholeMillis
      (sampleToken (sampleInstant 0 (by decide)) samplePartitions).sorted := by
    constructor <;> decide
  have hbytes : (sampleToken (sampleInstant 0 (by decide))
      samplePartitions).sorted.unsignedCanonicalBytes = some _ := rfl
  exact ⟨_, _, _, _, _,
    ⟨hx, hreversed, hbytes, hbytes,
      htoken hx hreversed hwfx hwfx hmillis hmillis hbytes hbytes⟩,
    ⟨hy, hreversed', rfl, hbarrier hy hreversed' hwfy hwfy rfl⟩⟩

/-! ## The size of a token -/

/-- The bytes of a token are at most what the constructor estimates, whatever its texts,
partitions and mutations are, so those of an accepted token are at most
`MAX_TOKEN_BYTES`. -/
theorem token_bytes_bounded :
    (∀ (x : ProjectionConsistencyToken) (bytes : Bytes),
      canonicalUuidV7 x.eventId "eventId" = .ok x.eventId →
        x.unsignedCanonicalBytes = some bytes → bytes.length ≤ x.estimatedBytes) ∧
    (∀ (c x : ProjectionConsistencyToken) (bytes : Bytes), c.construct = .ok x →
      x.unsignedCanonicalBytes = some bytes → bytes.length ≤ maxTokenBytes) := by
  have hestimate : ∀ (x : ProjectionConsistencyToken) (bytes : Bytes),
      canonicalUuidV7 x.eventId "eventId" = .ok x.eventId →
        x.unsignedCanonicalBytes = some bytes → bytes.length ≤ x.estimatedBytes := by
    intro x bytes hevent hbytes
    obtain ⟨issued, expires, -, -, rfl⟩ :=
      ProjectionConsistencyToken.unsignedCanonicalBytes_eq_some.mp hbytes
    exact ProjectionConsistencyToken.length_bytesAt_le hevent
  refine ⟨hestimate, ?_⟩
  intro c x bytes hx hbytes
  obtain ⟨hc, rfl⟩ := ProjectionConsistencyToken.construct_eq_ok_iff.mp hx
  exact (hestimate _ bytes hc.sorted.eventId hbytes).trans hc.sorted.size

/-- The sample token. -/
theorem token_bytes_bounded_sample :
    ∃ x bytes, (sampleToken (sampleInstant 0 (by decide)) samplePartitions).construct = .ok x ∧
      x.unsignedCanonicalBytes = some bytes ∧ bytes.length ≤ maxTokenBytes := by
  have hx := ProjectionConsistencyToken.construct_eq_ok_iff.mpr
    ⟨sampleToken_accepted (sampleInstant 0 (by decide)), rfl⟩
  have hbytes : (sampleToken (sampleInstant 0 (by decide))
      samplePartitions).sorted.unsignedCanonicalBytes = some _ := rfl
  exact ⟨_, _, hx, hbytes, token_bytes_bounded.2 _ _ _ hx hbytes⟩

/-! ## What authentication covers -/

/-- Two tokens with the same key, bytes, checksum and MAC are valid for the same requests at
the same times exactly when they are not authentic, or neither is valid at any time, or
they agree on what their bytes do not say: their instants below the millisecond, and their
scope where a string of it is not well-formed. -/
theorem token_validity_authenticated_iff [Sha256] {sign : TokenMacProvider}
    {a b x y : ProjectionConsistencyToken} (hx : a.construct = .ok x) (hy : b.construct = .ok y)
    (hkey : x.keyId = y.keyId) (hbytes : x.unsignedCanonicalBytes = y.unsignedCanonicalBytes)
    (hsum : x.tokenChecksum = y.tokenChecksum) (hmac : x.mac = y.mac) :
    (∀ expected serverNow, validate sign x expected serverNow = .ok () ↔
        validate sign y expected serverNow = .ok ()) ↔
      ¬ x.Authentic sign ∨
      (x.expiresAt.isAfter x.issuedAt = false ∧ y.expiresAt.isAfter y.issuedAt = false) ∨
      (x.issuedAt.belowMilli = y.issuedAt.belowMilli ∧
        x.expiresAt.belowMilli = y.expiresAt.belowMilli ∧ x.scope = y.scope) := by
  obtain ⟨ha, rfl⟩ := ProjectionConsistencyToken.construct_eq_ok_iff.mp hx
  obtain ⟨hb, rfl⟩ := ProjectionConsistencyToken.construct_eq_ok_iff.mp hy
  have hauth : a.sorted.Authentic sign ↔ b.sorted.Authentic sign :=
    ProjectionConsistencyToken.Authentic.congr hkey hbytes hsum hmac
  by_cases hax : a.sorted.Authentic sign
  · obtain ⟨canonical, hcanonical, -⟩ := id hax
    obtain ⟨hissued, hexpires⟩ := ProjectionConsistencyToken.instants_eq_of_bytes ha.sorted hb.sorted
      hcanonical (hbytes.symm.trans hcanonical)
    rw [ProjectionConsistencyToken.valid_together_iff hax (hauth.mp hax),
      ProjectionConsistencyToken.window_eq_empty_iff, ProjectionConsistencyToken.window_eq_empty_iff]
    constructor
    · rintro (hempty | ⟨hi, he, hscope⟩)
      · exact .inr (.inl hempty)
      · exact .inr (.inr ⟨by rw [hi], by rw [he], hscope⟩)
    · rintro (hnot | hempty | ⟨hi, he, hscope⟩)
      · exact absurd hax hnot
      · exact .inl hempty
      · exact .inr ⟨hissued hi, hexpires he, hscope⟩
  · have hay : ¬ b.sorted.Authentic sign := fun h => hax (hauth.mpr h)
    simp [ProjectionConsistencyToken.validate_eq_ok_iff, hax, hay]

/-- The issuer of the sample tokens has one key. -/
def sampleSign : TokenMacProvider :=
  @hmacSha256TokenMac fipsSha256 [(.ofString "key-1", List.replicate 16 7)]

/-- Sample tokens that expire at 2000 s and half a millisecond later. -/
theorem sampleTokens_authenticated :
    ∃ x y, @authenticate fipsSha256 sampleSign
        (sampleToken (sampleInstant 0 (by decide)) samplePartitions).sorted = .ok x ∧
      @authenticate fipsSha256 sampleSign
        (sampleToken (sampleInstant 500000 (by decide)) samplePartitions).sorted = .ok y ∧
      (x.construct = .ok x ∧ y.construct = .ok y) ∧
      (x.keyId = y.keyId ∧ x.unsignedCanonicalBytes = y.unsignedCanonicalBytes ∧
        x.tokenChecksum = y.tokenChecksum ∧ x.mac = y.mac) ∧
      (@ProjectionConsistencyToken.Authentic fipsSha256 sampleSign x ∧
        @ProjectionConsistencyToken.Authentic fipsSha256 sampleSign y) ∧
      (x.expiresAt = sampleInstant 0 (by decide) ∧
        y.issuedAt = ⟨1000, 0, by decide, by decide⟩ ∧
        y.expiresAt = sampleInstant 500000 (by decide)) := by
  have hbytes : ∀ expiresAt : Instant, expiresAt.toEpochMilli = some 2000000 →
      (sampleToken expiresAt samplePartitions).sorted.unsignedCanonicalBytes =
        some ((sampleToken (sampleInstant 0 (by decide)) samplePartitions).sorted.bytesAt
          1000000 2000000) := by
    intro expiresAt h
    have hissued : Instant.toEpochMilli ⟨1000, 0, by decide, by decide⟩ = some 1000000 := by decide
    exact ProjectionConsistencyToken.unsignedCanonicalBytes_eq_some.mpr
      ⟨1000000, 2000000, hissued, h, rfl⟩
  have hauth : ∀ expiresAt : Instant, expiresAt.toEpochMilli = some 2000000 → _ :=
    fun expiresAt h => @ProjectionConsistencyToken.authenticate_eq_ok fipsSha256 sampleSign _ _ _
      (sampleToken_accepted expiresAt).sorted ProjectionConsistencyToken.sorted_sorted
      (hbytes expiresAt h) rfl (@Sha256.digest fipsSha256 _).property
  obtain ⟨x, hx, rfl, hxok, hxauth⟩ := hauth (sampleInstant 0 (by decide)) (by decide)
  obtain ⟨y, hy, rfl, hyok, hyauth⟩ := hauth (sampleInstant 500000 (by decide)) (by decide)
  refine ⟨_, _, hx, hy, ⟨hxok, hyok⟩, ⟨rfl, ?_, rfl, rfl⟩, ⟨hxauth, hyauth⟩, rfl, rfl, rfl⟩
  rw [ProjectionConsistencyToken.unsignedCanonicalBytes_signed,
    ProjectionConsistencyToken.unsignedCanonicalBytes_signed, hbytes _ (by decide),
    hbytes _ (by decide)]

/-- The sample tokens are not valid together. -/
theorem token_validity_authenticated_iff_sample :
    ∃ x y, x.unsignedCanonicalBytes = y.unsignedCanonicalBytes ∧ x.mac = y.mac ∧
      ¬ ∀ expected serverNow, @validate fipsSha256 sampleSign x expected serverNow = .ok () ↔
        @validate fipsSha256 sampleSign y expected serverNow = .ok () := by
  obtain ⟨x, y, -, -, ⟨hx, hy⟩, ⟨hkey, hbytes, hsum, hmac⟩, ⟨hxauth, -⟩, hxe, hyi, hye⟩ :=
    sampleTokens_authenticated
  refine ⟨x, y, hbytes, hmac, ?_⟩
  rw [@token_validity_authenticated_iff fipsSha256 sampleSign x y x y hx hy hkey hbytes hsum hmac,
    hxe, hyi, hye]
  rintro (h | ⟨-, h⟩ | ⟨-, h, -⟩)
  · exact h hxauth
  · exact absurd h (by decide)
  · exact absurd h (by decide)

/-- At 2000 s the first sample token is expired and the second is valid. -/
theorem token_expiry_unauthenticated :
    ∃ x y, (x.construct = .ok x ∧ y.construct = .ok y) ∧
      (x.keyId = y.keyId ∧ x.unsignedCanonicalBytes = y.unsignedCanonicalBytes ∧
        x.tokenChecksum = y.tokenChecksum ∧ x.mac = y.mac) ∧
      @validate fipsSha256 sampleSign x y.scope (sampleInstant 0 (by decide)) ≠ .ok () ∧
      @validate fipsSha256 sampleSign y y.scope (sampleInstant 0 (by decide)) = .ok () := by
  obtain ⟨x, y, -, -, hok, hsame, ⟨-, hyauth⟩, hxe, hyi, hye⟩ := sampleTokens_authenticated
  refine ⟨x, y, hok, hsame, ?_, ?_⟩
  · rw [ne_eq, @ProjectionConsistencyToken.validate_eq_ok_iff fipsSha256]
    rintro ⟨-, hwindow, -⟩
    exact lt_irrefl _ (hxe ▸ hwindow.2)
  · rw [@ProjectionConsistencyToken.validate_eq_ok_iff fipsSha256]
    refine ⟨hyauth, ⟨?_, ?_⟩, rfl⟩
    · rw [hyi, ← not_lt, ← Instant.isAfter_iff]
      decide
    · rw [hye, ← Instant.isAfter_iff]
      decide

end CraftRelay.Client
