import Mathlib.Algebra.Order.Ring.Int
import Mathlib.Data.List.Lex
import Mathlib.Data.Prod.Lex
import CraftRelay.Lib.SortedBy
import CraftRelay.Client.ContractValidation
import CraftRelay.Client.Writing

/-!
# Barriers and consistency tokens

`ProjectionBarrier.java`, `ProjectionMutationReference.java`,
`ProjectionConsistencyToken.java` and `ConsistencyTokenValidator.java`. Barriers and
tokens sort their partitions and refuse duplicates; a token is authenticated over its
canonical bytes and then checked against its own fields.
-/

namespace CraftRelay.Client

/-! ## Time -/

/-- `java.time.Instant`, within its range. -/
structure Instant where
  epochSecond : Int
  nano : Nat
  nano_lt : nano < 1000000000
  range : -31557014167219200 ≤ epochSecond ∧ epochSecond ≤ 31556889864403199
  deriving DecidableEq

namespace Instant

def isAfter (a b : Instant) : Bool :=
  b.epochSecond < a.epochSecond || (b.epochSecond == a.epochSecond && b.nano < a.nano)

/-- `toEpochMilli`: what is below a millisecond is dropped, and the exception for a number
that is no `long` is `none`. -/
def toEpochMilli (a : Instant) : Option Int64 :=
  let millis := a.epochSecond * 1000 + (a.nano / 1000000 : Nat)
  if -9223372036854775808 ≤ millis ∧ millis ≤ 9223372036854775807 then some (.ofInt millis)
  else none

end Instant

/-! ## Partitions and mutations -/

/-- The constructor of `PartitionBarrier`. -/
def checkPartitionBarrier (topic : JavaString) (partition : Int32)
    (requiredNextOffset : Int64) : Except ContractViolation Unit := do
  let _ ← boundedText topic "topic" 249
  Except.refuseIf (partition.toInt < 0 ∨ requiredNextOffset.toInt < 0)
    ⟨.invalidArgument, "partition and exclusive requiredNextOffset must be non-negative"⟩

structure PartitionBarrier where
  topic : JavaString
  partition : Int32
  requiredNextOffset : Int64
  constructed : checkPartitionBarrier topic partition requiredNextOffset = .ok ()

/-- The order of `comparing(topic).thenComparingInt(partition)`. -/
def PartitionBarrier.order (p : PartitionBarrier) : List Nat ×ₗ Int :=
  toLex (p.topic.units, p.partition.toInt)

def PartitionBarrier.write (p : PartitionBarrier) : Bytes :=
  writeText p.topic ++ writeInt p.partition ++ writeLong p.requiredNextOffset

/-- The constructor of `ProjectionMutationReference`. -/
def checkMutationReference (projectionId entityType entityId : JavaString)
    (domainVersion : Int64) (topic : JavaString) (partition : Int32)
    (requiredNextOffset : Int64) : Except ContractViolation Unit := do
  let _ ← boundedText projectionId "projectionId" 128
  let _ ← boundedText entityType "entityType" 128
  let _ ← boundedText entityId "entityId" 256
  let _ ← positiveInt64 domainVersion "domainVersion"
  let _ ← boundedText topic "topic" 249
  Except.refuseIf (partition.toInt < 0 ∨ requiredNextOffset.toInt < 0)
    ⟨.invalidArgument, "partition and exclusive requiredNextOffset must be non-negative"⟩

structure ProjectionMutationReference where
  projectionId : JavaString
  entityType : JavaString
  entityId : JavaString
  domainVersion : Int64
  topic : JavaString
  partition : Int32
  requiredNextOffset : Int64
  constructed : checkMutationReference projectionId entityType entityId domainVersion topic
    partition requiredNextOffset = .ok ()

def ProjectionMutationReference.write (m : ProjectionMutationReference) : Bytes :=
  writeText m.projectionId ++ writeText m.entityType ++ writeText m.entityId ++
    writeLong m.domainVersion ++ writeText m.topic ++ writeInt m.partition ++
    writeLong m.requiredNextOffset

/-! ## Barriers -/

structure ProjectionBarrier where
  barrierVersion : Int32
  barrierId : JavaString
  installationId : JavaString
  queryId : JavaString
  queryDefinitionVersion : Int32
  projectionTopologyVersion : Int64
  routingVersion : Int64
  partitionSetChecksum : Bytes
  capturedAt : Instant
  partitions : List PartitionBarrier
  barrierChecksum : Bytes

/-- The loop over neighbours. -/
def repeatsNeighbour : List PartitionBarrier → Bool
  | previous :: current :: rest =>
      (previous.topic == current.topic && previous.partition == current.partition) ||
        repeatsNeighbour (current :: rest)
  | _ => false

namespace ProjectionBarrier

def construct (c : ProjectionBarrier) : Except ContractViolation ProjectionBarrier := do
  let barrierVersion ← positiveInt32 c.barrierVersion "barrierVersion"
  let barrierId ← boundedText c.barrierId "barrierId" 128
  let installationId ← boundedText c.installationId "installationId" 128
  let queryId ← boundedText c.queryId "queryId" 128
  let queryDefinitionVersion ← positiveInt32 c.queryDefinitionVersion "queryDefinitionVersion"
  let projectionTopologyVersion ←
    positiveInt64 c.projectionTopologyVersion "projectionTopologyVersion"
  let routingVersion ← positiveInt64 c.routingVersion "routingVersion"
  let partitionSetChecksum ← fixedChecksum c.partitionSetChecksum "partitionSetChecksum"
  let barrierChecksum ← fixedChecksum c.barrierChecksum "barrierChecksum"
  let partitions := SortedBy.sortBy PartitionBarrier.order c.partitions
  Except.refuseIf (partitions = [] ∨ maxBarrierPartitions < partitions.length)
    ⟨.boundsExceeded,
      "barrier partition count must be 1.." ++ toString maxBarrierPartitions⟩
  Except.refuseIf (repeatsNeighbour partitions = true)
    ⟨.invalidArgument, "duplicate barrier partition"⟩
  return ⟨barrierVersion, barrierId, installationId, queryId, queryDefinitionVersion,
    projectionTopologyVersion, routingVersion, partitionSetChecksum, c.capturedAt, partitions,
    barrierChecksum⟩

def canonicalBytes (x : ProjectionBarrier) : Bytes :=
  writeInt x.barrierVersion ++ writeText x.barrierId ++ writeText x.installationId ++
    writeText x.queryId ++ writeInt x.queryDefinitionVersion ++
    writeLong x.projectionTopologyVersion ++ writeLong x.routingVersion ++
    writeBytes x.partitionSetChecksum ++
    (writeSize x.partitions.length ++ x.partitions.flatMap PartitionBarrier.write)

end ProjectionBarrier

/-! ## Tokens -/

structure ProjectionConsistencyToken where
  tokenVersion : Int32
  installationId : JavaString
  authenticatedProducerId : JavaString
  projectorId : JavaString
  projectionName : JavaString
  queryScope : JavaString
  queryDefinitionVersion : Int32
  topologyVersion : Int64
  routingVersion : Int64
  issuedAt : Instant
  expiresAt : Instant
  issuerAgentId : JavaString
  keyId : JavaString
  eventId : JavaString
  requiredNextOffsets : List PartitionBarrier
  mutationReferences : List ProjectionMutationReference
  tokenChecksum : Bytes
  mac : Bytes

/-- `topic + '\0' + partition`. -/
def PartitionBarrier.text (p : PartitionBarrier) : JavaString :=
  p.topic ++ [0] ++ .ofString (toString p.partition.toInt)

namespace ProjectionConsistencyToken

/-- What the constructor takes the size of the token for. -/
def estimatedBytes (c : ProjectionConsistencyToken) : Nat :=
  c.installationId.getBytes.length + c.authenticatedProducerId.getBytes.length +
    c.projectorId.getBytes.length + c.projectionName.getBytes.length +
    c.queryScope.getBytes.length + c.issuerAgentId.getBytes.length + c.keyId.getBytes.length +
    c.eventId.length + 128 + c.requiredNextOffsets.length * 280 +
    c.mutationReferences.length * 900

def construct (c : ProjectionConsistencyToken) :
    Except ContractViolation ProjectionConsistencyToken := do
  let tokenVersion ← positiveInt32 c.tokenVersion "tokenVersion"
  let installationId ← boundedText c.installationId "installationId" 128
  let authenticatedProducerId ←
    boundedText c.authenticatedProducerId "authenticatedProducerId" 128
  let projectorId ← boundedText c.projectorId "projectorId" 128
  let projectionName ← boundedText c.projectionName "projectionName" 128
  let queryScope ← boundedText c.queryScope "queryScope" 256
  let queryDefinitionVersion ← positiveInt32 c.queryDefinitionVersion "queryDefinitionVersion"
  let topologyVersion ← positiveInt64 c.topologyVersion "topologyVersion"
  let routingVersion ← positiveInt64 c.routingVersion "routingVersion"
  let issuerAgentId ← boundedText c.issuerAgentId "issuerAgentId" 128
  let keyId ← boundedText c.keyId "keyId" 128
  let eventId ← canonicalUuidV7 c.eventId "eventId"
  let requiredNextOffsets := SortedBy.sortBy PartitionBarrier.order c.requiredNextOffsets
  Except.refuseIf (requiredNextOffsets = [] ∨
      maxBarrierPartitions < requiredNextOffsets.length ∨
      maxTokenMutationReferences < c.mutationReferences.length)
    ⟨.boundsExceeded, "token vectors exceed configured bounds"⟩
  Except.refuseIf (¬ (requiredNextOffsets.map PartitionBarrier.text).Nodup)
    ⟨.invalidArgument, "duplicate token partition requirement"⟩
  Except.refuseIf (maxTokenBytes <
      estimatedBytes { c with requiredNextOffsets := requiredNextOffsets })
    ⟨.boundsExceeded, "token fields exceed " ++ toString maxTokenBytes ++ " bytes"⟩
  let tokenChecksum ← fixedChecksum c.tokenChecksum "tokenChecksum"
  Except.refuseIf (c.mac.length ≠ 32)
    ⟨.tokenInvalidMac, "token MAC must contain 32 bytes"⟩
  return ⟨tokenVersion, installationId, authenticatedProducerId, projectorId, projectionName,
    queryScope, queryDefinitionVersion, topologyVersion, routingVersion, c.issuedAt,
    c.expiresAt, issuerAgentId, keyId, eventId, requiredNextOffsets, c.mutationReferences,
    tokenChecksum, c.mac⟩

/-- The bytes once the two instants are milliseconds. -/
def bytesAt (x : ProjectionConsistencyToken) (issued expires : Int64) : Bytes :=
  writeInt x.tokenVersion ++ writeText x.installationId ++
    writeText x.authenticatedProducerId ++ writeText x.projectorId ++
    writeText x.projectionName ++ writeText x.queryScope ++ writeInt x.queryDefinitionVersion ++
    writeLong x.topologyVersion ++ writeLong x.routingVersion ++ writeLong issued ++
    writeLong expires ++ writeText x.issuerAgentId ++ writeText x.keyId ++
    writeText x.eventId ++
    (writeSize x.requiredNextOffsets.length ++
      x.requiredNextOffsets.flatMap PartitionBarrier.write) ++
    (writeSize x.mutationReferences.length ++
      x.mutationReferences.flatMap ProjectionMutationReference.write)

/-- `none` is the exception of `toEpochMilli`. -/
def unsignedCanonicalBytes (x : ProjectionConsistencyToken) : Option Bytes := do
  let issued ← x.issuedAt.toEpochMilli
  let expires ← x.expiresAt.toEpochMilli
  return x.bytesAt issued expires

end ProjectionConsistencyToken

/-! ## Validation -/

/-- `TokenScope`, whose fields may be `null`. -/
structure TokenScope where
  installationId : Option JavaString
  producerId : Option JavaString
  projectorId : Option JavaString
  projectionName : Option JavaString
  queryScope : Option JavaString
  deriving DecidableEq

/-- `TokenMacProvider.sign`. -/
abbrev TokenMacProvider := JavaString → Bytes → Except ContractViolation Bytes

/-- What `validate` throws. -/
inductive Thrown where
  | violation (v : ContractViolation)
  | arithmetic
  deriving DecidableEq

/-- The scope a token is for. -/
def ProjectionConsistencyToken.scope (token : ProjectionConsistencyToken) : TokenScope where
  installationId := some token.installationId
  producerId := some token.authenticatedProducerId
  projectorId := some token.projectorId
  projectionName := some token.projectionName
  queryScope := some token.queryScope

/-- `ConsistencyTokenValidator.validate`, without the notice to the security log. The MAC
is not computed when the checksum does not match. -/
def validate [Sha256] (sign : TokenMacProvider) (token : ProjectionConsistencyToken)
    (expected : TokenScope) (serverNow : Instant) : Except Thrown Unit := do
  let canonical ← match token.unsignedCanonicalBytes with
    | none => .error .arithmetic
    | some canonical => .ok canonical
  let invalidMac : Thrown := .violation
    ⟨.tokenInvalidMac, "projection consistency token authentication failed"⟩
  Except.refuseIf ((Sha256.digest canonical).val ≠ token.tokenChecksum) invalidMac
  let mac ← (sign token.keyId canonical).mapError .violation
  Except.refuseIf (mac ≠ token.mac) invalidMac
  Except.refuseIf (token.expiresAt.isAfter serverNow = false ∨ token.issuedAt.isAfter serverNow)
    (.violation ⟨.tokenExpired, "projection consistency token is expired or not yet valid"⟩)
  Except.refuseIf (some token.installationId ≠ expected.installationId ∨
      some token.authenticatedProducerId ≠ expected.producerId ∨
      some token.projectorId ≠ expected.projectorId ∨
      some token.projectionName ≠ expected.projectionName ∨
      some token.queryScope ≠ expected.queryScope)
    (.violation ⟨.tokenScopeMismatch,
      "projection consistency token scope does not match the request"⟩)

/-- `ConsistencyTokenValidator.authenticate`. -/
def authenticate [Sha256] (sign : TokenMacProvider) (unsigned : ProjectionConsistencyToken) :
    Except Thrown ProjectionConsistencyToken := do
  let canonical ← match unsigned.unsignedCanonicalBytes with
    | none => .error .arithmetic
    | some canonical => .ok canonical
  let mac ← (sign unsigned.keyId canonical).mapError .violation
  let token := { unsigned with tokenChecksum := (Sha256.digest canonical).val, mac := mac }
  token.construct.mapError .violation

/-! ## The fixture's MAC -/

/-- HMAC with SHA-256 and its block of 64 bytes. -/
def hmacSha256 [Sha256] (key message : Bytes) : Bytes :=
  let key := if 64 < key.length then (Sha256.digest key).val else key
  let block := key ++ List.replicate (64 - key.length) 0
  let inner := Sha256.digest (block.map (· ^^^ 0x36) ++ message)
  (Sha256.digest (block.map (· ^^^ 0x5c) ++ inner.val)).val

/-- `HmacSha256TokenMac.sign`. -/
def hmacSha256TokenMac [Sha256] (keys : List (JavaString × Bytes)) : TokenMacProvider :=
  fun keyId canonicalToken =>
    match keys.lookup keyId with
    | none => .error ⟨.tokenInvalidMac, "unknown or invalid token key"⟩
    | some key =>
      if key.length < 16 then .error ⟨.tokenInvalidMac, "unknown or invalid token key"⟩
      else .ok (hmacSha256 key canonicalToken)

end CraftRelay.Client
