import CraftRelay.Lib.KeyedTable
import CraftRelay.Lib.AutoLog

/-!
# Data model of the local journal

The public types of `craftrelay-journal`, the tables of its schema (version 2)
and the environment one call runs in.

* Text columns are `String` and blobs are `Bytes`, as SQLite stores them: a
  status read back from the database is whatever text is there, and a digest
  column may have any length. Only the in-memory types narrow them.
* 64-bit sequence numbers, revisions and timestamps are `Int`. The one counter
  the code keeps in 32 bits and increments, `attempt_count`, is read back
  through the range check `InI32` and incremented with `i32Wrap`. The
  `schema_version` of a request is an `i32`, and a stored one is read back
  through the same check.
* SHA-256 is the `sha2` crate's. It is a parameter, `Sha256.digest`; nothing in
  the development assumes more of it than that it is a function.
-/

namespace CraftRelay

/-- A byte string. -/
abbrev Bytes := List UInt8

/-- A 32-byte digest. -/
abbrev Checksum := { b : Bytes // b.length = 32 }

/-- The hash the `sha2` crate provides. -/
class Sha256 where
  digest : Bytes → Checksum

/-- Copy a slice into a `[u8; 32]`, when it has that length. -/
def checksumOfSlice (b : Bytes) : Option Checksum :=
  if h : b.length = 32 then some ⟨b, h⟩ else none

@[simp] theorem checksumOfSlice_val (c : Checksum) : checksumOfSlice c.val = some c := by
  simp [checksumOfSlice, c.property]

theorem checksumOfSlice_eq_some {b : Bytes} {c : Checksum} :
    checksumOfSlice b = some c ↔ b = c.val := by
  unfold checksumOfSlice
  split
  · rename_i h
    simp [Subtype.ext_iff]
  · rename_i h
    simp only [reduceCtorEq, false_iff]
    rintro rfl
    exact h c.property

/-- The values an `i32` holds. -/
def InI32 (n : Int) : Prop := -2147483648 ≤ n ∧ n ≤ 2147483647

instance (n : Int) : Decidable (InI32 n) := inferInstanceAs (Decidable (_ ∧ _))

/-- The values an `i64` holds. -/
def InI64 (n : Int) : Prop := -9223372036854775808 ≤ n ∧ n ≤ 9223372036854775807

instance (n : Int) : Decidable (InI64 n) := inferInstanceAs (Decidable (_ ∧ _))

/-- Two's-complement wrap-around of 32-bit arithmetic. -/
def i32Wrap (n : Int) : Int := Int.bmod n 4294967296

theorem i32Wrap_of_inI32 {n : Int} (h : InI32 n) : i32Wrap n = n := by
  obtain ⟨h1, h2⟩ := h
  unfold i32Wrap
  exact Int.bmod_eq_of_le (by omega) (by omega)

theorem inI32_toInt (n : Int32) : InI32 n.toInt :=
  ⟨n.le_toInt, Int.le_of_lt_add_one n.toInt_lt⟩

/-! ## Requests and results -/

/-- `craftrelay_domain::DeliveryStatus`. -/
inductive DeliveryStatus where
  | localAccepted | deliveryPending | deliveryRetrying | replicated | deliveryBlocked
  deriving DecidableEq, Repr

structure AcceptRequest where
  installationId : String
  eventId : String
  producerId : String
  producerInstanceId : String
  producerOperationSequence : Int
  «namespace» : String
  logicalStreamType : String
  streamKey : String
  eventType : String
  schemaVersion : Int32
  payload : Bytes
  requestFingerprint : Checksum
  routingVersion : Int
  deriving DecidableEq

structure AcceptedEvent where
  eventId : String
  journalSequence : Int
  streamSequence : Int
  lifecycleRevision : Int
  envelopeChecksum : Checksum
  deliveryStatus : DeliveryStatus
  deriving DecidableEq

inductive AcceptResult where
  | accepted (event : AcceptedEvent)
  | existingDuplicate (event : AcceptedEvent)
  | corrupted (eventId detail : String)
  | fingerprintConflict (eventId : String)
  | sequenceConflict (detail : String)
  | diskUnsafe
  | shuttingDown
  | error (message : String)
  deriving DecidableEq

structure PersistedStatus where
  eventId : String
  journalSequence : Int
  streamSequence : Int
  lifecycleRevision : Int
  lifecycleChecksum : Checksum
  deliveryStatus : String
  retentionStatus : String
  payloadDigest : Checksum
  envelopeChecksum : Checksum
  deriving DecidableEq

inductive StatusResult where
  | found (status : PersistedStatus)
  | notFound
  | corrupted (eventId detail : String)
  deriving DecidableEq

inductive CasResult where
  | updated
  | alreadyConfirmed
  | staleRevision
  | notFound
  | invalidTransition
  | corrupted (eventId detail : String)
  | error (message : String)
  deriving DecidableEq

/-- The delivery statuses `update_lifecycle` can be asked to write. -/
inductive LocalDeliveryStatus where
  | localAccepted | deliveryPending | deliveryBlocked
  deriving DecidableEq, Repr

def LocalDeliveryStatus.asStr : LocalDeliveryStatus → String
  | .localAccepted => "LOCAL_ACCEPTED"
  | .deliveryPending => "DELIVERY_PENDING"
  | .deliveryBlocked => "DELIVERY_BLOCKED"

inductive LocalRetentionStatus where
  | present
  deriving DecidableEq, Repr

def LocalRetentionStatus.asStr : LocalRetentionStatus → String
  | .present => "PRESENT"

inductive VerifyResult where
  | ok
  | notFound
  | digestMismatch
  | error (message : String)
  deriving DecidableEq

inductive PayloadReadResult where
  | found (payload : Bytes)
  | notFound
  | corrupted (eventId detail : String)
  | error (message : String)
  deriving DecidableEq

/-- A delivery row as the code holds it in memory. -/
structure DeliveryStateRecord where
  eventId : String
  deliveryStatus : String
  attemptCount : Int
  nextRetryAtMs : Option Int
  lastError : Option String
  blockedReason : Option String
  kafkaTopic : Option String
  kafkaPartition : Option Int
  kafkaOffset : Option Int
  routingFingerprint : Option Checksum
  profileId : Option String
  profileVersion : Option Int
  deliveryRevision : Int
  deliveryChecksum : Checksum
  confirmedAtMs : Option Int
  createdAtMs : Int
  updatedAtMs : Int
  deriving DecidableEq

structure DeliveryAttemptRecord where
  eventId : String
  attemptNumber : Int
  outcome : String
  errorCode : Option String
  kafkaTopic : Option String
  kafkaPartition : Option Int
  kafkaOffset : Option Int
  profileId : Option String
  profileVersion : Option Int
  attemptedAtMs : Int
  deriving DecidableEq

structure ReplicatedDeliveryConfirmation where
  expectedRoutingFingerprint : Checksum
  expectedProfileId : String
  expectedProfileVersion : Int
  kafkaTopic : String
  kafkaPartition : Int
  kafkaOffset : Int
  deriving DecidableEq

inductive DeliveryStateResult where
  | found (state : DeliveryStateRecord)
  | notFound
  | corrupted (eventId detail : String)
  | error (message : String)
  deriving DecidableEq

structure DeliveryCandidate where
  eventId : String
  installationId : String
  «namespace» : String
  logicalStreamType : String
  streamKey : String
  streamSequence : Int
  eventType : String
  routingVersion : Int
  deliveryState : DeliveryStateRecord
  deriving DecidableEq

inductive DeliveryCandidateResult where
  | found (candidate : DeliveryCandidate)
  | notFound
  | corrupted (eventId detail : String)
  | error (message : String)
  deriving DecidableEq

structure PendingDelivery where
  eventId : String
  journalSequence : Int
  streamKey : String
  streamSequence : Int
  deliveryStatus : String
  attemptCount : Int
  nextRetryAtMs : Option Int
  deriving DecidableEq

inductive DeliveryScanResult where
  | ok (deliveries : List PendingDelivery)
  | corrupted (eventId : Option String) (detail : String)
  | error (message : String)
  deriving DecidableEq

/-- One row of a scan's join; the envelope side is null when no envelope
matches. -/
structure DeliveryScanRow where
  eventId : String
  journalSequence : Option Int
  streamKey : Option String
  streamSequence : Option Int
  envelopeChecksum : Option Bytes
  deliveryStatus : String
  attemptCount : Int
  nextRetryAtMs : Option Int
  deriving DecidableEq

/-- How many delivery attempts are kept for one event. -/
def maxDeliveryAttempts : Nat := 16

/-- How many accept attempts are kept for one event. -/
def maxAttempts : Nat := 16

/-! ## Tables -/

/-- `stored_envelope`. -/
structure StoredEnvelope where
  journalSequence : Int
  eventId : String
  installationId : String
  producerId : String
  producerInstanceId : String
  producerOpSeq : Int
  «namespace» : String
  logicalStreamType : String
  streamKey : String
  eventType : String
  schemaVersion : Int
  streamSequence : Int
  payloadDigest : Bytes
  requestFingerprint : Bytes
  envelopeChecksum : Bytes
  payloadRefId : String
  payloadLength : Int
  routingVersion : Int
  receivedAtMs : Int
  deriving DecidableEq

/-- `payload_blob`. -/
structure PayloadBlob where
  eventId : String
  payload : Bytes
  payloadDigest : Bytes
  deriving DecidableEq

/-- `lifecycle_state`. -/
structure LifecycleState where
  eventId : String
  revision : Int
  lifecycleChecksum : Bytes
  deliveryStatus : String
  retentionStatus : String
  updatedAtMs : Int
  deriving DecidableEq

/-- `dedup_fingerprint`. -/
structure DedupFingerprint where
  eventId : String
  requestFingerprint : Bytes
  deriving DecidableEq

/-- `producer_sequence`. -/
structure ProducerSequence where
  producerKey : String
  highestSeq : Int
  lastEventId : String
  deriving DecidableEq

/-- `stream_head`. -/
structure StreamHead where
  streamKey : String
  headSequence : Int
  deriving DecidableEq

/-- `write_attempt`, without its id. -/
structure WriteAttempt where
  eventId : String
  outcome : String
  detail : Option String
  attemptAtMs : Int
  deriving DecidableEq

/-- `delivery_state`. -/
structure DeliveryState where
  eventId : String
  deliveryStatus : String
  attemptCount : Int
  nextRetryAtMs : Option Int
  lastError : Option String
  blockedReason : Option String
  kafkaTopic : Option String
  kafkaPartition : Option Int
  kafkaOffset : Option Int
  routingFingerprint : Option Bytes
  profileId : Option String
  profileVersion : Option Int
  deliveryRevision : Int
  deliveryChecksum : Bytes
  confirmedAtMs : Option Int
  createdAtMs : Int
  updatedAtMs : Int
  deriving DecidableEq

/-- The database. `delivery_attempt` has the columns of the record the caller
hands in. -/
structure Db where
  storedEnvelope : KeyedTable StoredEnvelope.eventId
  payloadBlob : KeyedTable PayloadBlob.eventId
  lifecycleState : KeyedTable LifecycleState.eventId
  dedupFingerprint : KeyedTable DedupFingerprint.eventId
  producerSequence : KeyedTable ProducerSequence.producerKey
  streamHead : KeyedTable StreamHead.streamKey
  writeAttempt : AutoLog WriteAttempt
  deliveryState : KeyedTable DeliveryState.eventId
  deliveryAttempt : AutoLog DeliveryAttemptRecord

/-- A database whose tables were just created. -/
def Db.empty : Db :=
  ⟨.empty, .empty, .empty, .empty, .empty, .empty, .empty, .empty, .empty⟩

/-! ## The environment of a call -/

/-- The SQL statements of the journal's methods. No call runs one of them
twice, except that a scan runs its per-row statements once for each row. -/
inductive Stmt where
  | begin
  | commit
  | selectDedupFingerprint
  | selectStatus
  | selectEnvelopeRow
  | selectPayloadBlob
  | selectPayloadDigest
  | selectProducerSequence
  | selectMaxJournalSequence
  | selectStreamHead
  | upsertStreamHead
  | insertStoredEnvelope
  | insertPayloadBlob
  | insertLifecycleState
  | insertDedupFingerprint
  | upsertProducerSequence
  | insertWriteAttempt
  | trimWriteAttempt
  | selectEventIdBySequence
  | selectEnvelopeExists
  | insertDeliveryState
  | selectDeliveryState
  | selectCandidateEnvelope
  | insertDeliveryAttempt
  | trimDeliveryAttempt
  | updateDeliveryState
  | updateLifecycleState
  | prepareScan
  | queryScan
  | fetchScanRow
  | scanRow (index : Nat) (stmt : Stmt)
  deriving DecidableEq

/-- What a call does not control: the clock, the disk guard's answer, and
which of its statements fail with which message. A failing `query_row` stands
for a column that does not convert as well as for an error of SQLite. -/
structure CallEnv where
  nowMs : Int
  diskSafe : Bool
  fault : Stmt → Option String

namespace CallEnv

/-- Every statement succeeds. -/
def Faultless (env : CallEnv) : Prop := ∀ s, env.fault s = none

/-- Run one statement. -/
def run {α : Type} (env : CallEnv) (s : Stmt) (x : Except String α) : Except String α :=
  match env.fault s with
  | some e => .error e
  | none => x

/-- The environment of the statements a scan runs for its row `i`. -/
def atRow (env : CallEnv) (i : Nat) : CallEnv :=
  { env with fault := fun s => env.fault (.scanRow i s) }

theorem run_eq_ok {α : Type} {env : CallEnv} {s : Stmt} {x : Except String α} {a : α} :
    env.run s x = .ok a ↔ env.fault s = none ∧ x = .ok a := by
  unfold run
  cases h : env.fault s with
  | none => simp
  | some e => simp

@[simp] theorem run_of_none {α : Type} {env : CallEnv} {s : Stmt} (x : Except String α)
    (h : env.fault s = none) : env.run s x = x := by
  simp [run, h]

theorem Faultless.run {env : CallEnv} (h : env.Faultless) {α : Type} (s : Stmt)
    (x : Except String α) : env.run s x = x := run_of_none x (h s)

theorem Faultless.atRow {env : CallEnv} (h : env.Faultless) (i : Nat) :
    (env.atRow i).Faultless := fun s => h (.scanRow i s)

end CallEnv

end CraftRelay
