import CraftRelay.Lib.Positional
import CraftRelay.Journal.Checksums

/-!
# Data model of the journal benchmark

The synthetic events of `ingress.rs` and the types of `candidate.rs`, with the tables of a
benchmark database and the environment a call of `write_batch` runs in.

* Sequence numbers are `i64` and record counters `u64`; no run has enough events to leave
  either, so they are `Int` and `Nat`. The `u32` counters and the `u64` byte sums wrap.
* A segment's file is new when it is opened: `main.rs` empties the directory of a run first.
* A statement behind `expect` (beginning and committing a transaction, the upsert of a
  stream head) succeeds: where it does not, the process ends and no call returns.
-/

namespace CraftRelay.Bench

/-! ## Synthetic events -/

def maxPayloadBytes : Nat := 1048576

/-- An event that the benchmark makes up. -/
structure SyntheticEvent where
  eventId : String
  installationId : String
  producerId : String
  «namespace» : String
  logicalStream : String
  schemaVersion : Int32
  payload : Bytes
  payloadDigest : Checksum
  requestFingerprint : Checksum
  payloadRefId : String
  metadataCount : Nat
  deriving DecidableEq

/-- `deterministic_payload`, from a state of its generator: `size` bytes of the states
that follow. -/
def payloadFrom : Nat → UInt64 → Bytes
  | 0, _ => []
  | size + 1, state =>
    let state := state * 6364136223846793005 + 1
    (state >>> 33).toUInt8 :: payloadFrom size state

def deterministicPayload (seed : UInt64) (size : Nat) : Bytes :=
  payloadFrom (min size maxPayloadBytes) seed

/-- `{:0width$x}` of a number that fits. -/
def lowerHex (width n : Nat) : String :=
  String.ofList ((Positional.digits 16 width n).map Nat.digitChar)

namespace SyntheticEvent

/-- The event at an index: its id ends with the index, and eight streams take turns. -/
def generate [Sha256] (index : UInt64) (installationId producerId «namespace» : String)
    (payloadBytes : Nat) : SyntheticEvent :=
  let eventId := "01890f3e-" ++ lowerHex 4 ((index >>> 32) &&& 0xFFFF).toNat ++ "-7cc2-98c8-" ++
    lowerHex 12 (index &&& 0xFFFFFFFFFFFF).toNat
  let logicalStream := «namespace» ++ ".stream-" ++ toString (index % 8).toNat
  let payload := deterministicPayload index payloadBytes
  { eventId
    installationId
    producerId
    «namespace»
    logicalStream
    schemaVersion := 1
    payload
    payloadDigest := Sha256.digest payload
    requestFingerprint :=
      Sha256.digest (utf8 (eventId ++ "\x00" ++ «namespace» ++ "\x00" ++ logicalStream))
    payloadRefId := installationId ++ "/" ++ eventId
    metadataCount := 1 }

end SyntheticEvent

/-! ## Candidates and their answers -/

/-- What `CandidateConfig` says about batches. Its other fields are for the connection and
the report. -/
structure CandidateConfig where
  maxRecordsPerTx : UInt32
  maxBytesPerTx : UInt64
  segmentRolloverRecords : Option UInt32
  deriving DecidableEq

def CandidateConfig.monolithic : CandidateConfig := ⟨64, 1048576, none⟩

def CandidateConfig.segmented : CandidateConfig := ⟨64, 1048576, some 500⟩

/-- The numbers an event was written under. -/
structure WriteResult where
  journalSequence : Int
  streamSequence : Int
  envelopeChecksum : Checksum
  deriving DecidableEq

/-- The counters of a call. -/
structure WriteBatchMetrics where
  committedTransactions : Nat := 0
  failedTransactions : Nat := 0
  writtenRecords : Nat := 0
  failedRecords : Nat := 0
  maxObservedBatchSize : UInt32 := 0
  totalBatchRecords : Nat := 0
  deriving DecidableEq

/-! ## The database of a candidate -/

structure BenchEnvelope where
  journalSequence : Int
  eventId : String
  installationId : String
  producerId : String
  «namespace» : String
  logicalStream : String
  streamSequence : Int
  schemaVersion : Int32
  payloadDigest : Checksum
  requestFingerprint : Checksum
  envelopeChecksum : Checksum
  payloadRefId : String
  payloadLength : Int
  receivedAtMs : Int
  deriving DecidableEq

structure BenchPayload where
  eventId : String
  payload : Bytes
  payloadDigest : Checksum
  deriving DecidableEq

structure BenchLifecycle where
  eventId : String
  revision : Int
  snapshotChecksum : Checksum
  deliveryStatus : String
  localDurableAtMs : Int
  deriving DecidableEq

structure BenchStreamHead where
  streamKey : String
  headSequence : Int
  deriving DecidableEq

/-- `SCHEMA_SQL` without `bench_metadata`, which nothing reads. The primary key of
`bench_envelope` is its journal sequence, which the insert checks; its unique column is the
key here. -/
structure BenchDb where
  envelope : KeyedTable BenchEnvelope.eventId
  payload : KeyedTable BenchPayload.eventId
  lifecycle : KeyedTable BenchLifecycle.eventId
  streamHead : KeyedTable BenchStreamHead.streamKey

def BenchDb.empty : BenchDb := ⟨.empty, .empty, .empty, .empty⟩

/-- The journal sequences of the committed rows, in the order they were written. -/
def BenchDb.journalSequences (db : BenchDb) : List Int :=
  db.envelope.rows.map (·.journalSequence)

/-- The head of a stream: its last sequence number, or zero. -/
def BenchDb.head (db : BenchDb) (streamKey : String) : Int :=
  ((db.streamHead.find? streamKey).map (·.headSequence)).getD 0

/-! ## The environment of a call -/

/-- The statements of a batch that can fail without ending the process. -/
inductive Stmt where
  | selectMaxJournalSequence
  | selectStreamHead
  | insertEnvelope
  | insertPayload
  | insertLifecycle
  deriving DecidableEq

/-- `fault position stmt` is the error of a statement that is run for the event at that
position of the call. Each is run at most once. -/
structure BatchEnv where
  nowMs : Int
  fault : Nat → Stmt → Option String

namespace BatchEnv

/-- Every statement succeeds. -/
def Faultless (env : BatchEnv) : Prop := ∀ position stmt, env.fault position stmt = none

/-- A statement and its `?`: a failure is the error of the batch. -/
def run {α : Type} (env : BatchEnv) (position : Nat) (stmt : Stmt) (x : Except String α) :
    Except String α :=
  match env.fault position stmt with
  | some e => .error e
  | none => x

theorem run_eq_ok {α : Type} {env : BatchEnv} {position : Nat} {stmt : Stmt}
    {x : Except String α} {a : α} (h : env.run position stmt x = .ok a) : x = .ok a := by
  unfold run at h
  split at h
  · cases h
  · exact h

theorem Faultless.run {env : BatchEnv} (h : env.Faultless) {α : Type} (position : Nat)
    (stmt : Stmt) (x : Except String α) : env.run position stmt x = x := by
  unfold BatchEnv.run
  rw [h position stmt]

end BatchEnv

end CraftRelay.Bench
