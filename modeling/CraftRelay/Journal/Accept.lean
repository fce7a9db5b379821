import CraftRelay.Journal.Read

/-!
# Local acceptance

`LocalJournal::accept` after its admission checks: one transaction that answers
a repeated event from the stored rows, refuses a reused producer sequence, or
allocates both sequence numbers and writes the six acceptance tables. A
transaction that is dropped uncommitted is rolled back, so every early return
of the code is a return of the database the transaction started from.

The code calls `expect` on one statement, the allocation of the journal
sequence. Where that statement fails the call panics: it gives no result
(`none`), the transaction is rolled back, and the poisoned mutex lets no later
call return either.
-/

namespace CraftRelay

inductive DedupCheck where
  | new | duplicate | conflict
  deriving DecidableEq

def checkDedup (env : CallEnv) (db : Db) (eventId : String) (fingerprint : Checksum) :
    Except String DedupCheck :=
  match env.run .selectDedupFingerprint (.ok (db.dedupFingerprint.find? eventId)) with
  | .error e => .error ("dedup query error: " ++ e)
  | .ok none => .ok .new
  | .ok (some row) =>
      .ok (if row.requestFingerprint = fingerprint.val then .duplicate else .conflict)

/-- The text of a producer sequence conflict. -/
def producerSequenceConflict (seq highest : Int) (lastEventId : String) : String :=
  "producer sequence " ++ toString seq ++ " conflicts with existing highest " ++
    toString highest ++ " (last event_id=" ++ lastEventId ++ ")"

def checkProducerSequence (env : CallEnv) (db : Db) (producerKey : String) (seq : Int)
    (eventId : String) : Except String (Option String) :=
  match env.run .selectProducerSequence (.ok (db.producerSequence.find? producerKey)) with
  | .error e => .error ("producer sequence query error: " ++ e)
  | .ok none => .ok none
  | .ok (some row) =>
      if seq ≤ row.highestSeq ∧ row.lastEventId ≠ eventId then
        .ok (some (producerSequenceConflict seq row.highestSeq row.lastEventId))
      else .ok none

/-- `SELECT COALESCE(MAX(journal_sequence), 0) + 1`; the code unwraps it. -/
def allocateJournalSequence (env : CallEnv) (db : Db) : Option Int :=
  match env.run .selectMaxJournalSequence
      (.ok (((db.storedEnvelope.rows.map (·.journalSequence)).max?).getD 0 + 1)) with
  | .error _ => none
  | .ok n => some n

def allocateStreamSequence (env : CallEnv) (db : Db) (streamKey : String) :
    Except String (Db × Int) :=
  match env.run .selectStreamHead (.ok (db.streamHead.find? streamKey)) with
  | .error e => .error ("stream head query error: " ++ e)
  | .ok existing =>
      let next := (existing.map (·.headSequence)).getD 0 + 1
      match env.run .upsertStreamHead
          (.ok { db with streamHead := db.streamHead.upsert ⟨streamKey, next⟩ }) with
      | .error e => .error ("stream head upsert error: " ++ e)
      | .ok db => .ok (db, next)

/-- Audit of an accept attempt. Its statements' failures are ignored. -/
def recordAttempt (env : CallEnv) (db : Db) (eventId outcome : String)
    (detail : Option String) : Db :=
  let db := match env.run .insertWriteAttempt
      (.ok { db with writeAttempt := db.writeAttempt.insert ⟨eventId, outcome, detail, env.nowMs⟩ })
    with
    | .ok db => db
    | .error _ => db
  match env.run .trimWriteAttempt
      (.ok { db with writeAttempt :=
        db.writeAttempt.trim (fun a => a.eventId = eventId) maxAttempts }) with
  | .ok db => db
  | .error _ => db

/-- `let _ = tx.commit()`: a failed commit rolls back and is not reported. -/
def commitIgnored (env : CallEnv) (db tx : Db) : Db :=
  match env.run .commit (.ok tx) with
  | .ok tx => tx
  | .error _ => db

/-- The key of `producer_sequence`. -/
def formatProducerKey (installationId producerId producerInstanceId : String) : String :=
  joinNul [installationId, producerId, producerInstanceId]

/-- The key of `stream_head`. -/
def formatStreamKey (installationId «namespace» logicalStreamType streamKey : String) : String :=
  joinNul [installationId, «namespace», logicalStreamType, streamKey]

def AcceptRequest.formattedProducerKey (req : AcceptRequest) : String :=
  formatProducerKey req.installationId req.producerId req.producerInstanceId

def AcceptRequest.formattedStreamKey (req : AcceptRequest) : String :=
  formatStreamKey req.installationId req.namespace req.logicalStreamType req.streamKey

/-! ## Constraints of the inserts -/

/-- A taken primary key refuses the row; so does a missing envelope, which the
foreign keys of the other tables demand. -/
def Db.insertStoredEnvelope (db : Db) (row : StoredEnvelope) : Except String Db :=
  if row.journalSequence ∈ db.storedEnvelope.rows.map (·.journalSequence) then
    .error "UNIQUE constraint failed: stored_envelope.journal_sequence"
  else
    match db.storedEnvelope.insert? row with
    | none => .error "UNIQUE constraint failed: stored_envelope.event_id"
    | some t => .ok { db with storedEnvelope := t }

/-- Insert into a table whose `event_id` references `stored_envelope`. -/
def Db.insertReferencing {ρ : Type} {key : ρ → String} (db : Db) (table : String)
    (t : KeyedTable key) (row : ρ) : Except String (KeyedTable key) :=
  match t.insert? row with
  | none => .error ("UNIQUE constraint failed: " ++ table ++ ".event_id")
  | some t' =>
      if (db.storedEnvelope.find? (key row)).isSome then .ok t'
      else .error "FOREIGN KEY constraint failed"

variable [Sha256]

/-- The checksummed fields of a request with its allocated sequences. -/
def AcceptRequest.fields (req : AcceptRequest) (journalSequence streamSequence : Int) :
    EnvelopeFields where
  journalSequence := journalSequence
  eventId := req.eventId
  installationId := req.installationId
  producerId := req.producerId
  producerInstanceId := req.producerInstanceId
  producerOpSeq := req.producerOperationSequence
  «namespace» := req.namespace
  logicalStreamType := req.logicalStreamType
  streamKey := req.streamKey
  eventType := req.eventType
  schemaVersion := req.schemaVersion.toInt
  streamSequence := streamSequence
  payloadDigest := computeSha256 req.payload
  requestFingerprint := req.requestFingerprint
  payloadRefId := req.installationId ++ "/" ++ req.eventId
  payloadLength := req.payload.length
  routingVersion := req.routingVersion

/-- The checksum that is stored with the envelope and reported to the caller. -/
def AcceptRequest.envelopeChecksum (req : AcceptRequest) (journalSequence streamSequence : Int) :
    Checksum :=
  computeEnvelopeChecksum (req.fields journalSequence streamSequence)

/-- The envelope row of a request with its allocated sequences. -/
def AcceptRequest.envelope (req : AcceptRequest) (nowMs journalSequence streamSequence : Int) :
    StoredEnvelope where
  journalSequence := journalSequence
  eventId := req.eventId
  installationId := req.installationId
  producerId := req.producerId
  producerInstanceId := req.producerInstanceId
  producerOpSeq := req.producerOperationSequence
  «namespace» := req.namespace
  logicalStreamType := req.logicalStreamType
  streamKey := req.streamKey
  eventType := req.eventType
  schemaVersion := req.schemaVersion.toInt
  streamSequence := streamSequence
  payloadDigest := (computeSha256 req.payload).val
  requestFingerprint := req.requestFingerprint.val
  envelopeChecksum := (req.envelopeChecksum journalSequence streamSequence).val
  payloadRefId := req.installationId ++ "/" ++ req.eventId
  payloadLength := req.payload.length
  routingVersion := req.routingVersion
  receivedAtMs := nowMs

/-- The five inserts after the allocations, each on the database the previous
one left. -/
def insertAcceptedRows (env : CallEnv) (db : Db) (req : AcceptRequest)
    (journalSequence streamSequence : Int) : Except String Db := do
  let db ← env.run .insertStoredEnvelope
    (db.insertStoredEnvelope (req.envelope env.nowMs journalSequence streamSequence))
  let payloadBlob ← env.run .insertPayloadBlob
    (db.insertReferencing "payload_blob" db.payloadBlob
      ⟨req.eventId, req.payload, (computeSha256 req.payload).val⟩)
  let db := { db with payloadBlob := payloadBlob }
  let lifecycleState ← env.run .insertLifecycleState
    (db.insertReferencing "lifecycle_state" db.lifecycleState
      ⟨req.eventId, 1, (computeLifecycleChecksum req.eventId 1 "LOCAL_ACCEPTED" "PRESENT").val,
        "LOCAL_ACCEPTED", "PRESENT", env.nowMs⟩)
  let db := { db with lifecycleState := lifecycleState }
  let dedupFingerprint ← env.run .insertDedupFingerprint
    (db.insertReferencing "dedup_fingerprint" db.dedupFingerprint
      ⟨req.eventId, req.requestFingerprint.val⟩)
  let db := { db with dedupFingerprint := dedupFingerprint }
  let producerSequence := db.producerSequence.upsert
    ⟨req.formattedProducerKey, req.producerOperationSequence, req.eventId⟩
  env.run .upsertProducerSequence (.ok { db with producerSequence := producerSequence })

/-- The status an `ExistingDuplicate` answer reports. -/
def duplicateDeliveryStatus (status : String) : DeliveryStatus :=
  if status = "LOCAL_ACCEPTED" then .localAccepted
  else if status = "DELIVERY_PENDING" then .deliveryPending
  else .deliveryBlocked

/-- The answer to an event that is stored with the same fingerprint. -/
def acceptDuplicate (env : CallEnv) (db : Db) (req : AcceptRequest) : Db × AcceptResult :=
  match getStatusImpl env db req.eventId with
  | .notFound => (db, .error "dedup entry without envelope")
  | .corrupted eventId detail => (db, .corrupted eventId detail)
  | .found status =>
    match verifyPayloadDigest env db req.eventId with
    | .error detail => (db, .corrupted req.eventId detail)
    | .ok () =>
      (commitIgnored env db (recordAttempt env db req.eventId "EXISTING_DUPLICATE" none),
        .existingDuplicate
          { eventId := status.eventId
            journalSequence := status.journalSequence
            streamSequence := status.streamSequence
            lifecycleRevision := status.lifecycleRevision
            envelopeChecksum := status.envelopeChecksum
            deliveryStatus := duplicateDeliveryStatus status.deliveryStatus })

/-- The allocations and inserts of a new event. -/
def acceptNew (env : CallEnv) (db : Db) (req : AcceptRequest) : Option (Db × AcceptResult) :=
  match allocateJournalSequence env db with
  | none => none
  | some journalSequence =>
    match allocateStreamSequence env db req.formattedStreamKey with
    | .error detail => some (db, .error detail)
    | .ok (tx, streamSequence) =>
      match insertAcceptedRows env tx req journalSequence streamSequence with
      | .error e => some (db, .error e)
      | .ok tx =>
        let tx := recordAttempt env tx req.eventId "NEWLY_ACCEPTED" none
        match env.run .commit (.ok tx) with
        | .error e => some (db, .error e)
        | .ok tx =>
          some (tx, .accepted
            { eventId := req.eventId
              journalSequence := journalSequence
              streamSequence := streamSequence
              lifecycleRevision := 1
              envelopeChecksum := req.envelopeChecksum journalSequence streamSequence
              deliveryStatus := .localAccepted })

/-- The transaction of `accept`. -/
def acceptTransaction (env : CallEnv) (db : Db) (req : AcceptRequest) :
    Option (Db × AcceptResult) :=
  match env.run .begin (.ok ()) with
  | .error e => some (db, .error e)
  | .ok () =>
    match checkDedup env db req.eventId req.requestFingerprint with
    | .error detail => some (db, .corrupted req.eventId detail)
    | .ok .duplicate => some (acceptDuplicate env db req)
    | .ok .conflict =>
        some (commitIgnored env db (recordAttempt env db req.eventId "FINGERPRINT_CONFLICT" none),
          .fingerprintConflict req.eventId)
    | .ok .new =>
      match checkProducerSequence env db req.formattedProducerKey req.producerOperationSequence
          req.eventId with
      | .error detail => some (db, .corrupted req.eventId detail)
      | .ok (some conflict) =>
          some (commitIgnored env db
              (recordAttempt env db req.eventId "SEQUENCE_CONFLICT" (some conflict)),
            .sequenceConflict conflict)
      | .ok none => acceptNew env db req

end CraftRelay
