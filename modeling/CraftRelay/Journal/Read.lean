import Mathlib.Data.List.Sort
import CraftRelay.Journal.Checksums

/-!
# Verified reads

Nothing the journal stores is believed as read: a delivery row must carry the
checksum recomputed from its columns and the shape its status demands, a
lifecycle row and an envelope row their checksums, a payload its digest. These
are the readers that decide it, with every reason they give.
-/

namespace CraftRelay

/-! ## The shape of a delivery row -/

def requireSome {α : Type} (value : Option α) (field status : String) : Except String Unit :=
  if value.isSome then .ok () else .error (status ++ " delivery state missing " ++ field)

def requireNonEmpty (value : Option String) (field status : String) : Except String Unit :=
  match value with
  | some v =>
      if v ≠ "" then .ok () else .error (status ++ " delivery state has empty " ++ field)
  | none => .error (status ++ " delivery state missing " ++ field)

def requireAbsent {α : Type} (value : Option α) (field status : String) : Except String Unit :=
  if value.isNone then .ok () else .error (status ++ " delivery state must not contain " ++ field)

/-- The numeric requirements: present, and in the range `ok`. -/
def requireNumber (ok : Int → Bool) (value : Option Int) (field status : String) :
    Except String Unit :=
  match value with
  | some v => if ok v then .ok () else .error (status ++ " delivery state has invalid " ++ field)
  | none => .error (status ++ " delivery state missing " ++ field)

def requirePositiveI32 : Option Int → String → String → Except String Unit :=
  requireNumber fun v => 0 < v

def requireNonNegativeI32 : Option Int → String → String → Except String Unit :=
  requireNumber fun v => 0 ≤ v

def requireNonNegativeI64 : Option Int → String → String → Except String Unit :=
  requireNumber fun v => 0 ≤ v

def requireDeliveryRoutingFields (state : DeliveryStateRecord) (status : String) :
    Except String Unit := do
  requireNonEmpty state.kafkaTopic "kafka_topic" status
  requireSome state.routingFingerprint "routing_fingerprint" status
  requireNonEmpty state.profileId "profile_id" status
  requirePositiveI32 state.profileVersion "profile_version" status

def requireNoConfirmedKafkaMetadata (state : DeliveryStateRecord) (status : String) :
    Except String Unit := do
  requireAbsent state.kafkaPartition "kafka_partition" status
  requireAbsent state.kafkaOffset "kafka_offset" status
  requireAbsent state.confirmedAtMs "confirmed_at_ms" status

/-- Which columns a status demands and which it forbids. -/
def validateDeliveryStateInvariants (state : DeliveryStateRecord) : Except String Unit :=
  let status := state.deliveryStatus
  if status = "REPLICATED" then do
    requireNonEmpty state.kafkaTopic "kafka_topic" status
    requireSome state.routingFingerprint "routing_fingerprint" status
    requireNonEmpty state.profileId "profile_id" status
    requirePositiveI32 state.profileVersion "profile_version" status
    requireNonNegativeI32 state.kafkaPartition "kafka_partition" status
    requireNonNegativeI64 state.kafkaOffset "kafka_offset" status
    requireSome state.confirmedAtMs "confirmed_at_ms" status
    requireAbsent state.blockedReason "blocked_reason" status
    requireAbsent state.nextRetryAtMs "next_retry_at_ms" status
  else if status = "DELIVERY_PENDING" then do
    requireDeliveryRoutingFields state status
    requireAbsent state.nextRetryAtMs "next_retry_at_ms" status
    requireAbsent state.blockedReason "blocked_reason" status
    requireNoConfirmedKafkaMetadata state status
  else if status = "DELIVERY_RETRYING" then do
    requireDeliveryRoutingFields state status
    requireSome state.nextRetryAtMs "next_retry_at_ms" status
    requireAbsent state.blockedReason "blocked_reason" status
    requireNoConfirmedKafkaMetadata state status
  else if status = "DELIVERY_BLOCKED" then do
    requireNonEmpty state.blockedReason "blocked_reason" status
    requireAbsent state.nextRetryAtMs "next_retry_at_ms" status
    requireNoConfirmedKafkaMetadata state status
  else .ok ()

/-- The statuses `load_delivery_state` knows. -/
def deliveryStateStatuses : List String :=
  ["DELIVERY_PENDING", "DELIVERY_RETRYING", "REPLICATED", "DELIVERY_BLOCKED"]

/-- What rusqlite says when an integer column does not fit an `i32`. -/
def integerOutOfRange (value : Int) (index : Nat) : String :=
  "Integer " ++ toString value ++ " out of range at index " ++ toString index

/-- The routing fingerprint of a row: absent, or 32 bytes. -/
def routingFingerprintOfSlice : Option Bytes → Option (Option Checksum)
  | none => some none
  | some v => (checksumOfSlice v).map some

/-- The in-memory record of a row, once its blobs are converted. -/
def DeliveryState.toRecord (row : DeliveryState) (eventId : String)
    (deliveryChecksum : Checksum) (routingFingerprint : Option Checksum) :
    DeliveryStateRecord where
  eventId := eventId
  deliveryStatus := row.deliveryStatus
  attemptCount := row.attemptCount
  nextRetryAtMs := row.nextRetryAtMs
  lastError := row.lastError
  blockedReason := row.blockedReason
  kafkaTopic := row.kafkaTopic
  kafkaPartition := row.kafkaPartition
  kafkaOffset := row.kafkaOffset
  routingFingerprint := routingFingerprint
  profileId := row.profileId
  profileVersion := row.profileVersion
  deliveryRevision := row.deliveryRevision
  deliveryChecksum := deliveryChecksum
  confirmedAtMs := row.confirmedAtMs
  createdAtMs := row.createdAtMs
  updatedAtMs := row.updatedAtMs

variable [Sha256]

/-! ## Delivery state -/

/-- What `load_delivery_state` decides about the row it selected. -/
def verifyDeliveryRow (eventId : String) (row : DeliveryState) : DeliveryStateResult :=
  if ¬ InI32 row.attemptCount then .error (integerOutOfRange row.attemptCount 1)
  else
    match checksumOfSlice row.deliveryChecksum with
    | none => .corrupted eventId "delivery checksum length invalid"
    | some deliveryChecksum =>
    match routingFingerprintOfSlice row.routingFingerprint with
    | none => .corrupted eventId "routing fingerprint length invalid"
    | some routingFingerprint =>
    if row.deliveryStatus ∉ deliveryStateStatuses then
      .corrupted eventId ("unsupported delivery state status: " ++ row.deliveryStatus)
    else
      let state := row.toRecord eventId deliveryChecksum routingFingerprint
      if state.deliveryChecksum ≠ computeDeliveryChecksum state then
        .corrupted eventId "delivery checksum mismatch"
      else
        match validateDeliveryStateInvariants state with
        | .error detail => .corrupted eventId detail
        | .ok () => .found state

def loadDeliveryState (env : CallEnv) (db : Db) (eventId : String) : DeliveryStateResult :=
  match env.run .selectDeliveryState (.ok (db.deliveryState.find? eventId)) with
  | .error e => .error e
  | .ok none => .notFound
  | .ok (some row) => verifyDeliveryRow eventId row

/-! ## Envelopes, lifecycle and payload -/

/-- The checksummed fields of a stored row, with its two digests converted. -/
def StoredEnvelope.fields (row : StoredEnvelope) (eventId : String)
    (payloadDigest requestFingerprint : Checksum) : EnvelopeFields where
  journalSequence := row.journalSequence
  eventId := eventId
  installationId := row.installationId
  producerId := row.producerId
  producerInstanceId := row.producerInstanceId
  producerOpSeq := row.producerOpSeq
  «namespace» := row.namespace
  logicalStreamType := row.logicalStreamType
  streamKey := row.streamKey
  eventType := row.eventType
  schemaVersion := row.schemaVersion
  streamSequence := row.streamSequence
  payloadDigest := payloadDigest
  requestFingerprint := requestFingerprint
  payloadRefId := row.payloadRefId
  payloadLength := row.payloadLength
  routingVersion := row.routingVersion

def recomputeEnvelopeChecksumFromRow (env : CallEnv) (db : Db) (eventId : String) :
    Except String Checksum :=
  match env.run .selectEnvelopeRow (.ok (db.storedEnvelope.find? eventId)) with
  | .error e => .error ("envelope recompute query error: " ++ e)
  | .ok none => .error "stored envelope row not found for recompute"
  | .ok (some row) =>
    if ¬ InI32 row.schemaVersion then
      .error ("envelope recompute query error: " ++ integerOutOfRange row.schemaVersion 9)
    else
    match checksumOfSlice row.payloadDigest with
    | none => .error ("payload_digest length " ++ toString row.payloadDigest.length ++ ", expected 32")
    | some payloadDigest =>
    match checksumOfSlice row.requestFingerprint with
    | none => .error
        ("request_fingerprint length " ++ toString row.requestFingerprint.length ++ ", expected 32")
    | some requestFingerprint =>
      .ok (computeEnvelopeChecksum (row.fields eventId payloadDigest requestFingerprint))

def verifyPayloadDigest (env : CallEnv) (db : Db) (eventId : String) : Except String Unit :=
  match env.run .selectPayloadBlob (.ok (db.payloadBlob.find? eventId)) with
  | .error e => .error ("payload query error: " ++ e)
  | .ok none => .error "payload blob not found"
  | .ok (some blob) =>
    if blob.payloadDigest.length ≠ 32 then
      .error ("payload_digest length " ++ toString blob.payloadDigest.length ++ ", expected 32")
    else if (computeSha256 blob.payload).val ≠ blob.payloadDigest then
      .error "payload digest mismatch"
    else .ok ()

def verifyPayload (env : CallEnv) (db : Db) (eventId : String) : VerifyResult :=
  match env.run .selectPayloadBlob (.ok (db.payloadBlob.find? eventId)) with
  | .error e => .error ("payload query error: " ++ e)
  | .ok none => .notFound
  | .ok (some blob) =>
    if (computeSha256 blob.payload).val = blob.payloadDigest then .ok else .digestMismatch

def readVerifiedPayload (env : CallEnv) (db : Db) (eventId : String) : PayloadReadResult :=
  match env.run .selectPayloadDigest (.ok (db.storedEnvelope.find? eventId)) with
  | .error e => .error ("stored envelope payload digest query error: " ++ e)
  | .ok none => .notFound
  | .ok (some envelope) =>
    if envelope.payloadDigest.length ≠ 32 then
      .corrupted eventId ("stored envelope payload_digest length " ++
        toString envelope.payloadDigest.length ++ ", expected 32")
    else
      match env.run .selectPayloadBlob (.ok (db.payloadBlob.find? eventId)) with
      | .error e => .error ("payload blob query error: " ++ e)
      | .ok none => .corrupted eventId "payload blob not found"
      | .ok (some blob) =>
        if blob.payloadDigest.length ≠ 32 then
          .corrupted eventId ("payload blob payload_digest length " ++
            toString blob.payloadDigest.length ++ ", expected 32")
        else if blob.payloadDigest ≠ envelope.payloadDigest then
          .corrupted eventId "payload blob digest differs from stored envelope digest"
        else if (computeSha256 blob.payload).val ≠ envelope.payloadDigest then
          .corrupted eventId "payload digest mismatch"
        else .found blob.payload

def isAllowedDeliveryStatus (status : String) : Bool :=
  status ∈ ["LOCAL_ACCEPTED", "DELIVERY_PENDING", "DELIVERY_RETRYING", "REPLICATED",
    "DELIVERY_BLOCKED"]

def isAllowedRetentionStatus (status : String) : Bool := status = "PRESENT"

/-- The join of `stored_envelope` and `lifecycle_state` on one event. -/
def Db.statusRow (db : Db) (eventId : String) : Option (StoredEnvelope × LifecycleState) :=
  match db.storedEnvelope.find? eventId, db.lifecycleState.find? eventId with
  | some e, some l => some (e, l)
  | _, _ => none

def getStatusImpl (env : CallEnv) (db : Db) (eventId : String) : StatusResult :=
  match env.run .selectStatus (.ok (db.statusRow eventId)) with
  | .error e => .corrupted eventId ("status query error: " ++ e)
  | .ok none => .notFound
  | .ok (some (e, l)) =>
    match checksumOfSlice e.payloadDigest, checksumOfSlice e.envelopeChecksum,
        checksumOfSlice l.lifecycleChecksum with
    | some payloadDigest, some envelopeChecksum, some lifecycleChecksum =>
      if lifecycleChecksum ≠
          computeLifecycleChecksum eventId l.revision l.deliveryStatus l.retentionStatus then
        .corrupted eventId "lifecycle checksum mismatch"
      else if !isAllowedDeliveryStatus l.deliveryStatus then
        .corrupted eventId ("unsupported delivery status: " ++ l.deliveryStatus)
      else if !isAllowedRetentionStatus l.retentionStatus then
        .corrupted eventId ("unsupported retention status: " ++ l.retentionStatus)
      else
        match recomputeEnvelopeChecksumFromRow env db eventId with
        | .error detail => .corrupted eventId detail
        | .ok expected =>
          if envelopeChecksum ≠ expected then .corrupted eventId "envelope checksum mismatch"
          else
            .found
              { eventId := eventId
                journalSequence := e.journalSequence
                streamSequence := e.streamSequence
                lifecycleRevision := l.revision
                lifecycleChecksum := lifecycleChecksum
                deliveryStatus := l.deliveryStatus
                retentionStatus := l.retentionStatus
                payloadDigest := payloadDigest
                envelopeChecksum := envelopeChecksum }
    | _, _, _ => .corrupted eventId "checksum field length invalid"

def getStatusByJournalSeq (env : CallEnv) (db : Db) (journalSeq : Int) : StatusResult :=
  match env.run .selectEventIdBySequence
      (.ok (db.storedEnvelope.rows.find? fun e => e.journalSequence = journalSeq)) with
  | .error e => .corrupted ("journal_seq=" ++ toString journalSeq) ("sequence lookup error: " ++ e)
  | .ok none => .notFound
  | .ok (some e) => getStatusImpl env db e.eventId

/-! ## Delivery candidates -/

def loadDeliveryCandidate (env : CallEnv) (db : Db) (eventId : String) :
    DeliveryCandidateResult :=
  match loadDeliveryState env db eventId with
  | .notFound => .notFound
  | .corrupted eventId detail => .corrupted eventId detail
  | .error e => .error e
  | .found deliveryState =>
    match env.run .selectCandidateEnvelope (.ok (db.storedEnvelope.find? eventId)) with
    | .error e => .corrupted eventId ("delivery candidate envelope query error: " ++ e)
    | .ok none => .corrupted eventId "stored envelope missing for delivery state"
    | .ok (some row) =>
      match checksumOfSlice row.envelopeChecksum with
      | none => .corrupted eventId
          ("envelope checksum length " ++ toString row.envelopeChecksum.length ++ ", expected 32")
      | some envelopeChecksum =>
        match recomputeEnvelopeChecksumFromRow env db eventId with
        | .error detail => .corrupted eventId detail
        | .ok expected =>
          if envelopeChecksum ≠ expected then .corrupted eventId "envelope checksum mismatch"
          else
            .found
              { eventId := eventId
                installationId := row.installationId
                «namespace» := row.namespace
                logicalStreamType := row.logicalStreamType
                streamKey := row.streamKey
                streamSequence := row.streamSequence
                eventType := row.eventType
                routingVersion := row.routingVersion
                deliveryState := deliveryState }

/-! ## Scans -/

/-- `LIMIT`: a negative limit is no limit. -/
def limitRows {α : Type} (limit : Int) (rows : List α) : List α :=
  if limit < 0 then rows else rows.take limit.toNat

/-- Ascending order of a column; null comes first. -/
def nullFirst : Option Int → Option Int → Bool
  | none, _ => true
  | some _, none => false
  | some m, some n => m ≤ n

/-- `ORDER BY column ASC`; rows with equal keys keep their table order. -/
def orderBy {α : Type} (column : α → Option Int) (rows : List α) : List α :=
  rows.insertionSort fun a b => nullFirst (column a) (column b)

/-- `delivery_state d LEFT JOIN stored_envelope e ON d.event_id = e.event_id`. -/
def Db.joinScanRow (db : Db) (d : DeliveryState) : DeliveryScanRow :=
  let e := db.storedEnvelope.find? d.eventId
  { eventId := d.eventId
    journalSequence := e.map (·.journalSequence)
    streamKey := e.map (·.streamKey)
    streamSequence := e.map (·.streamSequence)
    envelopeChecksum := e.map (·.envelopeChecksum)
    deliveryStatus := d.deliveryStatus
    attemptCount := d.attemptCount
    nextRetryAtMs := d.nextRetryAtMs }

/-- The column conversions of a fetched scan row. -/
def convertScanRow (row : DeliveryScanRow) : Except String DeliveryScanRow :=
  if InI32 row.attemptCount then .ok row else .error (integerOutOfRange row.attemptCount 6)

def verifyDeliveryScanEnvelope (env : CallEnv) (db : Db) (row : DeliveryScanRow) :
    Except (String × String) PendingDelivery :=
  match row.journalSequence, row.streamKey, row.streamSequence, row.envelopeChecksum with
  | some journalSequence, some streamKey, some streamSequence, some envelopeChecksumBytes =>
    match checksumOfSlice envelopeChecksumBytes with
    | none => .error (row.eventId,
        "envelope checksum length " ++ toString envelopeChecksumBytes.length ++ ", expected 32")
    | some envelopeChecksum =>
      match recomputeEnvelopeChecksumFromRow env db row.eventId with
      | .error detail => .error (row.eventId, detail)
      | .ok expected =>
        if envelopeChecksum ≠ expected then .error (row.eventId, "envelope checksum mismatch")
        else
          .ok
            { eventId := row.eventId
              journalSequence := journalSequence
              streamKey := streamKey
              streamSequence := streamSequence
              deliveryStatus := row.deliveryStatus
              attemptCount := row.attemptCount
              nextRetryAtMs := row.nextRetryAtMs }
  | _, _, _, _ => .error (row.eventId, "stored envelope missing for delivery scan")

/-- The scan loop: row `index` is next, `deliveries` are collected. -/
def collectDeliveryScan (env : CallEnv) (db : Db) :
    Nat → List PendingDelivery → List DeliveryScanRow → DeliveryScanResult
  | _, deliveries, [] => .ok deliveries
  | index, deliveries, row :: rows =>
    match (env.atRow index).run .fetchScanRow (convertScanRow row) with
    | .error e => .corrupted none ("delivery scan row conversion error: " ++ e)
    | .ok pending =>
      match loadDeliveryState (env.atRow index) db pending.eventId with
      | .notFound => .corrupted (some pending.eventId) "delivery state disappeared during scan"
      | .corrupted eventId detail => .corrupted (some eventId) detail
      | .error e => .error e
      | .found _ =>
        match verifyDeliveryScanEnvelope (env.atRow index) db pending with
        | .ok pending => collectDeliveryScan env db (index + 1) (deliveries ++ [pending]) rows
        | .error (eventId, detail) => .corrupted (some eventId) detail

/-- The common part of the three scans, given the rows their query selects. -/
def scanDeliveries (env : CallEnv) (db : Db) (rows : List DeliveryScanRow) :
    DeliveryScanResult :=
  match env.run .prepareScan (.ok ()) with
  | .error e => .error e
  | .ok () =>
    match env.run .queryScan (.ok rows) with
    | .error e => .error e
    | .ok rows => collectDeliveryScan env db 0 [] rows

/-- All rows of `delivery_state`, joined with their envelopes. -/
def Db.scanRows (db : Db) : List DeliveryScanRow := db.deliveryState.rows.map db.joinScanRow

def scanPendingDeliveries (env : CallEnv) (db : Db) (limit : Int) : DeliveryScanResult :=
  scanDeliveries env db <| limitRows limit <| orderBy (·.journalSequence) <|
    db.scanRows.filter fun d => d.deliveryStatus = "DELIVERY_PENDING"

def scanRetryingDeliveries (env : CallEnv) (db : Db) (nowMs limit : Int) : DeliveryScanResult :=
  scanDeliveries env db <| limitRows limit <| orderBy (·.nextRetryAtMs) <|
    db.scanRows.filter fun d =>
      d.deliveryStatus = "DELIVERY_RETRYING" && d.nextRetryAtMs.any (· ≤ nowMs)

def scanDeliveryGateStates (env : CallEnv) (db : Db) (limit : Int) : DeliveryScanResult :=
  scanDeliveries env db <| limitRows limit <| orderBy (·.journalSequence) db.scanRows

end CraftRelay
