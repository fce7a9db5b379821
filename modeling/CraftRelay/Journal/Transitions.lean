import CraftRelay.Journal.Accept

/-!
# Lifecycle and delivery transitions

The six compare-and-set operations on `lifecycle_state` and `delivery_state`.
Each loads and verifies the row it is about to change, checks the caller's
expected revision, computes the checksum of the row it wants from its in-memory
copy, and separately writes the columns with an `UPDATE` whose `WHERE` clause
names the event and the revision.
-/

namespace CraftRelay

/-- The result of an `UPDATE` that should have touched one row. -/
def casOfAffected (affected : Nat) (what : String) : CasResult :=
  match affected with
  | 1 => .updated
  | 0 => .staleRevision
  | n => .error (what ++ " affected " ++ toString n ++ " rows, expected 1")

/-- `UPDATE lifecycle_state SET … WHERE event_id = ? AND revision = ?`, with the
number of rows it touched. -/
def Db.updateLifecycleState (db : Db) (eventId : String) (revision : Int)
    (set : LifecycleState → LifecycleState) (hset : ∀ r, (set r).eventId = r.eventId) :
    Db × Nat :=
  let p := fun r : LifecycleState => decide (r.eventId = eventId) && decide (r.revision = revision)
  ({ db with lifecycleState := db.lifecycleState.updateWhere p set fun r _ => hset r },
    db.lifecycleState.affected p)

/-- `UPDATE delivery_state SET … WHERE event_id = ? AND delivery_revision = ?`. -/
def Db.updateDeliveryState (db : Db) (eventId : String) (revision : Int)
    (set : DeliveryState → DeliveryState) (hset : ∀ r, (set r).eventId = r.eventId) :
    Db × Nat :=
  let p := fun r : DeliveryState =>
    decide (r.eventId = eventId) && decide (r.deliveryRevision = revision)
  ({ db with deliveryState := db.deliveryState.updateWhere p set fun r _ => hset r },
    db.deliveryState.affected p)

/-! ## The columns the updates write -/

/-- The columns `update_lifecycle` writes. -/
def LifecycleState.setAll (revision : Int) (checksum : Checksum) (delivery retention : String)
    (nowMs : Int) (row : LifecycleState) : LifecycleState :=
  { row with
    revision := revision
    lifecycleChecksum := checksum.val
    deliveryStatus := delivery
    retentionStatus := retention
    updatedAtMs := nowMs }

/-- The columns `update_lifecycle_delivery_status` writes: not the retention. -/
def LifecycleState.setDelivery (revision : Int) (checksum : Checksum) (delivery : String)
    (nowMs : Int) (row : LifecycleState) : LifecycleState :=
  { row with
    revision := revision
    lifecycleChecksum := checksum.val
    deliveryStatus := delivery
    updatedAtMs := nowMs }

/-- The columns `record_delivery_attempt` writes. -/
def DeliveryState.setAttempted (errorCode : Option String) (checksum : Checksum) (nowMs : Int)
    (row : DeliveryState) : DeliveryState :=
  { row with
    attemptCount := row.attemptCount + 1
    lastError := errorCode
    deliveryChecksum := checksum.val
    updatedAtMs := nowMs }

/-- The columns `confirm_replicated_delivery` writes. -/
def DeliveryState.setReplicated (confirmation : ReplicatedDeliveryConfirmation)
    (revision : Int) (checksum : Checksum) (nowMs : Int) (row : DeliveryState) : DeliveryState :=
  { row with
    deliveryStatus := "REPLICATED"
    kafkaTopic := some confirmation.kafkaTopic
    kafkaPartition := some confirmation.kafkaPartition
    kafkaOffset := some confirmation.kafkaOffset
    deliveryRevision := revision
    deliveryChecksum := checksum.val
    confirmedAtMs := some nowMs
    updatedAtMs := nowMs
    nextRetryAtMs := none
    lastError := none
    blockedReason := none }

/-- The columns `block_delivery` writes. -/
def DeliveryState.setBlocked (reason : String) (revision : Int) (checksum : Checksum)
    (nowMs : Int) (row : DeliveryState) : DeliveryState :=
  { row with
    deliveryStatus := "DELIVERY_BLOCKED"
    blockedReason := some reason
    deliveryRevision := revision
    deliveryChecksum := checksum.val
    updatedAtMs := nowMs
    nextRetryAtMs := none }

/-- The columns `update_delivery_retry` writes. `blocked_reason` is not among
them. -/
def DeliveryState.setRetrying (nextRetryAtMs revision : Int) (checksum : Checksum) (nowMs : Int)
    (row : DeliveryState) : DeliveryState :=
  { row with
    deliveryStatus := "DELIVERY_RETRYING"
    nextRetryAtMs := some nextRetryAtMs
    deliveryRevision := revision
    deliveryChecksum := checksum.val
    updatedAtMs := nowMs }

/-! ## The in-memory copies whose checksum is stored -/

def DeliveryStateRecord.attempted (s : DeliveryStateRecord) (errorCode : Option String)
    (nowMs : Int) : DeliveryStateRecord :=
  { s with
    attemptCount := i32Wrap (s.attemptCount + 1)
    lastError := errorCode
    updatedAtMs := nowMs }

def DeliveryStateRecord.replicated (s : DeliveryStateRecord)
    (confirmation : ReplicatedDeliveryConfirmation) (revision nowMs : Int) :
    DeliveryStateRecord :=
  { s with
    deliveryStatus := "REPLICATED"
    nextRetryAtMs := none
    lastError := none
    blockedReason := none
    kafkaTopic := some confirmation.kafkaTopic
    kafkaPartition := some confirmation.kafkaPartition
    kafkaOffset := some confirmation.kafkaOffset
    deliveryRevision := revision
    confirmedAtMs := some nowMs
    updatedAtMs := nowMs }

def DeliveryStateRecord.blocked (s : DeliveryStateRecord) (reason : String)
    (revision nowMs : Int) : DeliveryStateRecord :=
  { s with
    deliveryStatus := "DELIVERY_BLOCKED"
    nextRetryAtMs := none
    blockedReason := some reason
    deliveryRevision := revision
    updatedAtMs := nowMs }

def DeliveryStateRecord.retrying (s : DeliveryStateRecord) (nextRetryAtMs revision nowMs : Int) :
    DeliveryStateRecord :=
  { s with
    deliveryStatus := "DELIVERY_RETRYING"
    nextRetryAtMs := some nextRetryAtMs
    deliveryRevision := revision
    updatedAtMs := nowMs }

/-! ## Early returns -/

/-- A transaction that answers `Updated` keeps its database; any other answer
drops it. -/
def settle (db : Db) : Except CasResult Db → Db × CasResult
  | .ok tx => (tx, .updated)
  | .error r => (db, r)

/-- A failing statement returns its message. -/
def CallEnv.exec {α : Type} (env : CallEnv) (s : Stmt) (x : Except String α) :
    Except CasResult α :=
  (env.run s x).mapError .error

/-- The loaded row, or the early return that stands for its absence. -/
def DeliveryStateResult.orReturn : DeliveryStateResult → Except CasResult DeliveryStateRecord
  | .found state => .ok state
  | .notFound => .error .notFound
  | .corrupted eventId detail => .error (.corrupted eventId detail)
  | .error e => .error (.error e)

/-- Return `r` unless `b` holds. -/
def ensure (b : Bool) (r : CasResult) : Except CasResult Unit :=
  if b then .ok () else .error r

variable [Sha256]

/-! ## Lifecycle -/

def updateLifecycle (env : CallEnv) (db : Db) (eventId : String) (expectedRevision : Int)
    (newDelivery : LocalDeliveryStatus) (newRetention : LocalRetentionStatus) : Db × CasResult :=
  match getStatusImpl env db eventId with
  | .notFound => (db, .notFound)
  | .corrupted eventId detail => (db, .corrupted eventId detail)
  | .found status =>
    if status.lifecycleRevision ≠ expectedRevision then (db, .staleRevision)
    else
      let newRev := expectedRevision + 1
      let checksum := computeLifecycleChecksum eventId newRev newDelivery.asStr newRetention.asStr
      match env.run .updateLifecycleState (.ok (db.updateLifecycleState eventId expectedRevision
          (LifecycleState.setAll newRev checksum newDelivery.asStr newRetention.asStr env.nowMs)
          fun _ => rfl)) with
      | .error e => (db, .error e)
      | .ok (db, affected) => (db, casOfAffected affected "lifecycle update")

def loadVerifiedLifecycleForTransition (env : CallEnv) (db : Db) (eventId : String) :
    Except CasResult PersistedStatus :=
  match getStatusImpl env db eventId with
  | .found status => .ok status
  | .notFound => .error (.corrupted eventId "lifecycle state missing for delivery transition")
  | .corrupted eventId detail => .error (.corrupted eventId detail)

def updateLifecycleDeliveryStatus (env : CallEnv) (db : Db) (eventId : String)
    (current : PersistedStatus) (newDeliveryStatus : String) : Except CasResult Db := do
  let newRevision := current.lifecycleRevision + 1
  let checksum :=
    computeLifecycleChecksum eventId newRevision newDeliveryStatus current.retentionStatus
  let (db, affected) ← env.exec .updateLifecycleState
    (.ok (db.updateLifecycleState eventId current.lifecycleRevision
      (LifecycleState.setDelivery newRevision checksum newDeliveryStatus env.nowMs) fun _ => rfl))
  ensure (affected == 1) (casOfAffected affected "lifecycle delivery update")
  return db

/-! ## Delivery rows -/

/-- The in-memory copy `create_delivery_pending` takes the checksum of. -/
def pendingRecord (nowMs : Int) (eventId : String) (routingFingerprint : Checksum)
    (profileId : String) (profileVersion : Int) (kafkaTopic : String) : DeliveryStateRecord where
  eventId := eventId
  deliveryStatus := "DELIVERY_PENDING"
  attemptCount := 0
  nextRetryAtMs := none
  lastError := none
  blockedReason := none
  kafkaTopic := some kafkaTopic
  kafkaPartition := none
  kafkaOffset := none
  routingFingerprint := some routingFingerprint
  profileId := some profileId
  profileVersion := some profileVersion
  deliveryRevision := 1
  deliveryChecksum := ⟨List.replicate 32 0, List.length_replicate⟩
  confirmedAtMs := none
  createdAtMs := nowMs
  updatedAtMs := nowMs

/-- The row `create_delivery_pending` inserts. -/
def pendingRow (nowMs : Int) (eventId : String) (routingFingerprint : Checksum)
    (profileId : String) (profileVersion : Int) (kafkaTopic : String) : DeliveryState where
  eventId := eventId
  deliveryStatus := "DELIVERY_PENDING"
  attemptCount := 0
  nextRetryAtMs := none
  lastError := none
  blockedReason := none
  kafkaTopic := some kafkaTopic
  kafkaPartition := none
  kafkaOffset := none
  routingFingerprint := some routingFingerprint.val
  profileId := some profileId
  profileVersion := some profileVersion
  deliveryRevision := 1
  deliveryChecksum := (computeDeliveryChecksum
    (pendingRecord nowMs eventId routingFingerprint profileId profileVersion kafkaTopic)).val
  confirmedAtMs := none
  createdAtMs := nowMs
  updatedAtMs := nowMs

def createDeliveryPending (env : CallEnv) (db : Db) (eventId : String)
    (routingFingerprint : Checksum) (profileId : String) (profileVersion : Int)
    (kafkaTopic : String) : Db × CasResult :=
  match env.run .selectEnvelopeExists (.ok (db.storedEnvelope.find? eventId).isSome) with
  | .error e => (db, .error e)
  | .ok false => (db, .notFound)
  | .ok true =>
    match env.run .insertDeliveryState
        (db.insertReferencing "delivery_state" db.deliveryState
          (pendingRow env.nowMs eventId routingFingerprint profileId profileVersion kafkaTopic)) with
    | .error e => (db, .error e)
    | .ok deliveryState => ({ db with deliveryState := deliveryState }, .updated)

/-- `INSERT INTO delivery_attempt`; its `event_id` references the envelope. -/
def Db.insertDeliveryAttempt (db : Db) (attempt : DeliveryAttemptRecord) : Except String Db :=
  if (db.storedEnvelope.find? attempt.eventId).isSome then
    .ok { db with deliveryAttempt := db.deliveryAttempt.insert attempt }
  else .error "FOREIGN KEY constraint failed"

def recordDeliveryAttempt (env : CallEnv) (db : Db) (attempt : DeliveryAttemptRecord) :
    Db × CasResult :=
  settle db do
    env.exec .begin (.ok ())
    let state ← (loadDeliveryState env db attempt.eventId).orReturn
    let tx ← env.exec .insertDeliveryAttempt (db.insertDeliveryAttempt attempt)
    let tx ← env.exec .trimDeliveryAttempt
      (.ok { tx with deliveryAttempt :=
        tx.deliveryAttempt.trim (fun a => a.eventId = attempt.eventId) maxDeliveryAttempts })
    let checksum := computeDeliveryChecksum (state.attempted attempt.errorCode env.nowMs)
    let (tx, affected) ← env.exec .updateDeliveryState
      (.ok (tx.updateDeliveryState attempt.eventId state.deliveryRevision
        (DeliveryState.setAttempted attempt.errorCode checksum env.nowMs) fun _ => rfl))
    ensure (affected == 1) (casOfAffected affected "delivery attempt state update")
    env.exec .commit (.ok tx)

/-- Whether a confirmation repeats the coordinates a replicated row has. -/
def sameConfirmation (current : DeliveryStateRecord)
    (confirmation : ReplicatedDeliveryConfirmation) : Bool :=
  current.kafkaTopic == some confirmation.kafkaTopic
    && current.kafkaPartition == some confirmation.kafkaPartition
    && current.kafkaOffset == some confirmation.kafkaOffset
    && current.routingFingerprint == some confirmation.expectedRoutingFingerprint
    && current.profileId == some confirmation.expectedProfileId
    && current.profileVersion == some confirmation.expectedProfileVersion

/-- The answer of `confirm_replicated_delivery` on a row that is replicated
already. -/
def confirmAgain (env : CallEnv) (db : Db) (eventId : String) (current : DeliveryStateRecord)
    (confirmation : ReplicatedDeliveryConfirmation) : CasResult :=
  match loadVerifiedLifecycleForTransition env db eventId with
  | .error r => r
  | .ok lifecycle =>
    if lifecycle.deliveryStatus ≠ "REPLICATED" then
      .corrupted eventId "replicated delivery state without replicated lifecycle"
    else if sameConfirmation current confirmation then .alreadyConfirmed
    else .corrupted eventId "conflicting replicated confirmation metadata"

/-- `confirm_replicated_delivery` on a row that is not replicated yet. -/
def confirmCurrent (env : CallEnv) (db : Db) (eventId : String) (expectedDeliveryRevision : Int)
    (confirmation : ReplicatedDeliveryConfirmation) (current : DeliveryStateRecord) :
    Except CasResult Db := do
  let lifecycle ← loadVerifiedLifecycleForTransition env db eventId
  ensure (current.deliveryRevision == expectedDeliveryRevision) .staleRevision
  ensure (current.routingFingerprint == some confirmation.expectedRoutingFingerprint)
    (.corrupted eventId "routing fingerprint mismatch")
  ensure (current.profileId == some confirmation.expectedProfileId
      && current.profileVersion == some confirmation.expectedProfileVersion)
    (.corrupted eventId "profile mismatch")
  ensure (current.kafkaTopic == some confirmation.kafkaTopic)
    (.corrupted eventId "kafka topic mismatch")
  let newRev := expectedDeliveryRevision + 1
  let checksum := computeDeliveryChecksum (current.replicated confirmation newRev env.nowMs)
  let (tx, affected) ← env.exec .updateDeliveryState
    (.ok (db.updateDeliveryState eventId expectedDeliveryRevision
      (DeliveryState.setReplicated confirmation newRev checksum env.nowMs) fun _ => rfl))
  ensure (affected == 1) .staleRevision
  let tx ← updateLifecycleDeliveryStatus env tx eventId lifecycle "REPLICATED"
  env.exec .commit (.ok tx)

def confirmReplicatedDelivery (env : CallEnv) (db : Db) (eventId : String)
    (expectedDeliveryRevision : Int) (confirmation : ReplicatedDeliveryConfirmation) :
    Db × CasResult :=
  settle db do
    env.exec .begin (.ok ())
    let current ← (loadDeliveryState env db eventId).orReturn
    ensure (current.deliveryStatus != "REPLICATED")
      (confirmAgain env db eventId current confirmation)
    confirmCurrent env db eventId expectedDeliveryRevision confirmation current

def blockDelivery (env : CallEnv) (db : Db) (eventId : String) (expectedDeliveryRevision : Int)
    (reason : String) : Db × CasResult :=
  settle db do
    env.exec .begin (.ok ())
    let current ← (loadDeliveryState env db eventId).orReturn
    let lifecycle ← loadVerifiedLifecycleForTransition env db eventId
    ensure (current.deliveryRevision == expectedDeliveryRevision) .staleRevision
    ensure (current.deliveryStatus != "REPLICATED") .invalidTransition
    let newRev := expectedDeliveryRevision + 1
    let checksum := computeDeliveryChecksum (current.blocked reason newRev env.nowMs)
    let (tx, affected) ← env.exec .updateDeliveryState
      (.ok (db.updateDeliveryState eventId expectedDeliveryRevision
        (DeliveryState.setBlocked reason newRev checksum env.nowMs) fun _ => rfl))
    ensure (affected == 1) .staleRevision
    let tx ← updateLifecycleDeliveryStatus env tx eventId lifecycle "DELIVERY_BLOCKED"
    env.exec .commit (.ok tx)

def updateDeliveryRetry (env : CallEnv) (db : Db) (eventId : String)
    (expectedDeliveryRevision nextRetryAtMs : Int) : Db × CasResult :=
  match (loadDeliveryState env db eventId).orReturn with
  | .error r => (db, r)
  | .ok current =>
    if current.deliveryRevision ≠ expectedDeliveryRevision then (db, .staleRevision)
    else if current.deliveryStatus = "REPLICATED" then (db, .invalidTransition)
    else
      let newRev := expectedDeliveryRevision + 1
      let checksum := computeDeliveryChecksum (current.retrying nextRetryAtMs newRev env.nowMs)
      match env.run .updateDeliveryState
          (.ok (db.updateDeliveryState eventId expectedDeliveryRevision
            (DeliveryState.setRetrying nextRetryAtMs newRev checksum env.nowMs) fun _ => rfl)) with
      | .error e => (db, .error e)
      | .ok (db, affected) => (db, casOfAffected affected "delivery retry update")

end CraftRelay
