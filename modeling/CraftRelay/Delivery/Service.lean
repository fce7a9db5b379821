import CraftRelay.Lib.Interactive
import CraftRelay.Journal.Calls
import CraftRelay.Delivery.Gate
import CraftRelay.Delivery.Policy

/-!
# The delivery service

`service.rs`: `attempt_delivery` and `recover` as programs over single journal
calls, sends and clock readings. The journal is shared, so calls of other clients
may come between any two operations of a program; the gate belongs to the
service and moves only with it.
-/

namespace CraftRelay

inductive DeliveryOutcome where
  | replicated (kafkaPartition kafkaOffset : Int)
  | retrying (nextRetryAtMs : Int)
  | blocked (reason : String)
  | gateHeld (waitingForSequence : Int)
  | error (message : String)
  deriving DecidableEq

/-- The service without its references to journal and producer. -/
structure DeliveryService where
  gate : OrderingGate
  profile : KafkaProductionProfile
  shutdown : Bool

def DeliveryService.new (profile : KafkaProductionProfile) : DeliveryService :=
  ⟨.new, profile, false⟩

/-- One operation of the service on the world outside it. -/
inductive Effect where
  | journal (call : JournalCall)
  | send (request : SendRequest)
  | clock

abbrev Effect.Reply : Effect → Type
  | .journal call => call.Reply
  | .send _ => Except SendError SendSuccess
  | .clock => Int

/-- A method of the service under way. -/
abbrev ServiceProg (α : Type) := Prog Effect Effect.Reply (DeliveryService × α)

/-- The routing input of a candidate. -/
def DeliveryCandidate.routingInput (candidate : DeliveryCandidate) : RoutingInput where
  installationId := candidate.installationId
  «namespace» := candidate.namespace
  logicalStreamType := candidate.logicalStreamType
  streamKey := candidate.streamKey
  eventType := candidate.eventType
  routingVersion := candidate.routingVersion

/-- The gate state a scanned delivery stands for. -/
def PendingDelivery.recovered (p : PendingDelivery) : RecoveredStreamState where
  streamKey := p.streamKey
  streamSequence := p.streamSequence
  replicated := p.deliveryStatus == "REPLICATED"
  blocking := p.deliveryStatus != "REPLICATED"
  inFlight := false

namespace DeliveryService

/-- The service with its gate marked. -/
def withGate (svc : DeliveryService) (gate : OrderingGate) : DeliveryService :=
  { svc with gate := gate }

/-- The answer after a `block_delivery`, `update_delivery_retry` or
`record_delivery_attempt` that did not answer `Updated`. -/
def persistenceFailed (what : String) (other : CasResult) : DeliveryOutcome :=
  .error ("delivery " ++ what ++ " persistence failed: " ++ other.debug)

/-- Persist a block; the gate blocks on the event when that was done. -/
def blockAndMark (svc : DeliveryService) (eventId streamKey : String)
    (streamSequence deliveryRevision : Int) (reason : String) : ServiceProg DeliveryOutcome :=
  .op (.journal (.blockDelivery eventId deliveryRevision reason)) fun
    | .updated =>
        .done (svc.withGate (svc.gate.markBlocking streamKey streamSequence), .blocked reason)
    | other => .done (svc, persistenceFailed "block" other)

def persistBlockBeforeSend (svc : DeliveryService) (eventId streamKey : String)
    (streamSequence deliveryRevision : Int) (reason : String) : ServiceProg DeliveryOutcome :=
  svc.blockAndMark eventId streamKey streamSequence deliveryRevision reason

/-- After a successful send: confirm the coordinates the broker reported. -/
def confirmSent (svc : DeliveryService) (eventId : String) (candidate : DeliveryCandidate)
    (routing : RoutingResolution) (success : SendSuccess) : ServiceProg DeliveryOutcome :=
  .op (.journal (.confirmReplicatedDelivery eventId candidate.deliveryState.deliveryRevision
      { expectedRoutingFingerprint := routing.routingChecksum
        expectedProfileId := svc.profile.profileId
        expectedProfileVersion := svc.profile.profileVersion
        kafkaTopic := success.topic
        kafkaPartition := success.partition
        kafkaOffset := success.offset })) fun
    | .updated | .alreadyConfirmed =>
        .done (svc.withGate
            (svc.gate.markCompleted candidate.streamKey candidate.streamSequence),
          .replicated success.partition success.offset)
    | other =>
        .done (svc.withGate (svc.gate.markBlocking candidate.streamKey candidate.streamSequence),
          .error ("journal confirm failed: " ++ other.debug))

/-- The attempt record of a failed send. -/
def failedAttempt (svc : DeliveryService) (eventId : String) (candidate : DeliveryCandidate)
    (routing : RoutingResolution) (sendErr : SendError) (nowMs : Int) : DeliveryAttemptRecord where
  eventId := eventId
  attemptNumber := i32Wrap (candidate.deliveryState.attemptCount + 1)
  outcome := if sendErr.isPermanent then "PERMANENT_FAILURE" else "TRANSIENT_FAILURE"
  errorCode := some sendErr.debug
  kafkaTopic := some routing.topic
  kafkaPartition := none
  kafkaOffset := none
  profileId := some svc.profile.profileId
  profileVersion := some svc.profile.profileVersion
  attemptedAtMs := nowMs

/-- After the attempt is on record: schedule a retry or block. -/
def retryOrBlock (svc : DeliveryService) (eventId : String) (candidate : DeliveryCandidate)
    (sendErr : SendError) (nowMs : Int) : ServiceProg DeliveryOutcome :=
  let state := candidate.deliveryState
  let attempts := i32Wrap (state.attemptCount + 1)
  if shouldRetry sendErr attempts then
    match computeNextRetry attempts nowMs with
    | .retry nextRetryAtMs =>
        .op (.journal (.updateDeliveryRetry eventId state.deliveryRevision nextRetryAtMs)) fun
          | .updated =>
              .done (svc.withGate
                  (svc.gate.markBlocking candidate.streamKey candidate.streamSequence),
                .retrying nextRetryAtMs)
          | other => .done (svc, persistenceFailed "retry" other)
    | .exhausted =>
        svc.blockAndMark eventId candidate.streamKey candidate.streamSequence
          state.deliveryRevision "retry exhausted"
  else
    svc.blockAndMark eventId candidate.streamKey candidate.streamSequence
      state.deliveryRevision ("permanent failure: " ++ sendErr.debug)

/-- After a failed send: record the attempt first. -/
def recordFailure (svc : DeliveryService) (eventId : String) (candidate : DeliveryCandidate)
    (routing : RoutingResolution) (sendErr : SendError) : ServiceProg DeliveryOutcome :=
  .op .clock fun nowMs =>
    .op (.journal (.recordDeliveryAttempt
        (svc.failedAttempt eventId candidate routing sendErr nowMs))) fun
      | .updated => svc.retryOrBlock eventId candidate sendErr nowMs
      | other => .done (svc, persistenceFailed "attempt" other)

/-- What is sent for a candidate. -/
def sendRequest (svc : DeliveryService) (eventId : String) (routing : RoutingResolution)
    (payload : Bytes) : SendRequest where
  eventId := eventId
  topic := routing.topic
  partitionKey := routing.partitionKey
  payload := payload
  headers := [("routing_version", toString routing.routingVersion),
    ("profile_id", svc.profile.profileId)]

/-- Mark the event in flight and send it. -/
def sendInFlight (svc : DeliveryService) (eventId : String) (candidate : DeliveryCandidate)
    (routing : RoutingResolution) (payload : Bytes) : ServiceProg DeliveryOutcome :=
  let svc := svc.withGate
    (svc.gate.markInFlight candidate.streamKey candidate.streamSequence)
  .op (.send (svc.sendRequest eventId routing payload)) fun
    | .ok success => svc.confirmSent eventId candidate routing success
    | .error sendErr => svc.recordFailure eventId candidate routing sendErr

/-- Read the payload and send it. -/
def sendPayload (svc : DeliveryService) (eventId : String) (candidate : DeliveryCandidate)
    (routing : RoutingResolution) : ServiceProg DeliveryOutcome :=
  let unreadable (message : String) : ServiceProg DeliveryOutcome :=
    .done (svc.withGate (svc.gate.markBlocking candidate.streamKey candidate.streamSequence),
      .error message)
  .op (.journal (.readVerifiedPayload eventId)) fun
    | .notFound => unreadable "stored payload not found"
    | .corrupted _ detail => unreadable ("stored payload corrupted: " ++ detail)
    | .error e => unreadable ("stored payload read failed: " ++ e)
    | .found payload => svc.sendInFlight eventId candidate routing payload

variable [Sha256]

/-- The checks before a send, as the routing to send with or the reason to
block. -/
def checkBeforeSend (svc : DeliveryService) (candidate : DeliveryCandidate) :
    Except String RoutingResolution := do
  let state := candidate.deliveryState
  let routing ← (resolveRouting candidate.routingInput).mapError
    fun e => "routing error: " ++ e.debug
  require (state.routingFingerprint == some routing.routingChecksum)
    "routing fingerprint mismatch"
  require (state.profileId == some svc.profile.profileId
      && state.profileVersion == some svc.profile.profileVersion)
    (if state.profileId ≠ some svc.profile.profileId then "profile ID mismatch"
      else "profile version mismatch")
  require (state.kafkaTopic == some routing.topic) "routing topic mismatch"
  (isProfileSafeForDelivery svc.profile).mapError
    fun e => "unsafe Kafka production profile: " ++ e.debug
  return routing

/-- A candidate the gate let through. -/
def deliverAllowed (svc : DeliveryService) (eventId : String) (candidate : DeliveryCandidate) :
    ServiceProg DeliveryOutcome :=
  let state := candidate.deliveryState
  let streamKey := candidate.streamKey
  let streamSequence := candidate.streamSequence
  if state.deliveryStatus = "REPLICATED" then
    match state.kafkaPartition, state.kafkaOffset with
    | some kafkaPartition, some kafkaOffset =>
        .done (svc.withGate (svc.gate.markCompleted streamKey streamSequence),
          .replicated kafkaPartition kafkaOffset)
    | _, _ => .done (svc, .error "replicated delivery missing Kafka confirmation metadata")
  else if state.deliveryStatus = "DELIVERY_BLOCKED" then
    .done (svc.withGate (svc.gate.markBlocking streamKey streamSequence),
      .blocked (state.blockedReason.getD "delivery blocked"))
  else
    match svc.checkBeforeSend candidate with
    | .error reason =>
        svc.persistBlockBeforeSend eventId streamKey streamSequence
          state.deliveryRevision reason
    | .ok routing => svc.sendPayload eventId candidate routing

/-- A candidate that was found, before the gate is asked. -/
def deliverCandidate (svc : DeliveryService) (eventId : String)
    (candidate : DeliveryCandidate) : ServiceProg DeliveryOutcome :=
  match svc.gate.check candidate.streamKey candidate.streamSequence with
  | .blocked waitingForSequence => .done (svc, .gateHeld waitingForSequence)
  | .allowed => svc.deliverAllowed eventId candidate

/-- The candidate, or why there is none. -/
def resolveCandidate (svc : DeliveryService) (eventId : String) :
    DeliveryCandidateResult → ServiceProg DeliveryOutcome
  | .found candidate => svc.deliverCandidate eventId candidate
  | .notFound => .done (svc, .error "delivery candidate not found")
  | .corrupted _ detail => .done (svc, .error ("delivery candidate corrupted: " ++ detail))
  | .error e => .done (svc, .error e)

def attemptDelivery (svc : DeliveryService) (eventId : String) : ServiceProg DeliveryOutcome :=
  if svc.shutdown then .done (svc, .error "delivery service is shut down")
  else .op (.journal (.getDeliveryCandidate eventId)) (svc.resolveCandidate eventId)

def recover (svc : DeliveryService) : ServiceProg (Except String Unit) :=
  .op (.journal (.scanDeliveryGateStates 10000)) fun
    | .ok persisted =>
        .done (svc.withGate (svc.gate.recoverFromScan (persisted.map (·.recovered))), .ok ())
    | .corrupted eventId detail =>
        .done (svc, .error ("delivery gate recovery scan corrupted event_id=" ++
          debugOptionStr eventId ++ ": " ++ detail))
    | .error e => .done (svc, .error ("delivery gate recovery scan failed: " ++ e))

end DeliveryService

end CraftRelay
