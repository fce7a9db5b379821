import CraftRelay.Lib.Printable
import CraftRelay.Journal.Checksums

/-!
# Routing, profiles, retries and repair

The pure decisions of `craftrelay-kafka-delivery` and the part of
`craftrelay-domain` they rest on: where an event is sent (`routing.rs`), under
which producer profile (`profile.rs`), what a producer may answer
(`producer.rs`), when a failed send is tried again (`retry.rs`), and which
status changes and repairs are allowed (`replicated.rs`, `repair.rs`).
-/

namespace CraftRelay

/-! ## Debug texts -/

/-- One character inside a quoted `{:?}` text. -/
def debugChar (c : Char) : String :=
  if c = '\x00' then "\\0"
  else if c = '\t' then "\\t"
  else if c = '\r' then "\\r"
  else if c = '\n' then "\\n"
  else if c = '"' then "\\\""
  else if c = '\\' then "\\\\"
  else if Printable.isGraphemeExtended c || !Printable.isPrintable c then
    "\\u\x7b" ++ String.ofList (Nat.toDigits 16 c.toNat) ++ "\x7d"
  else c.toString

/-- The `{:?}` text of a string. -/
def debugStr (s : String) : String := "\"" ++ String.join (s.toList.map debugChar) ++ "\""

/-- A quote, a no-break space, a zero-width space and an accent are escaped, a letter with its
accent is not. -/
example : debugStr "\"a\u00a0\u200b\u0301\u00e9" =
    "\"\\\"a\\u\x7ba0\x7d\\u\x7b200b\x7d\\u\x7b301\x7d\u00e9\"" := by
  decide +kernel

/-- The `{:?}` text of an optional string. -/
def debugOptionStr : Option String → String
  | none => "None"
  | some s => "Some(" ++ debugStr s ++ ")"

def CasResult.debug : CasResult → String
  | .updated => "Updated"
  | .alreadyConfirmed => "AlreadyConfirmed"
  | .staleRevision => "StaleRevision"
  | .notFound => "NotFound"
  | .invalidTransition => "InvalidTransition"
  | .corrupted eventId detail =>
      "Corrupted \x7b event_id: " ++ debugStr eventId ++ ", detail: " ++ debugStr detail ++ " \x7d"
  | .error message => "Error(" ++ debugStr message ++ ")"

/-! ## Routing -/

structure RoutingInput where
  installationId : String
  «namespace» : String
  logicalStreamType : String
  streamKey : String
  eventType : String
  routingVersion : Int
  deriving DecidableEq

structure RoutingResolution where
  topic : String
  partitionKey : String
  routingChecksum : Checksum
  routingVersion : Int
  deriving DecidableEq

inductive RoutingError where
  | unsupportedRoutingVersion | emptyField
  deriving DecidableEq, Repr

def RoutingError.debug : RoutingError → String
  | .unsupportedRoutingVersion => "UnsupportedRoutingVersion"
  | .emptyField => "EmptyField"

def RoutingInput.topic (input : RoutingInput) : String :=
  "craftrelay." ++ input.installationId ++ "." ++ input.namespace ++ ".events"

def RoutingInput.partitionKey (input : RoutingInput) : String :=
  joinNul [input.installationId, input.namespace, input.logicalStreamType, input.streamKey]

/-- The text the routing checksum hashes. -/
def RoutingInput.canonical (input : RoutingInput) : String :=
  joinNul [input.installationId, input.namespace, input.logicalStreamType, input.streamKey,
    input.eventType, toString input.routingVersion]

def resolveRouting [Sha256] (input : RoutingInput) : Except RoutingError RoutingResolution :=
  if input.routingVersion ≠ 1 then .error .unsupportedRoutingVersion
  else if input.installationId = "" ∨ input.namespace = "" ∨ input.logicalStreamType = "" ∨
      input.streamKey = "" ∨ input.eventType = "" then .error .emptyField
  else
    .ok
      { topic := input.topic
        partitionKey := input.partitionKey
        routingChecksum := Sha256.digest (utf8 input.canonical)
        routingVersion := input.routingVersion }

/-! ## Profiles -/

inductive ProfileValidationError where
  | unknownProfile | invalidRf | invalidMinIsr | invalidAcks | weakenedDurability
  deriving DecidableEq, Repr

def ProfileValidationError.debug : ProfileValidationError → String
  | .unknownProfile => "UnknownProfile"
  | .invalidRf => "InvalidRf"
  | .invalidMinIsr => "InvalidMinIsr"
  | .invalidAcks => "InvalidAcks"
  | .weakenedDurability => "WeakenedDurability"

structure KafkaProductionProfile where
  profileId : String
  profileVersion : Int
  replicationFactor : Int
  minInsyncReplicas : Int
  requiredAcks : String
  enableIdempotence : Bool
  deliveryTimeoutMs : Int
  requestTimeoutMs : Int
  lingerMs : Int
  maxInFlightRequestsPerConnection : Int
  compression : String
  retentionMs : Int
  retentionBytes : Int
  cleanupPolicy : String
  uncleanLeaderElection : Bool
  topicDeletionPolicy : String
  deriving DecidableEq

inductive ExtendedProfileValidationError where
  | base (error : ProfileValidationError)
  | idempotenceRequired
  | invalidCleanupPolicy
  | uncleanElectionForbidden
  | invalidDeliveryTimeout
  | invalidRequestTimeout
  | invalidLingerMs
  | invalidMaxInFlight
  | invalidCompression
  | invalidRetentionMs
  | invalidRetentionBytes
  | topicDeletionForbidden
  deriving DecidableEq, Repr

def ExtendedProfileValidationError.debug : ExtendedProfileValidationError → String
  | .base error => "Base(" ++ error.debug ++ ")"
  | .idempotenceRequired => "IdempotenceRequired"
  | .invalidCleanupPolicy => "InvalidCleanupPolicy"
  | .uncleanElectionForbidden => "UncleanElectionForbidden"
  | .invalidDeliveryTimeout => "InvalidDeliveryTimeout"
  | .invalidRequestTimeout => "InvalidRequestTimeout"
  | .invalidLingerMs => "InvalidLingerMs"
  | .invalidMaxInFlight => "InvalidMaxInFlight"
  | .invalidCompression => "InvalidCompression"
  | .invalidRetentionMs => "InvalidRetentionMs"
  | .invalidRetentionBytes => "InvalidRetentionBytes"
  | .topicDeletionForbidden => "TopicDeletionForbidden"

/-- Return `e` unless `b` holds. -/
def require {ε : Type} (b : Bool) (e : ε) : Except ε Unit := if b then .ok () else .error e

theorem require_eq_ok {ε : Type} {b : Bool} {e : ε} : require b e = .ok () ↔ b = true := by
  cases b <;> simp [require]

theorem require_eq_error {ε : Type} {b : Bool} {e e' : ε} (h : require b e = .error e') :
    e' = e := by
  cases b with
  | true => cases h
  | false =>
      cases h
      rfl

/-- `validate_kafka_profile` on the fields a durability profile copies. -/
def validateKafkaProfile (replicationFactor minInsyncReplicas : Int) (requiredAcks : String) :
    Except ProfileValidationError Unit := do
  require (0 < replicationFactor) .invalidRf
  require (0 < minInsyncReplicas) .invalidMinIsr
  require (minInsyncReplicas ≤ replicationFactor) .invalidMinIsr
  require (requiredAcks == "all" || requiredAcks == "-1") .invalidAcks

def validateProductionBase (profile : KafkaProductionProfile) :
    Except ExtendedProfileValidationError Unit := do
  (validateKafkaProfile profile.replicationFactor profile.minInsyncReplicas
    profile.requiredAcks).mapError .base
  require profile.enableIdempotence .idempotenceRequired
  require (0 < profile.deliveryTimeoutMs) .invalidDeliveryTimeout
  require (0 < profile.requestTimeoutMs) .invalidRequestTimeout
  require (0 ≤ profile.lingerMs) .invalidLingerMs
  require (1 ≤ profile.maxInFlightRequestsPerConnection &&
    profile.maxInFlightRequestsPerConnection ≤ 5) .invalidMaxInFlight
  require (profile.compression ∈ ["none", "gzip", "snappy", "lz4", "zstd"]) .invalidCompression
  require (0 < profile.retentionMs) .invalidRetentionMs
  require (0 < profile.retentionBytes) .invalidRetentionBytes
  require (profile.cleanupPolicy ∈ ["delete", "compact", "delete,compact"]) .invalidCleanupPolicy
  require (!profile.uncleanLeaderElection) .uncleanElectionForbidden
  require (profile.topicDeletionPolicy == "PROTECTED") .topicDeletionForbidden

def validateP0ProductionProfile (profile : KafkaProductionProfile) :
    Except ExtendedProfileValidationError Unit := do
  validateProductionBase profile
  require (5 ≤ profile.replicationFactor) (.base .weakenedDurability)
  require (5 ≤ profile.minInsyncReplicas) (.base .weakenedDurability)

def isProfileSafeForDelivery (profile : KafkaProductionProfile) :
    Except ExtendedProfileValidationError Unit :=
  validateP0ProductionProfile profile

inductive ProfileDriftKind where
  | versionDowngrade | rfWeakened | minIsrWeakened | idempotenceDisabled
  | uncleanElectionEnabled | acksWeakened
  deriving DecidableEq, Repr

/-! ## The producer -/

structure SendRequest where
  eventId : String
  topic : String
  partitionKey : String
  payload : Bytes
  headers : List (String × String)
  deriving DecidableEq

structure SendSuccess where
  topic : String
  partition : Int
  offset : Int
  deriving DecidableEq

inductive SendError where
  | brokerUnavailable | topicNotFound | authorizationFailed | messageTooLarge | timeout
  | queueFull
  | unknown (message : String)
  deriving DecidableEq

def SendError.debug : SendError → String
  | .brokerUnavailable => "BrokerUnavailable"
  | .topicNotFound => "TopicNotFound"
  | .authorizationFailed => "AuthorizationFailed"
  | .messageTooLarge => "MessageTooLarge"
  | .timeout => "Timeout"
  | .queueFull => "QueueFull"
  | .unknown message => "Unknown(" ++ debugStr message ++ ")"

def SendError.isRetriable : SendError → Bool
  | .brokerUnavailable | .timeout | .queueFull => true
  | _ => false

def SendError.isPermanent : SendError → Bool
  | .topicNotFound | .authorizationFailed | .messageTooLarge => true
  | _ => false

/-! ## Retries -/

def maxRetryAttempts : Int := 32

def baseBackoffMs : Int := 1000

def maxBackoffMs : Int := 300000

inductive RetryDecision where
  | retry (nextRetryAtMs : Int)
  | exhausted
  deriving DecidableEq

/-- The cap of saturating 64-bit arithmetic on values that are not negative. -/
def saturateI64 (n : Int) : Int := min n 9223372036854775807

def computeNextRetry (attemptCount nowMs : Int) : RetryDecision :=
  if maxRetryAttempts ≤ attemptCount then .exhausted
  else
    let exponent := (max (attemptCount - 1) 0).toNat
    let backoff := min (saturateI64 (baseBackoffMs * saturateI64 (2 ^ exponent))) maxBackoffMs
    .retry (nowMs + backoff)

def shouldRetry (error : SendError) (attemptCount : Int) : Bool :=
  error.isRetriable && decide (attemptCount < maxRetryAttempts)

/-! ## Status changes and repair -/

/-- The status changes `validate_transition` allows. -/
def validateTransition (source target : DeliveryStatus) :
    Except (DeliveryStatus × DeliveryStatus) Unit :=
  match source, target with
  | .deliveryPending, .deliveryRetrying => .ok ()
  | .deliveryPending, .replicated => .ok ()
  | .deliveryPending, .deliveryBlocked => .ok ()
  | .deliveryRetrying, .replicated => .ok ()
  | .deliveryRetrying, .deliveryBlocked => .ok ()
  | .deliveryBlocked, .deliveryRetrying => .ok ()
  | source, target => .error (source, target)

inductive RepairClassification where
  | eligibleForRetry
  | profileDrift (driftKinds : List ProfileDriftKind)
  | stuck (reason : String)
  | inconsistent (detail : String)
  deriving DecidableEq

def classifyForRepair (deliveryStatus : String) (attemptCount : Int)
    (blockedReason : Option String) (profileDrifts : List ProfileDriftKind)
    (deliveryChecksumValid : Bool) : RepairClassification :=
  if !deliveryChecksumValid then
    .inconsistent ("delivery checksum invalid for status=" ++ deliveryStatus ++ ", reason=" ++
      debugOptionStr blockedReason)
  else if profileDrifts ≠ [] then .profileDrift profileDrifts
  else if deliveryStatus = "DELIVERY_BLOCKED" then .eligibleForRetry
  else if deliveryStatus = "DELIVERY_RETRYING" ∧ maxRetryAttempts ≤ attemptCount then
    .stuck ("retry attempts exhausted: " ++ toString attemptCount ++ " >= " ++
      toString maxRetryAttempts)
  else
    .stuck ("unresolvable delivery state: status=" ++ deliveryStatus ++ ", attempts=" ++
      toString attemptCount ++ ", reason=" ++ debugOptionStr blockedReason)

end CraftRelay
