import CraftRelay.Lib.EarlyReturn

/-!
# Policy resolution in the bridge

`craftrelay-domain`: the effective policy of a publish request from the registered
producer, the ACL result, the request and the configuration. Ten checks reject in a
fixed order, then the requested flush criteria are clamped to the configured bounds.
`i32` and `i64` values are compared and copied only, so they are `Int`.
-/

namespace CraftRelay

inductive ProducerLifecycleState where
  | active | disabled | suspended
  deriving DecidableEq, Repr

inductive PriorityClass where
  | p0 | p1 | p2 | background
  deriving DecidableEq, Repr

/-- The derived order is the order of declaration. -/
def PriorityClass.ordinal : PriorityClass → Nat
  | .p0 => 0
  | .p1 => 1
  | .p2 => 2
  | .background => 3

inductive QuotaClass where
  | critical | standard | bulk
  deriving DecidableEq, Repr

inductive DurabilityClass where
  | localDurable | replicatedDurable
  deriving DecidableEq, Repr

def DurabilityClass.ordinal : DurabilityClass → Nat
  | .localDurable => 0
  | .replicatedDurable => 1

inductive RetentionClass where
  | standard | extended | permanent
  deriving DecidableEq, Repr

def RetentionClass.ordinal : RetentionClass → Nat
  | .standard => 0
  | .extended => 1
  | .permanent => 2

inductive AclDecision where
  | allow | deny
  deriving DecidableEq, Repr

inductive AclDenyReason where
  | noMatchingRule | explicitDeny | credentialInvalid | credentialRevoked | credentialExpired
  | crossInstallation | namespaceDenied
  deriving DecidableEq, Repr

/-- The decision of the rules, with the rule it was made by. -/
structure AclEvaluationResult where
  decision : AclDecision
  denyReason : Option AclDenyReason
  matchedRuleId : Option String
  policyVersion : Int
  deriving DecidableEq

inductive PolicyRejectionReason where
  | selfPromotion | durabilityWeakening | retentionWeakening | projectionBypass
  | installationEscape | bestEffortForbidden | invalidPolicyBinding | unknownPolicyBinding
  | aclDenied | producerDisabled | producerSuspended | crossInstallation | notLocallyOwned
  | quotaExceeded
  deriving DecidableEq, Repr

inductive AdmissionDecision where
  | admitted | rejected
  deriving DecidableEq, Repr

/-- The columns of a registered producer that decide its policy. -/
structure RegisteredProducer where
  installationId : String
  producerId : String
  lifecycleState : ProducerLifecycleState
  priorityClass : PriorityClass
  quotaClass : QuotaClass
  policyBindingId : String
  deriving DecidableEq

/-- `RequestedFlushCriteria` and `EffectiveFlushCriteria` have the same three fields. -/
structure FlushCriteria where
  maxRecords : Int
  maxBytes : Int
  maxAgeMillis : Int
  deriving DecidableEq

structure FlushPolicyBounds where
  minimum : FlushCriteria
  maximum : FlushCriteria
  deriving DecidableEq

inductive PolicyDecision where
  | accepted
  | clamped (criteria : FlushCriteria)
  | rejected
  deriving DecidableEq

/-- What a producer asks for, and what was decided about it before. -/
structure PolicyResolutionContext where
  installationId : String
  producer : RegisteredProducer
  aclResult : AclEvaluationResult
  ownershipSnapshotId : String
  «namespace» : String
  requestedDurability : DurabilityClass
  requestedRetention : RetentionClass
  requestedProjectionPolicyId : String
  requestedPriority : PriorityClass
  requestedFlush : FlushCriteria
  deriving DecidableEq

/-- What the installation demands. -/
structure PolicyConfiguration where
  installationId : String
  minimumDurability : DurabilityClass
  minimumRetention : RetentionClass
  requiredProjectionPolicyId : Option String
  priorityCeiling : PriorityClass
  validPolicyBindings : List String
  flushBounds : FlushPolicyBounds
  policyVersion : Int
  deriving DecidableEq

/-- What the producer gets, or why it gets nothing. -/
structure EffectivePolicyResult where
  effectiveProducerId : String
  effectiveNamespace : String
  effectiveDurability : DurabilityClass
  effectiveRetention : RetentionClass
  effectiveProjectionPolicyId : String
  effectiveQuotaClass : QuotaClass
  effectivePriorityClass : PriorityClass
  effectiveFlush : FlushCriteria
  policyVersion : Int
  ownershipSnapshotId : String
  admissionDecision : AdmissionDecision
  rejectionReason : Option PolicyRejectionReason
  decisionDetail : String
  deriving DecidableEq

/-! ## Flush criteria -/

/-- `Ord::clamp`, which panics when the bounds are the wrong way round. -/
def clamp? (value lower upper : Int) : Option Int :=
  if upper < lower then none
  else if value < lower then some lower
  else if upper < value then some upper
  else some value

/-- `none` is the panic of `clamp`. -/
def resolveFlushPolicy (requested : FlushCriteria) (bounds : FlushPolicyBounds)
    (rejectIfClamped : Bool) : Option PolicyDecision :=
  if requested.maxRecords ≤ 0 ∨ requested.maxBytes ≤ 0 ∨ requested.maxAgeMillis ≤ 0 then
    some .rejected
  else do
    -- each of the three is clamped on its own
    let maxRecords ← clamp? requested.maxRecords bounds.minimum.maxRecords
      bounds.maximum.maxRecords
    let maxBytes ← clamp? requested.maxBytes bounds.minimum.maxBytes bounds.maximum.maxBytes
    let maxAgeMillis ← clamp? requested.maxAgeMillis bounds.minimum.maxAgeMillis
      bounds.maximum.maxAgeMillis
    let effective : FlushCriteria := ⟨maxRecords, maxBytes, maxAgeMillis⟩
    if effective = requested then some .accepted
    else if rejectIfClamped then some .rejected
    else some (.clamped effective)

/-! ## The resolution -/

namespace PolicyResolutionContext

/-- A rejection answers with the minima of the installation. -/
def rejected (ctx : PolicyResolutionContext) (config : PolicyConfiguration)
    (reason : PolicyRejectionReason) (detail : String) : EffectivePolicyResult where
  effectiveProducerId := ctx.producer.producerId
  effectiveNamespace := ctx.namespace
  effectiveDurability := config.minimumDurability
  effectiveRetention := config.minimumRetention
  effectiveProjectionPolicyId := config.requiredProjectionPolicyId.getD ""
  effectiveQuotaClass := ctx.producer.quotaClass
  effectivePriorityClass := ctx.producer.priorityClass
  effectiveFlush := config.flushBounds.minimum
  policyVersion := config.policyVersion
  ownershipSnapshotId := ctx.ownershipSnapshotId
  admissionDecision := .rejected
  rejectionReason := some reason
  decisionDetail := detail

/-- The result at the end of `resolve_policy`. -/
def admitted (ctx : PolicyResolutionContext) (config : PolicyConfiguration)
    (effectiveFlush : FlushCriteria) : EffectivePolicyResult where
  effectiveProducerId := ctx.producer.producerId
  effectiveNamespace := ctx.namespace
  effectiveDurability := ctx.requestedDurability
  effectiveRetention := ctx.requestedRetention
  effectiveProjectionPolicyId :=
    config.requiredProjectionPolicyId.getD ctx.requestedProjectionPolicyId
  effectiveQuotaClass := ctx.producer.quotaClass
  effectivePriorityClass := ctx.producer.priorityClass
  effectiveFlush := effectiveFlush
  policyVersion := config.policyVersion
  ownershipSnapshotId := ctx.ownershipSnapshotId
  admissionDecision := .admitted
  rejectionReason := none
  decisionDetail := "policy resolved successfully"

end PolicyResolutionContext

/-- The `match` on the producer's state. -/
def ProducerLifecycleState.check :
    ProducerLifecycleState → Except (PolicyRejectionReason × String) Unit
  | .disabled => .error (.producerDisabled, "producer is disabled")
  | .suspended => .error (.producerSuspended, "producer is suspended")
  | .active => .ok ()

/-- The early returns of `resolve_policy` before the flush criteria, in their order. -/
def PolicyResolutionContext.check (ctx : PolicyResolutionContext) (config : PolicyConfiguration)
    (ownedNamespaces : List String) : Except (PolicyRejectionReason × String) Unit := do
  Except.refuseIf (ctx.installationId ≠ config.installationId)
    (.installationEscape, "producer cannot escape installation scope")
  Except.refuseIf (ctx.producer.installationId ≠ ctx.installationId)
    (.crossInstallation, "producer installation does not match request")
  ctx.producer.lifecycleState.check
  Except.refuseIf (ctx.aclResult.decision = .deny) (.aclDenied, "ACL denied")
  Except.refuseIf (ctx.requestedDurability.ordinal < config.minimumDurability.ordinal)
    (.durabilityWeakening, "cannot weaken durability below installation minimum")
  Except.refuseIf (ctx.requestedRetention.ordinal < config.minimumRetention.ordinal)
    (.retentionWeakening, "cannot weaken retention below installation minimum")
  Except.refuseIf (∃ required ∈ config.requiredProjectionPolicyId,
      ctx.requestedProjectionPolicyId ≠ "" ∧ ctx.requestedProjectionPolicyId ≠ required)
    (.projectionBypass, "cannot bypass required projection policy")
  Except.refuseIf (ctx.requestedPriority.ordinal < config.priorityCeiling.ordinal)
    (.selfPromotion, "producer cannot self-promote above priority ceiling")
  Except.refuseIf (ctx.producer.policyBindingId ≠ "" ∧
      ctx.producer.policyBindingId ∉ config.validPolicyBindings)
    (.unknownPolicyBinding, "producer policy binding is not recognized")
  Except.refuseIf (ctx.namespace ∉ ownedNamespaces)
    (.notLocallyOwned, "namespace is not locally owned")

/-- `none` is the panic of `clamp`. -/
def resolvePolicy (ctx : PolicyResolutionContext) (config : PolicyConfiguration)
    (ownedNamespaces : List String) : Option EffectivePolicyResult :=
  match ctx.check config ownedNamespaces with
  | .error (reason, detail) => some (ctx.rejected config reason detail)
  | .ok () =>
    match resolveFlushPolicy ctx.requestedFlush config.flushBounds false with
    | none => none
    | some .accepted => some (ctx.admitted config ctx.requestedFlush)
    | some (.clamped criteria) => some (ctx.admitted config criteria)
    | some .rejected =>
        some (ctx.rejected config .invalidPolicyBinding
          "requested flush criteria rejected by policy")

end CraftRelay
