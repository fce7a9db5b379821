import CraftRelay.Lib.EarlyReturn
import CraftRelay.Client.JavaString

/-!
# Policy resolution in the client

`PolicyResolution.java`, the client's copy of the bridge's resolution. It has no
registered producer: quota class and priority come from elsewhere, and there are no
flush criteria. Parameters the code compares with `null` are `Option String`; the
others are dereferenced or copied, and a caller that passes `null` there gets an
exception or a policy without them.
-/

namespace CraftRelay.Client

inductive DurabilityClass where
  | localDurable | replicatedDurable
  deriving DecidableEq, Repr

def DurabilityClass.ordinal : DurabilityClass → Nat
  | .localDurable => 0
  | .replicatedDurable => 1

inductive RetentionClass where
  | standard | extended | permanent
  deriving DecidableEq, Repr

def RetentionClass.ordinal : RetentionClass → Nat
  | .standard => 0
  | .extended => 1
  | .permanent => 2

inductive PriorityClass where
  | p0 | p1 | p2 | background
  deriving DecidableEq, Repr

def PriorityClass.ordinal : PriorityClass → Nat
  | .p0 => 0
  | .p1 => 1
  | .p2 => 2
  | .background => 3

inductive QuotaClass where
  | critical | standard | bulk
  deriving DecidableEq, Repr

inductive AdmissionDecision where
  | admitted | rejected
  deriving DecidableEq, Repr

inductive ProducerState where
  | active | disabled | suspended
  deriving DecidableEq, Repr

/-- `AclEvaluation.Decision`. -/
inductive AclDecision where
  | allow | deny
  deriving DecidableEq, Repr

/-- `AclEvaluation.DenyReason`. -/
inductive AclDenyReason where
  | noMatchingRule | explicitDeny | credentialInvalid | credentialRevoked | credentialExpired
  | crossInstallation | namespaceDenied
  deriving DecidableEq, Repr

/-- `AclEvaluation.Result`. -/
structure AclResult where
  decision : AclDecision
  denyReason : Option AclDenyReason
  matchedRuleId : Option JavaString
  policyVersion : Int
  deriving DecidableEq

inductive RejectionReason where
  | selfPromotion | durabilityWeakening | retentionWeakening | projectionBypass
  | installationEscape | bestEffortForbidden | invalidPolicyBinding | unknownPolicyBinding
  | aclDenied | producerDisabled | producerSuspended | crossInstallation | notLocallyOwned
  | quotaExceeded
  deriving DecidableEq, Repr

structure EffectivePolicy where
  effectiveProducerId : String
  effectiveNamespace : String
  effectiveDurability : DurabilityClass
  effectiveRetention : RetentionClass
  effectiveProjectionPolicyId : String
  effectiveQuotaClass : QuotaClass
  effectivePriorityClass : PriorityClass
  policyVersion : Int
  ownershipSnapshotId : String
  admissionDecision : AdmissionDecision
  rejectionReason : Option RejectionReason
  decisionDetail : String
  deriving DecidableEq

structure Configuration where
  installationId : String
  minimumDurability : DurabilityClass
  minimumRetention : RetentionClass
  requiredProjectionPolicyId : Option String
  priorityCeiling : PriorityClass
  validPolicyBindings : List String
  policyVersion : Int
  deriving DecidableEq

/-- The parameters of `resolve`. -/
structure ResolveArguments where
  installationId : String
  producerId : String
  producerInstallationId : String
  producerState : ProducerState
  aclResult : AclResult
  «namespace» : String
  requestedDurability : DurabilityClass
  requestedRetention : RetentionClass
  requestedProjectionPolicyId : Option String
  requestedPriority : PriorityClass
  policyBindingId : Option String
  ownershipSnapshotId : String
  ownedNamespaces : List String
  config : Configuration
  deriving DecidableEq

namespace ResolveArguments

def rejected (args : ResolveArguments) (reason : RejectionReason) (detail : String) :
    EffectivePolicy where
  effectiveProducerId := args.producerId
  effectiveNamespace := args.namespace
  effectiveDurability := args.config.minimumDurability
  effectiveRetention := args.config.minimumRetention
  effectiveProjectionPolicyId := args.config.requiredProjectionPolicyId.getD ""
  effectiveQuotaClass := .standard
  effectivePriorityClass := args.config.priorityCeiling
  policyVersion := args.config.policyVersion
  ownershipSnapshotId := args.ownershipSnapshotId
  admissionDecision := .rejected
  rejectionReason := some reason
  decisionDetail := detail

end ResolveArguments

/-- The `switch` on the producer's state. -/
def ProducerState.check : ProducerState → Except (RejectionReason × String) Unit
  | .disabled => .error (.producerDisabled, "producer is disabled")
  | .suspended => .error (.producerSuspended, "producer is suspended")
  | .active => .ok ()

/-- The early returns of `resolve`, in their order. -/
def ResolveArguments.check (args : ResolveArguments) :
    Except (RejectionReason × String) Unit := do
  Except.refuseIf (args.installationId ≠ args.config.installationId)
    (.installationEscape, "producer cannot escape installation scope")
  Except.refuseIf (args.producerInstallationId ≠ args.installationId)
    (.crossInstallation, "producer installation does not match request")
  args.producerState.check
  Except.refuseIf (args.aclResult.decision = .deny) (.aclDenied, "ACL denied")
  Except.refuseIf (args.requestedDurability.ordinal < args.config.minimumDurability.ordinal)
    (.durabilityWeakening, "cannot weaken durability below installation minimum")
  Except.refuseIf (args.requestedRetention.ordinal < args.config.minimumRetention.ordinal)
    (.retentionWeakening, "cannot weaken retention below installation minimum")
  Except.refuseIf (∃ required ∈ args.config.requiredProjectionPolicyId,
      ∃ requested ∈ args.requestedProjectionPolicyId, requested ≠ "" ∧ requested ≠ required)
    (.projectionBypass, "cannot bypass required projection policy")
  Except.refuseIf (args.requestedPriority.ordinal < args.config.priorityCeiling.ordinal)
    (.selfPromotion, "producer cannot self-promote above priority ceiling")
  Except.refuseIf (∃ binding ∈ args.policyBindingId,
      binding ≠ "" ∧ binding ∉ args.config.validPolicyBindings)
    (.unknownPolicyBinding, "producer policy binding is not recognized")
  Except.refuseIf (args.namespace ∉ args.ownedNamespaces)
    (.notLocallyOwned, "namespace is not locally owned")

def ResolveArguments.resolve (args : ResolveArguments) : EffectivePolicy :=
  match args.check with
  | .error (reason, detail) => args.rejected reason detail
  | .ok () =>
    { effectiveProducerId := args.producerId
      effectiveNamespace := args.namespace
      effectiveDurability := args.requestedDurability
      effectiveRetention := args.requestedRetention
      effectiveProjectionPolicyId :=
        match args.config.requiredProjectionPolicyId with
        | some required => required
        | none => args.requestedProjectionPolicyId.getD ""
      effectiveQuotaClass := .standard
      effectivePriorityClass := args.requestedPriority
      policyVersion := args.config.policyVersion
      ownershipSnapshotId := args.ownershipSnapshotId
      admissionDecision := .admitted
      rejectionReason := none
      decisionDetail := "policy resolved successfully" }

end CraftRelay.Client
