import CraftRelay.Domain.PolicyResolution
import CraftRelay.Client.PolicyResolution

/-!
# The two policy resolutions compared

Bridge and client make the same ten checks in the same order, and reject alike. What
they grant differs: the bridge grants the registered quota class and priority of the
producer, the client the standard quota class and the requested priority.
-/

namespace CraftRelay

/-! ## The client's names for the bridge's values -/

def PriorityClass.toClient : PriorityClass → Client.PriorityClass
  | .p0 => .p0
  | .p1 => .p1
  | .p2 => .p2
  | .background => .background

def QuotaClass.toClient : QuotaClass → Client.QuotaClass
  | .critical => .critical
  | .standard => .standard
  | .bulk => .bulk

def DurabilityClass.toClient : DurabilityClass → Client.DurabilityClass
  | .localDurable => .localDurable
  | .replicatedDurable => .replicatedDurable

def RetentionClass.toClient : RetentionClass → Client.RetentionClass
  | .standard => .standard
  | .extended => .extended
  | .permanent => .permanent

def ProducerLifecycleState.toClient : ProducerLifecycleState → Client.ProducerState
  | .active => .active
  | .disabled => .disabled
  | .suspended => .suspended

def AclDecision.toClient : AclDecision → Client.AclDecision
  | .allow => .allow
  | .deny => .deny

def AdmissionDecision.toClient : AdmissionDecision → Client.AdmissionDecision
  | .admitted => .admitted
  | .rejected => .rejected

def PolicyRejectionReason.toClient : PolicyRejectionReason → Client.RejectionReason
  | .selfPromotion => .selfPromotion
  | .durabilityWeakening => .durabilityWeakening
  | .retentionWeakening => .retentionWeakening
  | .projectionBypass => .projectionBypass
  | .installationEscape => .installationEscape
  | .bestEffortForbidden => .bestEffortForbidden
  | .invalidPolicyBinding => .invalidPolicyBinding
  | .unknownPolicyBinding => .unknownPolicyBinding
  | .aclDenied => .aclDenied
  | .producerDisabled => .producerDisabled
  | .producerSuspended => .producerSuspended
  | .crossInstallation => .crossInstallation
  | .notLocallyOwned => .notLocallyOwned
  | .quotaExceeded => .quotaExceeded

@[simp] theorem PriorityClass.ordinal_toClient (c : PriorityClass) :
    c.toClient.ordinal = c.ordinal := by
  cases c <;> rfl

@[simp] theorem DurabilityClass.ordinal_toClient (c : DurabilityClass) :
    c.toClient.ordinal = c.ordinal := by
  cases c <;> rfl

@[simp] theorem RetentionClass.ordinal_toClient (c : RetentionClass) :
    c.toClient.ordinal = c.ordinal := by
  cases c <;> rfl

@[simp] theorem AclDecision.toClient_eq_deny {d : AclDecision} :
    d.toClient = .deny ↔ d = .deny := by
  cases d <;> simp [toClient]

theorem PriorityClass.toClient_injective {a b : PriorityClass} (h : a.toClient = b.toClient) :
    a = b := by
  cases a <;> cases b <;> first | rfl | cases h

theorem QuotaClass.toClient_injective {a b : QuotaClass} (h : a.toClient = b.toClient) :
    a = b := by
  cases a <;> cases b <;> first | rfl | cases h

/-- The client's arguments say what the bridge's context, configuration and owned
namespaces say. An id that is not there is `null` or empty in the client and empty in the
bridge, but a required projection policy that is not there is `null` and `None`. -/
structure Expresses (args : Client.ResolveArguments) (ctx : PolicyResolutionContext)
    (config : PolicyConfiguration) (ownedNamespaces : List String) : Prop where
  installationId : args.installationId = ctx.installationId
  producerId : args.producerId = ctx.producer.producerId
  producerInstallationId : args.producerInstallationId = ctx.producer.installationId
  producerState : args.producerState = ctx.producer.lifecycleState.toClient
  acl : args.aclResult.decision = ctx.aclResult.decision.toClient
  «namespace» : args.namespace = ctx.namespace
  requestedDurability : args.requestedDurability = ctx.requestedDurability.toClient
  requestedRetention : args.requestedRetention = ctx.requestedRetention.toClient
  requestedProjectionPolicyId :
    args.requestedProjectionPolicyId.getD "" = ctx.requestedProjectionPolicyId
  requestedPriority : args.requestedPriority = ctx.requestedPriority.toClient
  policyBindingId : args.policyBindingId.getD "" = ctx.producer.policyBindingId
  ownershipSnapshotId : args.ownershipSnapshotId = ctx.ownershipSnapshotId
  ownedNamespaces : args.ownedNamespaces = ownedNamespaces
  configInstallationId : args.config.installationId = config.installationId
  minimumDurability : args.config.minimumDurability = config.minimumDurability.toClient
  minimumRetention : args.config.minimumRetention = config.minimumRetention.toClient
  requiredProjectionPolicyId :
    args.config.requiredProjectionPolicyId = config.requiredProjectionPolicyId
  priorityCeiling : args.config.priorityCeiling = config.priorityCeiling.toClient
  validPolicyBindings : args.config.validPolicyBindings = config.validPolicyBindings
  policyVersion : args.config.policyVersion = config.policyVersion

/-- The same decision and reason, and the same grant when it is a grant. -/
structure EffectivePolicyResult.Agrees (result : EffectivePolicyResult)
    (policy : Client.EffectivePolicy) : Prop where
  decision : policy.admissionDecision = result.admissionDecision.toClient
  reason : policy.rejectionReason = result.rejectionReason.map (·.toClient)
  durability : result.admissionDecision = .admitted →
    policy.effectiveDurability = result.effectiveDurability.toClient
  retention : result.admissionDecision = .admitted →
    policy.effectiveRetention = result.effectiveRetention.toClient
  projection : result.admissionDecision = .admitted →
    policy.effectiveProjectionPolicyId = result.effectiveProjectionPolicyId
  quota : result.admissionDecision = .admitted →
    policy.effectiveQuotaClass = result.effectiveQuotaClass.toClient
  priority : result.admissionDecision = .admitted →
    policy.effectivePriorityClass = result.effectivePriorityClass.toClient

/-! ## The checks -/

/-- The request passes the ten checks. -/
structure PolicyResolutionContext.Passes (ctx : PolicyResolutionContext)
    (config : PolicyConfiguration) (ownedNamespaces : List String) : Prop where
  installation : ctx.installationId = config.installationId
  producerInstallation : ctx.producer.installationId = ctx.installationId
  active : ctx.producer.lifecycleState = .active
  acl : ctx.aclResult.decision = .allow
  durability : config.minimumDurability.ordinal ≤ ctx.requestedDurability.ordinal
  retention : config.minimumRetention.ordinal ≤ ctx.requestedRetention.ordinal
  projection : ∀ required ∈ config.requiredProjectionPolicyId,
    ctx.requestedProjectionPolicyId = "" ∨ ctx.requestedProjectionPolicyId = required
  priority : config.priorityCeiling.ordinal ≤ ctx.requestedPriority.ordinal
  binding : ctx.producer.policyBindingId = "" ∨
    ctx.producer.policyBindingId ∈ config.validPolicyBindings
  owned : ctx.namespace ∈ ownedNamespaces

theorem ProducerLifecycleState.check_eq_ok_iff {s : ProducerLifecycleState} :
    s.check = .ok () ↔ s = .active := by
  cases s <;> simp [check]

section Checks

variable {args : Client.ResolveArguments} {ctx : PolicyResolutionContext}
  {config : PolicyConfiguration} {ownedNamespaces : List String}

theorem PolicyResolutionContext.check_eq_ok_iff :
    ctx.check config ownedNamespaces = .ok () ↔ ctx.Passes config ownedNamespaces := by
  unfold PolicyResolutionContext.check
  simp only [Except.check_eq_ok_iff, Except.refuseIf_eq_ok_iff,
    ProducerLifecycleState.check_eq_ok_iff, not_not, Nat.not_lt]
  have hacl : ctx.aclResult.decision ≠ .deny ↔ ctx.aclResult.decision = .allow := by
    cases ctx.aclResult.decision <;> simp
  constructor
  · rintro ⟨h1, h2, h3, h4, h5, h6, h7, h8, h9, h10⟩
    refine ⟨h1, h2, h3, hacl.mp h4, h5, h6, ?_, h8, ?_, h10⟩
    · intro required hreq
      exact by_contra fun hne => h7 ⟨required, hreq, not_or.mp hne⟩
    · exact by_contra fun hne => h9 (not_or.mp hne)
  · rintro ⟨h1, h2, h3, h4, h5, h6, h7, h8, h9, h10⟩
    refine ⟨h1, h2, h3, hacl.mpr h4, h5, h6, ?_, h8, ?_, h10⟩
    · rintro ⟨required, hreq, hne⟩
      exact not_or.mpr hne (h7 required hreq)
    · intro hne
      exact not_or.mpr hne h9

/-- A `null` id is tested like an empty one. -/
theorem exists_mem_nonempty_iff {x : Option String} {P : String → Prop} :
    (∃ s ∈ x, s ≠ "" ∧ P s) ↔ x.getD "" ≠ "" ∧ P (x.getD "") := by
  cases x <;> simp

/-- The client refuses what the bridge refuses, with the same reason and text. -/
theorem Expresses.check_eq (h : Expresses args ctx config ownedNamespaces) :
    args.check = (ctx.check config ownedNamespaces).mapError
      fun refusal => (refusal.1.toClient, refusal.2) := by
  have hstate : args.producerState.check = ctx.producer.lifecycleState.check.mapError
      fun refusal => (refusal.1.toClient, refusal.2) := by
    rw [h.producerState]
    cases ctx.producer.lifecycleState <;> rfl
  unfold PolicyResolutionContext.check Client.ResolveArguments.check
  simp only [Except.mapError_bind, Except.mapError_refuseIf, hstate, exists_mem_nonempty_iff,
    h.installationId, h.producerInstallationId, h.acl, h.namespace, h.requestedDurability,
    h.requestedRetention, h.requestedProjectionPolicyId, h.requestedPriority, h.policyBindingId,
    h.ownedNamespaces, h.configInstallationId, h.minimumDurability, h.minimumRetention,
    h.requiredProjectionPolicyId, h.priorityCeiling, h.validPolicyBindings,
    AclDecision.toClient_eq_deny, DurabilityClass.ordinal_toClient,
    RetentionClass.ordinal_toClient, PriorityClass.ordinal_toClient, PolicyRejectionReason.toClient]

/-! ## The results -/

/-- Positive criteria within bounds that are the right way round. -/
structure PolicyResolutionContext.FlushAdmissible (ctx : PolicyResolutionContext)
    (config : PolicyConfiguration) : Prop where
  positive : 0 < ctx.requestedFlush.maxRecords ∧ 0 < ctx.requestedFlush.maxBytes ∧
    0 < ctx.requestedFlush.maxAgeMillis
  records : config.flushBounds.minimum.maxRecords ≤ config.flushBounds.maximum.maxRecords
  bytes : config.flushBounds.minimum.maxBytes ≤ config.flushBounds.maximum.maxBytes
  age : config.flushBounds.minimum.maxAgeMillis ≤ config.flushBounds.maximum.maxAgeMillis

/-- The requested criteria, each brought into the bounds. -/
def FlushPolicyBounds.clamp (bounds : FlushPolicyBounds) (requested : FlushCriteria) :
    FlushCriteria where
  maxRecords := max bounds.minimum.maxRecords (min requested.maxRecords bounds.maximum.maxRecords)
  maxBytes := max bounds.minimum.maxBytes (min requested.maxBytes bounds.maximum.maxBytes)
  maxAgeMillis := max bounds.minimum.maxAgeMillis
    (min requested.maxAgeMillis bounds.maximum.maxAgeMillis)

theorem clamp?_of_le {lower upper : Int} (h : lower ≤ upper) (value : Int) :
    clamp? value lower upper = some (max lower (min value upper)) := by
  unfold clamp?
  rw [if_neg (Int.not_lt.mpr h)]
  split
  · congr 1
    omega
  · split
    · congr 1
      omega
    · congr 1
      omega

/-- Admissible criteria are taken as they are, within bounds, or clamped. -/
theorem PolicyResolutionContext.FlushAdmissible.resolves (h : ctx.FlushAdmissible config) :
    (config.flushBounds.clamp ctx.requestedFlush = ctx.requestedFlush ∧
        resolveFlushPolicy ctx.requestedFlush config.flushBounds false = some .accepted) ∨
      resolveFlushPolicy ctx.requestedFlush config.flushBounds false =
        some (.clamped (config.flushBounds.clamp ctx.requestedFlush)) := by
  obtain ⟨⟨h1, h2, h3⟩, hrecords, hbytes, hage⟩ := h
  have hpositive : ¬ (ctx.requestedFlush.maxRecords ≤ 0 ∨ ctx.requestedFlush.maxBytes ≤ 0 ∨
      ctx.requestedFlush.maxAgeMillis ≤ 0) := by omega
  unfold resolveFlushPolicy
  simp only [if_neg hpositive, clamp?_of_le hrecords, clamp?_of_le hbytes, clamp?_of_le hage,
    Option.bind_eq_bind, Option.bind_some]
  by_cases heq : config.flushBounds.clamp ctx.requestedFlush = ctx.requestedFlush
  · exact .inl ⟨heq, if_pos heq⟩
  · exact .inr (if_neg heq)

/-- What the bridge answers: a refusal of the first check that fails, or a grant. -/
theorem resolvePolicy_eq (h : ctx.FlushAdmissible config) :
    (∃ reason detail, ctx.check config ownedNamespaces = .error (reason, detail) ∧
        resolvePolicy ctx config ownedNamespaces = some (ctx.rejected config reason detail)) ∨
      ctx.check config ownedNamespaces = .ok () ∧
        resolvePolicy ctx config ownedNamespaces =
          some (ctx.admitted config (config.flushBounds.clamp ctx.requestedFlush)) := by
  unfold resolvePolicy
  cases hcheck : ctx.check config ownedNamespaces with
  | error refusal => exact .inl ⟨refusal.1, refusal.2, rfl, rfl⟩
  | ok u =>
      right
      rcases h.resolves with ⟨hclamp, hflush⟩ | hflush
      · exact ⟨rfl, by rw [hflush, hclamp]⟩
      · exact ⟨rfl, by rw [hflush]⟩

theorem Expresses.resolve_of_error (h : Expresses args ctx config ownedNamespaces)
    {reason : PolicyRejectionReason} {detail : String}
    (hcheck : ctx.check config ownedNamespaces = .error (reason, detail)) :
    args.resolve = args.rejected reason.toClient detail := by
  have hargs : args.check = .error (reason.toClient, detail) := by
    rw [h.check_eq, hcheck]
    rfl
  unfold Client.ResolveArguments.resolve
  rw [hargs]

/-- A grant of the client agrees with the bridge's when the producer is registered with
the quota class and the priority the client grants. -/
theorem Expresses.agrees_of_ok (h : Expresses args ctx config ownedNamespaces)
    (hcheck : ctx.check config ownedNamespaces = .ok ()) (flush : FlushCriteria) :
    (ctx.admitted config flush).Agrees args.resolve ↔
      ctx.producer.quotaClass = .standard ∧
        ctx.producer.priorityClass = ctx.requestedPriority := by
  have hargs : args.check = .ok () := by
    rw [h.check_eq, hcheck]
    rfl
  unfold Client.ResolveArguments.resolve
  rw [hargs]
  constructor
  · intro hagree
    have hquota : QuotaClass.standard.toClient = ctx.producer.quotaClass.toClient :=
      hagree.quota rfl
    have hpriority : args.requestedPriority = ctx.producer.priorityClass.toClient :=
      hagree.priority rfl
    rw [h.requestedPriority] at hpriority
    exact ⟨(QuotaClass.toClient_injective hquota).symm,
      (PriorityClass.toClient_injective hpriority).symm⟩
  · rintro ⟨hquota, hpriority⟩
    refine ⟨rfl, rfl, fun _ => h.requestedDurability, fun _ => h.requestedRetention, fun _ => ?_,
      fun _ => ?_, fun _ => ?_⟩
    · simp only [PolicyResolutionContext.admitted, h.requiredProjectionPolicyId]
      cases config.requiredProjectionPolicyId with
      | none => exact h.requestedProjectionPolicyId
      | some required => rfl
    · simp only [PolicyResolutionContext.admitted, hquota]
      rfl
    · simp only [PolicyResolutionContext.admitted, hpriority]
      exact h.requestedPriority

end Checks

/-- On inputs both can express, with positive flush criteria and ordered bounds: bridge and
client agree exactly when the request fails one of the ten checks, or the producer is
registered with the standard quota class and the priority it requests. -/
theorem policies_agree_iff {args : Client.ResolveArguments} {ctx : PolicyResolutionContext}
    {config : PolicyConfiguration} {ownedNamespaces : List String}
    (hexp : Expresses args ctx config ownedNamespaces) (hflush : ctx.FlushAdmissible config) :
    (∃ result, resolvePolicy ctx config ownedNamespaces = some result ∧
        result.Agrees args.resolve) ↔
      ¬ ctx.Passes config ownedNamespaces ∨
        (ctx.producer.quotaClass = .standard ∧
          ctx.producer.priorityClass = ctx.requestedPriority) := by
  rw [← PolicyResolutionContext.check_eq_ok_iff]
  rcases resolvePolicy_eq hflush with ⟨reason, detail, hcheck, hresult⟩ | ⟨hcheck, hresult⟩
  · refine iff_of_true ⟨_, hresult, ?_⟩ (.inl (by rw [hcheck]; simp))
    rw [hexp.resolve_of_error hcheck]
    exact ⟨rfl, rfl, nofun, nofun, nofun, nofun, nofun⟩
  · rw [hresult, hcheck]
    simp [hexp.agrees_of_ok hcheck]

/-! ## What a grant and a rejection mean -/

/-- Each minimum is at most its maximum. -/
structure FlushPolicyBounds.Ordered (bounds : FlushPolicyBounds) : Prop where
  records : bounds.minimum.maxRecords ≤ bounds.maximum.maxRecords
  bytes : bounds.minimum.maxBytes ≤ bounds.maximum.maxBytes
  age : bounds.minimum.maxAgeMillis ≤ bounds.maximum.maxAgeMillis

/-- The policy keeps what the installation asks for. -/
structure EffectivePolicyResult.Upholds (result : EffectivePolicyResult)
    (ctx : PolicyResolutionContext) (config : PolicyConfiguration)
    (ownedNamespaces : List String) : Prop where
  installation : ctx.installationId = config.installationId
  producerInstallation : ctx.producer.installationId = config.installationId
  active : ctx.producer.lifecycleState = .active
  acl : ctx.aclResult.decision = .allow
  durability : config.minimumDurability.ordinal ≤ result.effectiveDurability.ordinal
  retention : config.minimumRetention.ordinal ≤ result.effectiveRetention.ordinal
  projection : ∀ required ∈ config.requiredProjectionPolicyId,
    result.effectiveProjectionPolicyId = required
  binding : ctx.producer.policyBindingId = "" ∨
    ctx.producer.policyBindingId ∈ config.validPolicyBindings
  owned : ctx.namespace ∈ ownedNamespaces
  flush : result.effectiveFlush = config.flushBounds.clamp ctx.requestedFlush

/-- What a request can be rejected for. -/
inductive PolicyResolutionContext.Objectionable (ctx : PolicyResolutionContext)
    (config : PolicyConfiguration) (ownedNamespaces : List String) : Prop where
  | installation (h : ctx.installationId ≠ config.installationId)
  | producerInstallation (h : ctx.producer.installationId ≠ ctx.installationId)
  | producer (h : ctx.producer.lifecycleState ≠ .active)
  | acl (h : ctx.aclResult.decision = .deny)
  | durability (h : ctx.requestedDurability.ordinal < config.minimumDurability.ordinal)
  | retention (h : ctx.requestedRetention.ordinal < config.minimumRetention.ordinal)
  | projection (required : String) (h : required ∈ config.requiredProjectionPolicyId)
      (hne : ctx.requestedProjectionPolicyId ≠ "")
      (hother : ctx.requestedProjectionPolicyId ≠ required)
  | priority (h : ctx.requestedPriority.ordinal < config.priorityCeiling.ordinal)
  | binding (hne : ctx.producer.policyBindingId ≠ "")
      (hunlisted : ctx.producer.policyBindingId ∉ config.validPolicyBindings)
  | unowned (h : ctx.namespace ∉ ownedNamespaces)
  | flush (h : ctx.requestedFlush.maxRecords ≤ 0 ∨ ctx.requestedFlush.maxBytes ≤ 0 ∨
      ctx.requestedFlush.maxAgeMillis ≤ 0)

section Meaning

variable {ctx : PolicyResolutionContext} {config : PolicyConfiguration}
  {ownedNamespaces : List String}

/-- A request that does not pass is objectionable for the check it fails. -/
theorem PolicyResolutionContext.objectionable_of_not_passes
    (h : ¬ ctx.Passes config ownedNamespaces) : ctx.Objectionable config ownedNamespaces := by
  by_contra hno
  refine h ?_
  constructor
  case installation => exact by_contra fun hne => hno (.installation hne)
  case producerInstallation => exact by_contra fun hne => hno (.producerInstallation hne)
  case active => exact by_contra fun hne => hno (.producer hne)
  case acl =>
    cases hacl : ctx.aclResult.decision with
    | allow => rfl
    | deny => exact absurd (.acl hacl) hno
  case durability => exact Nat.not_lt.mp fun hlt => hno (.durability hlt)
  case retention => exact Nat.not_lt.mp fun hlt => hno (.retention hlt)
  case projection =>
    intro required hreq
    by_contra hne
    exact hno (.projection required hreq (not_or.mp hne).1 (not_or.mp hne).2)
  case priority => exact Nat.not_lt.mp fun hlt => hno (.priority hlt)
  case binding =>
    by_contra hne
    exact hno (.binding (not_or.mp hne).1 (not_or.mp hne).2)
  case owned => exact by_contra fun hne => hno (.unowned hne)

/-- Nothing speaks against a request that passes with positive criteria. -/
theorem PolicyResolutionContext.Passes.not_objectionable (h : ctx.Passes config ownedNamespaces)
    (hflush : 0 < ctx.requestedFlush.maxRecords ∧ 0 < ctx.requestedFlush.maxBytes ∧
      0 < ctx.requestedFlush.maxAgeMillis) : ¬ ctx.Objectionable config ownedNamespaces := by
  intro hobj
  cases hobj with
  | installation hne => exact hne h.installation
  | producerInstallation hne => exact hne h.producerInstallation
  | producer hne => exact hne h.active
  | acl hdeny => simp [h.acl] at hdeny
  | durability hlt => exact Nat.not_lt.mpr h.durability hlt
  | retention hlt => exact Nat.not_lt.mpr h.retention hlt
  | projection required hreq hne hother =>
      rcases h.projection required hreq with heq | heq
      · exact hne heq
      · exact hother heq
  | priority hlt => exact Nat.not_lt.mpr h.priority hlt
  | binding hne hunlisted =>
      rcases h.binding with heq | hmem
      · exact hne heq
      · exact hunlisted hmem
  | unowned hunowned => exact hunowned h.owned
  | flush hle => omega

/-- What is granted to a request that passes upholds the policy. -/
theorem PolicyResolutionContext.Passes.upholds (h : ctx.Passes config ownedNamespaces) :
    (ctx.admitted config (config.flushBounds.clamp ctx.requestedFlush)).Upholds ctx config
      ownedNamespaces where
  installation := h.installation
  producerInstallation := h.producerInstallation.trans h.installation
  active := h.active
  acl := h.acl
  durability := h.durability
  retention := h.retention
  projection := by
    intro required hreq
    simp [admitted, Option.mem_def.mp hreq]
  binding := h.binding
  owned := h.owned
  flush := rfl

/-- Criteria that are not positive are the last thing a request is rejected for. -/
theorem resolvePolicy_of_not_positive (hcheck : ctx.check config ownedNamespaces = .ok ())
    (h : ctx.requestedFlush.maxRecords ≤ 0 ∨ ctx.requestedFlush.maxBytes ≤ 0 ∨
      ctx.requestedFlush.maxAgeMillis ≤ 0) :
    resolvePolicy ctx config ownedNamespaces = some (ctx.rejected config .invalidPolicyBinding
      "requested flush criteria rejected by policy") := by
  have hflush : resolveFlushPolicy ctx.requestedFlush config.flushBounds false =
      some .rejected := if_pos h
  unfold resolvePolicy
  rw [hcheck]
  simp only [hflush]

end Meaning

/-- With ordered bounds there is an answer: a grant upholds the installation's policy, and a
request is rejected exactly when something speaks against it. -/
theorem policy_never_weakened (ctx : PolicyResolutionContext) (config : PolicyConfiguration)
    (ownedNamespaces : List String) (hbounds : config.flushBounds.Ordered) :
    ∃ result, resolvePolicy ctx config ownedNamespaces = some result ∧
      (result.admissionDecision = .admitted → result.Upholds ctx config ownedNamespaces) ∧
      (result.admissionDecision = .rejected ↔ ctx.Objectionable config ownedNamespaces) := by
  cases hcheck : ctx.check config ownedNamespaces with
  | error refusal =>
      have hfails : ¬ ctx.Passes config ownedNamespaces := by
        rw [← PolicyResolutionContext.check_eq_ok_iff, hcheck]
        simp
      refine ⟨ctx.rejected config refusal.1 refusal.2, ?_, nofun, fun _ => ?_, fun _ => rfl⟩
      · unfold resolvePolicy
        rw [hcheck]
      · exact PolicyResolutionContext.objectionable_of_not_passes hfails
  | ok u =>
      have hpasses := PolicyResolutionContext.check_eq_ok_iff.mp hcheck
      by_cases hflush : ctx.requestedFlush.maxRecords ≤ 0 ∨ ctx.requestedFlush.maxBytes ≤ 0 ∨
          ctx.requestedFlush.maxAgeMillis ≤ 0
      · exact ⟨_, resolvePolicy_of_not_positive hcheck hflush, nofun, fun _ => .flush hflush,
          fun _ => rfl⟩
      · have hpositive : 0 < ctx.requestedFlush.maxRecords ∧ 0 < ctx.requestedFlush.maxBytes ∧
            0 < ctx.requestedFlush.maxAgeMillis := by omega
        have hadmissible : ctx.FlushAdmissible config :=
          ⟨hpositive, hbounds.records, hbounds.bytes, hbounds.age⟩
        rcases resolvePolicy_eq hadmissible with ⟨reason, detail, herror, -⟩ | ⟨-, hresult⟩
        · rw [hcheck] at herror
          cases herror
        · refine ⟨_, hresult, fun _ => hpasses.upholds, nofun, fun hobj => ?_⟩
          exact absurd hobj (hpasses.not_objectionable hpositive)

/-! ## Priorities -/

/-- The priority is above neither the ceiling nor the one that was asked for. -/
structure EffectivePolicyResult.NotPromoted (result : EffectivePolicyResult)
    (ctx : PolicyResolutionContext) (config : PolicyConfiguration) : Prop where
  ceiling : config.priorityCeiling.ordinal ≤ result.effectivePriorityClass.ordinal
  requested : ctx.requestedPriority.ordinal ≤ result.effectivePriorityClass.ordinal

section Priorities

variable {ctx : PolicyResolutionContext} {config : PolicyConfiguration}
  {ownedNamespaces : List String}

theorem le_of_clamp?_eq_some {value lower upper clamped : Int}
    (h : clamp? value lower upper = some clamped) : lower ≤ upper := by
  unfold clamp? at h
  split at h
  · cases h
  · omega

/-- Criteria that resolve to something other than a rejection are admissible. -/
theorem PolicyResolutionContext.flushAdmissible_of_resolves {decision : PolicyDecision}
    (h : resolveFlushPolicy ctx.requestedFlush config.flushBounds false = some decision)
    (hdecision : decision ≠ .rejected) : ctx.FlushAdmissible config := by
  unfold resolveFlushPolicy at h
  split at h
  · cases h
    exact absurd rfl hdecision
  · rename_i hpositive
    simp only [Option.bind_eq_bind, Option.bind_eq_some_iff] at h
    obtain ⟨records, hrecords, bytes, hbytes, age, hage, -⟩ := h
    exact ⟨by omega, le_of_clamp?_eq_some hrecords, le_of_clamp?_eq_some hbytes,
      le_of_clamp?_eq_some hage⟩

/-- A request is admitted when it passes the checks with admissible criteria, and is then
granted what the producer is registered for. -/
theorem resolvePolicy_admitted_iff {result : EffectivePolicyResult} :
    resolvePolicy ctx config ownedNamespaces = some result ∧
        result.admissionDecision = .admitted ↔
      ctx.Passes config ownedNamespaces ∧ ctx.FlushAdmissible config ∧
        result = ctx.admitted config (config.flushBounds.clamp ctx.requestedFlush) := by
  constructor
  · intro ⟨hresult, hadmitted⟩
    have hflush : ctx.FlushAdmissible config := by
      unfold resolvePolicy at hresult
      split at hresult
      · cases hresult
        cases hadmitted
      · split at hresult
        · cases hresult
        · rename_i haccepted
          exact PolicyResolutionContext.flushAdmissible_of_resolves haccepted nofun
        · rename_i hclamped
          exact PolicyResolutionContext.flushAdmissible_of_resolves hclamped nofun
        · cases hresult
          cases hadmitted
    rcases resolvePolicy_eq hflush with ⟨reason, detail, -, hrejected⟩ | ⟨hcheck, hgrant⟩
    · rw [hrejected] at hresult
      cases hresult
      cases hadmitted
    · rw [hgrant] at hresult
      cases hresult
      exact ⟨PolicyResolutionContext.check_eq_ok_iff.mp hcheck, hflush, rfl⟩
  · intro ⟨hpasses, hflush, hresult⟩
    subst hresult
    rcases resolvePolicy_eq hflush with ⟨reason, detail, herror, -⟩ | ⟨-, hgrant⟩
    · rw [PolicyResolutionContext.check_eq_ok_iff.mpr hpasses] at herror
      cases herror
    · exact ⟨hgrant, rfl⟩

end Priorities

/-- The client grants the priority it has checked. -/
theorem Client.ResolveArguments.resolve_not_promoted (args : Client.ResolveArguments)
    (h : args.resolve.admissionDecision = .admitted) :
    args.config.priorityCeiling.ordinal ≤ args.resolve.effectivePriorityClass.ordinal ∧
      args.resolve.effectivePriorityClass = args.requestedPriority := by
  unfold resolve at h ⊢
  split at h
  · cases h
  · rename_i hcheck
    unfold check at hcheck
    simp only [Except.check_eq_ok_iff, Except.refuseIf_eq_ok_iff, Nat.not_lt] at hcheck
    obtain ⟨-, -, -, -, -, -, -, hpriority, -⟩ := hcheck
    exact ⟨hpriority, rfl⟩

/-- The bridge checks the requested priority and grants the registered one. A grant is no
promotion exactly when the registered one is not above the requested one; for requests that
are not admitted nothing is granted. -/
theorem no_self_promotion_iff (ctx : PolicyResolutionContext) (config : PolicyConfiguration)
    (ownedNamespaces : List String) :
    (∀ result, resolvePolicy ctx config ownedNamespaces = some result →
        result.admissionDecision = .admitted → result.NotPromoted ctx config) ↔
      ¬ ctx.Passes config ownedNamespaces ∨ ¬ ctx.FlushAdmissible config ∨
        ctx.requestedPriority.ordinal ≤ ctx.producer.priorityClass.ordinal := by
  constructor
  · intro h
    by_cases hpasses : ctx.Passes config ownedNamespaces
    · by_cases hflush : ctx.FlushAdmissible config
      · obtain ⟨hresult, hadmitted⟩ := resolvePolicy_admitted_iff.mpr ⟨hpasses, hflush, rfl⟩
        exact .inr (.inr (h _ hresult hadmitted).requested)
      · exact .inr (.inl hflush)
    · exact .inl hpasses
  · intro h result hresult hadmitted
    obtain ⟨hpasses, hflush, hgrant⟩ := resolvePolicy_admitted_iff.mp ⟨hresult, hadmitted⟩
    subst hgrant
    have hrequested : ctx.requestedPriority.ordinal ≤ ctx.producer.priorityClass.ordinal := by
      rcases h with h | h | h
      · exact absurd hpasses h
      · exact absurd hflush h
      · exact h
    exact ⟨hpasses.priority.trans hrequested, hrequested⟩

/-! ## Concrete requests -/

/-- A producer with this registration asks to publish at priority `P1`. -/
def policySample (quotaClass : QuotaClass) (priorityClass : PriorityClass) :
    PolicyResolutionContext where
  installationId := "installation-a"
  producer := ⟨"installation-a", "producer-a", .active, priorityClass, quotaClass, ""⟩
  aclResult := ⟨.allow, none, some "allow-economy", 1⟩
  ownershipSnapshotId := "snapshot-1"
  «namespace» := "economy"
  requestedDurability := .replicatedDurable
  requestedRetention := .standard
  requestedProjectionPolicyId := ""
  requestedPriority := .p1
  requestedFlush := ⟨10, 1024, 50⟩

def policySampleConfiguration : PolicyConfiguration where
  installationId := "installation-a"
  minimumDurability := .replicatedDurable
  minimumRetention := .standard
  requiredProjectionPolicyId := none
  priorityCeiling := .p1
  validPolicyBindings := []
  flushBounds := ⟨⟨1, 1, 1⟩, ⟨100, 65536, 1000⟩⟩
  policyVersion := 1

/-- The same request in the client. -/
def policySampleArguments : Client.ResolveArguments where
  installationId := "installation-a"
  producerId := "producer-a"
  producerInstallationId := "installation-a"
  producerState := .active
  aclResult := ⟨.allow, none, some (.ofString "allow-economy"), 1⟩
  «namespace» := "economy"
  requestedDurability := .replicatedDurable
  requestedRetention := .standard
  requestedProjectionPolicyId := none
  requestedPriority := .p1
  policyBindingId := none
  ownershipSnapshotId := "snapshot-1"
  ownedNamespaces := ["economy"]
  config := ⟨"installation-a", .replicatedDurable, .standard, none, .p1, [], 1⟩

theorem policySample_expresses (quotaClass : QuotaClass) (priorityClass : PriorityClass) :
    Expresses policySampleArguments (policySample quotaClass priorityClass)
      policySampleConfiguration ["economy"] := by
  constructor <;> rfl

theorem policySample_flush (quotaClass : QuotaClass) (priorityClass : PriorityClass) :
    (policySample quotaClass priorityClass).FlushAdmissible policySampleConfiguration := by
  refine ⟨?_, by decide, by decide, by decide⟩
  simp [policySample]

/-- The sample is admitted, and what it is granted keeps every bound; at `P0`, above the
ceiling, it is rejected. -/
theorem policy_never_weakened_sample :
    (∃ result, resolvePolicy (policySample .standard .p1) policySampleConfiguration ["economy"] =
        some result ∧ result.admissionDecision = .admitted ∧
        result.Upholds (policySample .standard .p1) policySampleConfiguration ["economy"] ∧
        ¬ (policySample .standard .p1).Objectionable policySampleConfiguration ["economy"]) ∧
      ∃ result, resolvePolicy { policySample .standard .p1 with requestedPriority := .p0 }
          policySampleConfiguration ["economy"] = some result ∧
        result.admissionDecision = .rejected ∧
        PolicyResolutionContext.Objectionable
          { policySample .standard .p1 with requestedPriority := .p0 }
          policySampleConfiguration ["economy"] := by
  have hordered : policySampleConfiguration.flushBounds.Ordered := ⟨by decide, by decide, by decide⟩
  have hadmitted : resolvePolicy (policySample .standard .p1) policySampleConfiguration
      ["economy"] = some ((policySample .standard .p1).admitted policySampleConfiguration
        ⟨10, 1024, 50⟩) := by decide
  obtain ⟨granted, hgranted, hupholds, hobjection⟩ := policy_never_weakened
    (policySample .standard .p1) policySampleConfiguration ["economy"] hordered
  obtain ⟨refused, hrefused, -, hobjection'⟩ := policy_never_weakened
    { policySample .standard .p1 with requestedPriority := .p0 } policySampleConfiguration
    ["economy"] hordered
  have hrejected : (resolvePolicy { policySample .standard .p1 with requestedPriority := .p0 }
      policySampleConfiguration ["economy"]).map (·.admissionDecision) = some .rejected := by
    decide
  rw [hadmitted] at hgranted
  cases hgranted
  rw [hrefused] at hrejected
  have hdecision : refused.admissionDecision = .rejected := Option.some.inj hrejected
  refine ⟨⟨_, hadmitted, rfl, hupholds rfl, fun h => ?_⟩, refused, hrefused, hdecision,
    hobjection'.mp hdecision⟩
  exact absurd (hobjection.mpr h) (by decide)

/-- A producer registered as standard at the requested priority gets the same policy. -/
theorem policies_agree_iff_standard :
    ∃ result, resolvePolicy (policySample .standard .p1) policySampleConfiguration ["economy"] =
        some result ∧ result.Agrees policySampleArguments.resolve :=
  (policies_agree_iff (policySample_expresses .standard .p1)
    (policySample_flush .standard .p1)).mpr (.inr ⟨rfl, rfl⟩)

/-- A producer registered with the critical quota class at `P2` is granted that by the
bridge, and the standard class at `P1` by the client. -/
theorem policies_differ :
    ¬ ∀ args ctx config ownedNamespaces, Expresses args ctx config ownedNamespaces →
      ctx.FlushAdmissible config →
      ∃ result, resolvePolicy ctx config ownedNamespaces = some result ∧
        result.Agrees args.resolve := by
  intro hall
  obtain ⟨result, hresult, hagree⟩ := hall _ _ _ _ (policySample_expresses .critical .p2)
    (policySample_flush .critical .p2)
  have hadmitted : resolvePolicy (policySample .critical .p2) policySampleConfiguration
      ["economy"] = some ((policySample .critical .p2).admitted policySampleConfiguration
        ⟨10, 1024, 50⟩) := by decide
  rw [hadmitted] at hresult
  cases hresult
  have hquota := hagree.quota rfl
  revert hquota
  decide

/-- A producer registered at `P0` asks for `P1`, which is the ceiling, and gets `P0`. -/
theorem self_promoted :
    ¬ ∀ ctx config ownedNamespaces result,
      resolvePolicy ctx config ownedNamespaces = some result →
      result.admissionDecision = .admitted → result.NotPromoted ctx config := by
  intro hall
  have hresult : resolvePolicy (policySample .standard .p0) policySampleConfiguration
      ["economy"] = some ((policySample .standard .p0).admitted policySampleConfiguration
        ⟨10, 1024, 50⟩) := by decide
  have hceiling := (hall _ _ _ _ hresult rfl).ceiling
  revert hceiling
  decide

end CraftRelay
