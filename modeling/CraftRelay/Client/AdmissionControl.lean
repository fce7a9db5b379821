import CraftRelay.Domain.Admission
import CraftRelay.Client.PolicyResolution

/-!
# Admission in the client

`AdmissionControl.java`, the client's copy of the bridge's admission. It is given the
producer's priority and state instead of the registered producer.
-/

namespace CraftRelay.Client.AdmissionControl

inductive RejectionReason where
  | producerInFlightExceeded | producerQueueExceeded | producerBytesExceeded
  | namespaceInFlightExceeded | globalInFlightExceeded | p0CapacityReserved
  | producerDisabled | producerUnauthorized | notLocallyOwned
  deriving DecidableEq, Repr

structure ProducerQuota where
  producerId : JavaString
  inFlightPublishes : Int32
  maxInFlightPublishes : Int32
  queuedPublishes : Int32
  maxQueuedPublishes : Int32
  inFlightBytes : Int64
  maxInFlightBytes : Int64
  deriving DecidableEq

structure NamespaceQuota where
  «namespace» : JavaString
  inFlightPublishes : Int32
  maxInFlightPublishes : Int32
  deriving DecidableEq

structure GlobalQuota where
  inFlightPublishes : Int32
  maxInFlightPublishes : Int32
  reservedP0Capacity : Int32
  usedP0Capacity : Int32
  deriving DecidableEq

structure Result where
  decision : AdmissionDecision
  rejectionReason : Option RejectionReason
  rejectionDetail : String
  deriving DecidableEq

/-- The early returns of `evaluate`, in their order. -/
def check (producerPriority : PriorityClass) (producerState : ProducerState)
    (producerQuota : ProducerQuota) (namespaceQuota : NamespaceQuota) (globalQuota : GlobalQuota)
    (payloadBytes : Int64) (namespaceOwned : Bool) : Except (RejectionReason × String) Unit := do
  Except.refuseIf (producerState = .disabled) (.producerDisabled, "producer is disabled")
  Except.refuseIf (namespaceOwned = false)
    (.notLocallyOwned, "namespace is not locally owned by this node")
  Except.refuseIf (producerQuota.maxInFlightPublishes ≤ producerQuota.inFlightPublishes)
    (.producerInFlightExceeded, "producer in-flight publish limit reached")
  Except.refuseIf (producerQuota.maxQueuedPublishes ≤ producerQuota.queuedPublishes)
    (.producerQueueExceeded, "producer queued publish limit reached")
  Except.refuseIf
    (producerQuota.maxInFlightBytes < producerQuota.inFlightBytes + payloadBytes)
    (.producerBytesExceeded, "producer in-flight bytes limit would be exceeded")
  Except.refuseIf (namespaceQuota.maxInFlightPublishes ≤ namespaceQuota.inFlightPublishes)
    (.namespaceInFlightExceeded, "namespace in-flight publish limit reached")
  let availableGlobal := globalQuota.maxInFlightPublishes - globalQuota.inFlightPublishes
  Except.refuseIf (availableGlobal ≤ 0)
    (.globalInFlightExceeded, "global in-flight publish limit reached")
  let remainingP0 := globalQuota.reservedP0Capacity - globalQuota.usedP0Capacity
  Except.refuseIf (producerPriority ≠ .p0 ∧ availableGlobal - max remainingP0 0 ≤ 0)
    (.p0CapacityReserved, "lower-priority producer cannot consume reserved P0 capacity")

def evaluate (producerPriority : PriorityClass) (producerState : ProducerState)
    (producerQuota : ProducerQuota) (namespaceQuota : NamespaceQuota) (globalQuota : GlobalQuota)
    (payloadBytes : Int64) (namespaceOwned : Bool) : Result :=
  match check producerPriority producerState producerQuota namespaceQuota globalQuota payloadBytes
      namespaceOwned with
  | .error (reason, detail) => ⟨.rejected, some reason, detail⟩
  | .ok () => ⟨.admitted, none, "admitted"⟩

section Evaluate

variable {producerPriority : PriorityClass} {producerState : ProducerState}
  {producerQuota : ProducerQuota} {namespaceQuota : NamespaceQuota} {globalQuota : GlobalQuota}
  {payloadBytes : Int64} {namespaceOwned : Bool}

/-- The figures an admission reads. -/
def figures (producerQuota : ProducerQuota) (namespaceQuota : NamespaceQuota)
    (globalQuota : GlobalQuota) (payloadBytes : Int64) : AdmissionFigures where
  producerInFlight := producerQuota.inFlightPublishes
  maxProducerInFlight := producerQuota.maxInFlightPublishes
  queued := producerQuota.queuedPublishes
  maxQueued := producerQuota.maxQueuedPublishes
  bytes := producerQuota.inFlightBytes
  maxBytes := producerQuota.maxInFlightBytes
  payload := payloadBytes
  namespaceInFlight := namespaceQuota.inFlightPublishes
  maxNamespaceInFlight := namespaceQuota.maxInFlightPublishes
  globalInFlight := globalQuota.inFlightPublishes
  maxGlobalInFlight := globalQuota.maxInFlightPublishes
  reservedP0 := globalQuota.reservedP0Capacity
  usedP0 := globalQuota.usedP0Capacity

/-- The checks of the bridge on the same figures. -/
theorem check_eq_ok_iff :
    check producerPriority producerState producerQuota namespaceQuota globalQuota payloadBytes
        namespaceOwned = .ok () ↔
      producerState ≠ .disabled ∧ namespaceOwned = true ∧
        (figures producerQuota namespaceQuota globalQuota payloadBytes).Passes
          (producerPriority = .p0) := by
  unfold check
  simp only [Except.refuseIf_bind_iff, Except.refuseIf_eq_ok_iff, Bool.not_eq_false]
  rw [AdmissionFigures.passes_iff_not_refused]
  exact Iff.rfl

theorem evaluate_admitted_iff :
    (evaluate producerPriority producerState producerQuota namespaceQuota globalQuota payloadBytes
        namespaceOwned).decision = .admitted ↔
      producerState ≠ .disabled ∧ namespaceOwned = true ∧
        (figures producerQuota namespaceQuota globalQuota payloadBytes).Passes
          (producerPriority = .p0) := by
  rw [← check_eq_ok_iff]
  unfold evaluate
  split
  · rename_i hcheck
    simp [hcheck]
  · rename_i hcheck
    simp [hcheck]

/-- The global limit is the reason only when it is reached. -/
theorem not_available_of_globalInFlightExceeded
    (h : (evaluate producerPriority producerState producerQuota namespaceQuota globalQuota
      payloadBytes namespaceOwned).rejectionReason = some .globalInFlightExceeded) :
    globalQuota.maxInFlightPublishes - globalQuota.inFlightPublishes ≤ 0 := by
  unfold evaluate at h
  split at h
  · rename_i reason detail hcheck
    injection h with hreason
    subst hreason
    unfold check at hcheck
    simp only [Except.bind_eq_error_iff, Except.refuseIf_eq_error_iff, Except.refuseIf_eq_ok_iff,
      Prod.mk.injEq, reduceCtorEq, false_and, and_false, true_and, false_or, or_false,
      exists_const] at hcheck
    obtain ⟨-, -, -, -, -, -, hglobal, -⟩ := hcheck
    exact hglobal
  · cases h

end Evaluate

end CraftRelay.Client.AdmissionControl
