import CraftRelay.Lib.Wraparound
import CraftRelay.Domain.PolicyResolution

/-!
# Admission in the bridge

`craftrelay-domain`: a publish is admitted while the producer, the namespace and the node
are below their limits, and a producer below `P0` only while a place is left beside the
capacity reserved for `P0`. Counters are `i32` and sizes `i64`, and wrap around.
-/

namespace CraftRelay

/-- What the caller has counted for a producer, and its limits. -/
structure ProducerQuotaState where
  producerId : String
  inFlightPublishes : Int32
  maxInFlightPublishes : Int32
  queuedPublishes : Int32
  maxQueuedPublishes : Int32
  inFlightBytes : Int64
  maxInFlightBytes : Int64
  deriving DecidableEq

structure NamespaceQuotaState where
  «namespace» : String
  inFlightPublishes : Int32
  maxInFlightPublishes : Int32
  deriving DecidableEq

/-- What the caller has counted for the agent, with the part that is kept for P0. -/
structure GlobalQuotaState where
  inFlightPublishes : Int32
  maxInFlightPublishes : Int32
  reservedP0Capacity : Int32
  usedP0Capacity : Int32
  deriving DecidableEq

inductive AdmissionRejectionReason where
  | producerInFlightExceeded | producerQueueExceeded | producerBytesExceeded
  | namespaceInFlightExceeded | globalInFlightExceeded | p0CapacityReserved
  | producerDisabled | producerUnauthorized | notLocallyOwned
  deriving DecidableEq, Repr

/-- The answer, with the reason of a rejection and its text. -/
structure AdmissionResult where
  decision : AdmissionDecision
  rejectionReason : Option AdmissionRejectionReason
  rejectionDetail : String
  deriving DecidableEq

/-- The early returns of `evaluate_admission`, in their order. -/
def checkAdmission (producer : RegisteredProducer) (producerQuota : ProducerQuotaState)
    (namespaceQuota : NamespaceQuotaState) (globalQuota : GlobalQuotaState)
    (payloadBytes : Int64) (namespaceOwned : Bool) :
    Except (AdmissionRejectionReason × String) Unit := do
  Except.refuseIf (producer.lifecycleState = .disabled)
    (.producerDisabled, "producer is disabled")
  Except.refuseIf (namespaceOwned = false)
    (.notLocallyOwned, "namespace is not locally owned by this node")
  Except.refuseIf (producerQuota.maxInFlightPublishes ≤ producerQuota.inFlightPublishes)
    (.producerInFlightExceeded, "producer in-flight publish limit reached")
  Except.refuseIf (producerQuota.maxQueuedPublishes ≤ producerQuota.queuedPublishes)
    (.producerQueueExceeded, "producer queued publish limit reached")
  Except.refuseIf
    (producerQuota.maxInFlightBytes < producerQuota.inFlightBytes + payloadBytes)
    (.producerBytesExceeded, "producer in-flight bytes limit would be exceeded")
  Except.refuseIf (namespaceQuota.maxInFlightPublishes ≤ namespaceQuota.inFlightPublishes)
    (.namespaceInFlightExceeded, "namespace in-flight publish limit reached")
  let availableGlobal := globalQuota.maxInFlightPublishes - globalQuota.inFlightPublishes
  Except.refuseIf (availableGlobal ≤ 0)
    (.globalInFlightExceeded, "global in-flight publish limit reached")
  let remainingP0 := globalQuota.reservedP0Capacity - globalQuota.usedP0Capacity
  Except.refuseIf (producer.priorityClass ≠ .p0 ∧ availableGlobal - max remainingP0 0 ≤ 0)
    (.p0CapacityReserved, "lower-priority producer cannot consume reserved P0 capacity")

/-- The first early return is the rejection; without one the publish is admitted. -/
def evaluateAdmission (producer : RegisteredProducer) (producerQuota : ProducerQuotaState)
    (namespaceQuota : NamespaceQuotaState) (globalQuota : GlobalQuotaState)
    (payloadBytes : Int64) (namespaceOwned : Bool) : AdmissionResult :=
  match checkAdmission producer producerQuota namespaceQuota globalQuota payloadBytes
      namespaceOwned with
  | .error (reason, detail) => ⟨.rejected, some reason, detail⟩
  | .ok () => ⟨.admitted, none, "admitted"⟩

/-! ## The numbers that decide -/

/-- The counters and limits an admission is decided by, in either implementation. -/
structure AdmissionFigures where
  producerInFlight : Int32
  maxProducerInFlight : Int32
  queued : Int32
  maxQueued : Int32
  bytes : Int64
  maxBytes : Int64
  payload : Int64
  namespaceInFlight : Int32
  maxNamespaceInFlight : Int32
  globalInFlight : Int32
  maxGlobalInFlight : Int32
  reservedP0 : Int32
  usedP0 : Int32

namespace AdmissionFigures

/-- The comparisons as the machine makes them. -/
structure Passes (f : AdmissionFigures) (p0 : Prop) : Prop where
  producer : f.producerInFlight < f.maxProducerInFlight
  queue : f.queued < f.maxQueued
  bytes : f.bytes + f.payload ≤ f.maxBytes
  «namespace» : f.namespaceInFlight < f.maxNamespaceInFlight
  global : 0 < f.maxGlobalInFlight - f.globalInFlight
  reserve : p0 ∨ 0 < f.maxGlobalInFlight - f.globalInFlight - max (f.reservedP0 - f.usedP0) 0

/-- The figures as counters are: none is below zero. -/
structure NonNegative (f : AdmissionFigures) : Prop where
  producerInFlight : 0 ≤ f.producerInFlight.toInt
  maxProducerInFlight : 0 ≤ f.maxProducerInFlight.toInt
  queued : 0 ≤ f.queued.toInt
  maxQueued : 0 ≤ f.maxQueued.toInt
  bytes : 0 ≤ f.bytes.toInt
  maxBytes : 0 ≤ f.maxBytes.toInt
  payload : 0 ≤ f.payload.toInt
  namespaceInFlight : 0 ≤ f.namespaceInFlight.toInt
  maxNamespaceInFlight : 0 ≤ f.maxNamespaceInFlight.toInt
  globalInFlight : 0 ≤ f.globalInFlight.toInt
  maxGlobalInFlight : 0 ≤ f.maxGlobalInFlight.toInt
  reservedP0 : 0 ≤ f.reservedP0.toInt
  usedP0 : 0 ≤ f.usedP0.toInt

/-- There is room for one more publish, the bytes apart, as integers. -/
structure Room (f : AdmissionFigures) (p0 : Prop) : Prop where
  producer : f.producerInFlight.toInt + 1 ≤ f.maxProducerInFlight.toInt
  queue : f.queued.toInt + 1 ≤ f.maxQueued.toInt
  «namespace» : f.namespaceInFlight.toInt + 1 ≤ f.maxNamespaceInFlight.toInt
  global : f.globalInFlight.toInt + 1 ≤ f.maxGlobalInFlight.toInt
  reserve : p0 ∨ max 0 (f.reservedP0.toInt - f.usedP0.toInt) + 1 ≤
    f.maxGlobalInFlight.toInt - f.globalInFlight.toInt

variable {f : AdmissionFigures} {p0 : Prop}

/-- The comparisons the other way round, as the code refuses by them. -/
theorem passes_iff_not_refused :
    f.Passes p0 ↔
      ¬ f.maxProducerInFlight ≤ f.producerInFlight ∧ ¬ f.maxQueued ≤ f.queued ∧
        ¬ f.maxBytes < f.bytes + f.payload ∧
        ¬ f.maxNamespaceInFlight ≤ f.namespaceInFlight ∧
        ¬ f.maxGlobalInFlight - f.globalInFlight ≤ 0 ∧
        ¬ (¬ p0 ∧
          f.maxGlobalInFlight - f.globalInFlight - max (f.reservedP0 - f.usedP0) 0 ≤ 0) := by
  simp only [Int32.not_le, Int64.not_lt]
  constructor
  · intro h
    refine ⟨h.producer, h.queue, h.bytes, h.namespace, h.global, ?_⟩
    intro ⟨hp0, hle⟩
    rcases h.reserve with heq | hlt
    · exact hp0 heq
    · exact Int32.not_le.mpr hlt hle
  · intro ⟨hproducer, hqueue, hbytes, hnamespace, hglobal, hreserve⟩
    refine ⟨hproducer, hqueue, hbytes, hnamespace, hglobal, ?_⟩
    by_cases hp0 : p0
    · exact .inl hp0
    · exact .inr (Int32.not_le.mp fun hle => hreserve ⟨hp0, hle⟩)

/-- A place is available when the global limit is not reached. -/
theorem available_pos_iff {capacity inFlight : Int32} (hcapacity : 0 ≤ capacity.toInt)
    (hin : 0 ≤ inFlight.toInt) :
    0 < capacity - inFlight ↔ inFlight.toInt + 1 ≤ capacity.toInt := by
  rw [Int32.lt_iff_toInt_lt, Int32.toInt_zero,
    Wraparound.toInt_sub_of_nonneg hcapacity hin]
  omega

/-- The last subtraction is only made when a place is available, and is then exact. -/
theorem beside_reserve_iff {capacity inFlight reserved used : Int32}
    (hin : 0 ≤ inFlight.toInt) (hreserved : 0 ≤ reserved.toInt) (hused : 0 ≤ used.toInt)
    (hroom : inFlight.toInt + 1 ≤ capacity.toInt) :
    0 < capacity - inFlight - max (reserved - used) 0 ↔
      max 0 (reserved.toInt - used.toInt) + 1 ≤ capacity.toInt - inFlight.toInt := by
  -- neither difference leaves the range, so the comparison is that of the integers
  have hfree := Wraparound.toInt_sub_of_nonneg (a := capacity) (b := inFlight) (by omega) hin
  have hkept := Wraparound.toInt_max_zero (reserved - used)
  rw [Wraparound.toInt_sub_of_nonneg hreserved hused] at hkept
  have hcapacity := capacity.toInt_lt
  have hshare := reserved.toInt_lt
  rw [Int32.lt_iff_toInt_lt, Int32.toInt_zero, Wraparound.toInt_sub_of_range
    (by rw [hfree, hkept]; omega) (by rw [hfree, hkept]; omega), hfree, hkept]
  omega

/-- Only the bytes can wrap around. -/
theorem NonNegative.passes_iff (h : f.NonNegative) :
    f.Passes p0 ↔ f.Room p0 ∧ f.bytes + f.payload ≤ f.maxBytes := by
  have hpositive := available_pos_iff h.maxGlobalInFlight h.globalInFlight
  have hreserve : f.globalInFlight.toInt + 1 ≤ f.maxGlobalInFlight.toInt → _ :=
    beside_reserve_iff h.globalInFlight h.reservedP0 h.usedP0
  -- the reserve is only compared once the global limit leaves a place
  constructor
  · intro hpasses
    have hroom := hpositive.mp hpasses.global
    refine ⟨⟨?_, ?_, ?_, hroom, ?_⟩, hpasses.bytes⟩
    · exact Int32.lt_iff_toInt_lt.mp hpasses.producer
    · exact Int32.lt_iff_toInt_lt.mp hpasses.queue
    · exact Int32.lt_iff_toInt_lt.mp hpasses.namespace
    · exact hpasses.reserve.imp_right (hreserve hroom).mp
  · intro ⟨hroom, hbytes⟩
    refine ⟨?_, ?_, hbytes, ?_, hpositive.mpr hroom.global, ?_⟩
    · exact Int32.lt_iff_toInt_lt.mpr hroom.producer
    · exact Int32.lt_iff_toInt_lt.mpr hroom.queue
    · exact Int32.lt_iff_toInt_lt.mpr hroom.namespace
    · exact hroom.reserve.imp_right (hreserve hroom.global).mpr

/-- The comparison of the bytes passes also when their sum does not fit. -/
theorem NonNegative.bytes_pass_iff (h : f.NonNegative) :
    f.bytes + f.payload ≤ f.maxBytes ↔
      f.bytes.toInt + f.payload.toInt ≤ f.maxBytes.toInt ∨
        9223372036854775807 < f.bytes.toInt + f.payload.toInt := by
  have hmax := h.maxBytes
  have hmax' := f.maxBytes.toInt_lt
  rw [Int64.le_iff_toInt_le]
  -- a sum that does not fit wraps to a negative number, which is below every limit
  rcases Wraparound.toInt_add_of_nonneg h.bytes h.payload with ⟨hsum, hle⟩ | ⟨hneg, hgt⟩
  · rw [hsum]
    omega
  · omega

end AdmissionFigures

/-! ## What `evaluate_admission` answers -/

section Evaluate

variable {producer : RegisteredProducer} {producerQuota : ProducerQuotaState}
  {namespaceQuota : NamespaceQuotaState} {globalQuota : GlobalQuotaState}
  {payloadBytes : Int64} {namespaceOwned : Bool}

/-- The figures an admission reads. -/
def admissionFigures (producerQuota : ProducerQuotaState) (namespaceQuota : NamespaceQuotaState)
    (globalQuota : GlobalQuotaState) (payloadBytes : Int64) : AdmissionFigures where
  producerInFlight := producerQuota.inFlightPublishes
  maxProducerInFlight := producerQuota.maxInFlightPublishes
  queued := producerQuota.queuedPublishes
  maxQueued := producerQuota.maxQueuedPublishes
  bytes := producerQuota.inFlightBytes
  maxBytes := producerQuota.maxInFlightBytes
  payload := payloadBytes
  namespaceInFlight := namespaceQuota.inFlightPublishes
  maxNamespaceInFlight := namespaceQuota.maxInFlightPublishes
  globalInFlight := globalQuota.inFlightPublishes
  maxGlobalInFlight := globalQuota.maxInFlightPublishes
  reservedP0 := globalQuota.reservedP0Capacity
  usedP0 := globalQuota.usedP0Capacity

/-- The checks pass exactly where no comparison refuses. -/
theorem checkAdmission_eq_ok_iff :
    checkAdmission producer producerQuota namespaceQuota globalQuota payloadBytes
        namespaceOwned = .ok () ↔
      producer.lifecycleState ≠ .disabled ∧ namespaceOwned = true ∧
        (admissionFigures producerQuota namespaceQuota globalQuota payloadBytes).Passes
          (producer.priorityClass = .p0) := by
  unfold checkAdmission
  simp only [Except.refuseIf_bind_iff, Except.refuseIf_eq_ok_iff, Bool.not_eq_false]
  rw [AdmissionFigures.passes_iff_not_refused]
  exact Iff.rfl

/-- An admission is what passes the checks. -/
theorem evaluateAdmission_admitted_iff :
    (evaluateAdmission producer producerQuota namespaceQuota globalQuota payloadBytes
        namespaceOwned).decision = .admitted ↔
      producer.lifecycleState ≠ .disabled ∧ namespaceOwned = true ∧
        (admissionFigures producerQuota namespaceQuota globalQuota payloadBytes).Passes
          (producer.priorityClass = .p0) := by
  rw [← checkAdmission_eq_ok_iff]
  unfold evaluateAdmission
  split
  · rename_i hcheck
    simp [hcheck]
  · rename_i hcheck
    simp [hcheck]

/-- The global limit is the reason only when it is reached. -/
theorem not_available_of_globalInFlightExceeded
    (h : (evaluateAdmission producer producerQuota namespaceQuota globalQuota payloadBytes
      namespaceOwned).rejectionReason = some .globalInFlightExceeded) :
    globalQuota.maxInFlightPublishes - globalQuota.inFlightPublishes ≤ 0 := by
  unfold evaluateAdmission at h
  split at h
  · rename_i reason detail hcheck
    injection h with hreason
    subst hreason
    unfold checkAdmission at hcheck
    -- the reason names one early return, and those before it were passed
    simp only [Except.bind_eq_error_iff, Except.refuseIf_eq_error_iff, Except.refuseIf_eq_ok_iff,
      Prod.mk.injEq, reduceCtorEq, false_and, and_false, true_and, false_or, or_false,
      exists_const] at hcheck
    obtain ⟨-, -, -, -, -, -, hglobal, -⟩ := hcheck
    exact hglobal
  · cases h

end Evaluate

end CraftRelay
