import CraftRelay.Domain.Ingress
import CraftRelay.Client.AdmissionControl

/-!
# Admission

What an admission says about the limits, and what the reserved capacity guarantees over
any order of admissions and completions. The bridge and the client read the same figures.
-/

namespace CraftRelay

/-! ## The limits -/

namespace AdmissionFigures

/-- The limits hold with this publish counted in, as integers. -/
structure WithinLimits (f : AdmissionFigures) : Prop where
  producer : f.producerInFlight.toInt + 1 ≤ f.maxProducerInFlight.toInt
  «namespace» : f.namespaceInFlight.toInt + 1 ≤ f.maxNamespaceInFlight.toInt
  global : f.globalInFlight.toInt + 1 ≤ f.maxGlobalInFlight.toInt
  queue : f.queued.toInt + 1 ≤ f.maxQueued.toInt
  bytes : f.bytes.toInt + f.payload.toInt ≤ f.maxBytes.toInt

/-- The sum of the sizes is an `i64`. -/
def BytesFit (f : AdmissionFigures) : Prop :=
  f.bytes.toInt + f.payload.toInt ≤ 9223372036854775807

theorem NonNegative.sound_iff {f : AdmissionFigures} (h : f.NonNegative)
    {enabled active owned p0 : Prop} :
    (enabled ∧ owned ∧ f.Passes p0 → active ∧ owned ∧ f.WithinLimits) ↔
      ¬ enabled ∨ ¬ owned ∨ ¬ f.Room p0 ∨
        (f.BytesFit ∧ (active ∨ f.maxBytes.toInt < f.bytes.toInt + f.payload.toInt)) := by
  have hmax := f.maxBytes.toInt_lt
  rw [h.passes_iff, h.bytes_pass_iff]
  constructor
  · intro hsound
    by_cases hall : enabled ∧ owned ∧ f.Room p0
    · obtain ⟨henabled, howned, hroom⟩ := hall
      refine .inr (.inr (.inr ?_))
      have hfit : f.BytesFit := by
        by_contra hwrap
        unfold BytesFit at hwrap
        have hlimits := (hsound ⟨henabled, howned, hroom, .inr (by omega)⟩).2.2
        have hbytes := hlimits.bytes
        omega
      refine ⟨hfit, ?_⟩
      by_cases hbytes : f.bytes.toInt + f.payload.toInt ≤ f.maxBytes.toInt
      · exact .inl (hsound ⟨henabled, howned, hroom, .inl hbytes⟩).1
      · exact .inr (by omega)
    · by_cases henabled : enabled
      · by_cases howned : owned
        · exact .inr (.inr (.inl fun hroom => hall ⟨henabled, howned, hroom⟩))
        · exact .inr (.inl howned)
      · exact .inl henabled
  · intro hcond ⟨henabled, howned, hroom, hbytes⟩
    rcases hcond with hno | hno | hno | ⟨hfit, hactive⟩
    · exact absurd henabled hno
    · exact absurd howned hno
    · exact absurd hroom hno
    · unfold BytesFit at hfit
      have hle : f.bytes.toInt + f.payload.toInt ≤ f.maxBytes.toInt := by omega
      refine ⟨?_, howned, hroom.producer, hroom.namespace, hroom.global, hroom.queue, hle⟩
      rcases hactive with hactive | hgt
      · exact hactive
      · omega

end AdmissionFigures

/-! ### The calls -/

/-- The arguments of a call beside the global quota. -/
structure PublishRequest where
  producer : RegisteredProducer
  producerQuota : ProducerQuotaState
  namespaceQuota : NamespaceQuotaState
  payloadBytes : Int64
  namespaceOwned : Bool
  deriving DecidableEq

namespace PublishRequest

def evaluate (r : PublishRequest) (globalQuota : GlobalQuotaState) : AdmissionResult :=
  evaluateAdmission r.producer r.producerQuota r.namespaceQuota globalQuota r.payloadBytes
    r.namespaceOwned

def figures (r : PublishRequest) (globalQuota : GlobalQuotaState) : AdmissionFigures :=
  admissionFigures r.producerQuota r.namespaceQuota globalQuota r.payloadBytes

theorem admitted_iff {r : PublishRequest} {globalQuota : GlobalQuotaState} :
    (r.evaluate globalQuota).decision = .admitted ↔
      r.producer.lifecycleState ≠ .disabled ∧ r.namespaceOwned = true ∧
        (r.figures globalQuota).Passes (r.producer.priorityClass = .p0) :=
  evaluateAdmission_admitted_iff

/-- An admission is of an active producer in an owned namespace and keeps the limits. -/
def AdmittedWithin (r : PublishRequest) (globalQuota : GlobalQuotaState) : Prop :=
  (r.evaluate globalQuota).decision = .admitted →
    r.producer.lifecycleState = .active ∧ r.namespaceOwned = true ∧
      (r.figures globalQuota).WithinLimits

end PublishRequest

namespace Client

/-- The same for the client's `evaluate`. -/
structure PublishRequest where
  producerPriority : PriorityClass
  producerState : ProducerState
  producerQuota : AdmissionControl.ProducerQuota
  namespaceQuota : AdmissionControl.NamespaceQuota
  payloadBytes : Int64
  namespaceOwned : Bool
  deriving DecidableEq

namespace PublishRequest

def evaluate (r : PublishRequest) (globalQuota : AdmissionControl.GlobalQuota) :
    AdmissionControl.Result :=
  AdmissionControl.evaluate r.producerPriority r.producerState r.producerQuota r.namespaceQuota
    globalQuota r.payloadBytes r.namespaceOwned

def figures (r : PublishRequest) (globalQuota : AdmissionControl.GlobalQuota) :
    AdmissionFigures :=
  AdmissionControl.figures r.producerQuota r.namespaceQuota globalQuota r.payloadBytes

theorem admitted_iff {r : PublishRequest} {globalQuota : AdmissionControl.GlobalQuota} :
    (r.evaluate globalQuota).decision = .admitted ↔
      r.producerState ≠ .disabled ∧ r.namespaceOwned = true ∧
        (r.figures globalQuota).Passes (r.producerPriority = .p0) :=
  AdmissionControl.evaluate_admitted_iff

/-- An admission is of an active producer in an owned namespace and keeps the limits. -/
def AdmittedWithin (r : PublishRequest) (globalQuota : AdmissionControl.GlobalQuota) : Prop :=
  (r.evaluate globalQuota).decision = .admitted →
    r.producerState = .active ∧ r.namespaceOwned = true ∧
      (r.figures globalQuota).WithinLimits

end PublishRequest

end Client

/-- With counters, limits and sizes that are not negative, an admission keeps the limits and
is of an active producer, exactly when the request is refused for another reason (a disabled
producer, a namespace that is not owned, another limit), or the bytes do not wrap and a
producer that is not active is over its bytes. -/
theorem admission_limits_exact_iff (r : PublishRequest) (globalQuota : GlobalQuotaState)
    (hnonneg : (r.figures globalQuota).NonNegative) (c : Client.PublishRequest)
    (clientGlobalQuota : Client.AdmissionControl.GlobalQuota)
    (hclientNonneg : (c.figures clientGlobalQuota).NonNegative) :
    (r.AdmittedWithin globalQuota ↔
      r.producer.lifecycleState = .disabled ∨ r.namespaceOwned = false ∨
        ¬ (r.figures globalQuota).Room (r.producer.priorityClass = .p0) ∨
        ((r.figures globalQuota).BytesFit ∧ (r.producer.lifecycleState = .active ∨
          r.producerQuota.maxInFlightBytes.toInt <
            r.producerQuota.inFlightBytes.toInt + r.payloadBytes.toInt))) ∧
    (c.AdmittedWithin clientGlobalQuota ↔
      c.producerState = .disabled ∨ c.namespaceOwned = false ∨
        ¬ (c.figures clientGlobalQuota).Room (c.producerPriority = .p0) ∨
        ((c.figures clientGlobalQuota).BytesFit ∧ (c.producerState = .active ∨
          c.producerQuota.maxInFlightBytes.toInt <
            c.producerQuota.inFlightBytes.toInt + c.payloadBytes.toInt))) := by
  constructor
  · unfold PublishRequest.AdmittedWithin
    rw [PublishRequest.admitted_iff, hnonneg.sound_iff, ne_eq, not_not, Bool.not_eq_true]
    exact Iff.rfl
  · unfold Client.PublishRequest.AdmittedWithin
    rw [Client.PublishRequest.admitted_iff, hclientNonneg.sound_iff, ne_eq, not_not,
      Bool.not_eq_true]
    exact Iff.rfl

/-! ## The reserved capacity -/

namespace Ingress

variable {ρ : Type} {s : Ingress ρ}

/-- In a sound pool a place is available while the reserve is not used up. -/
theorem available_of_share (hsound : s.pool.Sound)
    (hshare : s.global.usedP0Capacity.toInt < s.global.reservedP0Capacity.toInt) :
    ¬ s.global.maxInFlightPublishes - s.global.inFlightPublishes ≤ 0 := by
  have hfree : 0 < s.global.maxInFlightPublishes.toInt - s.global.inFlightPublishes.toInt :=
    (hsound.admits_privileged hshare).1
  have hused : 0 ≤ s.global.usedP0Capacity.toInt := hsound.privileged_nonneg
  have hin : 0 ≤ s.global.inFlightPublishes.toInt := Int.le_trans hused hsound.privileged_le
  rw [Int32.not_le, AdmissionFigures.available_pos_iff (by omega) hin]
  omega

end Ingress

/-- The requests of `P0` producers. -/
def PublishRequest.isP0 (r : PublishRequest) : Bool := r.producer.priorityClass = .p0

/-- A caller of `evaluate_admission`. -/
def ingress : Lts (Ingress PublishRequest) (IngressEvent PublishRequest) :=
  Ingress.lts (fun r g => (r.evaluate g).decision = .admitted) PublishRequest.isP0

theorem ingress_respects :
    Ingress.Respects (fun r g => (PublishRequest.evaluate r g).decision = .admitted)
      PublishRequest.isP0 := by
  intro r g hadmitted
  obtain ⟨-, -, hpasses⟩ := PublishRequest.admitted_iff.mp hadmitted
  exact ⟨hpasses.global, hpasses.reserve.imp_left decide_eq_true⟩

/-- Over every run from empty counters the reserved capacity that `P0` has not used is free,
and a `P0` request is not refused for the global limit while some of it is left. -/
theorem p0_capacity_stays_reserved {g : GlobalQuotaState} (hg : Ingress.Empty g)
    {tr : List (IngressEvent PublishRequest)} {s : Ingress PublishRequest}
    (hrun : ingress.Run ⟨g, []⟩ tr s) :
    max 0 (s.global.reservedP0Capacity.toInt - s.global.usedP0Capacity.toInt) ≤
        s.global.maxInFlightPublishes.toInt - s.global.inFlightPublishes.toInt ∧
      ∀ r : PublishRequest, r.producer.priorityClass = .p0 →
        s.global.usedP0Capacity.toInt < s.global.reservedP0Capacity.toInt →
          (r.evaluate s.global).rejectionReason ≠ some .globalInFlightExceeded := by
  obtain ⟨hsound, -⟩ := Ingress.run_represents ingress_respects hg hrun
  refine ⟨hsound.keptBack_le, ?_⟩
  intro r _ hshare hreason
  have hfull := not_available_of_globalInFlightExceeded hreason
  exact Ingress.available_of_share hsound hshare hfull

/-! ### The client -/

def GlobalQuotaState.toClient (g : GlobalQuotaState) : Client.AdmissionControl.GlobalQuota :=
  ⟨g.inFlightPublishes, g.maxInFlightPublishes, g.reservedP0Capacity, g.usedP0Capacity⟩

def Client.PublishRequest.isP0 (r : Client.PublishRequest) : Bool := r.producerPriority = .p0

/-- A caller of `AdmissionControl.evaluate`. -/
def clientIngress : Lts (Ingress Client.PublishRequest) (IngressEvent Client.PublishRequest) :=
  Ingress.lts (fun r g => (r.evaluate g.toClient).decision = .admitted) Client.PublishRequest.isP0

theorem clientIngress_respects :
    Ingress.Respects
      (fun r g => (Client.PublishRequest.evaluate r g.toClient).decision = .admitted)
      Client.PublishRequest.isP0 := by
  intro r g hadmitted
  obtain ⟨-, -, hpasses⟩ := Client.PublishRequest.admitted_iff.mp hadmitted
  exact ⟨hpasses.global, hpasses.reserve.imp_left decide_eq_true⟩

/-- A caller of the client's admission keeps the reserve in the same way. -/
theorem client_p0_capacity_reserved {g : GlobalQuotaState} (hg : Ingress.Empty g)
    {tr : List (IngressEvent Client.PublishRequest)} {s : Ingress Client.PublishRequest}
    (hrun : clientIngress.Run ⟨g, []⟩ tr s) :
    max 0 (s.global.reservedP0Capacity.toInt - s.global.usedP0Capacity.toInt) ≤
        s.global.maxInFlightPublishes.toInt - s.global.inFlightPublishes.toInt ∧
      ∀ r : Client.PublishRequest, r.producerPriority = .p0 →
        s.global.usedP0Capacity.toInt < s.global.reservedP0Capacity.toInt →
          (r.evaluate s.global.toClient).rejectionReason ≠ some .globalInFlightExceeded := by
  obtain ⟨hsound, -⟩ := Ingress.run_represents clientIngress_respects hg hrun
  refine ⟨hsound.keptBack_le, ?_⟩
  intro r _ hshare hreason
  have hfull := Client.AdmissionControl.not_available_of_globalInFlightExceeded hreason
  exact Ingress.available_of_share hsound hshare hfull

/-! ## Concrete admissions -/

/-- A request of an owned namespace with these bytes in flight and room everywhere else. -/
def samplePublish (lifecycleState : ProducerLifecycleState) (priorityClass : PriorityClass)
    (inFlightBytes maxInFlightBytes : Int64) : PublishRequest where
  producer := ⟨"installation-a", "producer-a", lifecycleState, priorityClass, .standard,
    "binding-1"⟩
  producerQuota := ⟨"producer-a", 5, 100, 0, 50, inFlightBytes, maxInFlightBytes⟩
  namespaceQuota := ⟨"economy", 10, 200⟩
  payloadBytes := 100
  namespaceOwned := true

def sampleClientPublish : Client.PublishRequest where
  producerPriority := .p1
  producerState := .active
  producerQuota := ⟨.ofString "producer-a", 5, 100, 0, 50, 1000, 100000⟩
  namespaceQuota := ⟨.ofString "economy", 10, 200⟩
  payloadBytes := 100
  namespaceOwned := true

def sampleGlobal : GlobalQuotaState := ⟨20, 500, 50, 10⟩

/-- An active producer far from its limits. -/
theorem admission_limits_exact_active :
    (samplePublish .active .p1 1000 100000).AdmittedWithin sampleGlobal ∧
      sampleClientPublish.AdmittedWithin sampleGlobal.toClient := by
  have h := admission_limits_exact_iff (samplePublish .active .p1 1000 100000) sampleGlobal
    (by constructor <;> decide) sampleClientPublish sampleGlobal.toClient
    (by constructor <;> decide)
  have hfit : (1000 : Int64).toInt + (100 : Int64).toInt ≤ 9223372036854775807 := by decide
  exact ⟨h.1.mpr (.inr (.inr (.inr ⟨hfit, .inl rfl⟩))),
    h.2.mpr (.inr (.inr (.inr ⟨hfit, .inl rfl⟩)))⟩

/-- A suspended producer is admitted, and so is a producer with `i64::MAX` bytes in flight. -/
theorem admitted_beyond_limits :
    (((samplePublish .suspended .p1 1000 100000).figures sampleGlobal).NonNegative ∧
        ¬ (samplePublish .suspended .p1 1000 100000).AdmittedWithin sampleGlobal) ∧
      ((samplePublish .active .p1 9223372036854775807 100000).figures
          sampleGlobal).NonNegative ∧
        ¬ (samplePublish .active .p1 9223372036854775807 100000).AdmittedWithin
          sampleGlobal := by
  refine ⟨⟨by constructor <;> decide, ?_⟩, by constructor <;> decide, ?_⟩
  · intro h
    have hactive := (h (by decide)).1
    revert hactive
    decide
  · intro h
    have hbytes := (h (by decide)).2.2.bytes
    revert hbytes
    decide

/-- Two places, one of them reserved, of which a `P1` publish has taken the other. -/
def sampleIngress : Ingress PublishRequest :=
  ⟨⟨1, 2, 1, 0⟩, [samplePublish .active .p1 1000 100000]⟩

/-- The other place is kept for `P0`: the next `P1` publish is refused and a `P0` one
admitted. -/
theorem p0_capacity_stays_reserved_sample :
    ((samplePublish .active .p1 1000 100000).evaluate ⟨0, 2, 1, 0⟩).decision = .admitted ∧
      ingress.Run ⟨⟨0, 2, 1, 0⟩, []⟩ [.request (samplePublish .active .p1 1000 100000)]
        sampleIngress ∧
      max 0 (sampleIngress.global.reservedP0Capacity.toInt -
          sampleIngress.global.usedP0Capacity.toInt) ≤
        sampleIngress.global.maxInFlightPublishes.toInt -
          sampleIngress.global.inFlightPublishes.toInt ∧
      ((samplePublish .active .p1 1000 100000).evaluate sampleIngress.global).decision ≠
        .admitted ∧
      ((samplePublish .active .p0 1000 100000).evaluate sampleIngress.global).decision =
        .admitted ∧
      ((samplePublish .active .p0 1000 100000).evaluate
        sampleIngress.global).rejectionReason ≠ some .globalInFlightExceeded := by
  have hadmitted :
      ((samplePublish .active .p1 1000 100000).evaluate ⟨0, 2, 1, 0⟩).decision = .admitted := by
    decide
  have hstep : ingress.step ⟨⟨0, 2, 1, 0⟩, []⟩
      (.request (samplePublish .active .p1 1000 100000)) sampleIngress := .inl ⟨hadmitted, rfl⟩
  have hrun := Lts.Run.nil.snoc hstep
  obtain ⟨hfree, hreason⟩ := p0_capacity_stays_reserved ⟨rfl, rfl, by decide, by decide⟩ hrun
  exact ⟨hadmitted, hrun, hfree, by decide, by decide, hreason _ rfl (by decide)⟩

end CraftRelay
