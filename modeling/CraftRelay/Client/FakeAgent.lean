import Mathlib.Data.Finset.Insert
import CraftRelay.Lib.KeyedTable
import CraftRelay.Lib.Wraparound
import CraftRelay.Lib.WriteOnce
import CraftRelay.Client.LifecycleSnapshotTracker
import CraftRelay.Client.LogicalProducer
import CraftRelay.Client.ReconnectPolicy

/-!
# The fake agent

`FakeAgentFixture.java`. The agent accepts the first submission of an event and keeps
what it answered; a later submission of the event is answered alike or refused, depending
on its canonical bytes. `submit` and `getStatus` are synchronized, so these calls of any
number of clients come one after the other. The four methods that set the agent up are not:
each adds to one set, which is a step between those calls here, and none that falls into
one of them.
-/

namespace CraftRelay.Client

/-! ## Snapshots the agent makes -/

def PublishLifecycleSnapshot.construct (installationId eventId : JavaString) (revision : Int64)
    (snapshotChecksum : Bytes) (deliveryStatus : DeliveryStatus)
    (projectionStatus : ProjectionStatus) (retentionStatus : RetentionStatus)
    (attemptSummaries : List AttemptSummary) (fakeNonDurable : Bool) :
    Except ContractViolation PublishLifecycleSnapshot :=
  match h : check installationId eventId revision snapshotChecksum attemptSummaries with
  | .error v => .error v
  | .ok () => .ok ⟨installationId, eventId, revision, snapshotChecksum, deliveryStatus,
      projectionStatus, retentionStatus, attemptSummaries, fakeNonDurable, h⟩

/-- `getBytes(StandardCharsets.US_ASCII)`. -/
def JavaString.getAsciiBytes (s : JavaString) : Bytes :=
  s.decode.map fun c => if c.toNat < 128 then UInt8.ofNat c.toNat else 63

/-- `ByteBuffer.allocate(size).put(value).array()`. -/
def padTo (size : Nat) (value : Bytes) : Bytes :=
  value ++ List.replicate (size - value.length) 0

/-- The attempt of every snapshot of the agent. -/
def fakeAcceptance : PublishLifecycleSnapshot.AttemptSummary where
  attemptNumber := 1
  outcomeCode := .ofString "FAKE_NON_DURABLE_ACCEPTANCE"
  constructed := by decide

/-! ## The agent -/

/-- `Entry`, with the event it is kept for. -/
structure AgentEntry where
  eventId : JavaString
  canonicalInput : Bytes
  snapshot : PublishLifecycleSnapshot

structure FakeAgentFixture where
  capacity : Int32
  installationId : JavaString
  entries : KeyedTable AgentEntry.eventId
  disabledProducers : Finset JavaString
  suspendedProducers : Finset JavaString
  authorizedProducers : Finset JavaString
  ownedNamespaces : Finset JavaString
  producerInFlight : KeyedTable (Prod.fst : JavaString × Int32 → JavaString)
  perProducerInFlightLimit : Int32

/-- How a submission ends: its stage completes or fails, or the call throws. -/
inductive SubmissionResult where
  | completed (snapshot : PublishLifecycleSnapshot)
  | failed (v : ContractViolation)
  | threw (v : ContractViolation)

namespace FakeAgentFixture

/-- The constructor with three arguments. -/
def construct (capacity : Int32) (installationId : JavaString)
    (perProducerInFlightLimit : Int32) : Except ContractViolation FakeAgentFixture := do
  let capacity ← positiveInt32 capacity "fakeAgentCapacity"
  let installationId ← boundedText installationId "installationId" 128
  return ⟨capacity, installationId, .empty, ∅, ∅, ∅, ∅, .empty, perProducerInFlightLimit⟩

def registerProducer (a : FakeAgentFixture) (producerId : JavaString) : FakeAgentFixture :=
  { a with authorizedProducers := insert producerId a.authorizedProducers }

def disableProducer (a : FakeAgentFixture) (producerId : JavaString) : FakeAgentFixture :=
  { a with disabledProducers := insert producerId a.disabledProducers }

def suspendProducer (a : FakeAgentFixture) (producerId : JavaString) : FakeAgentFixture :=
  { a with suspendedProducers := insert producerId a.suspendedProducers }

def addOwnedNamespace (a : FakeAgentFixture) («namespace» : JavaString) : FakeAgentFixture :=
  { a with ownedNamespaces := insert «namespace» a.ownedNamespaces }

/-- `producerInFlight.getOrDefault(producerId, 0)`. -/
def inFlight (a : FakeAgentFixture) (producerId : JavaString) : Int32 :=
  ((a.producerInFlight.find? producerId).map Prod.snd).getD 0

/-- The checks on an authenticated producer. -/
def checkProducer (a : FakeAgentFixture) (producerId : JavaString) :
    Except ContractViolation Unit := do
  Except.refuseIf (producerId ∈ a.disabledProducers) ⟨.invalidArgument, "producer is disabled"⟩
  Except.refuseIf (producerId ∈ a.suspendedProducers) ⟨.invalidArgument, "producer is suspended"⟩
  Except.refuseIf (a.authorizedProducers ≠ ∅ ∧ producerId ∉ a.authorizedProducers)
    ⟨.invalidArgument, "producer is not authorized"⟩
  Except.refuseIf (a.perProducerInFlightLimit ≤ a.inFlight producerId)
    ⟨.boundsExceeded, "producer in-flight quota exceeded"⟩

/-- The checks before the entry of the event is looked up. -/
def checkSubmission (a : FakeAgentFixture) (authenticatedProducerId : Option JavaString)
    (request : ClientPublishRequest) : Except ContractViolation Unit := do
  match authenticatedProducerId with
  | some producerId => a.checkProducer producerId
  | none => .ok ()
  Except.refuseIf
    (a.ownedNamespaces ≠ ∅ ∧ request.envelopeInput.namespace ∉ a.ownedNamespaces)
    ⟨.invalidArgument, "namespace is not locally owned"⟩

/-- The agent with a new entry, counted for its producer. -/
def accept (a : FakeAgentFixture) (authenticatedProducerId : Option JavaString)
    (entry : AgentEntry) : FakeAgentFixture :=
  { a with
    entries := a.entries.upsert entry
    producerInFlight :=
      match authenticatedProducerId with
      | some producerId =>
          a.producerInFlight.upsert (producerId, a.inFlight producerId + 1)
      | none => a.producerInFlight }

variable [Sha256]

/-- The snapshot of a new entry. -/
def acceptedSnapshot (a : FakeAgentFixture) (eventId : JavaString) :
    Except ContractViolation PublishLifecycleSnapshot :=
  PublishLifecycleSnapshot.construct a.installationId eventId 1
    (Sha256.digest (padTo (8 + eventId.length) (beBytes 8 1 ++ eventId.getAsciiBytes))).val
    .localAcceptedFake .notRequired .present [fakeAcceptance] true

/-- The part of `submit` after the checks. -/
def acceptOnce (a : FakeAgentFixture) (authenticatedProducerId : Option JavaString)
    (request : ClientPublishRequest) : FakeAgentFixture × SubmissionResult :=
  let eventId := request.envelopeInput.eventId
  let canonical := request.envelopeInput.canonicalBytes
  match a.entries.find? eventId with
  | some existing =>
      if existing.canonicalInput ≠ canonical then
        (a, .failed ⟨.lifecycleIntegrityConflict,
          "same event_id retried with different immutable envelope input"⟩)
      else (a, .completed existing.snapshot)
  | none =>
      if a.capacity.toInt ≤ a.entries.rows.length then
        (a, .failed ⟨.boundsExceeded, "fake Agent fixture capacity exhausted"⟩)
      else
        match a.acceptedSnapshot eventId with
        | .error v => (a, .threw v)
        | .ok snapshot =>
            (a.accept authenticatedProducerId ⟨eventId, canonical, snapshot⟩, .completed snapshot)

/-- `submit`; without an authenticated producer it is the method of `AgentClient`. -/
def submit (a : FakeAgentFixture) (authenticatedProducerId : Option JavaString)
    (request : ClientPublishRequest) : FakeAgentFixture × SubmissionResult :=
  match a.checkSubmission authenticatedProducerId request with
  | .error v => (a, .failed v)
  | .ok () => a.acceptOnce authenticatedProducerId request

omit [Sha256] in
/-- `getStatus`; an error is the message of an `IllegalArgumentException`. -/
def getStatus (a : FakeAgentFixture) (eventId : JavaString) (timeout : Duration) :
    Except String (Option PublishLifecycleSnapshot) :=
  if timeout.isNegative || timeout.isZero then .error "timeout must be positive"
  else .ok ((a.entries.find? eventId).map (·.snapshot))

end FakeAgentFixture

/-! ## Its calls -/

inductive AgentCall where
  | registerProducer (producerId : JavaString)
  | disableProducer (producerId : JavaString)
  | suspendProducer (producerId : JavaString)
  | addOwnedNamespace («namespace» : JavaString)
  | submit (authenticatedProducerId : Option JavaString) (request : ClientPublishRequest)
      (result : SubmissionResult)
  | getStatus (eventId : JavaString) (timeout : Duration)
      (result : Except String (Option PublishLifecycleSnapshot))

/-- A call, with what it answered. -/
inductive AgentStep [Sha256] (a : FakeAgentFixture) : AgentCall → FakeAgentFixture → Prop
  | registerProducer {p} : AgentStep a (.registerProducer p) (a.registerProducer p)
  | disableProducer {p} : AgentStep a (.disableProducer p) (a.disableProducer p)
  | suspendProducer {p} : AgentStep a (.suspendProducer p) (a.suspendProducer p)
  | addOwnedNamespace {n} : AgentStep a (.addOwnedNamespace n) (a.addOwnedNamespace n)
  | submit {p request} :
      AgentStep a (.submit p request (a.submit p request).2) (a.submit p request).1
  | getStatus {e timeout} : AgentStep a (.getStatus e timeout (a.getStatus e timeout)) a

def agentLts [Sha256] : Lts FakeAgentFixture AgentCall where
  step := AgentStep

/-! ## What a submission does -/

namespace FakeAgentFixture

theorem construct_eq_ok {capacity limit : Int32} {installationId : JavaString}
    {a : FakeAgentFixture} (h : construct capacity installationId limit = .ok a) :
    0 < capacity.toInt ∧ Bounded installationId 128 ∧
      a = ⟨capacity, installationId, .empty, ∅, ∅, ∅, ∅, .empty, limit⟩ := by
  unfold construct at h
  rw [positiveInt32_bind, boundedText_bind] at h
  obtain ⟨hpositive, hbounded, h⟩ := h
  cases h
  exact ⟨hpositive, hbounded, rfl⟩

/-- A producer passes exactly when it is not barred and has a place left. -/
theorem checkProducer_eq_ok_iff {a : FakeAgentFixture} {q : JavaString} :
    a.checkProducer q = .ok () ↔ q ∉ a.disabledProducers ∧ q ∉ a.suspendedProducers ∧
      ¬ (a.authorizedProducers ≠ ∅ ∧ q ∉ a.authorizedProducers) ∧
      a.inFlight q < a.perProducerInFlightLimit := by
  unfold checkProducer
  rw [Except.refuseIf_bind_iff, Except.refuseIf_bind_iff, Except.refuseIf_bind_iff,
    Except.refuseIf_eq_ok_iff, Int32.not_le]

/-- A producer is refused for being barred or for having no place left. -/
theorem checkProducer_error {a : FakeAgentFixture} {q : JavaString} {v : ContractViolation}
    (h : a.checkProducer q = .error v) : v.code ∈ [.invalidArgument, .boundsExceeded] := by
  unfold checkProducer at h
  rcases Except.bind_eq_error_iff.mp h with h | ⟨-, -, h⟩
  · rw [← (Except.refuseIf_eq_error_iff.mp h).2]
    decide
  rcases Except.bind_eq_error_iff.mp h with h | ⟨-, -, h⟩
  · rw [← (Except.refuseIf_eq_error_iff.mp h).2]
    decide
  rcases Except.bind_eq_error_iff.mp h with h | ⟨-, -, h⟩
  · rw [← (Except.refuseIf_eq_error_iff.mp h).2]
    decide
  · rw [← (Except.refuseIf_eq_error_iff.mp h).2]
    decide

variable {a : FakeAgentFixture} {p : Option JavaString} {request : ClientPublishRequest}

theorem inFlight_accept (a : FakeAgentFixture) (p : Option JavaString) (entry : AgentEntry)
    (q : JavaString) : (a.accept p entry).inFlight q =
      if p = some q then a.inFlight q + 1 else a.inFlight q := by
  cases p with
  | none => simp [inFlight, accept]
  | some p' =>
      show (((a.producerInFlight.upsert (p', a.inFlight p' + 1)).find? q).map Prod.snd).getD 0 = _
      rw [KeyedTable.find?_upsert]
      by_cases hp : p' = q
      · subst hp
        simp
      · simp [hp, inFlight]

theorem find?_accept (a : FakeAgentFixture) (p : Option JavaString) (entry : AgentEntry)
    (e : JavaString) : (a.accept p entry).entries.find? e =
      if entry.eventId = e then some entry else a.entries.find? e :=
  KeyedTable.find?_upsert _ _ _

/-- The rows are those there were and, for a new event, its own. -/
theorem entries_accept (p : Option JavaString) {entry : AgentEntry}
    (hnew : a.entries.find? entry.eventId = none) :
    (a.accept p entry).entries.rows = a.entries.rows ++ [entry] := by
  obtain ⟨t, ht⟩ := KeyedTable.insert?_of_new hnew
  show (a.entries.upsert entry).rows = _
  unfold KeyedTable.upsert
  rw [ht]
  exact (KeyedTable.insert?_eq_some_iff.mp ht).2

variable [Sha256]

/-- Where the event has a canonical identifier the snapshot is made. -/
theorem exists_acceptedSnapshot {e : JavaString}
    (hinstallation : Bounded a.installationId 128)
    (he : canonicalUuidV7 e "eventId" = .ok e) : ∃ snapshot, a.acceptedSnapshot e = .ok snapshot := by
  unfold acceptedSnapshot PublishLifecycleSnapshot.construct
  split
  · rename_i v hcheck
    have hok : PublishLifecycleSnapshot.check a.installationId e 1
        (Sha256.digest (padTo (8 + e.length) (beBytes 8 1 ++ e.getAsciiBytes))).val
        [fakeAcceptance] = .ok () := by
      unfold PublishLifecycleSnapshot.check
      rw [boundedText_bind, canonicalUuidV7_bind, positiveInt64_bind, fixedChecksum_bind,
        Except.refuseIf_eq_ok_iff]
      exact ⟨hinstallation, he, by decide, (Sha256.digest _).property, by decide⟩
    cases hcheck.symm.trans hok
  · exact ⟨_, rfl⟩

theorem submit_ne_threw (hinstallation : Bounded a.installationId 128)
    (he : canonicalUuidV7 request.envelopeInput.eventId "eventId" =
      .ok request.envelopeInput.eventId) (v : ContractViolation) :
    (a.submit p request).2 ≠ .threw v := by
  obtain ⟨snapshot, hsnapshot⟩ := a.exists_acceptedSnapshot hinstallation he
  unfold submit
  split
  · simp
  · unfold acceptOnce
    simp only [hsnapshot]
    split
    · split <;> simp
    · split <;> simp

/-- A new event is accepted where the checks pass and there is room. -/
theorem exists_submit_new (hcheck : a.checkSubmission p request = .ok ())
    (hnew : a.entries.find? request.envelopeInput.eventId = none)
    (hroom : (a.entries.rows.length : Int) < a.capacity.toInt)
    (hinstallation : Bounded a.installationId 128)
    (he : canonicalUuidV7 request.envelopeInput.eventId "eventId" =
      .ok request.envelopeInput.eventId) :
    ∃ snapshot, a.submit p request = (a.accept p ⟨request.envelopeInput.eventId,
      request.envelopeInput.canonicalBytes, snapshot⟩, .completed snapshot) := by
  obtain ⟨snapshot, hsnapshot⟩ := a.exists_acceptedSnapshot hinstallation he
  refine ⟨snapshot, ?_⟩
  unfold submit
  rw [hcheck]
  show a.acceptOnce p request = _
  simp only [acceptOnce, hnew, if_neg (Int.not_le.mpr hroom), hsnapshot]

/-- What an accepted submission leaves of an event. -/
def Keeps (a : FakeAgentFixture) (eventId : JavaString) (canonical : Bytes)
    (snapshot : PublishLifecycleSnapshot) : Prop :=
  a.entries.find? eventId = some ⟨eventId, canonical, snapshot⟩

/-- A submission is refused, answered from the entry of its event, or makes the entry. -/
theorem submit_cases (a : FakeAgentFixture) (p : Option JavaString)
    (request : ClientPublishRequest) :
    ((a.submit p request).1 = a ∧ ∀ snapshot, (a.submit p request).2 ≠ .completed snapshot) ∨
    (∃ snapshot, a.submit p request = (a, .completed snapshot) ∧
      a.Keeps request.envelopeInput.eventId request.envelopeInput.canonicalBytes snapshot) ∨
    ∃ snapshot, a.entries.find? request.envelopeInput.eventId = none ∧
      (a.entries.rows.length : Int) < a.capacity.toInt ∧
      (∀ q, p = some q → a.inFlight q < a.perProducerInFlightLimit) ∧
      a.acceptedSnapshot request.envelopeInput.eventId = .ok snapshot ∧
      a.submit p request = (a.accept p ⟨request.envelopeInput.eventId,
        request.envelopeInput.canonicalBytes, snapshot⟩, .completed snapshot) := by
  unfold submit
  cases hcheck : a.checkSubmission p request with
  | error v => exact .inl ⟨rfl, by simp⟩
  | ok =>
      unfold acceptOnce
      simp only
      split
      · rename_i existing hfind
        split
        · exact .inl ⟨rfl, by simp⟩
        · rename_i hcanonical
          refine .inr (.inl ⟨existing.snapshot, rfl, ?_⟩)
          rw [not_not] at hcanonical
          have hid : existing.eventId = request.envelopeInput.eventId := KeyedTable.key_of_find? hfind
          unfold Keeps
          rw [← hid, ← hcanonical]
          rw [← hid] at hfind
          exact hfind
      · rename_i hfind
        split
        · exact .inl ⟨rfl, by simp⟩
        · rename_i hroom
          split
          · exact .inl ⟨rfl, by simp⟩
          · rename_i snapshot hsnapshot
            refine .inr (.inr ⟨snapshot, hfind, Int.not_le.mp hroom, ?_, hsnapshot, rfl⟩)
            rintro q rfl
            obtain ⟨hproducer, -⟩ := Except.check_eq_ok_iff.mp hcheck
            exact (checkProducer_eq_ok_iff.mp hproducer).2.2.2

/-- A producer with no place left is refused, and the agent stays as it is. -/
theorem submit_of_full {q : JavaString} (hfull : a.perProducerInFlightLimit ≤ a.inFlight q)
    (request : ClientPublishRequest) :
    ∃ v, a.submit (some q) request = (a, .failed v) ∧
      v.code ∈ [.invalidArgument, .boundsExceeded] := by
  cases hcheck : a.checkProducer q with
  | ok => exact absurd (checkProducer_eq_ok_iff.mp hcheck).2.2.2 (Int32.not_lt.mpr hfull)
  | error v =>
      have hsubmission : a.checkSubmission (some q) request = .error v := by
        unfold checkSubmission
        simp only [hcheck]
        rfl
      refine ⟨v, ?_, checkProducer_error hcheck⟩
      unfold submit
      rw [hsubmission]

end FakeAgentFixture

/-! ## What its calls leave -/

/-- A submission that completed: its producer and its event. -/
def AgentCall.accepted? : AgentCall → Option (Option JavaString × JavaString)
  | .submit p request (.completed _) => some (p, request.envelopeInput.eventId)
  | _ => none

/-- The accepted events, oldest first, each with the producer that had it accepted first. -/
def firstAcceptances (tr : List AgentCall) : List (Option JavaString × JavaString) :=
  WriteOnce.firstBy Prod.snd (tr.filterMap AgentCall.accepted?)

theorem firstAcceptances_snoc (tr : List AgentCall) (call : AgentCall) :
    firstAcceptances (tr ++ [call]) =
      match call.accepted? with
      | some x => WriteOnce.addFirst Prod.snd (firstAcceptances tr) x
      | none => firstAcceptances tr := by
  unfold firstAcceptances
  rw [Lts.filterMap_snoc]
  cases call.accepted? with
  | none => simp
  | some x => exact WriteOnce.firstBy_snoc Prod.snd _ x

/-- The entries are those of the accepted events, and each producer has a place for every
event it had accepted first. -/
structure FakeAgentFixture.Records (a : FakeAgentFixture) (tr : List AgentCall) : Prop where
  events : a.entries.rows.map (·.eventId) = (firstAcceptances tr).map Prod.snd
  producers : ∀ p, (a.inFlight p).toInt = (firstAcceptances tr).countP (·.1 = some p)
  room : (a.entries.rows.length : Int) ≤ a.capacity.toInt
  quota : ∀ p, (a.inFlight p).toInt ≤ max 0 a.perProducerInFlightLimit.toInt

namespace FakeAgentFixture

theorem Records.length {a : FakeAgentFixture} {tr : List AgentCall} (h : a.Records tr) :
    (firstAcceptances tr).length = a.entries.rows.length := by
  have hlength := congrArg List.length h.events
  simpa using hlength.symm

theorem Records.mem {a : FakeAgentFixture} {tr : List AgentCall} (h : a.Records tr)
    {e : JavaString} : e ∈ (firstAcceptances tr).map Prod.snd ↔ a.entries.find? e ≠ none := by
  rw [← h.events, ne_eq, KeyedTable.find?_eq_none_iff]
  simp

/-- A call that accepts no new event. -/
theorem Records.quiet {a a' : FakeAgentFixture} {tr : List AgentCall} (h : a.Records tr)
    {call : AgentCall}
    (hcall : ∀ x, call.accepted? = some x → a.entries.find? x.2 ≠ none)
    (hentries : a'.entries = a.entries) (hcapacity : a'.capacity = a.capacity)
    (hinFlight : a'.producerInFlight = a.producerInFlight)
    (hlimit : a'.perProducerInFlightLimit = a.perProducerInFlightLimit) :
    a'.Records (tr ++ [call]) := by
  have hfirst : firstAcceptances (tr ++ [call]) = firstAcceptances tr := by
    rw [firstAcceptances_snoc]
    cases hx : call.accepted? with
    | none => rfl
    | some x => exact if_pos (h.mem.mpr (hcall x hx))
  have hflight : ∀ p, a'.inFlight p = a.inFlight p := by
    intro p
    unfold inFlight
    rw [hinFlight]
  refine ⟨?_, ?_, ?_, ?_⟩
  · rw [hfirst, hentries]
    exact h.events
  · intro p
    rw [hfirst, hflight]
    exact h.producers p
  · rw [hentries, hcapacity]
    exact h.room
  · intro p
    rw [hflight, hlimit]
    exact h.quota p

theorem Records.accepted {a : FakeAgentFixture} {tr : List AgentCall} (h : a.Records tr)
    {p : Option JavaString} {request : ClientPublishRequest} {snapshot : PublishLifecycleSnapshot}
    (hnew : a.entries.find? request.envelopeInput.eventId = none)
    (hroom : (a.entries.rows.length : Int) < a.capacity.toInt)
    (hplace : ∀ q, p = some q → a.inFlight q < a.perProducerInFlightLimit) :
    (a.accept p ⟨request.envelopeInput.eventId, request.envelopeInput.canonicalBytes,
      snapshot⟩).Records (tr ++ [.submit p request (.completed snapshot)]) := by
  have hfirst : firstAcceptances (tr ++ [.submit p request (.completed snapshot)]) =
      firstAcceptances tr ++ [(p, request.envelopeInput.eventId)] := by
    rw [firstAcceptances_snoc]
    exact if_neg (mt h.mem.mp (not_not.mpr hnew))
  have hrows : (a.accept p ⟨request.envelopeInput.eventId, request.envelopeInput.canonicalBytes,
      snapshot⟩).entries.rows = a.entries.rows ++ [_] := entries_accept p hnew
  -- counts stay below the capacity, so they do not wrap
  have hcount : ∀ q, (a.inFlight q).toInt ≤ a.entries.rows.length := by
    intro q
    rw [h.producers q, ← h.length]
    exact_mod_cast List.countP_le_length
  have hcapacity := a.capacity.toInt_lt
  have hsucc : ∀ q, (a.inFlight q + 1).toInt = (a.inFlight q).toInt + 1 := by
    intro q
    have hle := hcount q
    have hnonneg : 0 ≤ (a.inFlight q).toInt := by
      rw [h.producers q]
      exact Int.natCast_nonneg _
    exact Wraparound.toInt_add_of_range (by show _ ≤ _ + (1 : Int); omega)
      (by show _ + (1 : Int) ≤ _; omega)
  refine ⟨?_, ?_, ?_, ?_⟩
  · rw [hrows, hfirst, List.map_append, List.map_append, h.events]
    rfl
  · intro q
    rw [hfirst, inFlight_accept, List.countP_append, List.countP_singleton]
    split
    · rename_i hq
      rw [hsucc, h.producers q]
      simp [hq]
    · rename_i hq
      rw [h.producers q]
      simp [hq]
  · rw [hrows]
    simp only [List.length_append, List.length_singleton]
    show _ ≤ a.capacity.toInt
    omega
  · intro q
    rw [inFlight_accept]
    show _ ≤ max 0 a.perProducerInFlightLimit.toInt
    split
    · rename_i hq
      have hlt := Int32.lt_iff_toInt_lt.mp (hplace q hq)
      rw [hsucc]
      omega
    · exact h.quota q

variable [Sha256]

/-- Every call keeps the records. -/
theorem Records.step {a a' : FakeAgentFixture} {tr : List AgentCall} {call : AgentCall}
    (h : a.Records tr) (hst : agentLts.step a call a') : a'.Records (tr ++ [call]) := by
  cases hst with
  | registerProducer => exact h.quiet nofun rfl rfl rfl rfl
  | disableProducer => exact h.quiet nofun rfl rfl rfl rfl
  | suspendProducer => exact h.quiet nofun rfl rfl rfl rfl
  | addOwnedNamespace => exact h.quiet nofun rfl rfl rfl rfl
  | getStatus => exact h.quiet nofun rfl rfl rfl rfl
  | submit =>
      rename_i p request
      rcases a.submit_cases p request with ⟨hsame, hrefused⟩ | ⟨snapshot, heq, hkeeps⟩ |
        ⟨snapshot, hnew, hroom, hplace, -, heq⟩
      · rw [hsame]
        refine h.quiet (fun x hx => ?_) rfl rfl rfl rfl
        cases hresult : (a.submit p request).2 with
        | completed snapshot => exact absurd hresult (hrefused snapshot)
        | failed => rw [hresult] at hx; cases hx
        | threw => rw [hresult] at hx; cases hx
      · rw [heq]
        refine h.quiet (fun x hx => ?_) rfl rfl rfl rfl
        cases hx
        rw [hkeeps]
        nofun
      · rw [heq]
        exact h.accepted hnew hroom hplace

/-- An entry stays as it is. -/
theorem Keeps.step {a a' : FakeAgentFixture} {call : AgentCall} {e : JavaString}
    {canonical : Bytes} {snapshot : PublishLifecycleSnapshot} (h : a.Keeps e canonical snapshot)
    (hst : agentLts.step a call a') : a'.Keeps e canonical snapshot := by
  cases hst with
  | submit =>
      rename_i p request
      rcases a.submit_cases p request with ⟨hsame, -⟩ | ⟨_, heq, -⟩ | ⟨_, hnew, -, -, -, heq⟩
      · rw [hsame]
        exact h
      · rw [heq]
        exact h
      · rw [heq]
        have hne : request.envelopeInput.eventId ≠ e := by
          rintro rfl
          cases hnew.symm.trans h
        unfold Keeps
        rw [find?_accept, if_neg hne]
        exact h
  | _ => exact h

/-- A completed submission leaves its event with its bytes and its answer. -/
theorem keeps_of_completed {a a' : FakeAgentFixture} {p : Option JavaString}
    {request : ClientPublishRequest} {snapshot : PublishLifecycleSnapshot}
    (hst : agentLts.step a (.submit p request (.completed snapshot)) a') :
    a'.Keeps request.envelopeInput.eventId request.envelopeInput.canonicalBytes snapshot := by
  generalize hcall : AgentCall.submit p request (.completed snapshot) = call at hst
  cases hst with
  | submit =>
      rename_i p' request'
      obtain ⟨rfl, rfl, hresult⟩ := AgentCall.submit.inj hcall
      rcases a.submit_cases p request with ⟨-, hrefused⟩ | ⟨_, heq, hkeeps⟩ |
        ⟨_, hnew, -, -, -, heq⟩
      · exact absurd hresult.symm (hrefused snapshot)
      · rw [heq] at hresult ⊢
        cases hresult
        exact hkeeps
      · rw [heq] at hresult ⊢
        cases hresult
        unfold Keeps
        rw [find?_accept, if_pos rfl]
  | _ => cases hcall

/-- A submission of an event with a canonical identifier does not throw. -/
theorem threw_step {a a' : FakeAgentFixture} {p : Option JavaString}
    {request : ClientPublishRequest} {v : ContractViolation}
    (hst : agentLts.step a (.submit p request (.threw v)) a')
    (hinstallation : Bounded a.installationId 128)
    (he : canonicalUuidV7 request.envelopeInput.eventId "eventId" =
      .ok request.envelopeInput.eventId) : False := by
  generalize hcall : AgentCall.submit p request (.threw v) = call at hst
  cases hst with
  | submit =>
      obtain ⟨rfl, rfl, hresult⟩ := AgentCall.submit.inj hcall
      exact submit_ne_threw hinstallation he v hresult.symm
  | _ => cases hcall

omit [Sha256] in
/-- A lookup that does not fail answers with the entry. -/
theorem getStatus_eq_ok {a : FakeAgentFixture} {e : JavaString} {timeout : Duration}
    {result : Option PublishLifecycleSnapshot} (h : a.getStatus e timeout = .ok result) :
    result = (a.entries.find? e).map (·.snapshot) := by
  unfold getStatus at h
  split at h
  · cases h
  · exact (Except.ok.inj h).symm

omit [Sha256] in
theorem keeps_of_getStatus {a : FakeAgentFixture} {e : JavaString} {timeout : Duration}
    {snapshot : PublishLifecycleSnapshot} (h : a.getStatus e timeout = .ok (some snapshot)) :
    ∃ canonical, a.Keeps e canonical snapshot := by
  obtain ⟨entry, hentry, rfl⟩ := Option.map_eq_some_iff.mp (getStatus_eq_ok h).symm
  have hid : entry.eventId = e := KeyedTable.key_of_find? hentry
  subst hid
  exact ⟨entry.canonicalInput, hentry⟩

theorem getStatus_answers {a a' : FakeAgentFixture} {e : JavaString} {timeout : Duration}
    {result : Option PublishLifecycleSnapshot}
    (hst : agentLts.step a (.getStatus e timeout (.ok result)) a') :
    result = (a.entries.find? e).map (·.snapshot) := by
  generalize hcall : AgentCall.getStatus e timeout (.ok result) = call at hst
  cases hst with
  | getStatus =>
      obtain ⟨rfl, rfl, hresult⟩ := AgentCall.getStatus.inj hcall
      exact getStatus_eq_ok hresult.symm
  | _ => cases hcall

end FakeAgentFixture

section Runs

variable [Sha256] {capacity limit : Int32} {installationId : JavaString}
  {a₀ a : FakeAgentFixture} {tr : List AgentCall}

/-- Entries stay as they are. -/
theorem agentRun_stays (hrun : agentLts.Run a₀ tr a) {e : JavaString} {canonical : Bytes}
    {snapshot : PublishLifecycleSnapshot} (h : a₀.Keeps e canonical snapshot) :
    a.Keeps e canonical snapshot := by
  induction hrun with
  | nil => exact h
  | snoc _ hst ih => exact ih.step hst

/-- What a completed submission left is there at the end of the run. -/
theorem agentRun_keeps (hrun : agentLts.Run a₀ tr a) {p : Option JavaString}
    {request : ClientPublishRequest} {snapshot : PublishLifecycleSnapshot}
    (hmem : .submit p request (.completed snapshot) ∈ tr) :
    a.Keeps request.envelopeInput.eventId request.envelopeInput.canonicalBytes snapshot :=
  hrun.established
    (P := fun (x : ClientPublishRequest × PublishLifecycleSnapshot) (a : FakeAgentFixture) =>
      a.Keeps x.1.envelopeInput.eventId x.1.envelopeInput.canonicalBytes x.2)
    (Q := fun call x => ∃ p, call = .submit p x.1 (.completed x.2)) (b := (request, snapshot))
    (fun _ _ _ _ h hst => h.step hst)
    (by
      rintro ⟨request, snapshot⟩ t call u ⟨p, rfl⟩ hst
      exact FakeAgentFixture.keeps_of_completed hst)
    hmem ⟨p, rfl⟩

/-- An entry of an agent that was new was left by a completed submission. -/
theorem agentRun_genuine (hnew : FakeAgentFixture.construct capacity installationId limit = .ok a₀)
    (hrun : agentLts.Run a₀ tr a) {e : JavaString} {canonical : Bytes}
    {snapshot : PublishLifecycleSnapshot} (h : a.Keeps e canonical snapshot) :
    ∃ p request, .submit p request (.completed snapshot) ∈ tr ∧
      request.envelopeInput.eventId = e ∧ request.envelopeInput.canonicalBytes = canonical := by
  induction hrun with
  | nil =>
      obtain ⟨-, -, rfl⟩ := FakeAgentFixture.construct_eq_ok hnew
      cases h
  | snoc hrun hst ih =>
      rename_i tr a₁ call a₂
      have hold : a₁.Keeps e canonical snapshot → ∃ p request,
          .submit p request (.completed snapshot) ∈ tr ++ [call] ∧
          request.envelopeInput.eventId = e ∧ request.envelopeInput.canonicalBytes = canonical := by
        intro h
        obtain ⟨p, request, hmem, hrest⟩ := ih h
        exact ⟨p, request, List.mem_append_left _ hmem, hrest⟩
      cases hst with
      | submit =>
          rename_i p request
          rcases a₁.submit_cases p request with ⟨hsame, -⟩ | ⟨_, heq, -⟩ | ⟨_, -, -, -, -, heq⟩
          · rw [hsame] at h
            exact hold h
          · rw [heq] at h
            exact hold h
          · rw [heq] at h hold ⊢
            unfold FakeAgentFixture.Keeps at h
            rw [FakeAgentFixture.find?_accept] at h
            split at h
            · cases h
              exact ⟨p, request, by simp, rfl, rfl⟩
            · exact hold h
      | _ => exact hold h

/-- The records of a run from a new agent. -/
theorem agentRun_records (hnew : FakeAgentFixture.construct capacity installationId limit = .ok a₀)
    (hrun : agentLts.Run a₀ tr a) : a.Records tr := by
  induction hrun with
  | nil =>
      obtain ⟨hpositive, -, rfl⟩ := FakeAgentFixture.construct_eq_ok hnew
      refine ⟨rfl, fun _ => rfl, hpositive.le, fun _ => ?_⟩
      exact le_max_left _ _
  | snoc _ hst ih => exact ih.step hst

/-- What the agent was built with. -/
def FakeAgentFixture.config (a : FakeAgentFixture) : Int32 × JavaString × Int32 :=
  (a.capacity, a.installationId, a.perProducerInFlightLimit)

theorem FakeAgentFixture.config_step {a' : FakeAgentFixture} {call : AgentCall}
    (hst : agentLts.step a call a') : a'.config = a.config := by
  cases hst with
  | submit =>
      rename_i p request
      rcases a.submit_cases p request with ⟨hsame, -⟩ | ⟨_, heq, -⟩ | ⟨_, -, -, -, -, heq⟩
      · rw [hsame]
      · rw [heq]
      · rw [heq]
        rfl
  | _ => rfl

theorem agentRun_config (hrun : agentLts.Run a₀ tr a) : a.config = a₀.config :=
  hrun.invariant (P := fun a => a.config = a₀.config) (Q := fun _ => True)
    (fun _ _ => trivial) rfl fun _ _ _ _ h hst => (FakeAgentFixture.config_step hst).trans h

/-- No submission of an envelope input that was constructed throws. -/
theorem agentRun_ne_threw
    (hnew : FakeAgentFixture.construct capacity installationId limit = .ok a₀)
    (hrun : agentLts.Run a₀ tr a) {p : Option JavaString} {request : ClientPublishRequest}
    {v : ContractViolation} {c : EnvelopeInput} (hc : c.construct = .ok request.envelopeInput) :
    .submit p request (.threw v) ∉ tr := by
  intro hmem
  obtain ⟨tr₁, tr₂, rfl⟩ := List.append_of_mem hmem
  obtain ⟨a₁, a₂, hrun₁, hst, -⟩ := hrun.step_at
  obtain ⟨-, hbounded, hfields⟩ := FakeAgentFixture.construct_eq_ok hnew
  have hinstallation : a₁.installationId = installationId := by
    have h := congrArg (·.2.1) (agentRun_config hrun₁)
    rw [hfields] at h
    exact h
  obtain ⟨haccepted, hsorted⟩ := EnvelopeInput.construct_eq_ok_iff.mp hc
  refine FakeAgentFixture.threw_step hst (by rw [hinstallation]; exact hbounded) ?_
  rw [hsorted]
  exact haccepted.eventId

/-- A full producer stays full, and its submissions are refused. -/
theorem FakeAgentFixture.full_step {a' : FakeAgentFixture} {call : AgentCall} {q : JavaString}
    (hst : agentLts.step a call a') (hfull : a.perProducerInFlightLimit ≤ a.inFlight q) :
    a'.inFlight q = a.inFlight q ∧
      ∀ request result, call = .submit (some q) request result →
        ∃ v, result = .failed v ∧ v.code ∈ [.invalidArgument, .boundsExceeded] := by
  cases hst with
  | submit =>
      rename_i p request
      refine ⟨?_, ?_⟩
      · rcases a.submit_cases p request with ⟨hsame, -⟩ | ⟨_, heq, -⟩ | ⟨_, -, -, hplace, -, heq⟩
        · rw [hsame]
        · rw [heq]
        · rw [heq, FakeAgentFixture.inFlight_accept, if_neg]
          intro hq
          exact absurd (hplace q hq) (Int32.not_lt.mpr hfull)
      · rintro request' result heq
        obtain ⟨rfl, rfl, rfl⟩ := AgentCall.submit.inj heq
        obtain ⟨v, hsubmit, hcode⟩ := FakeAgentFixture.submit_of_full hfull request
        exact ⟨v, congrArg Prod.snd hsubmit, hcode⟩
  | _ => exact ⟨rfl, fun _ _ => nofun⟩

theorem agentRun_full {q : JavaString} (hrun : agentLts.Run a₀ tr a)
    (hfull : a₀.perProducerInFlightLimit ≤ a₀.inFlight q) :
    a.inFlight q = a₀.inFlight q ∧
      ∀ request result, .submit (some q) request result ∈ tr →
        ∃ v, result = .failed v ∧ v.code ∈ [.invalidArgument, .boundsExceeded] := by
  induction hrun with
  | nil => exact ⟨rfl, fun _ _ h => by cases h⟩
  | snoc hrun hst ih =>
      rename_i tr a₁ call a₂
      obtain ⟨hflight, hrefused⟩ := ih
      have hlimit : a₁.perProducerInFlightLimit = a₀.perProducerInFlightLimit :=
        congrArg (·.2.2) (agentRun_config hrun)
      obtain ⟨hflight', hrefused'⟩ :=
        FakeAgentFixture.full_step hst (by rw [hlimit, hflight]; exact hfull)
      refine ⟨hflight'.trans hflight, fun request result hmem => ?_⟩
      rcases List.mem_append.mp hmem with hmem | hmem
      · exact hrefused request result hmem
      · exact hrefused' request result (List.mem_singleton.mp hmem).symm

end Runs

end CraftRelay.Client
