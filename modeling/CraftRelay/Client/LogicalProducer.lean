import CraftRelay.Lib.KeyedTable
import CraftRelay.Lib.Lts
import CraftRelay.Client.EnvelopeInput

/-!
# The logical producer and its publish handles

`LogicalProducerClient.submit`, `BridgePublishHandle.detachTracking` and the two
`BoundedTracker`s between them. Any number of threads call `submit` and
`detachTracking`; a step is one operation on a tracker, on the sequence counter or on a
flag of a handle, so a run is an interleaving at that granularity.

The transport is what is given a request by `retrySameRequest`, or by `submit` after a
status lookup found nothing. The stage in which the lookup completes is a step of its own.
-/

namespace CraftRelay.Client

/-! ## The bounded tracker -/

/-- `BoundedTracker`: the entries never outnumber the capacity. -/
structure BoundedTracker (κ ν : Type) (capacity : Nat) where
  entries : KeyedTable (Prod.fst : κ × ν → κ)
  bounded : entries.rows.length ≤ capacity

namespace BoundedTracker

variable {κ ν : Type} [DecidableEq κ] {capacity : Nat}

def new : BoundedTracker κ ν capacity := ⟨.empty, Nat.zero_le _⟩

def get (t : BoundedTracker κ ν capacity) (key : κ) : Option ν :=
  (t.entries.find? key).map Prod.snd

/-- There is room for a new key, and a key that is there takes none. -/
theorem upsert_bounded (t : BoundedTracker κ ν capacity) {key : κ} (value : ν)
    (h : ¬ (t.entries.find? key = none ∧ capacity ≤ t.entries.rows.length)) :
    (t.entries.upsert (key, value)).rows.length ≤ capacity := by
  have hbounded := t.bounded
  rw [KeyedTable.length_upsert]
  show (if t.entries.find? key = none then _ else _) ≤ _
  split
  · rename_i hnone
    have hroom : ¬ capacity ≤ t.entries.rows.length := fun hfull => h ⟨hnone, hfull⟩
    omega
  · exact hbounded

def attach (t : BoundedTracker κ ν capacity) (key : κ) (value : ν) :
    Bool × BoundedTracker κ ν capacity :=
  if h : t.entries.find? key = none ∧ capacity ≤ t.entries.rows.length then (false, t)
  else (true, ⟨t.entries.upsert (key, value), t.upsert_bounded value h⟩)

def detach (t : BoundedTracker κ ν capacity) (key : κ) :
    Option ν × BoundedTracker κ ν capacity :=
  (t.get key, ⟨t.entries.erase key, (List.length_filter_le _ _).trans t.bounded⟩)

end BoundedTracker

/-! ## Requests and handles -/

/-- `ClientPublishRequest`. -/
structure ClientPublishRequest where
  envelopeInput : EnvelopeInput
  producerOperationSequence : Int64
  positive : 0 < producerOperationSequence.toInt

def ClientPublishRequest.construct (envelopeInput : EnvelopeInput)
    (producerOperationSequence : Int64) : Except ContractViolation ClientPublishRequest :=
  match h : positiveInt64 producerOperationSequence "producerOperationSequence" with
  | .error v => .error v
  | .ok sequence => .ok ⟨envelopeInput, sequence, by
      obtain ⟨hpos, rfl⟩ := positiveInt64_eq_ok.mp h
      exact hpos⟩

/-- `PublishHandle.TrackingState`. -/
inductive TrackingState where
  | attached | detached
  deriving DecidableEq

/-- `BridgePublishHandle`, with the request its submission is for; the submission of a
handle without one has failed. `call` is the number of the call that made the handle. -/
structure BridgePublishHandle where
  call : Nat
  eventId : Uuid
  submission : Option ClientPublishRequest
  trackingState : TrackingState
  detached : Bool

def BridgePublishHandle.new (call : Nat) (eventId : Uuid)
    (submission : Option ClientPublishRequest) (attached : Bool) : BridgePublishHandle :=
  ⟨call, eventId, submission, if attached then .attached else .detached, !attached⟩

/-! ## The input of a submission -/

/-- What a submission reads of the producer's manifest. -/
structure ProducerRegistration where
  integrationId : JavaString
  eventContractHandles : List JavaString
  maxPendingPublishes : Nat
  positive : 0 < maxPendingPublishes ∧ maxPendingPublishes ≤ 4096

/-- What `submit` throws. -/
inductive SubmitError where
  | illegalArgument (message : String)
  | violation (v : ContractViolation)
  deriving DecidableEq

/-- The first part of `submit`, which touches nothing shared. -/
def ProducerRegistration.input (registration : ProducerRegistration) (handle : JavaString)
    (eventId : Uuid) (typedPayload : Bytes) : Except SubmitError EnvelopeInput := do
  Except.refuseIf (handle ∉ registration.eventContractHandles)
    (.illegalArgument "event contract handle is not issued by this integration manifest")
  let entry ← (MetadataEntry.construct (.ofString "integration.id")
    registration.integrationId).mapError SubmitError.violation
  let components : EnvelopeInput :=
    { eventId := eventId.toText
      «namespace» := registration.integrationId
      logicalStreamType := .ofString "NODE_LOCAL"
      streamKey := eventId.toText.map fun u => UInt8.ofNat u.toNat
      eventType := handle
      schemaVersion := 1
      operationType := .ofString "DOMAIN_EVENT"
      operationId := eventId.toText
      eventRole := .ofString "EVENT"
      requestedMinimumDurability := .ofString "POLICY_RESOLVED_BY_AGENT"
      clientMetadata := [entry]
      typedPayload := typedPayload
      canonicalizationVersion := 1
      eventContractHandle := handle }
  components.construct.mapError .violation

/-! ## Threads -/

/-- Where a call of `submit` is: before its lookup, with the tracked request, before the
sequence counter, before the attach of a new request, before the status lookup, and with
its submission. -/
inductive SubmitPoint where
  | lookUp
  | tracked (request : ClientPublishRequest)
  | untracked
  | attach (request : ClientPublishRequest)
  | status (request : ClientPublishRequest)
  | submitted (submission : Option ClientPublishRequest)

/-- Where a call of `detachTracking` is. -/
inductive DetachPoint where
  | trackingState | compareAndSet | publishHandles | trackedRequests

inductive Task where
  | idle
  | submitting (call : Nat) (eventId : Uuid) (input : EnvelopeInput) (point : SubmitPoint)
  | returned (call : Nat) (handle : Nat)
  | threw (call : Nat) (eventId : Uuid) (input : EnvelopeInput) (error : SubmitError)
  | detaching (handle : Nat) (eventId : Uuid) (point : DetachPoint)

/-- The thread can make a call. -/
def Task.isFree : Task → Bool
  | .idle | .returned _ _ | .threw _ _ _ _ => true
  | _ => false

/-- A request of a call. -/
structure Submission where
  call : Nat
  eventId : Uuid
  request : ClientPublishRequest

/-! ## The client -/

/-- The fields of the client, the handles it made, its threads, the status lookups under
way and what the transport was given. Calls of `submit` are numbered by `started`. -/
structure LogicalProducerClient (registration : ProducerRegistration) where
  nextSequence : Int64
  publishHandles : BoundedTracker Uuid Nat registration.maxPendingPublishes
  trackedRequests :
    BoundedTracker Uuid ClientPublishRequest registration.maxPendingPublishes
  handles : List BridgePublishHandle
  threads : Nat → Task
  started : Nat
  lookups : List Submission
  passed : List Submission

namespace LogicalProducerClient

variable {registration : ProducerRegistration}

def new : LogicalProducerClient registration :=
  ⟨1, .new, .new, [], fun _ => .idle, 0, [], []⟩

def setThread (s : LogicalProducerClient registration) (t : Nat) (task : Task) :
    LogicalProducerClient registration :=
  { s with threads := fun k => if k = t then task else s.threads k }

/-- The next operation of a call of `submit`. -/
def submitStep (s : LogicalProducerClient registration) (t call : Nat) (eventId : Uuid)
    (input : EnvelopeInput) : SubmitPoint → LogicalProducerClient registration
  | .lookUp =>
      match s.trackedRequests.get eventId with
      | some request => s.setThread t (.submitting call eventId input (.tracked request))
      | none => s.setThread t (.submitting call eventId input .untracked)
  | .tracked request =>
      if request.envelopeInput.canonicalBytes ≠ input.canonicalBytes then
        s.setThread t (.threw call eventId input (.violation ⟨.lifecycleIntegrityConflict,
          "same event_id retried with different immutable envelope input"⟩))
      else
        setThread { s with passed := s.passed ++ [⟨call, eventId, request⟩] } t
          (.submitting call eventId input (.submitted (some request)))
  | .untracked =>
      let s' := { s with nextSequence := s.nextSequence + 1 }
      match ClientPublishRequest.construct input s.nextSequence with
      | .ok request => s'.setThread t (.submitting call eventId input (.attach request))
      | .error v => s'.setThread t (.threw call eventId input (.violation v))
  | .attach request =>
      let (attached, trackedRequests) := s.trackedRequests.attach eventId request
      setThread { s with trackedRequests := trackedRequests } t
        (.submitting call eventId input (if attached then .status request else .submitted none))
  | .status request =>
      setThread { s with lookups := s.lookups ++ [⟨call, eventId, request⟩] } t
        (.submitting call eventId input (.submitted (some request)))
  | .submitted submission =>
      let attached := submission.isSome
      let publishHandles :=
        if attached then (s.publishHandles.attach eventId s.handles.length).2
        else s.publishHandles
      let handles := s.handles ++ [.new call eventId submission attached]
      setThread { s with publishHandles := publishHandles, handles := handles } t
        (.returned call s.handles.length)

/-- The next operation of a call of `detachTracking`. -/
def detachStep (s : LogicalProducerClient registration) (t handle : Nat) (eventId : Uuid) :
    DetachPoint → LogicalProducerClient registration
  | .trackingState =>
      setThread { s with
        handles := s.handles.modify handle fun h => { h with trackingState := .detached } } t
        (.detaching handle eventId .compareAndSet)
  | .compareAndSet =>
      if (s.handles[handle]?).any fun h => !h.detached then
        setThread { s with
          handles := s.handles.modify handle fun h => { h with detached := true } } t
          (.detaching handle eventId .publishHandles)
      else s.setThread t .idle
  | .publishHandles =>
      setThread { s with publishHandles := (s.publishHandles.detach eventId).2 } t
        (.detaching handle eventId .trackedRequests)
  | .trackedRequests =>
      setThread { s with trackedRequests := (s.trackedRequests.detach eventId).2 } t .idle

/-- The next operation of a thread. -/
def advance (s : LogicalProducerClient registration) (t : Nat) :
    LogicalProducerClient registration :=
  match s.threads t with
  | .submitting call eventId input point => s.submitStep t call eventId input point
  | .detaching handle eventId point => s.detachStep t handle eventId point
  | _ => s

end LogicalProducerClient

inductive ClientEvent where
  | submit (t : Nat) (handle : JavaString) (eventId : Uuid) (typedPayload : Bytes)
  | detachTracking (t handle : Nat)
  | advance (t : Nat)
  | answered (submission : Submission) (found : Bool)

/-- One operation of a thread, the beginning of a call, or the answer to a status lookup. -/
inductive ClientStep {registration : ProducerRegistration}
    (s : LogicalProducerClient registration) :
    ClientEvent → LogicalProducerClient registration → Prop
  | submit {t handle eventId typedPayload input} (hfree : (s.threads t).isFree = true)
      (h : registration.input handle eventId typedPayload = .ok input) :
      ClientStep s (.submit t handle eventId typedPayload)
        (LogicalProducerClient.setThread { s with started := s.started + 1 } t
          (.submitting s.started eventId input .lookUp))
  | refused {t handle eventId typedPayload error} (hfree : (s.threads t).isFree = true)
      (h : registration.input handle eventId typedPayload = .error error) :
      ClientStep s (.submit t handle eventId typedPayload) s
  | detachTracking {t n handle} (hfree : (s.threads t).isFree = true) (h : s.handles[n]? = some handle) :
      ClientStep s (.detachTracking t n)
        (s.setThread t (.detaching n handle.eventId .trackingState))
  | advance {t} : ClientStep s (.advance t) (s.advance t)
  | answered {before submission after} (found : Bool)
      (h : s.lookups = before ++ submission :: after) :
      ClientStep s (.answered submission found)
        { s with
          lookups := before ++ after
          passed := if found then s.passed else s.passed ++ [submission] }

def clientLts (registration : ProducerRegistration) :
    Lts (LogicalProducerClient registration) ClientEvent where
  step := ClientStep

end CraftRelay.Client
