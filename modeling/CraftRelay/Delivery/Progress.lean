import CraftRelay.Journal.Progress
import CraftRelay.Delivery.Recovery
import CraftRelay.Delivery.Routing

/-!
# Deliveries that go through

When a candidate has passed every check of `attempt_delivery` (`Ready`) and no
statement fails, the service sends it, and an answer of the broker ends as a
replicated outcome with the gate one further.
-/

namespace CraftRelay

/-- The candidate of an accepted event and its delivery row. -/
def StoredEnvelope.candidate (v : StoredEnvelope) (s : DeliveryStateRecord) :
    DeliveryCandidate where
  eventId := v.eventId
  installationId := v.installationId
  «namespace» := v.namespace
  logicalStreamType := v.logicalStreamType
  streamKey := v.streamKey
  streamSequence := v.streamSequence
  eventType := v.eventType
  routingVersion := v.routingVersion
  deliveryState := s

variable [Sha256]

theorem StoredEnvelope.candidate_found {env : CallEnv} {db : Db} {e : String}
    {v : StoredEnvelope} {s : DeliveryStateRecord} (henv : env.Faultless)
    (hs : db.HasDelivery e s) (hv : db.storedEnvelope.find? e = some v) (hver : v.Verifies) :
    loadDeliveryCandidate env db e = .found (v.candidate s) :=
  loadDeliveryCandidate_found_iff.mpr ⟨hs.found (henv _), ⟨henv _, henv _⟩, v, hv, hver,
    rfl, rfl, rfl, rfl, rfl, rfl, rfl, rfl⟩

/-- The payload of an accepted event can be read. -/
theorem Db.Consistent.payload_found {env : CallEnv} {db : Db} (hc : db.Consistent)
    (henv : env.Faultless) {e : String} {v : StoredEnvelope}
    (hv : db.storedEnvelope.find? e = some v) :
    ∃ payload, readVerifiedPayload env db e = .found payload := by
  have hp := hc.payload e
  rw [hv] at hp
  obtain ⟨b, hb, hdigest⟩ := Option.map_eq_some_iff.mp hp
  have hdigest : b.payloadDigest = v.payloadDigest := hdigest
  exact ⟨b.payload, readVerifiedPayload_found_iff.mpr ⟨⟨henv _, henv _⟩, v, b, hv, hb, rfl,
    hc.payloadVerifies _ _ hb, hdigest⟩⟩

/-- An event the service would send: its row is open, the gate is at it, and
routing and profile are those it was created with. -/
structure DeliveryService.Ready (svc : DeliveryService) (db : Db) (e : String)
    (v : StoredEnvelope) (s : DeliveryStateRecord) (routing : RoutingResolution) : Prop where
  running : svc.shutdown = false
  delivery : db.HasDelivery e s
  envelope : db.storedEnvelope.find? e = some v
  unconfirmed : s.deliveryStatus ≠ "REPLICATED"
  unblocked : s.deliveryStatus ≠ "DELIVERY_BLOCKED"
  gate : svc.gate.check v.streamKey v.streamSequence = .allowed
  routed : resolveRouting v.routingInput = .ok routing
  fingerprint : s.routingFingerprint = some routing.routingChecksum
  profileId : s.profileId = some svc.profile.profileId
  profileVersion : s.profileVersion = some svc.profile.profileVersion
  topic : s.kafkaTopic = some routing.topic
  profile : isProfileSafeForDelivery svc.profile = .ok ()

namespace DeliveryService.Ready

variable {svc : DeliveryService} {db : Db} {e : String} {v : StoredEnvelope}
  {s : DeliveryStateRecord} {routing : RoutingResolution}

theorem checkBeforeSend (h : svc.Ready db e v s routing) :
    svc.checkBeforeSend (v.candidate s) = .ok routing := by
  have hrouted : resolveRouting (v.candidate s).routingInput = .ok routing := h.routed
  unfold DeliveryService.checkBeforeSend
  rw [hrouted, h.profile]
  simp [StoredEnvelope.candidate, h.fingerprint, h.profileId, h.profileVersion, h.topic,
    require, Except.mapError, bind, Except.bind, pure, Except.pure]

/-- A ready candidate is sent. -/
theorem resolveCandidate (h : svc.Ready db e v s routing) :
    svc.resolveCandidate e (.found (v.candidate s)) =
      svc.sendPayload e (v.candidate s) routing := by
  have hgate : svc.gate.check (v.candidate s).streamKey (v.candidate s).streamSequence =
    .allowed := h.gate
  have hunconfirmed : (v.candidate s).deliveryState.deliveryStatus ≠ "REPLICATED" :=
    h.unconfirmed
  have hunblocked : (v.candidate s).deliveryState.deliveryStatus ≠ "DELIVERY_BLOCKED" :=
    h.unblocked
  show svc.deliverCandidate e (v.candidate s) = _
  unfold DeliveryService.deliverCandidate
  rw [hgate]
  show svc.deliverAllowed e (v.candidate s) = _
  unfold DeliveryService.deliverAllowed
  simp only [if_neg hunconfirmed, if_neg hunblocked, h.checkBeforeSend]

theorem attemptDelivery (h : svc.Ready db e v s routing) :
    svc.attemptDelivery e =
      .op (.journal (.getDeliveryCandidate e)) (svc.resolveCandidate e) := by
  unfold DeliveryService.attemptDelivery
  rw [h.running]
  rfl

end DeliveryService.Ready

/-! ## Steps of one thread -/

section Steps

variable {w : World} {i : Nat} {c : ServiceCall}

/-- A thread at a journal call makes it. -/
theorem worldStep_journal {call : JournalCall} {k : call.Reply → ServiceProg c.Reply}
    {env : CallEnv} {r : call.Reply} {j' : LocalJournal}
    (hj : w.journal.exec env call = some (j', r)) :
    worldLts.step (w.setThread i (.running c (.op (.journal call) k)))
      (.journal i ⟨env, call, r⟩) (World.setThread { w with journal := j' } i (.running c (k r))) := by
  have hst := World.Step.journal (w := w.setThread i (.running c (.op (.journal call) k)))
    (w.setThread_self i _) hj
  rwa [World.setThread_setThread] at hst

theorem worldStep_send {request : SendRequest}
    {k : Except SendError SendSuccess → ServiceProg c.Reply}
    (r : Except SendError SendSuccess) :
    worldLts.step (w.setThread i (.running c (.op (.send request) k)))
      (.send i request r) (w.setThread i (.running c (k r))) := by
  have hst := World.Step.send (w := w.setThread i (.running c (.op (.send request) k))) r
    (w.setThread_self i _)
  have heq := World.setThread_setThread w w.journal i (.running c (.op (.send request) k))
    (.running c (k r))
  exact heq ▸ hst

theorem worldStep_return {svc : DeliveryService} {out : c.Reply} :
    worldLts.step (w.setThread i (.running c (.done (svc, out)))) (.return i c out)
      (w.setThread i (.idle svc)) := by
  have hst := World.Step.return (w := w.setThread i (.running c (.done (svc, out))))
    (w.setThread_self i _)
  have heq := World.setThread_setThread w w.journal i (.running c (.done (svc, out)))
    (.idle svc)
  exact heq ▸ hst

end Steps

/-- A thread about to send sends, whatever the producer answers. -/
theorem worldStep_sendInFlight {w : World} {i : Nat} {svc : DeliveryService} {e : String}
    {candidate : DeliveryCandidate} {routing : RoutingResolution} {payload : Bytes}
    (r : Except SendError SendSuccess) :
    ∃ request w', request.eventId = e ∧ worldLts.step
      (w.setThread i (.running (.attemptDelivery e)
        (svc.sendInFlight e candidate routing payload))) (.send i request r) w' :=
  ⟨_, _, rfl, worldStep_send (w := w) (c := .attemptDelivery e) r⟩

/-! ## Whole deliveries -/

/-- The events up to the send of a ready candidate. -/
def approachTrace (i : Nat) (env : CallEnv) (e : String) (candidate : DeliveryCandidate)
    (payload : Bytes) : List WorldEvent :=
  [ .call i (.attemptDelivery e),
    .journal i ⟨env, .getDeliveryCandidate e, .found candidate⟩,
    .journal i ⟨env, .readVerifiedPayload e, .found payload⟩ ]

/-- A service at rest comes to the send of a ready event. -/
theorem DeliveryService.Ready.approach {w : World} {i : Nat} {svc : DeliveryService}
    {e : String} {v : StoredEnvelope} {s : DeliveryStateRecord} {routing : RoutingResolution}
    {env : CallEnv} (h : svc.Ready w.journal.db e v s routing) (hc : w.journal.db.Consistent)
    (henv : env.Faultless) (hidle : w.threads i = .idle svc) :
    ∃ payload, worldLts.Run w (approachTrace i env e (v.candidate s) payload)
      (w.setThread i (.running (.attemptDelivery e)
        (svc.sendInFlight e (v.candidate s) routing payload))) := by
  have hfound := StoredEnvelope.candidate_found henv h.delivery h.envelope
    (hc.envelope _ _ h.envelope)
  obtain ⟨payload, hpayload⟩ := hc.payload_found henv h.envelope
  have hcall : worldLts.step w (.call i (.attemptDelivery e))
      (w.setThread i (.running (.attemptDelivery e)
        (.op (.journal (.getDeliveryCandidate e)) (svc.resolveCandidate e)))) := by
    rw [← h.attemptDelivery]
    exact World.Step.call hidle
  have hread₁ : w.journal.exec env (.getDeliveryCandidate e) =
      some (w.journal, .found (v.candidate s)) :=
    congrArg (fun r => some (w.journal, r)) hfound
  have hread₂ : w.journal.exec env (.readVerifiedPayload e) = some (w.journal, .found payload) :=
    congrArg (fun r => some (w.journal, r)) hpayload
  have hstep₁ := worldStep_journal (w := w) (i := i) (c := .attemptDelivery e)
    (k := svc.resolveCandidate e) hread₁
  rw [h.resolveCandidate] at hstep₁
  have hstep₂ : worldLts.step (w.setThread i (.running (.attemptDelivery e)
      (svc.sendPayload e (v.candidate s) routing)))
      (.journal i ⟨env, .readVerifiedPayload e, .found payload⟩)
      (w.setThread i (.running (.attemptDelivery e)
        (svc.sendInFlight e (v.candidate s) routing payload))) :=
    worldStep_journal (w := w) hread₂
  exact ⟨payload, ((Lts.Run.nil.snoc hcall).snoc hstep₁).snoc hstep₂⟩

/-- The confirmation of an answer of the broker to the service. -/
def DeliveryService.confirmation (svc : DeliveryService) (routing : RoutingResolution)
    (kafkaPartition kafkaOffset : Int) : ReplicatedDeliveryConfirmation where
  expectedRoutingFingerprint := routing.routingChecksum
  expectedProfileId := svc.profile.profileId
  expectedProfileVersion := svc.profile.profileVersion
  kafkaTopic := routing.topic
  kafkaPartition := kafkaPartition
  kafkaOffset := kafkaOffset

/-- The events from the send of an event to its replicated outcome. -/
def confirmTrace (i : Nat) (env : CallEnv) (e : String) (request : SendRequest)
    (rev : Int) (k : ReplicatedDeliveryConfirmation) : List WorldEvent :=
  [ .send i request (.ok ⟨k.kafkaTopic, k.kafkaPartition, k.kafkaOffset⟩),
    .journal i ⟨env, .confirmReplicatedDelivery e rev k, .updated⟩,
    .return i (.attemptDelivery e) (.replicated k.kafkaPartition k.kafkaOffset) ]

/-- When the broker takes a ready event under its topic, its delivery is confirmed and the
gate is one further. -/
theorem DeliveryService.Ready.deliverRequest {w : World} {i : Nat} {svc : DeliveryService}
    {e : String} {v : StoredEnvelope} {s : DeliveryStateRecord} {routing : RoutingResolution}
    {env : CallEnv} (h : svc.Ready w.journal.db e v s routing) (hc : w.journal.db.Consistent)
    (henv : env.Faultless) (payload : Bytes) (p o : Int) :
    ∃ t t', worldLts.Run
        (w.setThread i (.running (.attemptDelivery e)
          (svc.sendInFlight e (v.candidate s) routing payload)))
        (confirmTrace i env e (svc.sendRequest e routing payload) s.deliveryRevision
          (svc.confirmation routing p o))
        (World.setThread
          { w with
            journal := { w.journal with
              db := { w.journal.db with deliveryState := t, lifecycleState := t' } } } i
          (.idle (svc.withGate ((svc.gate.markInFlight v.streamKey v.streamSequence).markCompleted
            v.streamKey v.streamSequence)))) ∧
      w.journal.db.deliveryState.Puts e (s.replicated (svc.confirmation routing p o)
        (s.deliveryRevision + 1) env.nowMs).sealed.toRow t := by
  obtain ⟨l, hst⟩ := hc.hasStatus h.envelope
  obtain ⟨t, t', hconfirm, ht, -⟩ := confirmReplicatedDelivery_of_current (henv.executes _)
    h.delivery hst h.unconfirmed (k := svc.confirmation routing p o)
    ⟨h.fingerprint, h.profileId, h.profileVersion, h.topic⟩
  have hexec : w.journal.exec env (.confirmReplicatedDelivery e s.deliveryRevision
      (svc.confirmation routing p o)) =
      some ({ w.journal with
        db := { w.journal.db with deliveryState := t, lifecycleState := t' } }, .updated) :=
    congrArg w.journal.write hconfirm
  have hsend : worldLts.step
      (w.setThread i (.running (.attemptDelivery e)
        (svc.sendInFlight e (v.candidate s) routing payload)))
      (.send i (svc.sendRequest e routing payload) (.ok ⟨routing.topic, p, o⟩))
      (w.setThread i (.running (.attemptDelivery e)
        ((svc.withGate (svc.gate.markInFlight v.streamKey v.streamSequence)).confirmSent
          e (v.candidate s) routing ⟨routing.topic, p, o⟩))) :=
    worldStep_send (w := w) (c := .attemptDelivery e) _
  have hjournal : worldLts.step
      (w.setThread i (.running (.attemptDelivery e)
        ((svc.withGate (svc.gate.markInFlight v.streamKey v.streamSequence)).confirmSent
          e (v.candidate s) routing ⟨routing.topic, p, o⟩)))
      (.journal i ⟨env, .confirmReplicatedDelivery e s.deliveryRevision
        (svc.confirmation routing p o), .updated⟩)
      (World.setThread
        { w with
          journal := { w.journal with
            db := { w.journal.db with deliveryState := t, lifecycleState := t' } } } i
        (.running (.attemptDelivery e)
          (.done (svc.withGate ((svc.gate.markInFlight v.streamKey v.streamSequence).markCompleted
            v.streamKey v.streamSequence), .replicated p o)))) :=
    worldStep_journal (w := w) (c := .attemptDelivery e) hexec
  exact ⟨t, t', ((Lts.Run.nil.snoc hsend).snoc hjournal).snoc worldStep_return, ht⟩

theorem DeliveryService.Ready.deliver {w : World} {i : Nat} {svc : DeliveryService}
    {e : String} {v : StoredEnvelope} {s : DeliveryStateRecord} {routing : RoutingResolution}
    {env : CallEnv} (h : svc.Ready w.journal.db e v s routing) (hc : w.journal.db.Consistent)
    (henv : env.Faultless) (payload : Bytes) (p o : Int) :
    ∃ request t t', worldLts.Run
        (w.setThread i (.running (.attemptDelivery e)
          (svc.sendInFlight e (v.candidate s) routing payload)))
        (confirmTrace i env e request s.deliveryRevision (svc.confirmation routing p o))
        (World.setThread
          { w with
            journal := { w.journal with
              db := { w.journal.db with deliveryState := t, lifecycleState := t' } } } i
          (.idle (svc.withGate ((svc.gate.markInFlight v.streamKey v.streamSequence).markCompleted
            v.streamKey v.streamSequence)))) ∧
      w.journal.db.deliveryState.Puts e (s.replicated (svc.confirmation routing p o)
        (s.deliveryRevision + 1) env.nowMs).sealed.toRow t := by
  obtain ⟨t, t', hrest⟩ := h.deliverRequest hc henv payload p o
  exact ⟨_, t, t', hrest⟩

/-- The events of a recovery. -/
def recoverTrace (i : Nat) (env : CallEnv) (out : List PendingDelivery) : List WorldEvent :=
  [ .call i .recover,
    .journal i ⟨env, .scanDeliveryGateStates 10000, .ok out⟩,
    .return i .recover (.ok ()) ]

/-- A service at rest recovers from what its scan lists. -/
theorem worldRun_recover {w : World} {i : Nat} {svc : DeliveryService} {env : CallEnv}
    {out : List PendingDelivery} (hidle : w.threads i = .idle svc)
    (hscan : scanDeliveryGateStates env w.journal.db 10000 = .ok out) :
    worldLts.Run w (recoverTrace i env out) (w.setThread i
      (.idle (svc.withGate (svc.gate.recoverFromScan (out.map (·.recovered)))))) := by
  have hexec : w.journal.exec env (.scanDeliveryGateStates 10000) = some (w.journal, .ok out) :=
    congrArg (fun r => some (w.journal, r)) hscan
  have hcall : worldLts.step w (.call i .recover)
      (w.setThread i (.running .recover svc.recover)) := World.Step.call hidle
  have hjournal : worldLts.step (w.setThread i (.running .recover svc.recover))
      (.journal i ⟨env, .scanDeliveryGateStates 10000, .ok out⟩)
      (w.setThread i (.running .recover (.done
        (svc.withGate (svc.gate.recoverFromScan (out.map (·.recovered))), .ok ())))) :=
    worldStep_journal (w := w) (c := .recover) hexec
  exact ((Lts.Run.nil.snoc hcall).snoc hjournal).snoc worldStep_return

/-- Calls of clients, one after the other. -/
theorem worldRun_clients {w : World} {tr : List JournalEvent} {j' : LocalJournal}
    (hrun : journalLts.Run w.journal tr j') :
    worldLts.Run w (tr.map .client) { w with journal := j' } := by
  induction hrun with
  | nil => exact .nil
  | snoc hrun hst ih =>
      rename_i tr t ev u
      have hclient : worldLts.step { w with journal := t } (.client ev)
          { w with journal := u } := World.Step.client hst
      rw [List.map_append]
      exact ih.snoc hclient

/-! ## Concrete deliveries -/

/-- A profile that is safe for delivery. -/
def sampleProfile : KafkaProductionProfile where
  profileId := "p0-test"
  profileVersion := 1
  replicationFactor := 5
  minInsyncReplicas := 5
  requiredAcks := "all"
  enableIdempotence := true
  deliveryTimeoutMs := 120000
  requestTimeoutMs := 30000
  lingerMs := 5
  maxInFlightRequestsPerConnection := 5
  compression := "lz4"
  retentionMs := 604800000
  retentionBytes := 1073741824
  cleanupPolicy := "delete"
  uncleanLeaderElection := false
  topicDeletionPolicy := "PROTECTED"

omit [Sha256] in
theorem sampleProfile_safe : isProfileSafeForDelivery sampleProfile = .ok () := by decide

/-- The routing input of the sample events of a namespace. -/
def sampleInput («namespace» : String) : RoutingInput :=
  ⟨"inst", «namespace», "t", "orders", "created", 1⟩

omit [Sha256] in
theorem StoredEnvelope.streamKey_of_input {v : StoredEnvelope} {«namespace» : String}
    (h : v.routingInput = sampleInput «namespace») : v.streamKey = "orders" :=
  congrArg RoutingInput.streamKey h

omit [Sha256] in
theorem StoredEnvelope.logicalStream_of_input {v : StoredEnvelope} {«namespace» : String}
    (h : v.routingInput = sampleInput «namespace») :
    v.logicalStream = ("inst", «namespace», "t", "orders") :=
  congrArg (fun i : RoutingInput =>
    (i.installationId, i.namespace, i.logicalStreamType, i.streamKey)) h

def sampleRouting («namespace» : String) : RoutingResolution where
  topic := (sampleInput «namespace»).topic
  partitionKey := (sampleInput «namespace»).partitionKey
  routingChecksum := Sha256.digest (utf8 (sampleInput «namespace»).canonical)
  routingVersion := 1

theorem resolveRouting_sample {«namespace» : String} (h : «namespace» ≠ "") :
    resolveRouting (sampleInput «namespace») = .ok (sampleRouting «namespace») := by
  unfold resolveRouting
  rw [if_neg (by simp [sampleInput]), if_neg]
  · rfl
  · simp [sampleInput, h]

/-- The row of a sample event, created with its routing. -/
def sampleRecord (nowMs : Int) (eventId «namespace» : String) : DeliveryStateRecord :=
  (pendingRecord nowMs eventId (sampleRouting «namespace»).routingChecksum "p0-test" 1
    (sampleRouting «namespace»).topic).sealed

theorem sampleRecord_verifies (nowMs : Int) (eventId «namespace» : String) :
    (sampleRecord nowMs eventId «namespace»).Verifies := by
  refine (pending_healthy ?_ (by decide) (by decide)).verifies
  show "craftrelay." ++ "inst" ++ "." ++ «namespace» ++ ".events" ≠ ""
  simp

/-- The call that creates the row of a sample event. -/
def sampleCreate (eventId «namespace» : String) : JournalCall :=
  .createDeliveryPending eventId (sampleRouting «namespace»).routingChecksum "p0-test" 1
    (sampleRouting «namespace»).topic

/-- A run goes on with the row of an accepted event. -/
theorem sampleCreated {config : JournalConfig} {tr : List JournalEvent} {j : LocalJournal}
    {eventId : String} {v : StoredEnvelope}
    (hrun : journalLts.Run (LocalJournal.open config) tr j)
    (hv : j.db.storedEnvelope.find? eventId = some v)
    (hnew : j.db.deliveryState.find? eventId = none) («namespace» : String) (now : Int) :
    ∃ t, journalLts.Run (LocalJournal.open config)
        (tr ++ [⟨.calm now, sampleCreate eventId «namespace», .updated⟩])
        { j with db := { j.db with deliveryState := t } } ∧
      j.db.deliveryState.Puts eventId (sampleRecord now eventId «namespace»).toRow t := by
  obtain ⟨t, hcreate, ht⟩ := createDeliveryPending_of_new (CallEnv.calm_faultless now) hv hnew
    (sampleRouting «namespace»).routingChecksum "p0-test" 1 (sampleRouting «namespace»).topic
  have hst : journalLts.step j ⟨.calm now, sampleCreate eventId «namespace», .updated⟩
      { j with db := { j.db with deliveryState := t } } := congrArg j.write hcreate
  exact ⟨t, hrun.snoc hst, ht⟩

/-- A sample event is ready when the gate is at it. -/
theorem sampleReady {svc : DeliveryService} {db : Db} {e «namespace» : String}
    {v : StoredEnvelope} {now : Int} (hsvc : svc.shutdown = false)
    (hprofile : svc.profile = sampleProfile)
    (hrow : db.deliveryState.find? e = some (sampleRecord now e «namespace»).toRow)
    (hv : db.storedEnvelope.find? e = some v) (hinput : v.routingInput = sampleInput «namespace»)
    (hns : «namespace» ≠ "") (hgate : svc.gate.check v.streamKey v.streamSequence = .allowed) :
    svc.Ready db e v (sampleRecord now e «namespace») (sampleRouting «namespace») where
  running := hsvc
  delivery := ⟨hrow, sampleRecord_verifies now e «namespace»⟩
  envelope := hv
  unconfirmed := by
    show "DELIVERY_PENDING" ≠ "REPLICATED"
    decide
  unblocked := by
    show "DELIVERY_PENDING" ≠ "DELIVERY_BLOCKED"
    decide
  gate := hgate
  routed := by
    rw [hinput]
    exact resolveRouting_sample hns
  fingerprint := rfl
  profileId := by
    rw [hprofile]
    rfl
  profileVersion := by
    rw [hprofile]
    rfl
  topic := rfl
  profile := by
    rw [hprofile]
    exact sampleProfile_safe

/-- The calls that accept a sample event and create its row. -/
def sampleClients (a : AcceptedEvent) : List JournalEvent :=
  [ ⟨.calm 10, .accept (sampleRequest "e1" "ns" 1), .accepted a⟩,
    ⟨.calm 20, sampleCreate "e1" "ns", .updated⟩ ]

/-- One event with its row, the first and only one of its stream. -/
theorem sampleJournal :
    ∃ a db v, journalLts.Run (LocalJournal.open {}) (sampleClients a) ⟨{}, db, false⟩ ∧
      db.storedEnvelope.rows = [v] ∧ v.eventId = "e1" ∧ v.routingInput = sampleInput "ns" ∧
      v.streamSequence = 1 ∧
      db.deliveryState.rows = [(sampleRecord 20 "e1" "ns").toRow] := by
  obtain ⟨db₁, a, hrun₁, hstep₁, -⟩ := sampleAccept (.nil : journalLts.Run _ [] _)
    (by decide : "e1" ≠ "") rfl (fun _ _ h => by cases h) "ns" 10
  have hnone : ∀ e, db₁.deliveryState.find? e = none := by
    intro e
    rw [hstep₁.deliveryState]
    rfl
  obtain ⟨t, hrun₂, ht⟩ := sampleCreated hrun₁ hstep₁.putsEnvelope.self (hnone "e1") "ns" 20
  exact ⟨a, _, _, hrun₂, hstep₁.storedEnvelope, rfl, rfl, rfl, ht.rows_eq fun e _ => hnone e⟩

/-- A journal and services with the sample profile. -/
def sampleStart (db : Db) : World := World.start ⟨{}, db, false⟩ fun _ => sampleProfile

/-- A new service is ready for the sample event. -/
theorem sampleStart_ready :
    ∃ a db v, journalLts.Run (LocalJournal.open {}) (sampleClients a) ⟨{}, db, false⟩ ∧
      (DeliveryService.new sampleProfile).Ready db "e1" v (sampleRecord 20 "e1" "ns")
        (sampleRouting "ns") ∧ db.storedEnvelope.rows = [v] ∧ v.streamSequence = 1 ∧
      db.deliveryState.rows = [(sampleRecord 20 "e1" "ns").toRow] := by
  obtain ⟨a, db, v, hrun, hrows, hid, hinput, hseq, hdelivery⟩ := sampleJournal
  have hv : db.storedEnvelope.find? v.eventId = some v :=
    KeyedTable.find?_of_mem (by rw [hrows]; simp)
  have hd : db.deliveryState.find? (sampleRecord 20 "e1" "ns").toRow.eventId =
      some (sampleRecord 20 "e1" "ns").toRow :=
    KeyedTable.find?_of_mem (by rw [hdelivery]; simp)
  rw [hid] at hv
  refine ⟨a, db, v, hrun, sampleReady rfl rfl hd hv hinput (by decide) ?_, hrows, hseq, hdelivery⟩
  have hkey : v.streamKey = "orders" := congrArg RoutingInput.streamKey hinput
  rw [hkey, hseq]
  rfl

/-- The new service sends the sample event and confirms it at offset 42. -/
theorem sampleStart_delivers : ∃ db tr w w', worldLts.Run (sampleStart db) tr w ∧
    worldLts.step w (.return 0 (.attemptDelivery "e1") (.replicated 0 42)) w' ∧
    ∀ request sendErr, .send 0 request (.error sendErr) ∉ tr := by
  obtain ⟨a, db, v, hrun, hready, -⟩ := sampleStart_ready
  have hreach : Reachable ⟨{}, db, false⟩ := ⟨_, _, hrun⟩
  have hc := hreach.consistent
  have hcalm := CallEnv.calm_faultless 30
  obtain ⟨payload, happroach⟩ := hready.approach (w := sampleStart db) (i := 0) hc hcalm rfl
  obtain ⟨request, t, t', hdeliver, -⟩ :=
    hready.deliver (w := sampleStart db) (i := 0) hc hcalm payload 0 42
  obtain ⟨w, hbefore, hret⟩ := Lts.Run.last (show worldLts.Run _ ([_, _] ++ [_]) _ from hdeliver)
  exact ⟨db, _, w, _, happroach.append hbefore, hret, by simp [approachTrace]⟩

/-- The scan of a journal with one delivery row. -/
theorem scanDeliveryGateStates_single {env : CallEnv} {db : Db} {s : DeliveryStateRecord}
    {v : StoredEnvelope} (henv : env.Faultless) (hc : db.Consistent)
    (hrows : db.deliveryState.rows = [s.toRow]) (hver : s.Verifies)
    (hv : db.storedEnvelope.find? s.eventId = some v) :
    scanDeliveryGateStates env db 10000 = .ok [(db.joinScanRow s.toRow).toPending] := by
  have hscan : db.scanRows = [db.joinScanRow s.toRow] := by
    unfold Db.scanRows
    rw [hrows]
    rfl
  have hselect : limitRows 10000 (orderBy (·.journalSequence) db.scanRows) =
      [db.joinScanRow s.toRow] := by
    rw [hscan]
    rfl
  unfold scanDeliveryGateStates
  rw [hselect]
  refine scanDeliveries_of_verified henv ?_ ?_
  · intro d hd
    rw [hrows, List.mem_singleton] at hd
    subst hd
    exact ⟨s, rfl, hver, v, hv, hc.envelope _ _ hv⟩
  · intro r hr
    rw [hscan]
    exact hr

omit [Sha256] in
/-- A gate rebuilt from one open row is at it. -/
theorem OrderingGate.check_recoverFromScan_single (gate : OrderingGate)
    {q : RecoveredStreamState} (hblocking : q.blocking = true) (hfl : q.inFlight = false) :
    (gate.recoverFromScan [q]).check q.streamKey q.streamSequence = .allowed := by
  show (OrderingGate.new.modify q.streamKey (·.recover q)).check _ _ = _
  rw [check_eq_allowed_iff, entry_modify, if_pos rfl]
  simp [StreamGateState.recover, StreamGateState.next, StreamGateState.fresh, hblocking, hfl]

/-- A service that recovers on a journal with one open sample row comes to send
its event. -/
theorem sampleRecovered {db : Db} {e «namespace» : String} {v : StoredEnvelope} {now : Int}
    (hc : db.Consistent)
    (hrows : db.deliveryState.rows = [(sampleRecord now e «namespace»).toRow])
    (hv : db.storedEnvelope.find? e = some v) (hinput : v.routingInput = sampleInput «namespace»)
    (hns : «namespace» ≠ "") :
    ∃ (out : List PendingDelivery) (payload : Bytes) (svc : DeliveryService),
      worldLts.Run (sampleStart db)
      (recoverTrace 0 (.calm 60) out ++ approachTrace 0 (.calm 60) e
        (v.candidate (sampleRecord now e «namespace»)) payload)
      ((sampleStart db).setThread 0 (.running (.attemptDelivery e)
        (svc.sendInFlight e (v.candidate (sampleRecord now e «namespace»))
          (sampleRouting «namespace») payload))) := by
  have hcalm := CallEnv.calm_faultless 60
  have hscan := scanDeliveryGateStates_single hcalm hc hrows
    (sampleRecord_verifies now e «namespace») hv
  have hrecover := worldRun_recover (w := sampleStart db) (i := 0) rfl hscan
  have hrow : db.deliveryState.find? e = some (sampleRecord now e «namespace»).toRow :=
    KeyedTable.find?_of_mem (t := db.deliveryState) (r := (sampleRecord now e «namespace»).toRow)
      (by rw [hrows]; simp)
  -- the one scanned row is open, so the gate is at the event it stands for
  have hlisted := Db.scans_joinScanRow (d := (sampleRecord now e «namespace»).toRow) hrow hv
  have hgate := OrderingGate.check_recoverFromScan_single OrderingGate.new
    (q := (db.joinScanRow (sampleRecord now e «namespace»).toRow).toPending.recovered) rfl rfl
  have hkey : (db.joinScanRow (sampleRecord now e «namespace»).toRow).toPending.recovered.streamKey
      = v.streamKey := hlisted.streamKey
  have hseq : (db.joinScanRow
      (sampleRecord now e «namespace»).toRow).toPending.recovered.streamSequence =
      v.streamSequence := hlisted.streamSequence
  rw [hkey, hseq] at hgate
  have hready : ((DeliveryService.new sampleProfile).withGate (OrderingGate.new.recoverFromScan
      [(db.joinScanRow (sampleRecord now e «namespace»).toRow).toPending.recovered])).Ready
      db e v (sampleRecord now e «namespace») (sampleRouting «namespace») :=
    sampleReady rfl rfl hrow hv hinput hns hgate
  obtain ⟨payload, happroach⟩ := hready.approach (w := (sampleStart db).setThread 0 (.idle _))
    hc hcalm (World.setThread_self _ _ _)
  have hsame := World.setThread_setThread (sampleStart db) (sampleStart db).journal 0
  exact ⟨_, payload, _, hsame _ _ ▸ hrecover.append happroach⟩

end CraftRelay
