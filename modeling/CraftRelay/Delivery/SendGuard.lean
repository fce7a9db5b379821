import CraftRelay.Delivery.Progress

/-!
# What a send has passed

`attempt_delivery` reads the candidate, checks routing and profile, reads the
payload and sends. Whatever the database holds, the one send of the method is
reached only with a delivery row and an envelope that verify, the payload whose
digest both of them carry, and the routing and profile the row was created with.
-/

namespace CraftRelay

/-- The operation is a send. -/
def Effect.IsSend : Effect → Prop
  | .send _ => True
  | _ => False

instance : DecidablePred Effect.IsSend := fun e =>
  match e with
  | .journal _ => inferInstanceAs (Decidable False)
  | .send _ => inferInstanceAs (Decidable True)
  | .clock => inferInstanceAs (Decidable False)

/-! ## At most one send -/

namespace DeliveryService

variable (svc : DeliveryService) (e : String)

/-- Nothing of the service sends but `sendInFlight`. -/
theorem blockAndMark_noSend (streamKey : String) (streamSequence rev : Int) (reason : String) :
    (svc.blockAndMark e streamKey streamSequence rev reason).AtMost Effect.IsSend 0 := by
  refine .other (fun h => h) fun r => ?_
  cases r <;> exact .done _ _

theorem confirmSent_noSend (candidate : DeliveryCandidate) (routing : RoutingResolution)
    (success : SendSuccess) :
    (svc.confirmSent e candidate routing success).AtMost Effect.IsSend 0 := by
  refine .other (fun h => h) fun r => ?_
  cases r <;> exact .done _ _

theorem retryOrBlock_noSend (candidate : DeliveryCandidate) (sendErr : SendError)
    (nowMs : Int) : (svc.retryOrBlock e candidate sendErr nowMs).AtMost Effect.IsSend 0 := by
  unfold DeliveryService.retryOrBlock
  simp only
  split
  · split
    · refine .other (fun h => h) fun r => ?_
      cases r <;> exact .done _ _
    · exact svc.blockAndMark_noSend _ _ _ _ _
  · exact svc.blockAndMark_noSend _ _ _ _ _

theorem recordFailure_noSend (candidate : DeliveryCandidate) (routing : RoutingResolution)
    (sendErr : SendError) :
    (svc.recordFailure e candidate routing sendErr).AtMost Effect.IsSend 0 := by
  refine .other (fun h => h) fun nowMs => .other (fun h => h) fun r => ?_
  cases r with
  | updated => exact svc.retryOrBlock_noSend _ _ _ _
  | _ => exact .done _ _

theorem sendPayload_oneSend (candidate : DeliveryCandidate) (routing : RoutingResolution) :
    (svc.sendPayload e candidate routing).AtMost Effect.IsSend 1 := by
  refine .other (fun h => h) fun r => ?_
  cases r with
  | found payload =>
      refine .counted fun r => ?_
      cases r with
      | ok success => exact DeliveryService.confirmSent_noSend _ _ _ _ _
      | error sendErr => exact DeliveryService.recordFailure_noSend _ _ _ _ _
  | _ => exact .done _ _

variable [Sha256]

theorem attemptDelivery_oneSend : (svc.attemptDelivery e).AtMost Effect.IsSend 1 := by
  unfold DeliveryService.attemptDelivery
  split
  · exact .done _ _
  refine .other (fun h => h) fun r => ?_
  cases r with
  | found candidate =>
      show (svc.deliverCandidate e candidate).AtMost Effect.IsSend 1
      unfold DeliveryService.deliverCandidate
      split
      · exact .done _ _
      unfold DeliveryService.deliverAllowed
      simp only
      split
      · split <;> exact .done _ _
      split
      · exact .done _ _
      split
      · exact (svc.blockAndMark_noSend _ _ _ _ _).mono (Nat.zero_le 1)
      · exact svc.sendPayload_oneSend _ _ _
  | _ => exact .done _ _

/-! ## The checks before the send -/

variable {svc e}

/-- The checks passed: routing, fingerprint, profile and topic are those of the row, and
the profile is a production profile. -/
theorem checkBeforeSend_eq_ok {candidate : DeliveryCandidate} {routing : RoutingResolution}
    (h : svc.checkBeforeSend candidate = .ok routing) :
    resolveRouting candidate.routingInput = .ok routing ∧
      candidate.deliveryState.routingFingerprint = some routing.routingChecksum ∧
      (candidate.deliveryState.profileId = some svc.profile.profileId ∧
        candidate.deliveryState.profileVersion = some svc.profile.profileVersion) ∧
      candidate.deliveryState.kafkaTopic = some routing.topic ∧
      validateP0ProductionProfile svc.profile = .ok () := by
  unfold DeliveryService.checkBeforeSend at h
  obtain ⟨routing', hrouted, h⟩ := Except.bind_eq_ok_iff.mp h
  obtain ⟨hfingerprint, h⟩ := Except.check_eq_ok_iff.mp h
  obtain ⟨hprofile, h⟩ := Except.check_eq_ok_iff.mp h
  obtain ⟨htopic, h⟩ := Except.check_eq_ok_iff.mp h
  obtain ⟨hsafe, h⟩ := Except.check_eq_ok_iff.mp h
  cases h
  rw [Except.mapError_eq_ok_iff] at hrouted hsafe
  simp only [require_eq_ok, Bool.and_eq_true, beq_iff_eq] at hfingerprint hprofile htopic
  exact ⟨hrouted, hfingerprint, hprofile, htopic, hsafe⟩

/-- What the database and the service hold when the service sends `q` for the event. -/
structure Cleared (svc : DeliveryService) (db : Db) (e : String) (q : SendRequest)
    (s : DeliveryStateRecord) (v : StoredEnvelope) (b : PayloadBlob)
    (routing : RoutingResolution) : Prop where
  row : db.deliveryState.find? e = some s.toRow
  checksum : s.deliveryChecksum = computeDeliveryChecksum s
  shape : validateDeliveryStateInvariants s = .ok ()
  status : s.deliveryStatus = "DELIVERY_PENDING" ∨ s.deliveryStatus = "DELIVERY_RETRYING"
  envelope : db.storedEnvelope.find? e = some v
  envelopeChecksum : v.Verifies
  blob : db.payloadBlob.find? e = some b
  payload : q.payload = b.payload
  digest : (computeSha256 q.payload).val = b.payloadDigest ∧ b.payloadDigest = v.payloadDigest
  routed : resolveRouting v.routingInput = .ok routing
  request : q.eventId = e ∧ q.topic = routing.topic ∧ q.partitionKey = routing.partitionKey
  fingerprint : s.routingFingerprint = some routing.routingChecksum
  topic : s.kafkaTopic = some routing.topic
  profileId : s.profileId = some svc.profile.profileId
  profileVersion : s.profileVersion = some svc.profile.profileVersion
  profile : validateP0ProductionProfile svc.profile = .ok ()

end DeliveryService

theorem DeliveryCandidate.Describes.routingInput_eq {c : DeliveryCandidate} {v : StoredEnvelope}
    (h : c.Describes v) : c.routingInput = v.routingInput := by
  unfold DeliveryCandidate.routingInput StoredEnvelope.routingInput
  rw [h.installationId, h.namespace, h.logicalStreamType, h.streamKey, h.eventType,
    h.routingVersion]

namespace DeliveryService

variable [Sha256] {svc : DeliveryService} {e : String} {j j' : LocalJournal}
  {tr : List ((o : Effect) × o.Reply)} {q : SendRequest}
  {k : Except SendError SendSuccess → ServiceProg DeliveryOutcome}

/-- What is sent is the payload that was read; after the send there is no other. -/
theorem sendPayload_send {candidate : DeliveryCandidate} {routing : RoutingResolution}
    (hrun : Prog.Run EffectStep (svc.sendPayload e candidate routing) j tr
      (.op (.send q) k) j') :
    j' = j ∧ ∃ env payload, readVerifiedPayload env j.db e = .found payload ∧
      q = svc.sendRequest e routing payload := by
  obtain ⟨-, h, -⟩ | ⟨r, j₁, tr', -, ⟨env, hexec⟩, hrun⟩ := hrun.op_inv
  · cases h
  obtain ⟨rfl, rfl⟩ := LocalJournal.read_eq_some hexec
  cases hread : readVerifiedPayload env j.db e with
  | found payload =>
      rw [hread] at hrun
      obtain ⟨-, h, rfl⟩ | ⟨r, j₂, tr₂, -, -, hrun⟩ := hrun.op_inv
      · cases h
        exact ⟨rfl, env, payload, hread, rfl⟩
      · -- the send is behind: what follows it holds no other
        have hrest : Prog.AtMost Effect.IsSend 0
            (.op (.send q) k : ServiceProg DeliveryOutcome) := by
          cases r with
          | ok success =>
              obtain ⟨m, hm, hle⟩ := (confirmSent_noSend _ _ _ _ _).run hrun
              exact hm.mono (by omega)
          | error sendErr =>
              obtain ⟨m, hm, hle⟩ := (recordFailure_noSend _ _ _ _ _).run hrun
              exact hm.mono (by omega)
        exact absurd trivial hrest.not_at
  | notFound | corrupted | error =>
      rw [hread] at hrun
      cases hrun.done_inv.2.1

/-- A candidate that comes to a send has passed the checks before it. -/
theorem deliverCandidate_send {candidate : DeliveryCandidate}
    (hrun : Prog.Run EffectStep (svc.deliverCandidate e candidate) j tr
      (.op (.send q) k) j') :
    j' = j ∧ candidate.deliveryState.deliveryStatus ≠ "REPLICATED" ∧
      candidate.deliveryState.deliveryStatus ≠ "DELIVERY_BLOCKED" ∧
      ∃ routing env payload, svc.checkBeforeSend candidate = .ok routing ∧
        readVerifiedPayload env j.db e = .found payload ∧
        q = svc.sendRequest e routing payload := by
  unfold DeliveryService.deliverCandidate at hrun
  split at hrun
  · cases hrun.done_inv.2.1
  unfold DeliveryService.deliverAllowed at hrun
  simp only at hrun
  split at hrun
  · split at hrun <;> cases hrun.done_inv.2.1
  rename_i hrep
  split at hrun
  · cases hrun.done_inv.2.1
  rename_i hblocked
  split at hrun
  · obtain ⟨m, hm, hle⟩ := (blockAndMark_noSend _ _ _ _ _ _).run hrun
    exact absurd trivial (hm.mono (Nat.le_of_add_left_le hle)).not_at
  · rename_i routing hcheck
    obtain ⟨hj, env, payload, hread, hq⟩ := sendPayload_send hrun
    exact ⟨hj, hrep, hblocked, routing, env, payload, hcheck, hread, hq⟩

/-- A call that comes to its send has not changed the journal, and what it sends is
cleared there. -/
theorem attemptDelivery_send
    (hrun : Prog.Run EffectStep (svc.attemptDelivery e) j tr (.op (.send q) k) j') :
    j' = j ∧ ∃ s v b routing, svc.Cleared j.db e q s v b routing := by
  unfold DeliveryService.attemptDelivery at hrun
  split at hrun
  · cases hrun.done_inv.2.1
  obtain ⟨-, h, -⟩ | ⟨r, j₁, tr', -, ⟨env, hexec⟩, hrun⟩ := hrun.op_inv
  · cases h
  obtain ⟨rfl, rfl⟩ := LocalJournal.read_eq_some hexec
  cases hload : loadDeliveryCandidate env j.db e with
  | found candidate =>
      rw [hload] at hrun
      obtain ⟨hj, hrep, hblocked, routing, env', payload, hcheck, hread, rfl⟩ :=
        deliverCandidate_send (show Prog.Run EffectStep (svc.deliverCandidate e candidate) j tr'
          _ j' from hrun)
      obtain ⟨hstate, -, v, hv, hver, hdesc⟩ := loadDeliveryCandidate_found_iff.mp hload
      obtain ⟨-, hrow, hstate⟩ := loadDeliveryState_found_iff.mp hstate
      obtain ⟨-, v', b, hv', hb, rfl, hdigest, henvelope⟩ := readVerifiedPayload_found_iff.mp hread
      rw [hv] at hv'
      cases hv'
      obtain ⟨hrouted, hfingerprint, hprofile, htopic, hsafe⟩ := checkBeforeSend_eq_ok hcheck
      rw [hdesc.routingInput_eq] at hrouted
      refine ⟨hj, candidate.deliveryState, v, b, routing, ?_⟩
      exact {
        row := hrow
        checksum := hstate.checksum
        shape := validateDeliveryStateInvariants_ok.mpr hstate.shape
        status := by
          obtain h | h | h | h := hstate.status_cases
          · exact .inl h
          · exact .inr h
          · exact absurd h hrep
          · exact absurd h hblocked
        envelope := hv
        envelopeChecksum := hver
        blob := hb
        payload := rfl
        digest := ⟨hdigest.symm, henvelope⟩
        routed := hrouted
        request := ⟨rfl, rfl, rfl⟩
        fingerprint := hfingerprint
        topic := htopic
        profileId := hprofile.1
        profileVersion := hprofile.2
        profile := hsafe }
  | notFound | corrupted | error =>
      rw [hload] at hrun
      cases hrun.done_inv.2.1

/-- A ready event comes to its send. -/
theorem Ready.sends {env : CallEnv} {v : StoredEnvelope} {s : DeliveryStateRecord}
    {routing : RoutingResolution} (h : svc.Ready j.db e v s routing) (hc : j.db.Consistent)
    (henv : env.Faultless) :
    ∃ tr payload, Prog.Run EffectStep (svc.attemptDelivery e) j tr
      (svc.sendInFlight e (v.candidate s) routing payload) j := by
  have hfound := StoredEnvelope.candidate_found henv h.delivery h.envelope
    (hc.envelope _ _ h.envelope)
  obtain ⟨payload, hpayload⟩ := hc.payload_found henv h.envelope
  have hstep₁ : EffectStep j (.journal (.getDeliveryCandidate e)) (.found (v.candidate s)) j :=
    ⟨env, congrArg (fun r => some (j, r)) hfound⟩
  have hstep₂ : EffectStep j (.journal (.readVerifiedPayload e)) (.found payload) j :=
    ⟨env, congrArg (fun r => some (j, r)) hpayload⟩
  have hread : Prog.Run EffectStep (svc.sendPayload e (v.candidate s) routing) j
      [⟨.journal (.readVerifiedPayload e), .found payload⟩]
      (svc.sendInFlight e (v.candidate s) routing payload) j := .op hstep₂ (.refl _ _)
  rw [← h.resolveCandidate] at hread
  rw [h.attemptDelivery]
  exact ⟨_, payload, .op hstep₁ hread⟩

end DeliveryService

end CraftRelay
