import CraftRelay.Journal.Tampering
import CraftRelay.Journal.Vouching

/-!
# What the readers make of altered rows

The database is any database here, whatever was written to it from outside. The readers
recompute what they can of a row before they hand it out.
-/

namespace CraftRelay

/-! ## Envelopes -/

/-- Each scan answers about the first `limit` rows of its selection: it lists all of them
as they are stored and verified, or nothing. -/
theorem scans_fail_closed [Sha256] (env : CallEnv) (db : Db) (now limit : Int)
    (hlimit : 0 ≤ limit) :
    (∃ ds, db.FirstBy (fun d => d.deliveryStatus = "DELIVERY_PENDING") db.journalSequenceOf
        limit ds ∧ db.Answers env ds (scanPendingDeliveries env db limit)) ∧
      (∃ ds, db.FirstBy (fun d => d.deliveryStatus = "DELIVERY_RETRYING" &&
          d.nextRetryAtMs.any (· ≤ now)) (·.nextRetryAtMs) limit ds ∧
        db.Answers env ds (scanRetryingDeliveries env db now limit)) ∧
      ∃ ds, db.FirstBy (fun _ => true) db.journalSequenceOf limit ds ∧
        db.Answers env ds (scanDeliveryGateStates env db limit) := by
  refine ⟨db.scan_answers env hlimit (fun _ => rfl) fun _ => rfl,
    db.scan_answers env hlimit (fun _ => rfl) fun _ => rfl, ?_⟩
  -- the gate scan has no `WHERE`
  have hall : db.scanRows = db.scanRows.filter fun _ => true := (List.filter_true _).symm
  unfold scanDeliveryGateStates
  rw [hall]
  exact db.scan_answers env hlimit (fun _ => rfl) fun _ => rfl

/-- A pending row without its envelope, which sorts first. -/
def orphanDelivery : DeliveryState where
  eventId := "e1"
  deliveryStatus := "DELIVERY_PENDING"
  attemptCount := 0
  nextRetryAtMs := none
  lastError := none
  blockedReason := none
  kafkaTopic := some "t"
  kafkaPartition := none
  kafkaOffset := none
  routingFingerprint := none
  profileId := none
  profileVersion := none
  deliveryRevision := 1
  deliveryChecksum := []
  confirmedAtMs := none
  createdAtMs := 0
  updatedAtMs := 0

theorem scans_fail_closed_orphan :
    ∃ db : Db, orphanDelivery ∈ db.deliveryState.rows ∧
      ∃ ds, db.FirstBy (fun d => d.deliveryStatus = "DELIVERY_PENDING") db.journalSequenceOf 1 ds ∧
        @Db.Answers fipsSha256 ⟨0, true, fun _ => none⟩ db ds
          (@scanPendingDeliveries fipsSha256 ⟨0, true, fun _ => none⟩ db 1) :=
  ⟨{ Db.empty with deliveryState := ⟨[orphanDelivery], by simp⟩ }, by simp,
    (@scans_fail_closed fipsSha256 ⟨0, true, fun _ => none⟩ _ 0 1 (by decide)).1⟩

/-! ## Payloads -/

/-- The verifiers vouch for nothing the reader refuses, exactly when a payload that carries
its own digest has an envelope with the same one; `accept` needs that only of the events it
knows. -/
theorem payload_verifiers_agree_iff [Sha256] (db : Db) (e : String) :
    (db.VerifiedIsRead e ∧ db.DuplicateIsRead e ↔ db.DigestsAgree e) ∧
      (db.DuplicateIsRead e ↔ (e ≠ "" → db.KnowsEvent e → db.DigestsAgree e)) := by
  refine ⟨?_, Db.duplicateIsRead_iff⟩
  rw [Db.verifiedIsRead_iff, Db.duplicateIsRead_iff]
  constructor
  · intro h
    exact h.1
  · intro h
    exact ⟨h, fun _ _ => h⟩

/-- `UPDATE payload_blob SET payload = …, payload_digest = … WHERE event_id = …`, with the
digest of the new payload. -/
def Db.replacePayload [Sha256] (db : Db) (e : String) (payload : Bytes) : Db :=
  { db with
    payloadBlob := db.payloadBlob.updateWhere (fun b => b.eventId = e)
      (fun b => { b with payload := payload, payloadDigest := (computeSha256 payload).val })
      fun _ _ => rfl }

/-- The sample event, its payload replaced with one of another digest. -/
theorem sampleRun_replaced [Sha256] (hdigest : computeSha256 [9] ≠ computeSha256 [1, 2, 3]) :
    ∃ db : Db, Reachable ⟨{}, db, false⟩ ∧
      verifyPayload (.calm 20) (db.replacePayload "e1" [9]) "e1" = .ok ∧
      (∃ j' a, LocalJournal.accept ⟨{}, db.replacePayload "e1" [9], false⟩ (.calm 20)
        (sampleRequest "e1" "ns" 1) = some (j', .existingDuplicate a)) ∧
      readVerifiedPayload (.calm 20) (db.replacePayload "e1" [9]) "e1" =
        .corrupted "e1" "payload blob digest differs from stored envelope digest" := by
  obtain ⟨db, a₀, hrun, hstep, -⟩ := @sampleAccept _ [] .empty "e1" 1 .nil (by decide) rfl
    (fun _ _ h => by cases h) "ns" 10
  have hreach : Reachable ⟨{}, db, false⟩ := ⟨_, _, hrun⟩
  have hcalm := CallEnv.calm_faultless 20
  have hv : db.storedEnvelope.find? "e1" = some _ := hstep.putsEnvelope.self
  have hb : db.payloadBlob.find? "e1" = some _ := hstep.putsPayload.self
  obtain ⟨l, hst⟩ := hreach.consistent.hasStatus hv
  have hb' : (db.replacePayload "e1" [9]).payloadBlob.find? "e1" =
      some ⟨"e1", [9], (computeSha256 [9]).val⟩ := by
    unfold Db.replacePayload
    rw [KeyedTable.find?_updateWhere, hb]
    rfl
  have hblob : (db.replacePayload "e1" [9]).BlobVerifies "e1" := ⟨_, hb', rfl⟩
  refine ⟨db, hreach, ?_, ?_, ?_⟩
  · exact verifyPayload_eq_ok.mpr ⟨hcalm _, hblob⟩
  · -- the other tables are those of the accepted event
    have hst' : (db.replacePayload "e1" [9]).HasStatus "e1" _ l :=
      ⟨hst.envelope, hst.lifecycle, hst.envelopeVerifies, hst.lifecycleVerifies⟩
    have hrow : (db.replacePayload "e1" [9]).dedupFingerprint.find? "e1" = some _ :=
      hstep.putsDedup.self
    exact accept_of_known ⟨_, l, hst'⟩ hrow rfl hblob hcalm
      (sampleRequest_admissible (by decide) "ns" 1 20 _)
  · exact readVerifiedPayload_of_differ ⟨hcalm _, hcalm _⟩ hv hb' (computeSha256 _).property
      (computeSha256 _).property fun h => hdigest (Subtype.ext h)

/-- A payload replaced with its digest: `verify_payload` and `accept` vouch for it. -/
theorem replaced_payload_vouched :
    ∃ db : Db, @Reachable fipsSha256 ⟨{}, db, false⟩ ∧
      ¬ (@Db.VerifiedIsRead fipsSha256 (@Db.replacePayload fipsSha256 db "e1" [9]) "e1") ∧
      ¬ (@Db.DuplicateIsRead fipsSha256 (@Db.replacePayload fipsSha256 db "e1" [9]) "e1") := by
  have hdigest : @computeSha256 fipsSha256 [9] ≠ @computeSha256 fipsSha256 [1, 2, 3] := by
    decide +kernel
  obtain ⟨db, hreach, hverify, ⟨j', a, hdup⟩, hread⟩ := @sampleRun_replaced fipsSha256 hdigest
  have hcalm := CallEnv.calm_faultless 20
  refine ⟨db, hreach, ?_, ?_⟩
  · intro h
    obtain ⟨payload, hfound⟩ := h _ _ ⟨hcalm _, hcalm _⟩ hverify
    rw [hread] at hfound
    cases hfound
  · intro h
    obtain ⟨payload, hfound⟩ := h _ j' _ (.calm 20) _ a rfl rfl ⟨hcalm _, hcalm _⟩ hdup
    obtain ⟨-, -, -, log, hlog⟩ := @LocalJournal.accept_duplicate_vouches fipsSha256 _ _ _ _ _ hdup
    rw [hlog] at hfound
    cases hread.symm.trans hfound

end CraftRelay
