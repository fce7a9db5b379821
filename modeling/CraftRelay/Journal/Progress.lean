import CraftRelay.Journal.DeliveryRows

/-!
# Calls that go through

The converse of the inversions: when the rows a call needs are there and verify,
its revision is current and its statements do not fail, it answers `Accepted` or
`Updated` and does what `DbStep` says. With the invariants of the acceptance
tables this makes an admissible request for a new event an accepted one in every
reachable journal.
-/

namespace CraftRelay

variable [Sha256]

/-! ## Reads -/

/-- Verified rows are reported. -/
theorem Db.HasStatus.reports {db : Db} {eventId : String} {v : StoredEnvelope}
    {l : LifecycleState} (h : db.HasStatus eventId v l) : ∃ st : PersistedStatus, st.Reports v l := by
  obtain ⟨-, pd, rf, hpd, -, hec⟩ := h.envelopeVerifies
  exact ⟨⟨v.eventId, v.journalSequence, v.streamSequence, l.revision, _, l.deliveryStatus,
    l.retentionStatus, pd, _⟩, rfl, rfl, rfl, rfl, h.lifecycleVerifies.checksum, rfl, rfl, hpd,
    hec⟩

/-- A status that is there and verifies is found. -/
theorem Db.HasStatus.found {env : CallEnv} {db : Db} {eventId : String} {v : StoredEnvelope}
    {l : LifecycleState} {st : PersistedStatus} (h : db.HasStatus eventId v l)
    (hrep : st.Reports v l) (h1 : env.fault .selectStatus = none)
    (h2 : env.fault .selectEnvelopeRow = none) : getStatusImpl env db eventId = .found st :=
  getStatusImpl_found_iff.mpr ⟨⟨h1, h2⟩, v, l, h.envelope, h.lifecycle, h.envelopeVerifies,
    h.lifecycleVerifies, hrep⟩

theorem Db.HasDelivery.found {env : CallEnv} {db : Db} {eventId : String}
    {s : DeliveryStateRecord} (h : db.HasDelivery eventId s)
    (hfault : env.fault .selectDeliveryState = none) :
    loadDeliveryState env db eventId = .found s :=
  loadDeliveryState_found_iff.mpr ⟨hfault, h.row, h.verifies⟩

/-- In a consistent database every envelope has its verified status. -/
theorem Db.Consistent.hasStatus {db : Db} (hc : db.Consistent) {eventId : String}
    {v : StoredEnvelope} (hv : db.storedEnvelope.find? eventId = some v) :
    ∃ l, db.HasStatus eventId v l := by
  have hl := hc.lifecycle eventId
  rw [hv] at hl
  obtain ⟨l, hl⟩ := Option.isSome_iff_exists.mp hl
  exact ⟨l, hv, hl, hc.envelope _ _ hv, hc.lifecycleVerifies _ _ hl⟩

/-! ## Accept -/

omit [Sha256] in
theorem Db.insertReferencing_of_new {ρ : Type} {key : ρ → String} {db : Db} {table : String}
    {t : KeyedTable key} {r : ρ} (hnew : t.find? (key r) = none)
    (hfk : (db.storedEnvelope.find? (key r)).isSome) :
    ∃ t', db.insertReferencing table t r = .ok t' := by
  obtain ⟨t', ht'⟩ := KeyedTable.insert?_of_new hnew
  refine ⟨t', ?_⟩
  unfold Db.insertReferencing
  rw [ht']
  exact if_pos hfk

omit [Sha256] in
/-- The next journal sequence is not in use. -/
theorem Db.Gapless.nextJournalSequence_unused {db : Db} (hg : db.Gapless) :
    db.nextJournalSequence ∉ db.storedEnvelope.rows.map (·.journalSequence) := by
  rw [hg.journal, hg.nextJournalSequence, mem_countUp]
  omega

omit [Sha256] in
theorem Db.insertStoredEnvelope_of_new {db : Db} {row : StoredEnvelope}
    (hseq : row.journalSequence ∉ db.storedEnvelope.rows.map (·.journalSequence))
    (hnew : db.storedEnvelope.find? row.eventId = none) :
    ∃ t, db.insertStoredEnvelope row = .ok { db with storedEnvelope := t } ∧
      (t.find? row.eventId).isSome := by
  obtain ⟨t, ht⟩ := KeyedTable.insert?_of_new hnew
  refine ⟨t, ?_, ?_⟩
  · unfold Db.insertStoredEnvelope
    rw [if_neg hseq, ht]
  · rw [KeyedTable.find?_append (KeyedTable.insert?_eq_some_iff.mp ht).2, if_pos rfl]
    rfl

/-- The event has no row in any acceptance table. -/
structure Db.Unknown (db : Db) (eventId : String) : Prop where
  storedEnvelope : db.storedEnvelope.find? eventId = none
  payloadBlob : db.payloadBlob.find? eventId = none
  lifecycleState : db.lifecycleState.find? eventId = none
  dedupFingerprint : db.dedupFingerprint.find? eventId = none

theorem Db.Consistent.unknown {db : Db} (hc : db.Consistent) {eventId : String}
    (h : db.storedEnvelope.find? eventId = none) : db.Unknown eventId := by
  refine ⟨h, ?_, ?_, ?_⟩
  · have hp := hc.payload eventId
    rw [h] at hp
    exact Option.map_eq_none_iff.mp hp
  · have hl := hc.lifecycle eventId
    rw [h] at hl
    exact Option.isNone_iff_eq_none.mp (by simpa using hl)
  · rw [hc.dedup, h]
    rfl

/-- The five inserts go through for an unknown event. -/
theorem insertAcceptedRows_of_unknown {env : CallEnv} {db : Db} {req : AcceptRequest}
    {js ss : Int} (henv : env.Faultless)
    (hseq : js ∉ db.storedEnvelope.rows.map (·.journalSequence))
    (hnew : db.Unknown req.eventId) : ∃ tx, insertAcceptedRows env db req js ss = .ok tx := by
  have hse : ∃ t, db.insertStoredEnvelope (req.envelope env.nowMs js ss) =
      .ok { db with storedEnvelope := t } ∧ (t.find? req.eventId).isSome :=
    Db.insertStoredEnvelope_of_new hseq hnew.storedEnvelope
  obtain ⟨se, hse, hfk⟩ := hse
  -- once the envelope is in, the foreign keys of the other tables are satisfied
  have hins : ∀ {ρ : Type} {key : ρ → String} (db' : Db) (table : String) (t : KeyedTable key)
      (r : ρ), key r = req.eventId → db'.storedEnvelope = se → t.find? req.eventId = none →
      ∃ t', db'.insertReferencing table t r = .ok t' := by
    intro ρ key db' table t r hkey hse' hnone
    refine Db.insertReferencing_of_new ?_ ?_
    · rw [hkey]
      exact hnone
    · rw [hkey, hse']
      exact hfk
  unfold insertAcceptedRows
  refine Except.exists_ok_bind ((henv.run _ _).trans hse) ?_
  obtain ⟨pb, hpb⟩ := hins { db with storedEnvelope := se } "payload_blob" db.payloadBlob
    ⟨req.eventId, req.payload, (computeSha256 req.payload).val⟩ rfl rfl hnew.payloadBlob
  refine Except.exists_ok_bind ((henv.run _ _).trans hpb) ?_
  obtain ⟨ls, hls⟩ := hins { db with storedEnvelope := se, payloadBlob := pb } "lifecycle_state"
    db.lifecycleState ⟨req.eventId, 1,
      (computeLifecycleChecksum req.eventId 1 "LOCAL_ACCEPTED" "PRESENT").val,
      "LOCAL_ACCEPTED", "PRESENT", env.nowMs⟩ rfl rfl hnew.lifecycleState
  refine Except.exists_ok_bind ((henv.run _ _).trans hls) ?_
  obtain ⟨df, hdf⟩ := hins { db with
      storedEnvelope := se, payloadBlob := pb, lifecycleState := ls } "dedup_fingerprint"
    db.dedupFingerprint ⟨req.eventId, req.requestFingerprint.val⟩ rfl rfl hnew.dedupFingerprint
  refine Except.exists_ok_bind ((henv.run _ _).trans hdf) ?_
  exact ⟨_, henv.run _ _⟩

/-- A request the admission checks let through. -/
structure AcceptRequest.Admissible (req : AcceptRequest) (j : LocalJournal) (env : CallEnv) :
    Prop where
  open_ : j.shutdown = false
  disk : env.diskSafe = true
  size : req.payload.length ≤ j.config.maxPayloadBytes
  eventId : req.eventId ≠ ""
  installationId : req.installationId ≠ ""

theorem AcceptRequest.Admissible.accept_eq {req : AcceptRequest} {j : LocalJournal}
    {env : CallEnv} (h : req.Admissible j env) :
    j.accept env req = (acceptTransaction env j.db req).map
      fun result => ({ j with db := result.1 }, result.2) := by
  have hids : ¬ (req.eventId = "" ∨ req.installationId = "") := by
    rintro (h' | h')
    · exact h.eventId h'
    · exact h.installationId h'
  unfold LocalJournal.accept
  rw [h.open_, h.disk, if_neg (by simp), if_neg (by simp), if_neg (Nat.not_lt.mpr h.size),
    if_neg hids]

omit [Sha256] in
theorem checkProducerSequence_of_above {env : CallEnv} {db : Db} {producerKey : String}
    {seq : Int} (eventId : String) (henv : env.Faultless)
    (hseq : ∀ row, db.producerSequence.find? producerKey = some row → row.highestSeq < seq) :
    checkProducerSequence env db producerKey seq eventId = .ok none := by
  unfold checkProducerSequence
  rw [CallEnv.run_of_none _ (henv _)]
  cases hrow : db.producerSequence.find? producerKey with
  | none => rfl
  | some row =>
      have hlt := hseq row hrow
      have hcond : ¬ (seq ≤ row.highestSeq ∧ row.lastEventId ≠ eventId) := fun h => by omega
      exact if_neg hcond

/-- The transaction accepts an unknown event with a new producer sequence. -/
theorem acceptTransaction_of_new {env : CallEnv} {db : Db} {req : AcceptRequest}
    (hg : db.Gapless) (hc : db.Consistent) (henv : env.Faultless)
    (hnew : db.storedEnvelope.find? req.eventId = none)
    (hseq : ∀ row, db.producerSequence.find? req.formattedProducerKey = some row →
      row.highestSeq < req.producerOperationSequence) :
    ∃ db' a, acceptTransaction env db req = some (db', .accepted a) ∧
      AcceptedStep env.nowMs db req a db' := by
  have hunknown := hc.unknown hnew
  have hdedup : checkDedup env db req.eventId req.requestFingerprint = .ok .new := by
    unfold checkDedup
    rw [henv.run, hunknown.dedupFingerprint]
  have hprod := checkProducerSequence_of_above req.eventId henv hseq
  have hjs : allocateJournalSequence env db = some db.nextJournalSequence := by
    unfold allocateJournalSequence
    rw [henv.run]
    rfl
  have hss : allocateStreamSequence env db req.formattedStreamKey =
      .ok ({ db with
        streamHead := db.streamHead.upsert
          ⟨req.formattedStreamKey, db.nextStreamSequence req.formattedStreamKey⟩ },
        db.nextStreamSequence req.formattedStreamKey) := by
    unfold allocateStreamSequence
    simp only [henv.run]
    rfl
  have hrows : ∃ tx, insertAcceptedRows env
      { db with
        streamHead := db.streamHead.upsert
          ⟨req.formattedStreamKey, db.nextStreamSequence req.formattedStreamKey⟩ } req
      db.nextJournalSequence (db.nextStreamSequence req.formattedStreamKey) = .ok tx :=
    insertAcceptedRows_of_unknown henv hg.nextJournalSequence_unused ⟨hunknown.1, hunknown.2,
      hunknown.3, hunknown.4⟩
  obtain ⟨tx, htx⟩ := hrows
  have hnewly : ∃ db' a, acceptTransaction env db req = some (db', .accepted a) := by
    unfold acceptTransaction acceptNew
    simp only [henv.run, hdedup, hprod, hjs, hss, htx]
    exact ⟨_, _, rfl⟩
  -- that it was accepted says what it did, by the inversion of the transaction
  obtain ⟨db', a, hacc⟩ := hnewly
  refine ⟨db', a, hacc, ?_⟩
  rcases acceptTransaction_cases hacc with ⟨a', ha', hstep⟩ | ⟨hno, -⟩
  · cases ha'
    exact hstep
  · exact absurd rfl (hno a)

/-- An admissible request for an unknown event with a new producer sequence is
accepted. -/
theorem accept_of_new {j : LocalJournal} {env : CallEnv} {req : AcceptRequest}
    (hg : j.db.Gapless) (hc : j.db.Consistent) (henv : env.Faultless)
    (hadm : req.Admissible j env) (hnew : j.db.storedEnvelope.find? req.eventId = none)
    (hseq : ∀ row, j.db.producerSequence.find? req.formattedProducerKey = some row →
      row.highestSeq < req.producerOperationSequence) :
    ∃ db' a, j.exec env (.accept req) = some ({ j with db := db' }, .accepted a) ∧
      AcceptedStep env.nowMs j.db req a db' := by
  obtain ⟨db', a, htx, hstep⟩ := acceptTransaction_of_new hg hc henv hnew hseq
  refine ⟨db', a, ?_, hstep⟩
  show j.accept env req = _
  rw [hadm.accept_eq, htx]
  rfl

/-- A run goes on with the acceptance of a new event. -/
theorem journalRun_accept {config : JournalConfig} {tr : List JournalEvent} {j : LocalJournal}
    {env : CallEnv} {req : AcceptRequest}
    (hrun : journalLts.Run (LocalJournal.open config) tr j) (henv : env.Faultless)
    (hadm : req.Admissible j env) (hnew : j.db.storedEnvelope.find? req.eventId = none)
    (hseq : ∀ row, j.db.producerSequence.find? req.formattedProducerKey = some row →
      row.highestSeq < req.producerOperationSequence) :
    ∃ db' a, journalLts.Run (LocalJournal.open config)
        (tr ++ [⟨env, .accept req, .accepted a⟩]) { j with db := db' } ∧
      AcceptedStep env.nowMs j.db req a db' := by
  have hreach : Reachable j := ⟨config, tr, hrun⟩
  obtain ⟨db', a, hexec, hstep⟩ :=
    accept_of_new hreach.gapless hreach.consistent henv hadm hnew hseq
  exact ⟨db', a, hrun.snoc hexec, hstep⟩

/-! ## Accept of a stored event -/

/-- The stored event is answered from its rows when the fingerprint is the
stored one, and refused otherwise; only the audit log changes. -/
theorem acceptTransaction_of_stored {env : CallEnv} {db : Db} {req : AcceptRequest}
    {v : StoredEnvelope} (hc : db.Consistent) (henv : env.Faultless)
    (hv : db.storedEnvelope.find? req.eventId = some v) :
    ∃ log r, acceptTransaction env db req = some ({ db with writeAttempt := log }, r) ∧
      (v.requestFingerprint = req.requestFingerprint.val →
        ∃ a, r = .existingDuplicate a ∧ a.report = v.report) ∧
      (v.requestFingerprint ≠ req.requestFingerprint.val →
        r = .fingerprintConflict req.eventId) := by
  have hdedup : checkDedup env db req.eventId req.requestFingerprint =
      .ok (if v.requestFingerprint = req.requestFingerprint.val then .duplicate else .conflict) := by
    unfold checkDedup
    rw [henv.run, hc.dedup, hv]
    rfl
  by_cases hfp : v.requestFingerprint = req.requestFingerprint.val
  · rw [if_pos hfp] at hdedup
    -- the duplicate path re-verifies status and payload; both verify in a consistent database
    obtain ⟨l, hst⟩ := hc.hasStatus hv
    obtain ⟨st, hrep⟩ := hst.reports
    have hstatus := hst.found hrep (henv _) (henv _)
    have hpayload : verifyPayloadDigest env db req.eventId = .ok () := by
      rw [verifyPayloadDigest_eq_ok]
      have hp := hc.payload req.eventId
      rw [hv] at hp
      obtain ⟨b, hb, -⟩ := Option.map_eq_some_iff.mp hp
      exact ⟨henv _, b, hb, hc.payloadVerifies _ _ hb⟩
    obtain ⟨log, hlog⟩ := commitIgnored_recordAttempt env db req.eventId "EXISTING_DUPLICATE" none
    refine ⟨log, .existingDuplicate ⟨st.eventId, st.journalSequence, st.streamSequence,
      st.lifecycleRevision, st.envelopeChecksum, duplicateDeliveryStatus st.deliveryStatus⟩,
      ?_, ?_, ?_⟩
    · unfold acceptTransaction acceptDuplicate
      simp only [henv.run, hdedup, hstatus, hpayload, hlog]
    · intro _
      refine ⟨_, rfl, ?_⟩
      show (st.eventId, st.journalSequence, st.streamSequence, st.envelopeChecksum.val) = _
      rw [hrep.eventId, hrep.journalSequence, hrep.streamSequence, ← hrep.envelopeChecksum]
      rfl
    · intro hne
      exact absurd hfp hne
  · rw [if_neg hfp] at hdedup
    obtain ⟨log, hlog⟩ :=
      commitIgnored_recordAttempt env db req.eventId "FINGERPRINT_CONFLICT" none
    refine ⟨log, .fingerprintConflict req.eventId, ?_, ?_, ?_⟩
    · unfold acceptTransaction
      simp only [henv.run, hdedup, hlog]
    · intro h
      exact absurd h hfp
    · intro _
      rfl

/-! ## Compare-and-set -/

/-- `update_lifecycle` on the current revision. -/
theorem updateLifecycle_of_current {env : CallEnv} {db : Db} {eventId : String}
    {v : StoredEnvelope} {l : LifecycleState} (hst : db.HasStatus eventId v l)
    (hstatus : env.fault .selectStatus = none) (henvelope : env.fault .selectEnvelopeRow = none)
    (hupdate : env.fault .updateLifecycleState = none) (delivery : LocalDeliveryStatus)
    (retention : LocalRetentionStatus) :
    ∃ t, updateLifecycle env db eventId l.revision delivery retention =
        ({ db with lifecycleState := t }, .updated) ∧
      db.lifecycleState.Puts eventId (l.advance delivery.asStr retention.asStr env.nowMs) t := by
  obtain ⟨st, hrep⟩ := hst.reports
  have hfound := hst.found hrep hstatus henvelope
  obtain rfl : l.eventId = eventId := KeyedTable.key_of_find? hst.lifecycle
  obtain ⟨t, hupd, ht⟩ := Db.updateLifecycleState_puts hst.lifecycle
    (LifecycleState.setAll (l.revision + 1) (computeLifecycleChecksum l.eventId
      (l.revision + 1) delivery.asStr retention.asStr) delivery.asStr retention.asStr env.nowMs)
    fun _ => rfl
  refine ⟨t, ?_, ht⟩
  unfold updateLifecycle
  simp only [hfound, hrep.lifecycleRevision, CallEnv.run_of_none _ hupdate]
  rw [if_neg (by simp), hupd]
  rfl

/-- `create_delivery_pending` for an event with an envelope and no delivery row. -/
theorem createDeliveryPending_of_new {env : CallEnv} {db : Db} {eventId : String}
    {v : StoredEnvelope} (henv : env.Faultless)
    (hv : db.storedEnvelope.find? eventId = some v)
    (hnew : db.deliveryState.find? eventId = none) (fingerprint : Checksum)
    (profileId : String) (profileVersion : Int) (topic : String) :
    ∃ t, createDeliveryPending env db eventId fingerprint profileId profileVersion topic =
        ({ db with deliveryState := t }, .updated) ∧
      db.deliveryState.Puts eventId
        (pendingRow env.nowMs eventId fingerprint profileId profileVersion topic) t := by
  have hins : ∃ t, db.insertReferencing "delivery_state" db.deliveryState
      (pendingRow env.nowMs eventId fingerprint profileId profileVersion topic) = .ok t :=
    Db.insertReferencing_of_new hnew (by
      show (db.storedEnvelope.find? eventId).isSome
      rw [hv]
      rfl)
  obtain ⟨t, hins⟩ := hins
  have hrows := (KeyedTable.insert?_eq_some_iff.mp (Db.insertReferencing_eq_ok hins)).2
  refine ⟨t, ?_, KeyedTable.find?_append hrows⟩
  unfold createDeliveryPending
  rw [CallEnv.run_of_none _ (henv _), hv, CallEnv.run_of_none _ (henv _), hins]
  rfl

omit [Sha256] in
theorem CallEnv.exec_of_none {α : Type} {env : CallEnv} {s : Stmt} (x : α)
    (h : env.fault s = none) : env.exec s (.ok x) = .ok x :=
  CallEnv.exec_eq_ok.mpr ⟨h, rfl⟩

/-- The statements of a delivery transition, in the order of the source. -/
@[simp] def JournalCall.statements : JournalCall → List Stmt
  | .recordDeliveryAttempt _ =>
      [.begin, .selectDeliveryState, .insertDeliveryAttempt, .trimDeliveryAttempt,
        .updateDeliveryState, .commit]
  | .confirmReplicatedDelivery .. =>
      [.begin, .selectDeliveryState, .selectStatus, .selectEnvelopeRow, .updateDeliveryState,
        .updateLifecycleState, .commit]
  | .blockDelivery .. =>
      [.begin, .selectDeliveryState, .selectStatus, .selectEnvelopeRow, .updateDeliveryState,
        .updateLifecycleState, .commit]
  | .updateDeliveryRetry .. => [.selectDeliveryState, .updateDeliveryState]
  | _ => []

/-- None of the call's statements fails. -/
def CallEnv.Executes (env : CallEnv) (c : JournalCall) : Prop :=
  ∀ s ∈ c.statements, env.fault s = none

omit [Sha256] in
theorem CallEnv.Faultless.executes {env : CallEnv} (h : env.Faultless) (c : JournalCall) :
    env.Executes c := fun s _ => h s

omit [Sha256] in
theorem CallEnv.Executes.fault {env : CallEnv} {c : JournalCall} (h : env.Executes c) {s : Stmt}
    (hs : s ∈ c.statements) : env.fault s = none := h s hs

/-- `UPDATE delivery_state` on the revision that was loaded. -/
theorem Db.HasDelivery.updates {db : Db} {eventId : String} {s : DeliveryStateRecord}
    (hs : db.HasDelivery eventId s) (set : DeliveryState → DeliveryState)
    (hset : ∀ r, (set r).eventId = r.eventId) :
    ∃ t, db.updateDeliveryState eventId s.deliveryRevision set hset =
        ({ db with deliveryState := t }, 1) ∧ db.deliveryState.Puts eventId (set s.toRow) t :=
  Db.updateDeliveryState_puts hs.row set hset

/-- `record_delivery_attempt` on a row that verifies. -/
theorem recordDeliveryAttempt_of_found {env : CallEnv} {db : Db}
    {attempt : DeliveryAttemptRecord} {s : DeliveryStateRecord}
    (henv : env.Executes (.recordDeliveryAttempt attempt))
    (hs : db.HasDelivery attempt.eventId s)
    (hfk : (db.storedEnvelope.find? attempt.eventId).isSome) :
    ∃ t log, recordDeliveryAttempt env db attempt =
        ({ db with deliveryState := t, deliveryAttempt := log }, .updated) ∧
      db.deliveryState.Puts attempt.eventId
        (s.toRow.setAttempted attempt.errorCode
          (computeDeliveryChecksum (s.attempted attempt.errorCode env.nowMs)) env.nowMs) t := by
  have hload := DeliveryStateResult.orReturn_eq_ok.mpr (hs.found (henv.fault
    (by simp)))
  have hins : db.insertDeliveryAttempt attempt =
      .ok { db with deliveryAttempt := db.deliveryAttempt.insert attempt } := if_pos hfk
  have hlogged : ∀ log, ({ db with deliveryAttempt := log } : Db).HasDelivery
      attempt.eventId s := fun _ => ⟨hs.row, hs.verifies⟩
  obtain ⟨t, hupd, ht⟩ := (hlogged ((db.deliveryAttempt.insert attempt).trim
    (fun a => a.eventId = attempt.eventId) maxDeliveryAttempts)).updates
    (DeliveryState.setAttempted attempt.errorCode
      (computeDeliveryChecksum (s.attempted attempt.errorCode env.nowMs)) env.nowMs)
    fun _ => rfl
  refine ⟨t, (db.deliveryAttempt.insert attempt).trim (fun a => a.eventId = attempt.eventId)
    maxDeliveryAttempts, ?_, ht⟩
  unfold recordDeliveryAttempt
  simp (disch := exact henv.fault (by simp)) only [CallEnv.exec_of_none,
    hload, hins, hupd, bind, Except.bind]
  rfl

theorem Db.HasStatus.loadVerifiedLifecycle {env : CallEnv} {db : Db} {eventId : String}
    {v : StoredEnvelope} {l : LifecycleState} (h : db.HasStatus eventId v l)
    (h1 : env.fault .selectStatus = none) (h2 : env.fault .selectEnvelopeRow = none) :
    ∃ st, loadVerifiedLifecycleForTransition env db eventId = .ok st ∧ st.Reports v l := by
  obtain ⟨st, hrep⟩ := h.reports
  refine ⟨st, ?_, hrep⟩
  unfold loadVerifiedLifecycleForTransition
  rw [h.found hrep h1 h2]

/-- The lifecycle half of a delivery transition, on the status just loaded. -/
theorem updateLifecycleDeliveryStatus_of_current {env : CallEnv} {db : Db} {eventId : String}
    {st : PersistedStatus} {v : StoredEnvelope} {l : LifecycleState} (status : String)
    (hl : db.lifecycleState.find? eventId = some l) (hrep : st.Reports v l)
    (hupdate : env.fault .updateLifecycleState = none) :
    ∃ t, updateLifecycleDeliveryStatus env db eventId st status =
        .ok { db with lifecycleState := t } ∧
      db.lifecycleState.Puts eventId (l.advance status l.retentionStatus env.nowMs) t := by
  obtain rfl : l.eventId = eventId := KeyedTable.key_of_find? hl
  obtain ⟨t, hupd, ht⟩ := Db.updateLifecycleState_puts hl
    (LifecycleState.setDelivery (l.revision + 1) (computeLifecycleChecksum l.eventId
      (l.revision + 1) status l.retentionStatus) status env.nowMs) fun _ => rfl
  refine ⟨t, ?_, ht⟩
  unfold updateLifecycleDeliveryStatus
  simp only [hrep.lifecycleRevision, hrep.retentionStatus, hupd,
    CallEnv.exec_of_none _ hupdate, bind, Except.bind]
  rfl

/-- `confirm_replicated_delivery` on a current, matching row that is not
replicated. -/
theorem confirmReplicatedDelivery_of_current {env : CallEnv} {db : Db} {eventId : String}
    {s : DeliveryStateRecord} {v : StoredEnvelope} {l : LifecycleState}
    {k : ReplicatedDeliveryConfirmation}
    (henv : env.Executes (.confirmReplicatedDelivery eventId s.deliveryRevision k))
    (hs : db.HasDelivery eventId s)
    (hst : db.HasStatus eventId v l) (hstatus : s.deliveryStatus ≠ "REPLICATED")
    (hk : k.Matches s) :
    ∃ t t', confirmReplicatedDelivery env db eventId s.deliveryRevision k =
        ({ db with deliveryState := t, lifecycleState := t' }, .updated) ∧
      db.deliveryState.Puts eventId
        (s.replicated k (s.deliveryRevision + 1) env.nowMs).sealed.toRow t ∧
      db.lifecycleState.Puts eventId
        (l.advance "REPLICATED" l.retentionStatus env.nowMs) t' := by
  have hload := DeliveryStateResult.orReturn_eq_ok.mpr (hs.found (henv.fault
    (by simp)))
  obtain ⟨st, hlife, hrep⟩ := hst.loadVerifiedLifecycle (henv.fault (by simp))
    (henv.fault (by simp))
  obtain ⟨t, hupd, ht⟩ := hs.updates
    (DeliveryState.setReplicated k (s.deliveryRevision + 1)
      (computeDeliveryChecksum (s.replicated k (s.deliveryRevision + 1) env.nowMs)) env.nowMs)
    fun _ => rfl
  have hlrow : ({ db with deliveryState := t } : Db).lifecycleState.find? eventId = some l :=
    hst.lifecycle
  obtain ⟨t', hlupd, ht'⟩ := updateLifecycleDeliveryStatus_of_current "REPLICATED" hlrow hrep
    (henv.fault (by simp))
  refine ⟨t, t', ?_, ht, ht'⟩
  unfold confirmReplicatedDelivery confirmCurrent
  simp (disch := exact henv.fault (by simp)) only [CallEnv.exec_of_none,
    hload, hlife, hupd, hlupd, hk.routingFingerprint, hk.profileId, hk.profileVersion,
    hk.kafkaTopic, ensure, bind, Except.bind, bne_iff_ne, ne_eq, hstatus, not_false_eq_true,
    if_true, beq_self_eq_true, Bool.and_self]
  rfl

/-- `block_delivery` on a current row that is not replicated. -/
theorem blockDelivery_of_current {env : CallEnv} {db : Db} {eventId : String}
    {s : DeliveryStateRecord} {v : StoredEnvelope} {l : LifecycleState} {reason : String}
    (henv : env.Executes (.blockDelivery eventId s.deliveryRevision reason))
    (hs : db.HasDelivery eventId s) (hst : db.HasStatus eventId v l)
    (hstatus : s.deliveryStatus ≠ "REPLICATED") :
    ∃ t t', blockDelivery env db eventId s.deliveryRevision reason =
        ({ db with deliveryState := t, lifecycleState := t' }, .updated) ∧
      db.deliveryState.Puts eventId
        (s.blocked reason (s.deliveryRevision + 1) env.nowMs).sealed.toRow t ∧
      db.lifecycleState.Puts eventId
        (l.advance "DELIVERY_BLOCKED" l.retentionStatus env.nowMs) t' := by
  have hload := DeliveryStateResult.orReturn_eq_ok.mpr (hs.found (henv.fault
    (by simp)))
  obtain ⟨st, hlife, hrep⟩ := hst.loadVerifiedLifecycle (henv.fault (by simp))
    (henv.fault (by simp))
  obtain ⟨t, hupd, ht⟩ := hs.updates
    (DeliveryState.setBlocked reason (s.deliveryRevision + 1)
      (computeDeliveryChecksum (s.blocked reason (s.deliveryRevision + 1) env.nowMs)) env.nowMs)
    fun _ => rfl
  have hlrow : ({ db with deliveryState := t } : Db).lifecycleState.find? eventId = some l :=
    hst.lifecycle
  obtain ⟨t', hlupd, ht'⟩ := updateLifecycleDeliveryStatus_of_current "DELIVERY_BLOCKED" hlrow
    hrep (henv.fault (by simp))
  refine ⟨t, t', ?_, ht, ht'⟩
  unfold blockDelivery
  simp (disch := exact henv.fault (by simp)) only [CallEnv.exec_of_none,
    hload, hlife, hupd, hlupd, ensure, bind, Except.bind, bne_iff_ne, ne_eq, hstatus,
    not_false_eq_true, if_true, beq_self_eq_true]
  rfl

/-- `update_delivery_retry` on a current row that is not replicated. -/
theorem updateDeliveryRetry_of_current {env : CallEnv} {db : Db} {eventId : String}
    {s : DeliveryStateRecord} {next : Int}
    (henv : env.Executes (.updateDeliveryRetry eventId s.deliveryRevision next))
    (hs : db.HasDelivery eventId s) (hstatus : s.deliveryStatus ≠ "REPLICATED") :
    ∃ t, updateDeliveryRetry env db eventId s.deliveryRevision next =
        ({ db with deliveryState := t }, .updated) ∧
      db.deliveryState.Puts eventId
        (s.retrying next (s.deliveryRevision + 1) env.nowMs).sealed.toRow t := by
  have hload := DeliveryStateResult.orReturn_eq_ok.mpr (hs.found (henv.fault
    (by simp)))
  obtain ⟨t, hupd, ht⟩ := hs.updates
    (DeliveryState.setRetrying next (s.deliveryRevision + 1)
      (computeDeliveryChecksum (s.retrying next (s.deliveryRevision + 1) env.nowMs)) env.nowMs)
    fun _ => rfl
  refine ⟨t, ?_, ht⟩
  unfold updateDeliveryRetry
  simp (disch := exact henv.fault (by simp)) only [hload, CallEnv.run_of_none, hupd]
  rw [if_neg (by simp), if_neg hstatus]
  rfl

section Executed

variable {j j' : LocalJournal} {env : CallEnv} {e : String} {s : DeliveryStateRecord}
  {v : StoredEnvelope} {r : CasResult}

/-- An executed block on a current row that is not replicated is made. -/
theorem LocalJournal.blocks (henv : env.Faultless) (hc : j.db.Consistent)
    (hv : j.db.storedEnvelope.find? e = some v) (hs : j.db.HasDelivery e s)
    (hstatus : s.deliveryStatus ≠ "REPLICATED") {reason : String}
    (hexec : j.exec env (.blockDelivery e s.deliveryRevision reason) = some (j', r)) :
    r = .updated ∧ j.db.deliveryState.Puts e
        (s.blocked reason (s.deliveryRevision + 1) env.nowMs).sealed.toRow j'.db.deliveryState ∧
      j'.db.storedEnvelope = j.db.storedEnvelope := by
  obtain ⟨l, hst⟩ := hc.hasStatus hv
  obtain ⟨t, t', hblock, ht, -⟩ := blockDelivery_of_current
    (henv.executes (.blockDelivery e s.deliveryRevision reason)) hs hst hstatus
  obtain ⟨hdb, rfl⟩ := Prod.mk.inj (hblock.symm.trans (LocalJournal.write_eq_some hexec))
  rw [← hdb]
  exact ⟨rfl, ht, rfl⟩

/-- An executed confirmation of a current, matching row that is not replicated is made. -/
theorem LocalJournal.confirms (henv : env.Faultless) (hc : j.db.Consistent)
    (hv : j.db.storedEnvelope.find? e = some v) (hs : j.db.HasDelivery e s)
    (hstatus : s.deliveryStatus ≠ "REPLICATED") {k : ReplicatedDeliveryConfirmation}
    (hk : k.Matches s)
    (hexec : j.exec env (.confirmReplicatedDelivery e s.deliveryRevision k) = some (j', r)) :
    r = .updated ∧ j.db.deliveryState.Puts e
        (s.replicated k (s.deliveryRevision + 1) env.nowMs).sealed.toRow j'.db.deliveryState ∧
      j'.db.storedEnvelope = j.db.storedEnvelope := by
  obtain ⟨l, hst⟩ := hc.hasStatus hv
  obtain ⟨t, t', hconfirm, ht, -⟩ := confirmReplicatedDelivery_of_current
    (henv.executes (.confirmReplicatedDelivery e s.deliveryRevision k)) hs hst hstatus hk
  obtain ⟨hdb, rfl⟩ := Prod.mk.inj (hconfirm.symm.trans (LocalJournal.write_eq_some hexec))
  rw [← hdb]
  exact ⟨rfl, ht, rfl⟩

/-- An executed retry of a current row that is not replicated is made. -/
theorem LocalJournal.reschedules (henv : env.Faultless) (hs : j.db.HasDelivery e s)
    (hstatus : s.deliveryStatus ≠ "REPLICATED") {next : Int}
    (hexec : j.exec env (.updateDeliveryRetry e s.deliveryRevision next) = some (j', r)) :
    r = .updated ∧ j.db.deliveryState.Puts e
        (s.retrying next (s.deliveryRevision + 1) env.nowMs).sealed.toRow j'.db.deliveryState ∧
      j'.db.storedEnvelope = j.db.storedEnvelope := by
  obtain ⟨t, hretry, ht⟩ := updateDeliveryRetry_of_current
    (henv.executes (.updateDeliveryRetry e s.deliveryRevision next)) hs hstatus
  obtain ⟨hdb, rfl⟩ := Prod.mk.inj (hretry.symm.trans (LocalJournal.write_eq_some hexec))
  rw [← hdb]
  exact ⟨rfl, ht, rfl⟩

/-- An executed attempt record on a healthy row is made: the row counts one attempt more
and keeps its status and its revision. -/
theorem LocalJournal.records (henv : env.Faultless) {attempt : DeliveryAttemptRecord}
    (hv : j.db.storedEnvelope.find? attempt.eventId = some v)
    (hs : j.db.HasDelivery attempt.eventId s) (hhealthy : s.Healthy)
    (hfits : InI32 (s.attemptCount + 1))
    (hexec : j.exec env (.recordDeliveryAttempt attempt) = some (j', r)) :
    r = .updated ∧ j'.db.storedEnvelope = j.db.storedEnvelope ∧
      ∃ s' : DeliveryStateRecord, s'.Healthy ∧
        j.db.deliveryState.Puts attempt.eventId s'.toRow j'.db.deliveryState ∧
        s'.deliveryStatus = s.deliveryStatus ∧ s'.deliveryRevision = s.deliveryRevision ∧
        s'.attemptCount = s.attemptCount + 1 := by
  obtain ⟨t, log, hrecord, ht⟩ := recordDeliveryAttempt_of_found
    (henv.executes (.recordDeliveryAttempt attempt)) hs (by rw [hv]; rfl)
  obtain ⟨hdb, rfl⟩ := Prod.mk.inj (hrecord.symm.trans (LocalJournal.write_eq_some hexec))
  obtain ⟨s', hrow, hs'⟩ := attempted_healthy hhealthy attempt.errorCode env.nowMs hfits
  rw [hrow] at ht
  rw [← hdb]
  exact ⟨rfl, rfl, s', hs', ht, (congrArg DeliveryState.deliveryStatus hrow).symm,
    (congrArg DeliveryState.deliveryRevision hrow).symm,
    (congrArg DeliveryState.attemptCount hrow).symm⟩

end Executed

/-- A demoting call breaks the agreement. -/
theorem demotion_disagrees {j j' : LocalJournal} {ev : JournalEvent}
    (hst : journalLts.step j ev j') (hc : j.db.Consistent) (ha : j.db.Agrees)
    (hdem : ev.Demotes j.db) : ¬ j'.db.Agrees := by
  obtain ⟨env, c, r⟩ := ev
  cases c with
  | updateLifecycle e rev delivery retention =>
      obtain ⟨⟨l, hl, rfl, hrep⟩, h1, h2, h3⟩ := hdem
      obtain ⟨d, hd, hdrep⟩ := (ha e).mp ⟨l, hl, hrep⟩
      obtain ⟨v, hv⟩ := Option.isSome_iff_exists.mp (hc.delivery e (by rw [hd]; rfl))
      have hstatus : j.db.HasStatus e v l :=
        ⟨hv, hl, hc.envelope _ _ hv, hc.lifecycleVerifies _ _ hl⟩
      obtain ⟨t, hupd, ht⟩ := updateLifecycle_of_current hstatus h1 h2 h3 delivery retention
      have hst : j.write (updateLifecycle env j.db e l.revision delivery retention) =
        some (j', r) := hst
      rw [hupd] at hst
      cases hst
      -- the delivery row still says replicated, the lifecycle row no longer does
      intro ha'
      obtain ⟨l', hl', hrep'⟩ := (ha' e).mpr ⟨d, hd, hdrep⟩
      have heq := ht.self.symm.trans hl'
      cases heq
      exact LocalDeliveryStatus.asStr_ne_replicated delivery hrep'
  | _ => exact hdem.elim

/-! ## Concrete runs -/

/-- No statement fails and the disk is safe. -/
def CallEnv.calm (nowMs : Int) : CallEnv := ⟨nowMs, true, fun _ => none⟩

omit [Sha256] in
theorem CallEnv.calm_faultless (nowMs : Int) : (CallEnv.calm nowMs).Faultless := fun _ => rfl

/-- A request of one producer for the stream `orders` of a namespace. -/
def sampleRequest (eventId «namespace» : String) (seq : Int) : AcceptRequest where
  installationId := "inst"
  eventId := eventId
  producerId := "prod"
  producerInstanceId := "p1"
  producerOperationSequence := seq
  «namespace» := «namespace»
  logicalStreamType := "t"
  streamKey := "orders"
  eventType := "created"
  schemaVersion := 1
  payload := [1, 2, 3]
  requestFingerprint := ⟨List.replicate 32 7, rfl⟩
  routingVersion := 1

omit [Sha256] in
theorem sampleRequest_admissible {eventId : String} (hid : eventId ≠ "") («namespace» : String)
    (seq now : Int) (db : Db) :
    (sampleRequest eventId «namespace» seq).Admissible ⟨{}, db, false⟩ (.calm now) := by
  refine ⟨rfl, rfl, ?_, hid, ?_⟩
  · show 3 ≤ 1048576
    omega
  · show "inst" ≠ ""
    decide

/-- A run goes on with the acceptance of a sample event. -/
theorem sampleAccept {tr : List JournalEvent} {db : Db} {eventId : String} {seq : Int}
    (hrun : journalLts.Run (LocalJournal.open {}) tr ⟨{}, db, false⟩) (hid : eventId ≠ "")
    (hnew : db.storedEnvelope.find? eventId = none)
    (hseq : ∀ key row, db.producerSequence.find? key = some row → row.highestSeq < seq)
    («namespace» : String) (now : Int) :
    ∃ db' a, journalLts.Run (LocalJournal.open {})
        (tr ++ [⟨.calm now, .accept (sampleRequest eventId «namespace» seq), .accepted a⟩])
        ⟨{}, db', false⟩ ∧
      AcceptedStep now db (sampleRequest eventId «namespace» seq) a db' ∧
      ∀ key row, db'.producerSequence.find? key = some row → row.highestSeq < seq + 1 := by
  obtain ⟨db', a, hrun', hstep⟩ := journalRun_accept hrun (CallEnv.calm_faultless now)
    (sampleRequest_admissible hid «namespace» seq now db) hnew fun row hrow => hseq _ row hrow
  refine ⟨db', a, hrun', hstep, ?_⟩
  intro key row hrow
  rw [hstep.producerSequence, KeyedTable.find?_upsert] at hrow
  split at hrow
  · cases hrow
    show seq < seq + 1
    omega
  · have := hseq key row hrow
    omega

def sampleFingerprint : Checksum := ⟨List.replicate 32 9, rfl⟩

/-- The record `create_delivery_pending` leaves for the sample event. -/
def samplePending (nowMs : Int) (eventId : String) : DeliveryStateRecord :=
  (pendingRecord nowMs eventId sampleFingerprint "p0" 1 "topic").sealed

theorem samplePending_status (nowMs : Int) (eventId : String) :
    (samplePending nowMs eventId).deliveryStatus ≠ "REPLICATED" := by
  show "DELIVERY_PENDING" ≠ "REPLICATED"
  decide

/-- The calls that accept an event and create its delivery row. -/
def sampleTrace (a : AcceptedEvent) : List JournalEvent :=
  [ ⟨.calm 10, .accept (sampleRequest "e1" "ns" 1), .accepted a⟩,
    ⟨.calm 20, .createDeliveryPending "e1" sampleFingerprint "p0" 1 "topic", .updated⟩ ]

/-- An event accepted on a new file, with its delivery row. -/
theorem sampleRun_pending :
    ∃ db a v l, carefulLts.Run (LocalJournal.open {}) (sampleTrace a) ⟨{}, db, false⟩ ∧
      db.HasDelivery "e1" (samplePending 20 "e1") ∧ db.HasStatus "e1" v l := by
  have hnil : journalLts.Run (LocalJournal.open {}) [] ⟨{}, .empty, false⟩ := .nil
  obtain ⟨db₁, a, hrun₁, hstep₁, -⟩ := sampleAccept hnil (by decide : "e1" ≠ "") rfl
    (fun _ _ h => by cases h) "ns" 10
  have hv : db₁.storedEnvelope.find? "e1" = some _ := hstep₁.putsEnvelope.self
  have hnone : ∀ e, db₁.deliveryState.find? e = none := by
    intro e
    rw [hstep₁.deliveryState]
    rfl
  obtain ⟨t, hcreate, ht⟩ := createDeliveryPending_of_new (CallEnv.calm_faultless 20) hv
    (hnone "e1") sampleFingerprint "p0" 1 "topic"
  -- no row counts an attempt yet
  have hfit₁ : db₁.CountsFit := by
    intro d hd
    have := KeyedTable.find?_of_mem hd
    rw [hnone] at this
    cases this
  have hfit₂ : { db₁ with deliveryState := t }.CountsFit := by
    intro d hd
    have hfind : t.find? d.eventId = some d := KeyedTable.find?_of_mem hd
    rw [ht d.eventId] at hfind
    split at hfind
    · cases hfind
      show (0 : Int) < 2 ^ 31
      decide
    · rw [hnone] at hfind
      cases hfind
  obtain ⟨j, hj, hstep⟩ := hrun₁.last
  obtain rfl := journalRun_deterministic hnil hj
  have hcareful₁ : carefulLts.step (LocalJournal.open {})
      ⟨.calm 10, .accept (sampleRequest "e1" "ns" 1), .accepted a⟩ ⟨{}, db₁, false⟩ :=
    ⟨hstep, trivial, hfit₁⟩
  have hcareful₂ : carefulLts.step ⟨{}, db₁, false⟩
      ⟨.calm 20, .createDeliveryPending "e1" sampleFingerprint "p0" 1 "topic", .updated⟩
      ⟨{}, { db₁ with deliveryState := t }, false⟩ :=
    ⟨congrArg (LocalJournal.write ⟨{}, db₁, false⟩) hcreate,
      ⟨by decide, by decide, by decide⟩, hfit₂⟩
  have hrun₂ : carefulLts.Run (LocalJournal.open {}) (sampleTrace a)
      ⟨{}, { db₁ with deliveryState := t }, false⟩ :=
    Lts.Run.snoc (Lts.Run.snoc .nil hcareful₁) hcareful₂
  obtain ⟨l, hst⟩ := (carefulRun_reachable hrun₂).consistent.hasStatus hv
  refine ⟨{ db₁ with deliveryState := t }, a, _, l, hrun₂, ⟨ht.self, ?_⟩, hst⟩
  exact (pending_healthy (by decide) (by decide) (by decide)).verifies

/-- A confirmation of the sample event's routing. -/
def sampleConfirmation : ReplicatedDeliveryConfirmation :=
  ⟨sampleFingerprint, "p0", 1, "topic", 0, 42⟩

/-- The sample event, confirmed. -/
theorem sampleRun_confirmed :
    ∃ db a l, journalLts.Run (LocalJournal.open {})
        (sampleTrace a ++ [⟨.calm 30, .confirmReplicatedDelivery "e1" 1 sampleConfirmation,
          .updated⟩]) ⟨{}, db, false⟩ ∧
      db.lifecycleState.find? "e1" = some l ∧ l.deliveryStatus = "REPLICATED" ∧
      db.deliveryState.find? "e1" =
        some ((samplePending 20 "e1").replicated sampleConfirmation 2 30).sealed.toRow := by
  obtain ⟨db, a, v, l, hrun, hs, hst⟩ := sampleRun_pending
  obtain ⟨t, t', hconfirm, ht, ht'⟩ := confirmReplicatedDelivery_of_current
    ((CallEnv.calm_faultless 30).executes _) hs hst (samplePending_status _ _)
    (⟨rfl, rfl, rfl, rfl⟩ : sampleConfirmation.Matches _)
  exact ⟨_, a, _, (carefulRun_run hrun).snoc
    (congrArg (LocalJournal.write ⟨{}, db, false⟩) hconfirm), ht'.self, rfl, ht.self⟩

/-- The sample event, blocked. -/
theorem sampleRun_blocked :
    ∃ db a, journalLts.Run (LocalJournal.open {})
        (sampleTrace a ++ [⟨.calm 30, .blockDelivery "e1" 1 "broker refused", .updated⟩])
        ⟨{}, db, false⟩ ∧
      db.HasDelivery "e1" ((samplePending 20 "e1").blocked "broker refused" 2 30).sealed := by
  obtain ⟨db, a, v, l, hrun, hs, hst⟩ := sampleRun_pending
  obtain ⟨t, t', hblock, ht, -⟩ := blockDelivery_of_current
    ((CallEnv.calm_faultless 30).executes (.blockDelivery "e1" _ "broker refused")) hs hst
    (samplePending_status _ _)
  refine ⟨_, a, (carefulRun_run hrun).snoc
    (congrArg (LocalJournal.write ⟨{}, db, false⟩) hblock), ht.self, ?_⟩
  exact (blocked_healthy (pending_healthy (by decide) (by decide) (by decide))
    (samplePending_status _ _) (by decide) _ _).verifies

/-- The sample request, sent again after it was accepted. -/
theorem sampleRun_duplicate {tr : List JournalEvent} {db : Db}
    (hrun : journalLts.Run (LocalJournal.open {}) tr ⟨{}, db, false⟩) {env : CallEnv}
    {a : AcceptedEvent}
    (hmem : (⟨env, .accept (sampleRequest "e1" "ns" 1), .accepted a⟩ : JournalEvent) ∈ tr)
    (now : Int) :
    ∃ log a', LocalJournal.exec ⟨{}, db, false⟩ (.calm now) (.accept (sampleRequest "e1" "ns" 1)) =
      some (⟨{}, { db with writeAttempt := log }, false⟩, .existingDuplicate a') := by
  have hreach : Reachable ⟨{}, db, false⟩ := ⟨_, _, hrun⟩
  obtain ⟨v, hv, -, hfp⟩ := journalRun_accepted hrun hmem
  obtain ⟨log, r, htx, hsame, -⟩ :=
    acceptTransaction_of_stored hreach.consistent (CallEnv.calm_faultless now) hv
  obtain ⟨a', rfl, -⟩ := hsame hfp
  refine ⟨log, a', ?_⟩
  show LocalJournal.accept _ _ _ = _
  rw [(sampleRequest_admissible (by decide : "e1" ≠ "") "ns" 1 now db).accept_eq, htx]
  rfl

/-- Two events of one stream, accepted one after the other on a new file. -/
theorem sampleRun :
    ∃ db a₁ a₂, journalLts.Run (LocalJournal.open {})
      [ ⟨.calm 10, .accept (sampleRequest "e1" "ns" 1), .accepted a₁⟩,
        ⟨.calm 20, .accept (sampleRequest "e2" "ns" 2), .accepted a₂⟩ ] ⟨{}, db, false⟩ := by
  obtain ⟨db₁, a₁, hrun₁, hstep₁, hseq₁⟩ := sampleAccept (.nil : journalLts.Run _ [] _)
    (by decide : "e1" ≠ "") rfl (fun _ _ h => by cases h) "ns" 10
  have hne : "e1" ≠ "e2" := by decide
  obtain ⟨db₂, a₂, hrun₂, -⟩ := sampleAccept hrun₁ (by decide : "e2" ≠ "")
    (hstep₁.putsEnvelope.other hne) hseq₁ "ns" 20
  exact ⟨db₂, a₁, a₂, hrun₂⟩

end CraftRelay
