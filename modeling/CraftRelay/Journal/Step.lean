import CraftRelay.Journal.Verified

/-!
# What a call can do to the database

The inversion of `LocalJournal.exec`, once for every method: a call that did not
answer `Accepted` or `Updated` changed at most the audit log, and each of the
others did exactly one thing (`DbStep`). Every invariant of the journal is a
case analysis of `DbStep`; the methods are not unfolded again.
-/

namespace CraftRelay

/-- The call answered that it changed something. -/
def JournalCall.Commits : (c : JournalCall) → c.Reply → Prop
  | .accept _, r => ∃ a, r = .accepted a
  | .updateLifecycle .., r => r = .updated
  | .createDeliveryPending .., r => r = .updated
  | .recordDeliveryAttempt _, r => r = .updated
  | .confirmReplicatedDelivery .., r => r = .updated
  | .blockDelivery .., r => r = .updated
  | .updateDeliveryRetry .., r => r = .updated
  | _, _ => False

/-- The journal sequence the next accepted event gets. -/
def Db.nextJournalSequence (db : Db) : Int :=
  ((db.storedEnvelope.rows.map (·.journalSequence)).max?).getD 0 + 1

/-- The stream sequence the next event under a formatted stream key gets. -/
def Db.nextStreamSequence (db : Db) (streamKey : String) : Int :=
  ((db.streamHead.find? streamKey).map (·.headSequence)).getD 0 + 1

variable [Sha256]

/-- The row a lifecycle transition leaves. -/
def LifecycleState.advance (l : LifecycleState) (delivery retention : String) (nowMs : Int) :
    LifecycleState where
  eventId := l.eventId
  revision := l.revision + 1
  lifecycleChecksum := (computeLifecycleChecksum l.eventId (l.revision + 1) delivery retention).val
  deliveryStatus := delivery
  retentionStatus := retention
  updatedAtMs := nowMs

/-- A record with the checksum of its own columns. -/
def DeliveryStateRecord.sealed (s : DeliveryStateRecord) : DeliveryStateRecord :=
  { s with deliveryChecksum := computeDeliveryChecksum s }

/-- An accepted request: both allocations, the rows of the acceptance tables,
and nothing else but the audit log. -/
structure AcceptedStep (nowMs : Int) (db : Db) (req : AcceptRequest) (a : AcceptedEvent)
    (db' : Db) : Prop where
  dedup : db.dedupFingerprint.find? req.eventId = none
  producer : ∀ row, db.producerSequence.find? req.formattedProducerKey = some row →
    row.highestSeq < req.producerOperationSequence ∨ row.lastEventId = req.eventId
  event : a =
    { eventId := req.eventId
      journalSequence := db.nextJournalSequence
      streamSequence := db.nextStreamSequence req.formattedStreamKey
      lifecycleRevision := 1
      envelopeChecksum := req.envelopeChecksum db.nextJournalSequence
        (db.nextStreamSequence req.formattedStreamKey)
      deliveryStatus := .localAccepted }
  storedEnvelope : db'.storedEnvelope.rows = db.storedEnvelope.rows ++
    [req.envelope nowMs db.nextJournalSequence (db.nextStreamSequence req.formattedStreamKey)]
  payloadBlob : db'.payloadBlob.rows = db.payloadBlob.rows ++
    [⟨req.eventId, req.payload, (computeSha256 req.payload).val⟩]
  lifecycleState : db'.lifecycleState.rows = db.lifecycleState.rows ++
    [⟨req.eventId, 1, (computeLifecycleChecksum req.eventId 1 "LOCAL_ACCEPTED" "PRESENT").val,
      "LOCAL_ACCEPTED", "PRESENT", nowMs⟩]
  dedupFingerprint : db'.dedupFingerprint.rows = db.dedupFingerprint.rows ++
    [⟨req.eventId, req.requestFingerprint.val⟩]
  producerSequence : db'.producerSequence = db.producerSequence.upsert
    ⟨req.formattedProducerKey, req.producerOperationSequence, req.eventId⟩
  streamHead : db'.streamHead = db.streamHead.upsert
    ⟨req.formattedStreamKey, db.nextStreamSequence req.formattedStreamKey⟩
  deliveryState : db'.deliveryState = db.deliveryState
  deliveryAttempt : db'.deliveryAttempt = db.deliveryAttempt

/-- The envelope of an event and its lifecycle row are there and verify. -/
structure Db.HasStatus (db : Db) (eventId : String) (v : StoredEnvelope) (l : LifecycleState) :
    Prop where
  envelope : db.storedEnvelope.find? eventId = some v
  lifecycle : db.lifecycleState.find? eventId = some l
  envelopeVerifies : v.Verifies
  lifecycleVerifies : l.Verifies

/-- The delivery row of an event is there and verifies. -/
structure Db.HasDelivery (db : Db) (eventId : String) (s : DeliveryStateRecord) : Prop where
  row : db.deliveryState.find? eventId = some s.toRow
  verifies : s.Verifies

/-- The fields of a confirmation that the row must repeat. -/
structure ReplicatedDeliveryConfirmation.Matches (k : ReplicatedDeliveryConfirmation)
    (s : DeliveryStateRecord) : Prop where
  routingFingerprint : s.routingFingerprint = some k.expectedRoutingFingerprint
  profileId : s.profileId = some k.expectedProfileId
  profileVersion : s.profileVersion = some k.expectedProfileVersion
  kafkaTopic : s.kafkaTopic = some k.kafkaTopic

/-- One call's effect on the database, by its reply. -/
inductive DbStep (env : CallEnv) (db : Db) : (c : JournalCall) → c.Reply → Db → Prop
  | quiet {c : JournalCall} {r : c.Reply} {log} (h : ¬ c.Commits r) :
      DbStep env db c r { db with writeAttempt := log }
  | accepted {req a db'} (h : AcceptedStep env.nowMs db req a db') :
      DbStep env db (.accept req) (.accepted a) db'
  | lifecycle {eventId rev delivery retention v l t} (hst : db.HasStatus eventId v l)
      (hrev : l.revision = rev)
      (ht : db.lifecycleState.Puts eventId
        (l.advance delivery.asStr retention.asStr env.nowMs) t) :
      DbStep env db (.updateLifecycle eventId rev delivery retention) .updated
        { db with lifecycleState := t }
  | created {eventId fingerprint profileId profileVersion topic v t}
      (hv : db.storedEnvelope.find? eventId = some v)
      (hnew : db.deliveryState.find? eventId = none)
      (ht : db.deliveryState.Puts eventId
        (pendingRow env.nowMs eventId fingerprint profileId profileVersion topic) t) :
      DbStep env db (.createDeliveryPending eventId fingerprint profileId profileVersion topic)
        .updated { db with deliveryState := t }
  | attempted {attempt s t log} (hs : db.HasDelivery attempt.eventId s)
      (ht : db.deliveryState.Puts attempt.eventId
        (s.toRow.setAttempted attempt.errorCode
          (computeDeliveryChecksum (s.attempted attempt.errorCode env.nowMs)) env.nowMs) t) :
      DbStep env db (.recordDeliveryAttempt attempt) .updated
        { db with deliveryState := t, deliveryAttempt := log }
  | confirmed {eventId rev k s v l t t'} (hs : db.HasDelivery eventId s)
      (hst : db.HasStatus eventId v l) (hstatus : s.deliveryStatus ≠ "REPLICATED")
      (hrev : s.deliveryRevision = rev) (hk : k.Matches s)
      (ht : db.deliveryState.Puts eventId (s.replicated k (rev + 1) env.nowMs).sealed.toRow t)
      (ht' : db.lifecycleState.Puts eventId
        (l.advance "REPLICATED" l.retentionStatus env.nowMs) t') :
      DbStep env db (.confirmReplicatedDelivery eventId rev k) .updated
        { db with deliveryState := t, lifecycleState := t' }
  | blocked {eventId rev reason s v l t t'} (hs : db.HasDelivery eventId s)
      (hst : db.HasStatus eventId v l) (hstatus : s.deliveryStatus ≠ "REPLICATED")
      (hrev : s.deliveryRevision = rev)
      (ht : db.deliveryState.Puts eventId (s.blocked reason (rev + 1) env.nowMs).sealed.toRow t)
      (ht' : db.lifecycleState.Puts eventId
        (l.advance "DELIVERY_BLOCKED" l.retentionStatus env.nowMs) t') :
      DbStep env db (.blockDelivery eventId rev reason) .updated
        { db with deliveryState := t, lifecycleState := t' }
  | retried {eventId rev next s t} (hs : db.HasDelivery eventId s)
      (hstatus : s.deliveryStatus ≠ "REPLICATED") (hrev : s.deliveryRevision = rev)
      (ht : db.deliveryState.Puts eventId (s.retrying next (rev + 1) env.nowMs).sealed.toRow t) :
      DbStep env db (.updateDeliveryRetry eventId rev next) .updated
        { db with deliveryState := t }

/-! ## Accept -/

omit [Sha256] in
theorem recordAttempt_eq (env : CallEnv) (db : Db) (eventId outcome : String)
    (detail : Option String) :
    ∃ log, recordAttempt env db eventId outcome detail = { db with writeAttempt := log } := by
  unfold recordAttempt CallEnv.run
  cases env.fault .insertWriteAttempt <;> cases env.fault .trimWriteAttempt <;>
    exact ⟨_, rfl⟩

omit [Sha256] in
theorem commitIgnored_recordAttempt (env : CallEnv) (db : Db) (eventId outcome : String)
    (detail : Option String) :
    ∃ log, commitIgnored env db (recordAttempt env db eventId outcome detail) =
      { db with writeAttempt := log } := by
  obtain ⟨log, hlog⟩ := recordAttempt_eq env db eventId outcome detail
  unfold commitIgnored CallEnv.run
  rw [hlog]
  cases env.fault .commit <;> exact ⟨_, rfl⟩

omit [Sha256] in
theorem Db.insertReferencing_eq_ok {ρ : Type} {key : ρ → String} {db : Db} {table : String}
    {t t' : KeyedTable key} {row : ρ} (h : db.insertReferencing table t row = .ok t') :
    t.insert? row = some t' := by
  unfold Db.insertReferencing at h
  split at h
  · cases h
  rename_i t'' hins
  split at h
  · injection h with h
    rw [hins, h]
  · cases h

omit [Sha256] in
theorem Db.insertStoredEnvelope_eq_ok {db db' : Db} {row : StoredEnvelope}
    (h : db.insertStoredEnvelope row = .ok db') :
    ∃ t, db.storedEnvelope.insert? row = some t ∧ db' = { db with storedEnvelope := t } := by
  unfold Db.insertStoredEnvelope at h
  split at h
  · cases h
  split at h
  · cases h
  rename_i t hins
  injection h with h
  exact ⟨t, hins, h.symm⟩

omit [Sha256] in
theorem allocateJournalSequence_eq_some {env : CallEnv} {db : Db} {n : Int}
    (h : allocateJournalSequence env db = some n) : n = db.nextJournalSequence := by
  unfold allocateJournalSequence at h
  split at h
  · cases h
  rename_i m hrun
  obtain ⟨-, hm⟩ := CallEnv.run_eq_ok.mp hrun
  injection hm with hm
  injection h with h
  rw [← h, ← hm]
  rfl

omit [Sha256] in
theorem allocateStreamSequence_eq_ok {env : CallEnv} {db tx : Db} {streamKey : String} {n : Int}
    (h : allocateStreamSequence env db streamKey = .ok (tx, n)) :
    n = db.nextStreamSequence streamKey ∧
      tx = { db with streamHead :=
        db.streamHead.upsert ⟨streamKey, db.nextStreamSequence streamKey⟩ } := by
  unfold allocateStreamSequence at h
  split at h
  · cases h
  rename_i existing hsel
  obtain ⟨-, hex⟩ := CallEnv.run_eq_ok.mp hsel
  injection hex with hex
  subst hex
  simp only at h
  split at h
  · cases h
  rename_i db' hups
  obtain ⟨-, hdb'⟩ := CallEnv.run_eq_ok.mp hups
  injection hdb' with hdb'
  injection h with h
  injection h with h1 h2
  exact ⟨h2.symm, by rw [← h1, ← hdb']; rfl⟩

/-- The five inserts succeeded: each row was new, and the producer's sequence is
the request's. -/
theorem insertAcceptedRows_eq_ok {env : CallEnv} {db tx : Db} {req : AcceptRequest}
    {js ss : Int} (h : insertAcceptedRows env db req js ss = .ok tx) :
    ∃ se pb ls df,
      db.storedEnvelope.insert? (req.envelope env.nowMs js ss) = some se ∧
      db.payloadBlob.insert? ⟨req.eventId, req.payload, (computeSha256 req.payload).val⟩ =
        some pb ∧
      db.lifecycleState.insert? ⟨req.eventId, 1,
        (computeLifecycleChecksum req.eventId 1 "LOCAL_ACCEPTED" "PRESENT").val,
        "LOCAL_ACCEPTED", "PRESENT", env.nowMs⟩ = some ls ∧
      db.dedupFingerprint.insert? ⟨req.eventId, req.requestFingerprint.val⟩ = some df ∧
      tx = { db with
        storedEnvelope := se, payloadBlob := pb, lifecycleState := ls, dedupFingerprint := df
        producerSequence := db.producerSequence.upsert
          ⟨req.formattedProducerKey, req.producerOperationSequence, req.eventId⟩ } := by
  unfold insertAcceptedRows at h
  obtain ⟨db₁, h₁, h⟩ := Except.bind_eq_ok_iff.mp h
  obtain ⟨-, h₁⟩ := CallEnv.run_eq_ok.mp h₁
  obtain ⟨se, hse, rfl⟩ := Db.insertStoredEnvelope_eq_ok h₁
  obtain ⟨pb, hpb, h⟩ := Except.bind_eq_ok_iff.mp h
  obtain ⟨ls, hls, h⟩ := Except.bind_eq_ok_iff.mp h
  obtain ⟨df, hdf, h⟩ := Except.bind_eq_ok_iff.mp h
  obtain ⟨-, htx⟩ := CallEnv.run_eq_ok.mp h
  injection htx with htx
  exact ⟨se, pb, ls, df, hse, Db.insertReferencing_eq_ok (CallEnv.run_eq_ok.mp hpb).2,
    Db.insertReferencing_eq_ok (CallEnv.run_eq_ok.mp hls).2,
    Db.insertReferencing_eq_ok (CallEnv.run_eq_ok.mp hdf).2, htx.symm⟩

/-- The answer to a stored event is not `Accepted` and only the audit log
changes. -/
theorem acceptDuplicate_quiet (env : CallEnv) (db : Db) (req : AcceptRequest) :
    (∀ a, (acceptDuplicate env db req).2 ≠ .accepted a) ∧
      ∃ log, (acceptDuplicate env db req).1 = { db with writeAttempt := log } := by
  unfold acceptDuplicate
  split
  · exact ⟨fun a h => (by cases h), db.writeAttempt, rfl⟩
  · exact ⟨fun a h => (by cases h), db.writeAttempt, rfl⟩
  · split
    · exact ⟨fun a h => (by cases h), db.writeAttempt, rfl⟩
    · exact ⟨fun a h => (by cases h), commitIgnored_recordAttempt _ _ _ _ _⟩

/-- The allocations and inserts either all committed, or nothing did. -/
theorem acceptNew_cases {env : CallEnv} {db db' : Db} {req : AcceptRequest} {r : AcceptResult}
    (hdedup : db.dedupFingerprint.find? req.eventId = none)
    (hproducer : ∀ row, db.producerSequence.find? req.formattedProducerKey = some row →
      row.highestSeq < req.producerOperationSequence ∨ row.lastEventId = req.eventId)
    (h : acceptNew env db req = some (db', r)) :
    (∃ a, r = .accepted a ∧ AcceptedStep env.nowMs db req a db') ∨
      ((∀ a, r ≠ .accepted a) ∧ db' = db) := by
  unfold acceptNew at h
  split at h
  · cases h
  -- a failed allocation of the journal sequence is the panic, which gives no result
  rename_i js hjs
  obtain rfl := allocateJournalSequence_eq_some hjs
  split at h
  · cases h
    exact .inr ⟨fun a h => (by cases h), rfl⟩
  rename_i tx ss hss
  obtain ⟨rfl, rfl⟩ := allocateStreamSequence_eq_ok hss
  split at h
  · cases h
    exact .inr ⟨fun a h => (by cases h), rfl⟩
  rename_i tx htx
  obtain ⟨se, pb, ls, df, hse, hpb, hls, hdf, rfl⟩ := insertAcceptedRows_eq_ok htx
  simp only at h
  split at h
  · cases h
    exact .inr ⟨fun a h => (by cases h), rfl⟩
  rename_i tx hcommit
  obtain ⟨-, htx⟩ := CallEnv.run_eq_ok.mp hcommit
  injection htx with htx
  injection h with h
  injection h with h1 h2
  -- what was committed is the five inserts and an entry of the audit log
  obtain ⟨log, hlog⟩ := recordAttempt_eq env _ req.eventId "NEWLY_ACCEPTED" none
  rw [← h1, ← htx, hlog]
  exact .inl ⟨_, h2.symm, hdedup, hproducer, rfl, (KeyedTable.insert?_eq_some_iff.mp hse).2,
    (KeyedTable.insert?_eq_some_iff.mp hpb).2, (KeyedTable.insert?_eq_some_iff.mp hls).2,
    (KeyedTable.insert?_eq_some_iff.mp hdf).2, rfl, rfl, rfl, rfl⟩

omit [Sha256] in
theorem checkDedup_new {env : CallEnv} {db : Db} {eventId : String} {fingerprint : Checksum}
    (h : checkDedup env db eventId fingerprint = .ok .new) :
    db.dedupFingerprint.find? eventId = none := by
  unfold checkDedup at h
  split at h
  · cases h
  · rename_i hrun
    obtain ⟨-, hfind⟩ := CallEnv.run_eq_ok.mp hrun
    injection hfind
  · split at h <;> cases h

omit [Sha256] in
theorem checkProducerSequence_none {env : CallEnv} {db : Db} {producerKey : String} {seq : Int}
    {eventId : String} (h : checkProducerSequence env db producerKey seq eventId = .ok none) :
    ∀ row, db.producerSequence.find? producerKey = some row →
      row.highestSeq < seq ∨ row.lastEventId = eventId := by
  intro row hrow
  unfold checkProducerSequence at h
  split at h
  · cases h
  · rename_i hrun
    obtain ⟨-, hfind⟩ := CallEnv.run_eq_ok.mp hrun
    rw [hrow] at hfind
    cases hfind
  · rename_i row' hrun
    obtain ⟨-, hfind⟩ := CallEnv.run_eq_ok.mp hrun
    rw [hrow] at hfind
    cases hfind
    split at h
    · cases h
    rename_i hcond
    -- the check was passed either by the number or by the exemption
    by_cases hlast : row.lastEventId = eventId
    · exact .inr hlast
    · exact .inl (by_contra fun hlt => hcond ⟨by omega, hlast⟩)

/-- A request was accepted, or only the audit log changed. -/
theorem acceptTransaction_cases {env : CallEnv} {db db' : Db} {req : AcceptRequest}
    {r : AcceptResult} (h : acceptTransaction env db req = some (db', r)) :
    (∃ a, r = .accepted a ∧ AcceptedStep env.nowMs db req a db') ∨
      ((∀ a, r ≠ .accepted a) ∧ ∃ log, db' = { db with writeAttempt := log }) := by
  unfold acceptTransaction at h
  split at h
  · cases h
    exact .inr ⟨fun a h => (by cases h), db.writeAttempt, rfl⟩
  split at h
  · cases h
    exact .inr ⟨fun a h => (by cases h), db.writeAttempt, rfl⟩
  · injection h with h
    have hquiet := acceptDuplicate_quiet env db req
    rw [h] at hquiet
    exact .inr hquiet
  · cases h
    exact .inr ⟨fun a h => (by cases h), commitIgnored_recordAttempt _ _ _ _ _⟩
  rename_i hnew
  -- a new event: the producer's sequence decides
  split at h
  · cases h
    exact .inr ⟨fun a h => (by cases h), db.writeAttempt, rfl⟩
  · cases h
    exact .inr ⟨fun a h => (by cases h), commitIgnored_recordAttempt _ _ _ _ _⟩
  rename_i hprod
  rcases acceptNew_cases (checkDedup_new hnew) (checkProducerSequence_none hprod) h with
    hacc | ⟨hr, rfl⟩
  · exact .inl hacc
  · exact .inr ⟨hr, db'.writeAttempt, rfl⟩

/-! ## Compare-and-set -/

/-- The procedure never returns `r` early. -/
def Never (r : CasResult) {α : Type} (x : Except CasResult α) : Prop := x ≠ .error r

/-- The answers that say the transition has been made. -/
def CasResult.Made (r : CasResult) : Prop := r = .updated ∨ r = .alreadyConfirmed

omit [Sha256] in
theorem CasResult.made_updated : CasResult.updated.Made := .inl rfl

section

variable {α β : Type} {r : CasResult}

omit [Sha256] in
theorem Never.bind {x : Except CasResult α} {f : α → Except CasResult β} (hx : Never r x)
    (hf : ∀ a, Never r (f a)) : Never r (x >>= f) := by
  intro h
  rcases Except.bind_eq_error_iff.mp h with h | ⟨a, -, h⟩
  · exact hx h
  · exact hf a h

omit [Sha256] in
theorem Never.exec (hr : r.Made) (env : CallEnv) (s : Stmt) (x : Except String α) :
    Never r (env.exec s x) := by
  intro h
  unfold CallEnv.exec at h
  rcases hr with rfl | rfl
  · cases hrun : env.run s x <;> simp [hrun, Except.mapError] at h
  · cases hrun : env.run s x <;> simp [hrun, Except.mapError] at h

omit [Sha256] in
theorem Never.ensure {b : Bool} {r' : CasResult} (hr : b = false → r' ≠ r) :
    Never r (ensure b r') := by
  intro h
  cases b with
  | false =>
      injection h with h
      exact hr rfl h
  | true => cases h

omit [Sha256] in
theorem casOfAffected_ne {n : Nat} {what : String} (hr : r.Made) (h : (n == 1) = false) :
    casOfAffected n what ≠ r := by
  -- zero rows are a stale revision, more than one an error
  rcases n with _ | _ | n
  · rcases hr with rfl | rfl <;> simp [casOfAffected]
  · simp at h
  · rcases hr with rfl | rfl <;> simp [casOfAffected]

omit [Sha256] in
theorem Never.orReturn (hr : r.Made) (x : DeliveryStateResult) : Never r x.orReturn := by
  rcases hr with rfl | rfl <;> cases x <;> simp [Never, DeliveryStateResult.orReturn]

theorem Never.loadVerifiedLifecycle (hr : r.Made) (env : CallEnv) (db : Db) (eventId : String) :
    Never r (loadVerifiedLifecycleForTransition env db eventId) := by
  unfold loadVerifiedLifecycleForTransition
  rcases hr with rfl | rfl <;> cases getStatusImpl env db eventId <;> simp [Never]

theorem Never.updateLifecycleDelivery (hr : r.Made) (env : CallEnv) (db : Db) (eventId : String)
    (current : PersistedStatus) (status : String) :
    Never r (updateLifecycleDeliveryStatus env db eventId current status) := by
  unfold updateLifecycleDeliveryStatus
  refine (Never.exec hr _ _ _).bind fun ⟨tx, n⟩ => ?_
  refine (Never.ensure (casOfAffected_ne hr)).bind fun _ => ?_
  exact fun h => by cases h

theorem Never.confirmCurrent (hr : r.Made) (env : CallEnv) (db : Db) (eventId : String)
    (rev : Int) (k : ReplicatedDeliveryConfirmation) (s : DeliveryStateRecord) :
    Never r (confirmCurrent env db eventId rev k s) := by
  have hstale : CasResult.staleRevision ≠ r := by rcases hr with rfl | rfl <;> simp
  have hcorrupted : ∀ e d, CasResult.corrupted e d ≠ r := by
    intro e d
    rcases hr with rfl | rfl <;> simp
  unfold CraftRelay.confirmCurrent
  refine (Never.loadVerifiedLifecycle hr _ _ _).bind fun st => ?_
  refine (Never.ensure fun _ => hstale).bind fun _ => ?_
  refine (Never.ensure fun _ => hcorrupted _ _).bind fun _ => ?_
  refine (Never.ensure fun _ => hcorrupted _ _).bind fun _ => ?_
  refine (Never.ensure fun _ => hcorrupted _ _).bind fun _ => ?_
  refine (Never.exec hr _ _ _).bind fun ⟨_, n⟩ => ?_
  refine (Never.ensure fun _ => hstale).bind fun _ => ?_
  exact (Never.updateLifecycleDelivery hr _ _ _ _ _).bind fun _ => Never.exec hr _ _ _

end

theorem confirmAgain_ne_updated (env : CallEnv) (db : Db) (eventId : String)
    (current : DeliveryStateRecord) (k : ReplicatedDeliveryConfirmation) :
    confirmAgain env db eventId current k ≠ .updated := by
  unfold confirmAgain
  split
  · rename_i r hr
    intro h
    rw [h] at hr
    exact Never.loadVerifiedLifecycle CasResult.made_updated env db eventId hr
  · split
    · simp
    · split <;> simp

omit [Sha256] in
/-- A transaction committed, or it answered something else and is dropped. -/
theorem settle_elim {db db' : Db} {x : Except CasResult Db} {r : CasResult} {P : Prop}
    (h : settle db x = (db', r)) (hx : Never .updated x)
    (hdropped : r ≠ .updated → db' = db → P)
    (hcommitted : r = .updated → x = .ok db' → P) : P := by
  cases x with
  | ok tx =>
      cases h
      exact hcommitted rfl rfl
  | error r' =>
      cases h
      exact hdropped (fun h => hx (congrArg _ h)) rfl

omit [Sha256] in
theorem CallEnv.exec_eq_ok {α : Type} {env : CallEnv} {s : Stmt} {x : Except String α} {a : α} :
    env.exec s x = .ok a ↔ env.fault s = none ∧ x = .ok a := by
  rw [← CallEnv.run_eq_ok]
  unfold CallEnv.exec
  cases env.run s x <;> simp [Except.mapError]

omit [Sha256] in
@[simp] theorem ensure_eq_ok {b : Bool} {r : CasResult} : ensure b r = .ok () ↔ b = true := by
  cases b <;> simp [ensure]

omit [Sha256] in
theorem DeliveryStateResult.orReturn_eq_ok {x : DeliveryStateResult} {s : DeliveryStateRecord} :
    x.orReturn = .ok s ↔ x = .found s := by
  cases x <;> simp [DeliveryStateResult.orReturn]

/-- The loaded row, as a fact about the database. -/
theorem orReturn_load {env : CallEnv} {db : Db} {eventId : String} {s : DeliveryStateRecord}
    (h : (loadDeliveryState env db eventId).orReturn = .ok s) : db.HasDelivery eventId s := by
  obtain ⟨-, hrow, hver⟩ :=
    loadDeliveryState_found_iff.mp (DeliveryStateResult.orReturn_eq_ok.mp h)
  exact ⟨hrow, hver⟩

/-- The loaded status, as a fact about the database. -/
theorem loadVerifiedLifecycle_eq_ok {env : CallEnv} {db : Db} {eventId : String}
    {st : PersistedStatus} (h : loadVerifiedLifecycleForTransition env db eventId = .ok st) :
    ∃ v l, db.HasStatus eventId v l ∧ st.Reports v l := by
  unfold loadVerifiedLifecycleForTransition at h
  split at h
  · rename_i hfound
    cases h
    obtain ⟨-, v, l, hv, hl, hvv, hlv, hrep⟩ := getStatusImpl_found_iff.mp hfound
    exact ⟨v, l, ⟨hv, hl, hvv, hlv⟩, hrep⟩
  · cases h
  · cases h

omit [Sha256] in
/-- `UPDATE delivery_state` on the revision its row has. -/
theorem Db.updateDeliveryState_puts {db : Db} {eventId : String} {row : DeliveryState}
    (hfind : db.deliveryState.find? eventId = some row) (set : DeliveryState → DeliveryState)
    (hset : ∀ r, (set r).eventId = r.eventId) :
    ∃ t, db.updateDeliveryState eventId row.deliveryRevision set hset =
        ({ db with deliveryState := t }, 1) ∧ db.deliveryState.Puts eventId (set row) t := by
  refine ⟨_, ?_, KeyedTable.puts_updateWhere (q := fun r => r.deliveryRevision =
    row.deliveryRevision) (fun r _ => hset r) hfind (by simp)⟩
  unfold Db.updateDeliveryState
  simp only [KeyedTable.affected_key, hfind, decide_true, if_true]

omit [Sha256] in
/-- The same, run as a statement of a transaction. -/
theorem Db.updateDeliveryState_exec {env : CallEnv} {db tx : Db} {eventId : String}
    {row : DeliveryState} {n : Nat} {set : DeliveryState → DeliveryState}
    {hset : ∀ r, (set r).eventId = r.eventId}
    (hfind : db.deliveryState.find? eventId = some row)
    (h : env.exec .updateDeliveryState
      (.ok (db.updateDeliveryState eventId row.deliveryRevision set hset)) = .ok (tx, n)) :
    ∃ t, tx = { db with deliveryState := t } ∧ db.deliveryState.Puts eventId (set row) t := by
  obtain ⟨t, hupd, ht⟩ := Db.updateDeliveryState_puts hfind set hset
  have htx := (CallEnv.exec_eq_ok.mp h).2
  injection htx with htx
  cases hupd.symm.trans htx
  exact ⟨t, rfl, ht⟩

omit [Sha256] in
/-- `UPDATE lifecycle_state` on the revision its row has. -/
theorem Db.updateLifecycleState_puts {db : Db} {eventId : String} {l : LifecycleState}
    (hfind : db.lifecycleState.find? eventId = some l) (set : LifecycleState → LifecycleState)
    (hset : ∀ r, (set r).eventId = r.eventId) :
    ∃ t, db.updateLifecycleState eventId l.revision set hset =
        ({ db with lifecycleState := t }, 1) ∧ db.lifecycleState.Puts eventId (set l) t := by
  refine ⟨_, ?_, KeyedTable.puts_updateWhere (q := fun r => r.revision = l.revision)
    (fun r _ => hset r) hfind (by simp)⟩
  unfold Db.updateLifecycleState
  simp only [KeyedTable.affected_key, hfind, decide_true, if_true]

/-! ## The methods -/

/-- A call that changed nothing. -/
theorem DbStep.same {env : CallEnv} {db : Db} {c : JournalCall} {r : c.Reply}
    (h : ¬ c.Commits r) : DbStep env db c r db := DbStep.quiet h

theorem updateLifecycle_step {env : CallEnv} {db db' : Db} {eventId : String} {rev : Int}
    {delivery : LocalDeliveryStatus} {retention : LocalRetentionStatus} {r : CasResult}
    (h : updateLifecycle env db eventId rev delivery retention = (db', r)) :
    DbStep env db (.updateLifecycle eventId rev delivery retention) r db' := by
  unfold updateLifecycle at h
  split at h
  · cases h
    exact .same (by simp [JournalCall.Commits])
  · cases h
    exact .same (by simp [JournalCall.Commits])
  rename_i st hfound
  obtain ⟨-, v, l, hv, hl, hvv, hlv, hrep⟩ := getStatusImpl_found_iff.mp hfound
  split at h
  · cases h
    exact .same (by simp [JournalCall.Commits])
  rename_i hrev
  rw [not_not, hrep.lifecycleRevision] at hrev
  obtain rfl : l.eventId = eventId := KeyedTable.key_of_find? hl
  subst hrev
  simp only at h
  obtain ⟨t, hupd, ht⟩ := Db.updateLifecycleState_puts hl
    (LifecycleState.setAll (l.revision + 1) (computeLifecycleChecksum l.eventId
      (l.revision + 1) delivery.asStr retention.asStr) delivery.asStr retention.asStr env.nowMs)
    fun _ => rfl
  rw [hupd] at h
  split at h
  · cases h
    exact .same (by simp [JournalCall.Commits])
  · rename_i db₁ n hrun
    obtain ⟨-, heq⟩ := CallEnv.run_eq_ok.mp hrun
    cases heq
    cases h
    exact .lifecycle ⟨hv, hl, hvv, hlv⟩ rfl ht

theorem createDeliveryPending_step {env : CallEnv} {db db' : Db} {eventId : String}
    {fingerprint : Checksum} {profileId : String} {profileVersion : Int} {topic : String}
    {r : CasResult}
    (h : createDeliveryPending env db eventId fingerprint profileId profileVersion topic =
      (db', r)) :
    DbStep env db (.createDeliveryPending eventId fingerprint profileId profileVersion topic) r
      db' := by
  unfold createDeliveryPending at h
  split at h
  · cases h
    exact .same (by simp [JournalCall.Commits])
  · cases h
    exact .same (by simp [JournalCall.Commits])
  rename_i hexists
  obtain ⟨-, hsome⟩ := CallEnv.run_eq_ok.mp hexists
  injection hsome with hsome
  obtain ⟨v, hv⟩ := Option.isSome_iff_exists.mp hsome
  split at h
  · cases h
    exact .same (by simp [JournalCall.Commits])
  rename_i t hins
  cases h
  obtain ⟨hnew, hrows⟩ := KeyedTable.insert?_eq_some_iff.mp
    (Db.insertReferencing_eq_ok (CallEnv.run_eq_ok.mp hins).2)
  exact .created hv hnew fun k => KeyedTable.find?_append hrows k

omit [Sha256] in
theorem Db.insertDeliveryAttempt_eq_ok {db tx : Db} {attempt : DeliveryAttemptRecord}
    (h : db.insertDeliveryAttempt attempt = .ok tx) :
    tx = { db with deliveryAttempt := db.deliveryAttempt.insert attempt } := by
  unfold Db.insertDeliveryAttempt at h
  split at h
  · cases h
    rfl
  · cases h

/-- An attempt is dropped, or it is in the log and counted. -/
theorem recordDeliveryAttempt_cases {env : CallEnv} {db db' : Db}
    {attempt : DeliveryAttemptRecord} {r : CasResult}
    (h : recordDeliveryAttempt env db attempt = (db', r)) :
    (r ≠ .updated ∧ db' = db) ∨
      (r = .updated ∧ ∃ s t, db.HasDelivery attempt.eventId s ∧
        db.deliveryState.Puts attempt.eventId
          (s.toRow.setAttempted attempt.errorCode
            (computeDeliveryChecksum (s.attempted attempt.errorCode env.nowMs)) env.nowMs) t ∧
        db' = { db with
          deliveryState := t
          deliveryAttempt := (db.deliveryAttempt.insert attempt).trim
            (fun a => a.eventId = attempt.eventId) maxDeliveryAttempts }) := by
  unfold recordDeliveryAttempt at h
  refine settle_elim h ?_ ?_ ?_
  · refine (Never.exec CasResult.made_updated _ _ _).bind fun _ => ?_
    refine (Never.orReturn CasResult.made_updated _).bind fun s => ?_
    refine (Never.exec CasResult.made_updated _ _ _).bind fun _ => ?_
    refine (Never.exec CasResult.made_updated _ _ _).bind fun _ => ?_
    refine (Never.exec CasResult.made_updated _ _ _).bind fun ⟨_, n⟩ => ?_
    refine (Never.ensure (casOfAffected_ne CasResult.made_updated)).bind fun _ => ?_
    exact Never.exec CasResult.made_updated _ _ _
  · exact fun hr hdb' => .inl ⟨hr, hdb'⟩
  · intro hr hok
    obtain ⟨-, hok⟩ := Except.check_eq_ok_iff.mp hok
    obtain ⟨s, hs, hok⟩ := Except.bind_eq_ok_iff.mp hok
    obtain ⟨tx, htx, hok⟩ := Except.bind_eq_ok_iff.mp hok
    obtain rfl := Db.insertDeliveryAttempt_eq_ok (CallEnv.exec_eq_ok.mp htx).2
    obtain ⟨tx, htx, hok⟩ := Except.bind_eq_ok_iff.mp hok
    obtain ⟨-, htx⟩ := CallEnv.exec_eq_ok.mp htx
    cases htx
    obtain ⟨⟨tx, n⟩, htx, hok⟩ := Except.bind_eq_ok_iff.mp hok
    obtain ⟨-, hok⟩ := Except.check_eq_ok_iff.mp hok
    obtain ⟨-, hdb'⟩ := CallEnv.exec_eq_ok.mp hok
    cases hdb'
    -- the attempt log is written before the row, which is still the loaded one
    have hdel := orReturn_load hs
    have hrow : ∀ log, ({ db with deliveryAttempt := log } : Db).deliveryState.find?
        attempt.eventId = some s.toRow := fun _ => hdel.row
    obtain ⟨t, rfl, ht⟩ := Db.updateDeliveryState_exec
      (hrow ((db.deliveryAttempt.insert attempt).trim (fun a => a.eventId = attempt.eventId)
        maxDeliveryAttempts)) htx
    exact .inr ⟨hr, s, t, hdel, ht, rfl⟩

theorem recordDeliveryAttempt_step {env : CallEnv} {db db' : Db}
    {attempt : DeliveryAttemptRecord} {r : CasResult}
    (h : recordDeliveryAttempt env db attempt = (db', r)) :
    DbStep env db (.recordDeliveryAttempt attempt) r db' := by
  rcases recordDeliveryAttempt_cases h with ⟨hr, rfl⟩ | ⟨rfl, s, t, hs, ht, rfl⟩
  · exact .same hr
  · exact .attempted hs ht

/-- The lifecycle half of a delivery transition. -/
theorem updateLifecycleDeliveryStatus_eq_ok {env : CallEnv} {db tx : Db} {eventId : String}
    {st : PersistedStatus} {v : StoredEnvelope} {l : LifecycleState} {status : String}
    (h : updateLifecycleDeliveryStatus env db eventId st status = .ok tx)
    (hl : db.lifecycleState.find? eventId = some l) (hrep : st.Reports v l) :
    ∃ t, tx = { db with lifecycleState := t } ∧ db.lifecycleState.Puts eventId
      (l.advance status l.retentionStatus env.nowMs) t := by
  unfold updateLifecycleDeliveryStatus at h
  obtain ⟨⟨tx', n⟩, hexec, h⟩ := Except.bind_eq_ok_iff.mp h
  obtain ⟨-, htx⟩ := CallEnv.exec_eq_ok.mp hexec
  obtain ⟨-, h⟩ := Except.check_eq_ok_iff.mp h
  cases h
  obtain rfl : l.eventId = eventId := KeyedTable.key_of_find? hl
  rw [hrep.lifecycleRevision, hrep.retentionStatus] at htx
  obtain ⟨t, hupd, ht⟩ := Db.updateLifecycleState_puts hl
    (LifecycleState.setDelivery (l.revision + 1) (computeLifecycleChecksum l.eventId
      (l.revision + 1) status l.retentionStatus) status env.nowMs) fun _ => rfl
  injection htx with htx
  cases hupd.symm.trans htx
  exact ⟨t, rfl, ht⟩

omit [Sha256] in
theorem ne_of_bne {a b : String} (h : (a != b) = true) : a ≠ b := by
  simpa using h

/-- A confirmation leaves the database alone, or comes to confirm an open row. -/
theorem confirmReplicatedDelivery_cases {env : CallEnv} {db db' : Db} {eventId : String}
    {rev : Int} {k : ReplicatedDeliveryConfirmation} {r : CasResult}
    (h : confirmReplicatedDelivery env db eventId rev k = (db', r)) :
    (r ≠ .updated ∧ db' = db) ∨ (r = .updated ∧ env.fault .begin = none ∧
      ∃ s, (loadDeliveryState env db eventId).orReturn = .ok s ∧
        s.deliveryStatus ≠ "REPLICATED" ∧ confirmCurrent env db eventId rev k s = .ok db') := by
  unfold confirmReplicatedDelivery at h
  refine settle_elim h ?_ ?_ ?_
  · refine (Never.exec CasResult.made_updated _ _ _).bind fun _ => ?_
    refine (Never.orReturn CasResult.made_updated _).bind fun s => ?_
    refine (Never.ensure fun _ => confirmAgain_ne_updated _ _ _ _ _).bind fun _ => ?_
    exact Never.confirmCurrent CasResult.made_updated _ _ _ _ _ _
  · exact fun hr hdb => .inl ⟨hr, hdb⟩
  · intro hr hok
    obtain ⟨hbegin, hok⟩ := Except.check_eq_ok_iff.mp hok
    obtain ⟨s, hs, hok⟩ := Except.bind_eq_ok_iff.mp hok
    obtain ⟨hstatus, hok⟩ := Except.check_eq_ok_iff.mp hok
    rw [ensure_eq_ok] at hstatus
    exact .inr ⟨hr, (CallEnv.exec_eq_ok.mp hbegin).1, s, hs, ne_of_bne hstatus, hok⟩

theorem confirmReplicatedDelivery_step {env : CallEnv} {db db' : Db} {eventId : String}
    {rev : Int} {k : ReplicatedDeliveryConfirmation} {r : CasResult}
    (h : confirmReplicatedDelivery env db eventId rev k = (db', r)) :
    DbStep env db (.confirmReplicatedDelivery eventId rev k) r db' := by
  obtain ⟨hr, rfl⟩ | ⟨rfl, -, s, hs, hstatus, hok⟩ := confirmReplicatedDelivery_cases h
  · exact .same hr
  · -- every check passed: the two updates are on the rows that were loaded
    have hdel := orReturn_load hs
    unfold confirmCurrent at hok
    obtain ⟨st, hst, hok⟩ := Except.bind_eq_ok_iff.mp hok
    obtain ⟨hrev, hok⟩ := Except.check_eq_ok_iff.mp hok
    obtain ⟨hfp, hok⟩ := Except.check_eq_ok_iff.mp hok
    obtain ⟨hprofile, hok⟩ := Except.check_eq_ok_iff.mp hok
    obtain ⟨htopic, hok⟩ := Except.check_eq_ok_iff.mp hok
    obtain ⟨⟨tx, n⟩, htx, hok⟩ := Except.bind_eq_ok_iff.mp hok
    obtain ⟨-, hok⟩ := Except.check_eq_ok_iff.mp hok
    obtain ⟨tx', htx', hok⟩ := Except.bind_eq_ok_iff.mp hok
    obtain ⟨-, hdb'⟩ := CallEnv.exec_eq_ok.mp hok
    cases hdb'
    simp only [ensure_eq_ok, Bool.and_eq_true, beq_iff_eq] at hrev hfp hprofile htopic
    subst hrev
    obtain ⟨v, l, hstat, hrep⟩ := loadVerifiedLifecycle_eq_ok hst
    obtain ⟨t, rfl, ht⟩ := Db.updateDeliveryState_exec hdel.row htx
    obtain ⟨t', rfl, ht'⟩ := updateLifecycleDeliveryStatus_eq_ok htx' hstat.lifecycle hrep
    exact .confirmed hdel hstat hstatus rfl ⟨hfp, hprofile.1, hprofile.2, htopic⟩ ht ht'

theorem blockDelivery_step {env : CallEnv} {db db' : Db} {eventId : String} {rev : Int}
    {reason : String} {r : CasResult} (h : blockDelivery env db eventId rev reason = (db', r)) :
    DbStep env db (.blockDelivery eventId rev reason) r db' := by
  unfold blockDelivery at h
  refine settle_elim h ?_ ?_ ?_
  · refine (Never.exec CasResult.made_updated _ _ _).bind fun _ => ?_
    refine (Never.orReturn CasResult.made_updated _).bind fun s => ?_
    refine (Never.loadVerifiedLifecycle CasResult.made_updated _ _ _).bind fun st => ?_
    refine (Never.ensure (by simp)).bind fun _ => ?_
    refine (Never.ensure (by simp)).bind fun _ => ?_
    refine (Never.exec CasResult.made_updated _ _ _).bind fun ⟨_, n⟩ => ?_
    refine (Never.ensure (by simp)).bind fun _ => ?_
    refine (Never.updateLifecycleDelivery CasResult.made_updated _ _ _ _ _).bind fun _ => ?_
    exact Never.exec CasResult.made_updated _ _ _
  · rintro hr rfl
    exact .same hr
  · rintro rfl hok
    obtain ⟨-, hok⟩ := Except.check_eq_ok_iff.mp hok
    obtain ⟨s, hs, hok⟩ := Except.bind_eq_ok_iff.mp hok
    obtain ⟨st, hst, hok⟩ := Except.bind_eq_ok_iff.mp hok
    obtain ⟨hrev, hok⟩ := Except.check_eq_ok_iff.mp hok
    obtain ⟨hstatus, hok⟩ := Except.check_eq_ok_iff.mp hok
    obtain ⟨⟨tx, n⟩, htx, hok⟩ := Except.bind_eq_ok_iff.mp hok
    obtain ⟨-, hok⟩ := Except.check_eq_ok_iff.mp hok
    obtain ⟨tx', htx', hok⟩ := Except.bind_eq_ok_iff.mp hok
    obtain ⟨-, hdb'⟩ := CallEnv.exec_eq_ok.mp hok
    cases hdb'
    simp only [ensure_eq_ok, beq_iff_eq] at hstatus hrev
    subst hrev
    have hdel := orReturn_load hs
    obtain ⟨v, l, hstat, hrep⟩ := loadVerifiedLifecycle_eq_ok hst
    obtain ⟨t, rfl, ht⟩ := Db.updateDeliveryState_exec hdel.row htx
    obtain ⟨t', rfl, ht'⟩ := updateLifecycleDeliveryStatus_eq_ok htx' hstat.lifecycle hrep
    exact .blocked hdel hstat (ne_of_bne hstatus) rfl ht ht'

theorem updateDeliveryRetry_step {env : CallEnv} {db db' : Db} {eventId : String}
    {rev next : Int} {r : CasResult} (h : updateDeliveryRetry env db eventId rev next = (db', r)) :
    DbStep env db (.updateDeliveryRetry eventId rev next) r db' := by
  unfold updateDeliveryRetry at h
  split at h
  · rename_i r' hload
    cases h
    refine .same fun hr => ?_
    exact Never.orReturn CasResult.made_updated _ (hload.trans (congrArg _ hr))
  rename_i s hs
  split at h
  · cases h
    exact .same (by simp [JournalCall.Commits])
  rename_i hrev
  rw [not_not] at hrev
  subst hrev
  split at h
  · cases h
    exact .same (by simp [JournalCall.Commits])
  rename_i hstatus
  have hdel := orReturn_load hs
  obtain ⟨t, hupd, ht⟩ := Db.updateDeliveryState_puts hdel.row
    (DeliveryState.setRetrying next (s.deliveryRevision + 1)
      (computeDeliveryChecksum (s.retrying next (s.deliveryRevision + 1) env.nowMs)) env.nowMs)
    fun _ => rfl
  simp only at h
  split at h
  · cases h
    exact .same (by simp [JournalCall.Commits])
  rename_i tx n hrun
  have htx := (CallEnv.run_eq_ok.mp hrun).2
  injection htx with htx
  cases hupd.symm.trans htx
  cases h
  exact .retried hdel hstatus rfl ht

/-! ## Every call -/

theorem LocalJournal.accept_step {j j' : LocalJournal} {env : CallEnv} {req : AcceptRequest}
    {r : AcceptResult} (h : j.accept env req = some (j', r)) :
    DbStep env j.db (.accept req) r j'.db := by
  unfold LocalJournal.accept at h
  split at h
  · cases h
    exact .same (by simp [JournalCall.Commits])
  split at h
  · cases h
    exact .same (by simp [JournalCall.Commits])
  split at h
  · cases h
    exact .same (by simp [JournalCall.Commits])
  split at h
  · cases h
    exact .same (by simp [JournalCall.Commits])
  obtain ⟨⟨db', r'⟩, htx, heq⟩ := Option.map_eq_some_iff.mp h
  cases heq
  rcases acceptTransaction_cases htx with ⟨a, rfl, hacc⟩ | ⟨hr, log, rfl⟩
  · exact .accepted hacc
  · exact .quiet fun ⟨a, ha⟩ => hr a ha

omit [Sha256] in
/-- A method that only reads. -/
theorem LocalJournal.read_eq_some {α : Type} {j j' : LocalJournal} {x r : α}
    (h : some (j, x) = some (j', r)) : j = j' ∧ x = r := by
  cases h
  exact ⟨rfl, rfl⟩

omit [Sha256] in
theorem LocalJournal.write_eq_some {α : Type} {j j' : LocalJournal} {x : Db × α} {r : α}
    (h : j.write x = some (j', r)) : x = (j'.db, r) := by
  cases h
  rfl

omit [Sha256] in
theorem LocalJournal.write_db {α : Type} {j j' : LocalJournal} {x : Db × α} {r : α}
    (h : j.write x = some (j', r)) : j'.db = x.1 := by
  cases h
  rfl

/-- Whatever a call is, its effect is one of `DbStep`. -/
theorem journalStep_cases {j j' : LocalJournal} {ev : JournalEvent}
    (h : journalLts.step j ev j') : DbStep ev.env j.db ev.call ev.reply j'.db := by
  obtain ⟨env, c, r⟩ := ev
  have h : j.exec env c = some (j', r) := h
  -- the methods that are not listed only read
  cases c with
  | accept req => exact LocalJournal.accept_step h
  | updateLifecycle => exact updateLifecycle_step (LocalJournal.write_eq_some h)
  | createDeliveryPending => exact createDeliveryPending_step (LocalJournal.write_eq_some h)
  | recordDeliveryAttempt => exact recordDeliveryAttempt_step (LocalJournal.write_eq_some h)
  | confirmReplicatedDelivery => exact confirmReplicatedDelivery_step (LocalJournal.write_eq_some h)
  | blockDelivery => exact blockDelivery_step (LocalJournal.write_eq_some h)
  | updateDeliveryRetry => exact updateDeliveryRetry_step (LocalJournal.write_eq_some h)
  | _ =>
      cases h
      exact .same fun hc => hc

/-- What holds of a new database and survives every call holds in every
reachable journal. -/
theorem Reachable.invariant {P : Db → Prop} (hinit : P .empty)
    (hstep : ∀ env db c r db', DbStep env db c r db' → P db → P db') {j : LocalJournal}
    (h : Reachable j) : P j.db := by
  obtain ⟨config, tr, hrun⟩ := h
  refine hrun.invariant (P := fun j => P j.db) (Q := fun _ => True) (fun _ _ => trivial)
    hinit ?_
  intro t ev u _ hP hst
  exact hstep _ _ _ _ _ (journalStep_cases hst) hP

end CraftRelay
