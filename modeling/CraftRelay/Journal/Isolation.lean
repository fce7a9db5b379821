import CraftRelay.Lib.Unwinding
import CraftRelay.Journal.Acceptance

/-!
# What a call about one event reads and writes

`Db.AgreesOn e` relates two databases that hold the same rows of event `e`, whatever
else they hold. Every method that names `e` answers alike in two such databases and
leaves two such databases (`exec_seen`); for `accept` this needs the event to be
stored, since a new event draws on the sequence tables all events share. A call that
does not name `e` leaves the rows of `e` alone (`exec_other`).
-/

namespace CraftRelay

open Except (Matched)

/-- The rows of event `e` are the same in both databases. -/
structure Db.AgreesOn (e : String) (db db' : Db) : Prop where
  storedEnvelope : db'.storedEnvelope.find? e = db.storedEnvelope.find? e
  payloadBlob : db'.payloadBlob.find? e = db.payloadBlob.find? e
  lifecycleState : db'.lifecycleState.find? e = db.lifecycleState.find? e
  dedupFingerprint : db'.dedupFingerprint.find? e = db.dedupFingerprint.find? e
  deliveryState : db'.deliveryState.find? e = db.deliveryState.find? e

/-- The results of a method in two databases: the same answer, and databases that still
agree. -/
def Db.SameAnswer {α : Type} (e : String) (x y : Db × α) : Prop :=
  x.1.AgreesOn e y.1 ∧ x.2 = y.2

namespace Db.AgreesOn

variable {e : String} {db db' db'' : Db}

theorem refl (e : String) (db : Db) : db.AgreesOn e db := ⟨rfl, rfl, rfl, rfl, rfl⟩

theorem symm (h : db.AgreesOn e db') : db'.AgreesOn e db :=
  ⟨h.storedEnvelope.symm, h.payloadBlob.symm, h.lifecycleState.symm, h.dedupFingerprint.symm,
    h.deliveryState.symm⟩

theorem trans (h : db.AgreesOn e db') (h' : db'.AgreesOn e db'') : db.AgreesOn e db'' where
  storedEnvelope := h'.storedEnvelope.trans h.storedEnvelope
  payloadBlob := h'.payloadBlob.trans h.payloadBlob
  lifecycleState := h'.lifecycleState.trans h.lifecycleState
  dedupFingerprint := h'.dedupFingerprint.trans h.dedupFingerprint
  deliveryState := h'.deliveryState.trans h.deliveryState

/-- The audit log is none of the rows. -/
theorem audit (e : String) (db : Db) (log : AutoLog WriteAttempt) :
    db.AgreesOn e { db with writeAttempt := log } := ⟨rfl, rfl, rfl, rfl, rfl⟩

/-! ## Rows written -/

/-- An `UPDATE` of the event's lifecycle row touches as many rows in both. -/
theorem updateLifecycleState (h : db.AgreesOn e db') (revision : Int)
    (set : LifecycleState → LifecycleState) (hset : ∀ r, (set r).eventId = r.eventId) :
    Db.SameAnswer e (db.updateLifecycleState e revision set hset)
      (db'.updateLifecycleState e revision set hset) := by
  refine ⟨⟨h.storedEnvelope, h.payloadBlob, ?_, h.dedupFingerprint, h.deliveryState⟩, ?_⟩
  · simp only [Db.updateLifecycleState, KeyedTable.find?_updateWhere, h.lifecycleState]
  · simp only [Db.updateLifecycleState, KeyedTable.affected_key, h.lifecycleState]

/-- An `UPDATE` of the event's delivery row touches as many rows in both. -/
theorem updateDeliveryState (h : db.AgreesOn e db') (revision : Int)
    (set : DeliveryState → DeliveryState) (hset : ∀ r, (set r).eventId = r.eventId) :
    Db.SameAnswer e (db.updateDeliveryState e revision set hset)
      (db'.updateDeliveryState e revision set hset) := by
  refine ⟨⟨h.storedEnvelope, h.payloadBlob, h.lifecycleState, h.dedupFingerprint, ?_⟩, ?_⟩
  · simp only [Db.updateDeliveryState, KeyedTable.find?_updateWhere, h.deliveryState]
  · simp only [Db.updateDeliveryState, KeyedTable.affected_key, h.deliveryState]

/-- An `INSERT` of a row of the event is refused in both, for the same reason. -/
theorem insertDeliveryState (h : db.AgreesOn e db') (row : DeliveryState)
    (hrow : row.eventId = e) :
    Matched (fun t t' => t'.find? e = t.find? e)
      (db.insertReferencing "delivery_state" db.deliveryState row)
      (db'.insertReferencing "delivery_state" db'.deliveryState row) := by
  subst hrow
  unfold Db.insertReferencing
  rw [h.storedEnvelope]
  cases hfind : db.deliveryState.find? row.eventId with
  | none =>
      obtain ⟨t, ht⟩ := KeyedTable.insert?_of_new (t := db.deliveryState) hfind
      obtain ⟨t', ht'⟩ := KeyedTable.insert?_of_new (t := db'.deliveryState)
        (h.deliveryState.trans hfind)
      rw [ht, ht']
      have hrows := (KeyedTable.insert?_eq_some_iff.mp ht).2
      have hrows' := (KeyedTable.insert?_eq_some_iff.mp ht').2
      by_cases henv : (db.storedEnvelope.find? row.eventId).isSome = true
      · simp only [henv, if_true]
        apply Matched.ok
        rw [KeyedTable.find?_append hrows, KeyedTable.find?_append hrows']
        simp
      · simp only [henv]
        exact .error _
  | some d =>
      rw [KeyedTable.insert?_of_taken hfind,
        KeyedTable.insert?_of_taken (h.deliveryState.trans hfind)]
      exact .error _

/-- An `INSERT` of an attempt of the event is refused in both, or in neither. -/
theorem insertDeliveryAttempt (h : db.AgreesOn e db') (attempt : DeliveryAttemptRecord)
    (ha : attempt.eventId = e) :
    Matched (Db.AgreesOn e) (db.insertDeliveryAttempt attempt)
      (db'.insertDeliveryAttempt attempt) := by
  subst ha
  unfold Db.insertDeliveryAttempt
  rw [h.storedEnvelope]
  by_cases henv : (db.storedEnvelope.find? attempt.eventId).isSome = true
  · simp only [henv, if_true]
    exact .ok ⟨h.storedEnvelope, h.payloadBlob, h.lifecycleState, h.dedupFingerprint,
      h.deliveryState⟩
  · simp only [henv]
    exact .error _

end Db.AgreesOn

/-- One statement on matching arguments. -/
theorem CallEnv.exec_matched {α β : Type} {R : α → β → Prop} (env : CallEnv) (s : Stmt)
    {x : Except String α} {y : Except String β} (h : Matched R x y) :
    Matched R (env.exec s x) (env.exec s y) := by
  unfold CallEnv.exec CallEnv.run
  cases env.fault s with
  | some msg => exact (Matched.error msg).mapError _
  | none => exact h.mapError _

theorem settle_matched {e : String} {db db' : Db} {x y : Except CasResult Db}
    (h : db.AgreesOn e db') (hxy : Matched (Db.AgreesOn e) x y) :
    Db.SameAnswer e (settle db x) (settle db' y) := by
  cases hxy with
  | error r => exact ⟨h, rfl⟩
  | ok htx => exact ⟨htx, rfl⟩

variable [Sha256]

namespace Db.AgreesOn

variable {e : String} {db db' : Db}

/-! ## Readers -/

theorem loadDeliveryState (h : db.AgreesOn e db') (env : CallEnv) :
    loadDeliveryState env db' e = loadDeliveryState env db e := by
  unfold CraftRelay.loadDeliveryState
  rw [h.deliveryState]

theorem recomputeEnvelopeChecksumFromRow (h : db.AgreesOn e db') (env : CallEnv) :
    recomputeEnvelopeChecksumFromRow env db' e = recomputeEnvelopeChecksumFromRow env db e := by
  unfold CraftRelay.recomputeEnvelopeChecksumFromRow
  rw [h.storedEnvelope]

theorem verifyPayloadDigest (h : db.AgreesOn e db') (env : CallEnv) :
    verifyPayloadDigest env db' e = verifyPayloadDigest env db e := by
  unfold CraftRelay.verifyPayloadDigest
  rw [h.payloadBlob]

theorem verifyPayload (h : db.AgreesOn e db') (env : CallEnv) :
    verifyPayload env db' e = verifyPayload env db e := by
  unfold CraftRelay.verifyPayload
  rw [h.payloadBlob]

theorem readVerifiedPayload (h : db.AgreesOn e db') (env : CallEnv) :
    readVerifiedPayload env db' e = readVerifiedPayload env db e := by
  unfold CraftRelay.readVerifiedPayload
  rw [h.storedEnvelope, h.payloadBlob]

theorem getStatusImpl (h : db.AgreesOn e db') (env : CallEnv) :
    getStatusImpl env db' e = getStatusImpl env db e := by
  have hrow : db'.statusRow e = db.statusRow e := by
    unfold Db.statusRow
    rw [h.storedEnvelope, h.lifecycleState]
  unfold CraftRelay.getStatusImpl
  rw [hrow, h.recomputeEnvelopeChecksumFromRow]

theorem loadDeliveryCandidate (h : db.AgreesOn e db') (env : CallEnv) :
    loadDeliveryCandidate env db' e = loadDeliveryCandidate env db e := by
  unfold CraftRelay.loadDeliveryCandidate
  rw [h.loadDeliveryState, h.storedEnvelope, h.recomputeEnvelopeChecksumFromRow]

theorem loadVerifiedLifecycleForTransition (h : db.AgreesOn e db') (env : CallEnv) :
    loadVerifiedLifecycleForTransition env db' e =
      loadVerifiedLifecycleForTransition env db e := by
  unfold CraftRelay.loadVerifiedLifecycleForTransition
  rw [h.getStatusImpl]

/-! ## Transitions -/

theorem updateLifecycle (h : db.AgreesOn e db') (env : CallEnv) (rev : Int)
    (delivery : LocalDeliveryStatus) (retention : LocalRetentionStatus) :
    Db.SameAnswer e (updateLifecycle env db e rev delivery retention)
      (updateLifecycle env db' e rev delivery retention) := by
  unfold CraftRelay.updateLifecycle
  rw [h.getStatusImpl]
  cases CraftRelay.getStatusImpl env db e with
  | notFound => exact ⟨h, rfl⟩
  | corrupted eventId detail => exact ⟨h, rfl⟩
  | found status =>
      by_cases hrev : status.lifecycleRevision = rev
      · simp only [hrev, ne_eq, not_true, if_false, CallEnv.run]
        cases env.fault .updateLifecycleState with
        | some msg => exact ⟨h, rfl⟩
        | none =>
            have hupd := h.updateLifecycleState rev
              (LifecycleState.setAll (rev + 1)
                (computeLifecycleChecksum e (rev + 1) delivery.asStr retention.asStr)
                delivery.asStr retention.asStr env.nowMs) fun _ => rfl
            exact ⟨hupd.1, congrArg (casOfAffected · _) hupd.2⟩
      · simp only [hrev, ne_eq, not_false_eq_true, if_true]
        exact ⟨h, rfl⟩

theorem updateLifecycleDeliveryStatus (h : db.AgreesOn e db') (env : CallEnv)
    (current : PersistedStatus) (status : String) :
    Matched (Db.AgreesOn e) (updateLifecycleDeliveryStatus env db e current status)
      (updateLifecycleDeliveryStatus env db' e current status) := by
  unfold CraftRelay.updateLifecycleDeliveryStatus
  have hupd := h.updateLifecycleState current.lifecycleRevision
    (LifecycleState.setDelivery (current.lifecycleRevision + 1)
      (computeLifecycleChecksum e (current.lifecycleRevision + 1) status current.retentionStatus)
      status env.nowMs) fun _ => rfl
  refine Matched.bind (env.exec_matched _ (.ok hupd)) ?_
  rintro ⟨tx, n⟩ ⟨tx', n'⟩ ⟨htx, rfl⟩
  exact Matched.bind_same _ fun _ => .ok htx

theorem createDeliveryPending (h : db.AgreesOn e db') (env : CallEnv)
    (fingerprint : Checksum) (profileId : String) (profileVersion : Int) (topic : String) :
    Db.SameAnswer e
      (createDeliveryPending env db e fingerprint profileId profileVersion topic)
      (createDeliveryPending env db' e fingerprint profileId profileVersion topic) := by
  unfold CraftRelay.createDeliveryPending
  rw [h.storedEnvelope]
  cases env.run .selectEnvelopeExists (.ok (db.storedEnvelope.find? e).isSome) with
  | error msg => exact ⟨h, rfl⟩
  | ok found =>
      cases found with
      | false => exact ⟨h, rfl⟩
      | true =>
          have hins := h.insertDeliveryState
            (pendingRow env.nowMs e fingerprint profileId profileVersion topic) rfl
          simp only [CallEnv.run]
          cases env.fault .insertDeliveryState with
          | some msg => exact ⟨h, rfl⟩
          | none =>
              generalize db.insertReferencing _ _ _ = x at hins ⊢
              generalize db'.insertReferencing _ _ _ = y at hins ⊢
              cases hins with
              | error msg => exact ⟨h, rfl⟩
              | ok ht =>
                  exact ⟨⟨h.storedEnvelope, h.payloadBlob, h.lifecycleState,
                    h.dedupFingerprint, ht⟩, rfl⟩

theorem recordDeliveryAttempt (h : db.AgreesOn e db') (env : CallEnv)
    (attempt : DeliveryAttemptRecord) (ha : attempt.eventId = e) :
    Db.SameAnswer e (recordDeliveryAttempt env db attempt)
      (recordDeliveryAttempt env db' attempt) := by
  unfold CraftRelay.recordDeliveryAttempt
  rw [ha, h.loadDeliveryState]
  apply settle_matched h
  apply Matched.bind_same
  intro _
  apply Matched.bind_same
  intro state
  apply Matched.bind (env.exec_matched _ (h.insertDeliveryAttempt attempt ha))
  intro tx tx' htx
  -- the trimmed log is none of the rows
  have htrim : ∀ log log', ({ tx with deliveryAttempt := log } : Db).AgreesOn e
      { tx' with deliveryAttempt := log' } := fun log log' =>
    ⟨htx.storedEnvelope, htx.payloadBlob, htx.lifecycleState, htx.dedupFingerprint,
      htx.deliveryState⟩
  apply Matched.bind (env.exec_matched _ (.ok (htrim _ _)))
  intro tx tx' htx
  apply Matched.bind (env.exec_matched _ (.ok (htx.updateDeliveryState _ _ _)))
  rintro ⟨tx, n⟩ ⟨tx', n'⟩ ⟨htx, rfl⟩
  apply Matched.bind_same
  intro _
  exact env.exec_matched _ (.ok htx)

theorem confirmCurrent (h : db.AgreesOn e db') (env : CallEnv) (rev : Int)
    (k : ReplicatedDeliveryConfirmation) (current : DeliveryStateRecord) :
    Matched (Db.AgreesOn e) (confirmCurrent env db e rev k current)
      (confirmCurrent env db' e rev k current) := by
  unfold CraftRelay.confirmCurrent
  rw [h.loadVerifiedLifecycleForTransition]
  apply Matched.bind_same
  intro lifecycle
  apply Matched.bind_same
  intro _
  apply Matched.bind_same
  intro _
  apply Matched.bind_same
  intro _
  apply Matched.bind_same
  intro _
  apply Matched.bind (env.exec_matched _ (.ok (h.updateDeliveryState _ _ _)))
  rintro ⟨tx, n⟩ ⟨tx', n'⟩ ⟨htx, rfl⟩
  apply Matched.bind_same
  intro _
  apply Matched.bind (htx.updateLifecycleDeliveryStatus env lifecycle _)
  intro tx tx' htx
  exact env.exec_matched _ (.ok htx)

theorem confirmReplicatedDelivery (h : db.AgreesOn e db') (env : CallEnv) (rev : Int)
    (k : ReplicatedDeliveryConfirmation) :
    Db.SameAnswer e (confirmReplicatedDelivery env db e rev k)
      (confirmReplicatedDelivery env db' e rev k) := by
  have hagain : ∀ current, confirmAgain env db' e current k = confirmAgain env db e current k := by
    intro current
    unfold confirmAgain
    rw [h.loadVerifiedLifecycleForTransition]
  unfold CraftRelay.confirmReplicatedDelivery
  rw [h.loadDeliveryState]
  apply settle_matched h
  apply Matched.bind_same
  intro _
  apply Matched.bind_same
  intro current
  rw [hagain]
  apply Matched.bind_same
  intro _
  exact h.confirmCurrent env rev k current

theorem blockDelivery (h : db.AgreesOn e db') (env : CallEnv) (rev : Int) (reason : String) :
    Db.SameAnswer e (blockDelivery env db e rev reason) (blockDelivery env db' e rev reason) := by
  unfold CraftRelay.blockDelivery
  rw [h.loadDeliveryState, h.loadVerifiedLifecycleForTransition]
  apply settle_matched h
  apply Matched.bind_same
  intro _
  apply Matched.bind_same
  intro current
  apply Matched.bind_same
  intro lifecycle
  apply Matched.bind_same
  intro _
  apply Matched.bind_same
  intro _
  apply Matched.bind (env.exec_matched _ (.ok (h.updateDeliveryState _ _ _)))
  rintro ⟨tx, n⟩ ⟨tx', n'⟩ ⟨htx, rfl⟩
  apply Matched.bind_same
  intro _
  apply Matched.bind (htx.updateLifecycleDeliveryStatus env lifecycle _)
  intro tx tx' htx
  exact env.exec_matched _ (.ok htx)

theorem updateDeliveryRetry (h : db.AgreesOn e db') (env : CallEnv) (rev next : Int) :
    Db.SameAnswer e (updateDeliveryRetry env db e rev next)
      (updateDeliveryRetry env db' e rev next) := by
  unfold CraftRelay.updateDeliveryRetry
  rw [h.loadDeliveryState]
  cases (CraftRelay.loadDeliveryState env db e).orReturn with
  | error r => exact ⟨h, rfl⟩
  | ok current =>
      by_cases hrev : current.deliveryRevision = rev
      · by_cases hstatus : current.deliveryStatus = "REPLICATED"
        · simp only [hrev, hstatus, ne_eq, not_true, if_false, if_true]
          exact ⟨h, rfl⟩
        · simp only [hrev, hstatus, ne_eq, not_true, if_false, CallEnv.run]
          cases env.fault .updateDeliveryState with
          | some msg => exact ⟨h, rfl⟩
          | none =>
              have hupd := h.updateDeliveryState rev
                (DeliveryState.setRetrying next (rev + 1)
                  (computeDeliveryChecksum (current.retrying next (rev + 1) env.nowMs))
                  env.nowMs) fun _ => rfl
              exact ⟨hupd.1, congrArg (casOfAffected · _) hupd.2⟩
      · simp only [hrev, ne_eq, not_false_eq_true, if_true]
        exact ⟨h, rfl⟩

/-! ## A repeated event -/

theorem acceptDuplicate (h : db.AgreesOn e db') (env : CallEnv) (req : AcceptRequest)
    (hreq : req.eventId = e) :
    Db.SameAnswer e (acceptDuplicate env db req) (acceptDuplicate env db' req) := by
  unfold CraftRelay.acceptDuplicate
  rw [hreq, h.getStatusImpl, h.verifyPayloadDigest]
  cases CraftRelay.getStatusImpl env db e with
  | notFound => exact ⟨h, rfl⟩
  | corrupted eventId detail => exact ⟨h, rfl⟩
  | found status =>
      cases CraftRelay.verifyPayloadDigest env db e with
      | error detail => exact ⟨h, rfl⟩
      | ok _ =>
          obtain ⟨log, hlog⟩ := commitIgnored_recordAttempt env db e "EXISTING_DUPLICATE" none
          obtain ⟨log', hlog'⟩ := commitIgnored_recordAttempt env db' e "EXISTING_DUPLICATE" none
          simp only [hlog, hlog']
          exact ⟨((audit e db log).symm.trans h).trans (audit e db' log'), rfl⟩

/-- A stored event never comes to the allocations, so `accept` reads only its rows. -/
theorem acceptTransaction (h : db.AgreesOn e db') (env : CallEnv) (req : AcceptRequest)
    (hreq : req.eventId = e) (hstored : db.dedupFingerprint.find? e ≠ none) :
    ∃ x y, acceptTransaction env db req = some x ∧ acceptTransaction env db' req = some y ∧
      Db.SameAnswer e x y := by
  obtain ⟨row, hrow⟩ := Option.ne_none_iff_exists'.mp hstored
  have hrow' := h.dedupFingerprint.trans hrow
  unfold CraftRelay.acceptTransaction checkDedup
  rw [hreq, hrow, hrow']
  cases env.run .begin (.ok ()) with
  | error msg => exact ⟨_, _, rfl, rfl, h, rfl⟩
  | ok _ =>
      simp only [CallEnv.run]
      cases env.fault .selectDedupFingerprint with
      | some msg => exact ⟨_, _, rfl, rfl, h, rfl⟩
      | none =>
          by_cases hfp : row.requestFingerprint = req.requestFingerprint.val
          · simp only [hfp, if_true]
            exact ⟨_, _, rfl, rfl, h.acceptDuplicate env req hreq⟩
          · simp only [hfp, if_false]
            obtain ⟨log, hlog⟩ :=
              commitIgnored_recordAttempt env db e "FINGERPRINT_CONFLICT" none
            obtain ⟨log', hlog'⟩ :=
              commitIgnored_recordAttempt env db' e "FINGERPRINT_CONFLICT" none
            refine ⟨_, _, rfl, rfl, ?_, rfl⟩
            simp only [hlog, hlog']
            exact ((audit e db log).symm.trans h).trans (audit e db' log')

end Db.AgreesOn

/-! ## Every call -/

/-- The event a method names. -/
def JournalCall.eventId? : JournalCall → Option String
  | .accept req => some req.eventId
  | .getStatus eventId => some eventId
  | .updateLifecycle eventId .. => some eventId
  | .verifyPayload eventId => some eventId
  | .readVerifiedPayload eventId => some eventId
  | .createDeliveryPending eventId .. => some eventId
  | .recordDeliveryAttempt attempt => some attempt.eventId
  | .confirmReplicatedDelivery eventId .. => some eventId
  | .blockDelivery eventId .. => some eventId
  | .updateDeliveryRetry eventId .. => some eventId
  | .getDeliveryState eventId => some eventId
  | .getDeliveryCandidate eventId => some eventId
  | _ => none

/-- The calls that name event `e`, and those on the shutdown flag. -/
def JournalCall.concerns (e : String) : JournalCall → Bool
  | .shutdown => true
  | .isShutdown => true
  | c => c.eventId? = some e

/-- Both journals are configured alike, as far shut down, and hold the same rows of
event `e`. -/
structure LocalJournal.AgreesOn (e : String) (j k : LocalJournal) : Prop where
  config : k.config = j.config
  shutdown : k.shutdown = j.shutdown
  db : j.db.AgreesOn e k.db

omit [Sha256] in
/-- A method that leaves a database, in two journals. -/
theorem LocalJournal.AgreesOn.write {e : String} {j j' k : LocalJournal} {α : Type} {r : α}
    {x y : Db × α} (h : j.AgreesOn e k) (hxy : Db.SameAnswer e x y)
    (hst : j.write x = some (j', r)) :
    ∃ k', k.write y = some (k', r) ∧ j'.AgreesOn e k' := by
  cases hst
  refine ⟨{ k with db := y.1 }, ?_, h.config, h.shutdown, hxy.1⟩
  rw [LocalJournal.write, hxy.2]

omit [Sha256] in
/-- A method that only reads, in two journals. -/
theorem LocalJournal.AgreesOn.read {e : String} {j j' k : LocalJournal} {α : Type} {x y r : α}
    (h : j.AgreesOn e k) (hxy : y = x) (hst : some (j, x) = some (j', r)) :
    ∃ k', some (k, y) = some (k', r) ∧ j'.AgreesOn e k' := by
  cases hst
  exact ⟨k, by rw [hxy], h⟩

theorem LocalJournal.AgreesOn.accept {e : String} {j j' k : LocalJournal} {env : CallEnv}
    {req : AcceptRequest} {r : AcceptResult} (h : j.AgreesOn e k) (hreq : req.eventId = e)
    (hstored : j.db.dedupFingerprint.find? e ≠ none) (hst : j.accept env req = some (j', r)) :
    ∃ k', k.accept env req = some (k', r) ∧ j'.AgreesOn e k' := by
  obtain ⟨config, db', shutdown⟩ := k
  obtain rfl : config = j.config := h.config
  obtain rfl : shutdown = j.shutdown := h.shutdown
  unfold LocalJournal.accept at hst ⊢
  split at hst
  · rename_i hshut
    rw [if_pos hshut]
    exact h.read rfl hst
  rename_i hshut
  rw [if_neg hshut]
  split at hst
  · rename_i hdisk
    rw [if_pos hdisk]
    exact h.read rfl hst
  rename_i hdisk
  rw [if_neg hdisk]
  split at hst
  · rename_i hsize
    rw [if_pos hsize]
    exact h.read rfl hst
  rename_i hsize
  rw [if_neg hsize]
  split at hst
  · rename_i hfield
    rw [if_pos hfield]
    exact h.read rfl hst
  rename_i hfield
  rw [if_neg hfield]
  obtain ⟨x, y, hx, hy, hxy⟩ := h.db.acceptTransaction env req hreq hstored
  rw [hx] at hst
  simp only [hy]
  exact h.write hxy hst

/-- A call that names the event, or the shutdown flag: the same answer in both
journals. -/
theorem LocalJournal.AgreesOn.exec {e : String} {j j' k : LocalJournal} {env : CallEnv}
    {c : JournalCall} {r : c.Reply} (h : j.AgreesOn e k) (hc : c.concerns e = true)
    (hstored : j.db.dedupFingerprint.find? e ≠ none) (hst : j.exec env c = some (j', r)) :
    ∃ k', k.exec env c = some (k', r) ∧ j'.AgreesOn e k' := by
  have hdb := h.db
  cases c with
  | shutdown =>
      cases hst
      exact ⟨_, rfl, h.config, rfl, hdb⟩
  | isShutdown => exact h.read h.shutdown hst
  | getStatusByJournalSeq seq => simp [JournalCall.concerns, JournalCall.eventId?] at hc
  | scanPendingDeliveries limit => simp [JournalCall.concerns, JournalCall.eventId?] at hc
  | scanRetryingDeliveries now limit => simp [JournalCall.concerns, JournalCall.eventId?] at hc
  | scanDeliveryGateStates limit => simp [JournalCall.concerns, JournalCall.eventId?] at hc
  | recordDeliveryAttempt attempt =>
      have hname : attempt.eventId = e := by
        simpa [JournalCall.concerns, JournalCall.eventId?] using hc
      exact h.write (hdb.recordDeliveryAttempt env attempt hname) hst
  | accept req =>
      have hname : req.eventId = e := by
        simpa [JournalCall.concerns, JournalCall.eventId?] using hc
      exact h.accept hname hstored hst
  | getStatus e' =>
      obtain rfl : e' = e := by simpa [JournalCall.concerns, JournalCall.eventId?] using hc
      exact h.read (hdb.getStatusImpl env) hst
  | updateLifecycle e' rev delivery retention =>
      obtain rfl : e' = e := by simpa [JournalCall.concerns, JournalCall.eventId?] using hc
      exact h.write (hdb.updateLifecycle env rev delivery retention) hst
  | verifyPayload e' =>
      obtain rfl : e' = e := by simpa [JournalCall.concerns, JournalCall.eventId?] using hc
      exact h.read (hdb.verifyPayload env) hst
  | readVerifiedPayload e' =>
      obtain rfl : e' = e := by simpa [JournalCall.concerns, JournalCall.eventId?] using hc
      exact h.read (hdb.readVerifiedPayload env) hst
  | createDeliveryPending e' fingerprint profileId profileVersion topic =>
      obtain rfl : e' = e := by simpa [JournalCall.concerns, JournalCall.eventId?] using hc
      exact h.write (hdb.createDeliveryPending env fingerprint profileId profileVersion topic) hst
  | confirmReplicatedDelivery e' rev k' =>
      obtain rfl : e' = e := by simpa [JournalCall.concerns, JournalCall.eventId?] using hc
      exact h.write (hdb.confirmReplicatedDelivery env rev k') hst
  | blockDelivery e' rev reason =>
      obtain rfl : e' = e := by simpa [JournalCall.concerns, JournalCall.eventId?] using hc
      exact h.write (hdb.blockDelivery env rev reason) hst
  | updateDeliveryRetry e' rev next =>
      obtain rfl : e' = e := by simpa [JournalCall.concerns, JournalCall.eventId?] using hc
      exact h.write (hdb.updateDeliveryRetry env rev next) hst
  | getDeliveryState e' =>
      obtain rfl : e' = e := by simpa [JournalCall.concerns, JournalCall.eventId?] using hc
      exact h.read (hdb.loadDeliveryState env) hst
  | getDeliveryCandidate e' =>
      obtain rfl : e' = e := by simpa [JournalCall.concerns, JournalCall.eventId?] using hc
      exact h.read (hdb.loadDeliveryCandidate env) hst

/-- A call that names another event, or none, leaves the event's rows alone. -/
theorem DbStep.agreesOn_other {env : CallEnv} {db db' : Db} {c : JournalCall} {r : c.Reply}
    (h : DbStep env db c r db') {e : String} (hc : c.concerns e = false) :
    db.AgreesOn e db' := by
  cases h with
  | quiet => exact Db.AgreesOn.audit e db _
  | accepted hacc =>
      rename_i req a
      have hne : req.eventId ≠ e := by
        simpa [JournalCall.concerns, JournalCall.eventId?] using hc
      refine ⟨hacc.putsEnvelope.other hne, hacc.putsPayload.other hne,
        hacc.putsLifecycle.other hne, hacc.putsDedup.other hne, ?_⟩
      rw [hacc.deliveryState]
  | lifecycle hst hrev ht =>
      have hne := by simpa [JournalCall.concerns, JournalCall.eventId?] using hc
      exact ⟨rfl, rfl, ht.other hne, rfl, rfl⟩
  | created hv hnew ht =>
      have hne := by simpa [JournalCall.concerns, JournalCall.eventId?] using hc
      exact ⟨rfl, rfl, rfl, rfl, ht.other hne⟩
  | attempted hs ht =>
      have hne := by simpa [JournalCall.concerns, JournalCall.eventId?] using hc
      exact ⟨rfl, rfl, rfl, rfl, ht.other hne⟩
  | confirmed hs hst hstatus hrev hk ht ht' =>
      have hne := by simpa [JournalCall.concerns, JournalCall.eventId?] using hc
      exact ⟨rfl, rfl, ht'.other hne, rfl, ht.other hne⟩
  | blocked hs hst hstatus hrev ht ht' =>
      have hne := by simpa [JournalCall.concerns, JournalCall.eventId?] using hc
      exact ⟨rfl, rfl, ht'.other hne, rfl, ht.other hne⟩
  | retried hs hstatus hrev ht =>
      have hne := by simpa [JournalCall.concerns, JournalCall.eventId?] using hc
      exact ⟨rfl, rfl, rfl, rfl, ht.other hne⟩

/-- A stored event stays stored. -/
theorem DbStep.keepsDedup {env : CallEnv} {db db' : Db} {c : JournalCall} {r : c.Reply}
    (h : DbStep env db c r db') {e : String} (hstored : db.dedupFingerprint.find? e ≠ none) :
    db'.dedupFingerprint.find? e ≠ none := by
  rcases h.acceptance with ⟨req, a, -, hacc⟩ | ⟨-, hsame⟩
  · have hne : req.eventId ≠ e := by
      rintro rfl
      exact hstored hacc.dedup
    rw [hacc.putsDedup.other hne]
    exact hstored
  · rw [hsame.dedupFingerprint]
    exact hstored

/-- Only `shutdown` sets the flag, and nothing changes the configuration. -/
theorem LocalJournal.exec_frame {j j' : LocalJournal} {env : CallEnv} {c : JournalCall}
    {r : c.Reply} (hst : j.exec env c = some (j', r)) :
    j'.config = j.config ∧ (c = .shutdown ∨ j'.shutdown = j.shutdown) := by
  cases c with
  | shutdown =>
      cases hst
      exact ⟨rfl, .inl rfl⟩
  | accept req =>
      have h : j.accept env req = some (j', r) := hst
      unfold LocalJournal.accept at h
      split at h
      · cases h
        exact ⟨rfl, .inr rfl⟩
      split at h
      · cases h
        exact ⟨rfl, .inr rfl⟩
      split at h
      · cases h
        exact ⟨rfl, .inr rfl⟩
      split at h
      · cases h
        exact ⟨rfl, .inr rfl⟩
      obtain ⟨x, -, heq⟩ := Option.map_eq_some_iff.mp h
      cases heq
      exact ⟨rfl, .inr rfl⟩
  | _ =>
      cases hst
      exact ⟨rfl, .inr rfl⟩

/-- A call that names another event, or none, keeps two journals alike to the event. -/
theorem LocalJournal.AgreesOn.other {e : String} {j j' k : LocalJournal} {ev : JournalEvent}
    (h : j.AgreesOn e k) (hc : ev.call.concerns e = false) (hst : journalLts.step j ev j') :
    j'.AgreesOn e k := by
  have hdb := (journalStep_cases hst).agreesOn_other hc
  obtain ⟨hconfig, hshut | hshut⟩ := LocalJournal.exec_frame hst
  · rw [hshut] at hc
    cases hc
  · exact ⟨h.config.trans hconfig.symm, h.shutdown.trans hshut.symm, hdb.symm.trans h.db⟩

end CraftRelay
