import CraftRelay.Journal.Progress

/-!
# Who vouches for a payload

`verify_payload`, and `accept` before it answers a repeated event, hold a payload against
the digest in its own row. `read_verified_payload`, which the delivery path uses, holds it
against the digest of the envelope too.
-/

namespace CraftRelay

variable [Sha256]

/-! ## The readers of a payload -/

/-- The payload is there and carries its own digest. -/
def Db.BlobVerifies (db : Db) (e : String) : Prop :=
  ∃ b, db.payloadBlob.find? e = some b ∧ b.Verifies

/-- A payload that carries its own digest has an envelope with the same digest. -/
def Db.DigestsAgree (db : Db) (e : String) : Prop :=
  ∀ b, db.payloadBlob.find? e = some b → b.Verifies →
    ∃ v, db.storedEnvelope.find? e = some v ∧ v.payloadDigest = b.payloadDigest

/-- The statements of `read_verified_payload` do not fail. -/
structure CallEnv.ReadsPayload (env : CallEnv) : Prop where
  digest : env.fault .selectPayloadDigest = none
  blob : env.fault .selectPayloadBlob = none

section

variable {env : CallEnv} {db : Db} {e : String}

theorem verifyPayload_eq_ok :
    verifyPayload env db e = .ok ↔ env.fault .selectPayloadBlob = none ∧ db.BlobVerifies e := by
  unfold verifyPayload Db.BlobVerifies
  cases hfault : env.fault .selectPayloadBlob with
  | some m => simp [CallEnv.run, hfault]
  | none =>
      rw [CallEnv.run_of_none _ hfault]
      cases hb : db.payloadBlob.find? e with
      | none => simp
      | some b => simp [PayloadBlob.Verifies, eq_comm]

/-- What carries its own digest is read exactly when the envelope's digest is the same. -/
theorem Db.BlobVerifies.read_iff (hb : db.BlobVerifies e) (henv : env.ReadsPayload) :
    (∃ payload, readVerifiedPayload env db e = .found payload) ↔ db.DigestsAgree e := by
  obtain ⟨b, hb, hver⟩ := hb
  constructor
  · rintro ⟨payload, hread⟩ b' hb' _
    obtain ⟨-, v, b'', hv, hb'', -, -, hsame⟩ := readVerifiedPayload_found_iff.mp hread
    rw [hb'] at hb''
    cases hb''
    exact ⟨v, hv, hsame.symm⟩
  · intro hagree
    obtain ⟨v, hv, hsame⟩ := hagree b hb hver
    exact ⟨b.payload, readVerifiedPayload_found_iff.mpr
      ⟨⟨henv.digest, henv.blob⟩, v, b, hv, hb, rfl, hver, hsame.symm⟩⟩

/-- A digest that is not the envelope's is refused before the payload is looked at. -/
theorem readVerifiedPayload_of_differ (henv : env.ReadsPayload) {v : StoredEnvelope}
    {b : PayloadBlob} (hv : db.storedEnvelope.find? e = some v)
    (hb : db.payloadBlob.find? e = some b) (hvlen : v.payloadDigest.length = 32)
    (hblen : b.payloadDigest.length = 32) (hdiffer : b.payloadDigest ≠ v.payloadDigest) :
    readVerifiedPayload env db e =
      .corrupted e "payload blob digest differs from stored envelope digest" := by
  unfold readVerifiedPayload
  simp only [CallEnv.run_of_none _ henv.digest, CallEnv.run_of_none _ henv.blob, hv, hb]
  rw [if_neg (not_not.mpr hvlen), if_neg (not_not.mpr hblen), if_pos hdiffer]

end

/-! ## Answers to a repeated event -/

section

variable {env : CallEnv} {db db' : Db} {j j' : LocalJournal} {req : AcceptRequest}
  {a : AcceptedEvent}

/-- A new event is never answered as a duplicate. -/
theorem acceptNew_ne_duplicate : acceptNew env db req ≠ some (db', .existingDuplicate a) := by
  intro h
  unfold acceptNew at h
  split at h
  · cases h
  split at h
  · cases h
  split at h
  · cases h
  simp only at h
  split at h
  · cases h
  · cases h

omit [Sha256] in
theorem checkDedup_duplicate {fingerprint : Checksum} {e : String}
    (h : checkDedup env db e fingerprint = .ok .duplicate) :
    ∃ row, db.dedupFingerprint.find? e = some row ∧ row.requestFingerprint = fingerprint.val := by
  unfold checkDedup at h
  split at h
  · cases h
  · cases h
  rename_i row hrow
  refine ⟨row, Except.ok.inj (CallEnv.run_eq_ok.mp hrow).2, ?_⟩
  by_contra hother
  rw [if_neg hother] at h
  cases h

/-- The answer of a duplicate repeats the status that the same call read, after the payload
was held against its own digest. -/
theorem acceptTransaction_duplicate
    (h : acceptTransaction env db req = some (db', .existingDuplicate a)) :
    checkDedup env db req.eventId req.requestFingerprint = .ok .duplicate ∧
      ∃ st, getStatusImpl env db req.eventId = .found st ∧
        a.lifecycleRevision = st.lifecycleRevision ∧
        a.deliveryStatus = duplicateDeliveryStatus st.deliveryStatus ∧
        verifyPayloadDigest env db req.eventId = .ok () := by
  unfold acceptTransaction at h
  split at h
  · cases h
  split at h
  · cases h
  · rename_i hdedup
    injection h with h
    unfold acceptDuplicate at h
    split at h
    · cases h
    · cases h
    rename_i st hst
    split at h
    · cases h
    rename_i hpayload
    cases h
    exact ⟨hdedup, st, hst, rfl, rfl, hpayload⟩
  · cases h
  split at h
  · cases h
  · cases h
  · exact absurd h acceptNew_ne_duplicate

/-- It is the answer of the transaction. -/
theorem LocalJournal.accept_duplicate_eq (h : j.accept env req = some (j', .existingDuplicate a)) :
    req.eventId ≠ "" ∧ ∃ db', acceptTransaction env j.db req = some (db', .existingDuplicate a) ∧
      j' = { j with db := db' } := by
  unfold LocalJournal.accept at h
  split at h
  · cases h
  split at h
  · cases h
  split at h
  · cases h
  split at h
  · cases h
  rename_i hids
  obtain ⟨⟨db', r⟩, htx, heq⟩ := Option.map_eq_some_iff.mp h
  cases heq
  exact ⟨fun hid => hids (.inl hid), db', htx, rfl⟩

theorem LocalJournal.accept_duplicate (h : j.accept env req = some (j', .existingDuplicate a)) :
    ∃ v l, j.db.HasStatus req.eventId v l ∧ a.lifecycleRevision = l.revision ∧
      a.deliveryStatus = duplicateDeliveryStatus l.deliveryStatus := by
  obtain ⟨-, db', htx, -⟩ := LocalJournal.accept_duplicate_eq h
  obtain ⟨-, st, hst, hrev, hstatus, -⟩ := acceptTransaction_duplicate htx
  obtain ⟨-, v, l, hv, hl, hvv, hlv, hrep⟩ := getStatusImpl_found_iff.mp hst
  rw [hrep.lifecycleRevision] at hrev
  rw [hrep.deliveryStatus] at hstatus
  exact ⟨v, l, ⟨hv, hl, hvv, hlv⟩, hrev, hstatus⟩

/-- The rows a repeated event is answered from, the payload apart: its fingerprint, and an
envelope and a lifecycle row that verify. -/
structure Db.KnowsEvent (db : Db) (e : String) : Prop where
  fingerprint : ∃ row : DedupFingerprint, ∃ f : Checksum,
    db.dedupFingerprint.find? e = some row ∧ row.requestFingerprint = f.val
  status : ∃ v l, db.HasStatus e v l

/-- A duplicate is answered for an event that is known and a payload that carries its own
digest, and their rows stay. -/
theorem LocalJournal.accept_duplicate_vouches
    (h : j.accept env req = some (j', .existingDuplicate a)) :
    req.eventId ≠ "" ∧ j.db.KnowsEvent req.eventId ∧ j.db.BlobVerifies req.eventId ∧
      ∃ log, j'.db = { j.db with writeAttempt := log } := by
  obtain ⟨v, l, hst, -⟩ := LocalJournal.accept_duplicate h
  obtain ⟨hid, db', htx, rfl⟩ := LocalJournal.accept_duplicate_eq h
  obtain ⟨hdedup, -, -, -, -, hpayload⟩ := acceptTransaction_duplicate htx
  obtain ⟨row, hrow, hfingerprint⟩ := checkDedup_duplicate hdedup
  refine ⟨hid, ⟨⟨row, _, hrow, hfingerprint⟩, v, l, hst⟩,
    (verifyPayloadDigest_eq_ok.mp hpayload).2, ?_⟩
  rcases acceptTransaction_cases htx with ⟨a', ha', -⟩ | ⟨-, hlog⟩
  · cases ha'
  · exact hlog

/-- A request with the stored fingerprint is answered as a duplicate where the payload
carries its own digest. -/
theorem accept_of_known (hstatus : ∃ v l, j.db.HasStatus req.eventId v l)
    {row : DedupFingerprint} (hrow : j.db.dedupFingerprint.find? req.eventId = some row)
    (hfingerprint : row.requestFingerprint = req.requestFingerprint.val)
    (hblob : j.db.BlobVerifies req.eventId) (henv : env.Faultless)
    (hadm : req.Admissible j env) :
    ∃ j' a, j.accept env req = some (j', .existingDuplicate a) := by
  obtain ⟨v, l, hst⟩ := hstatus
  obtain ⟨st, hrep⟩ := hst.reports
  have hfound := hst.found hrep (henv _) (henv _)
  have hpayload : verifyPayloadDigest env j.db req.eventId = .ok () :=
    verifyPayloadDigest_eq_ok.mpr ⟨henv _, hblob⟩
  have hdedup : checkDedup env j.db req.eventId req.requestFingerprint = .ok .duplicate := by
    unfold checkDedup
    simp only [henv.run, hrow, hfingerprint, if_true]
  have htx : acceptTransaction env j.db req = some (acceptDuplicate env j.db req) := by
    unfold acceptTransaction
    simp only [henv.run, hdedup]
  rw [hadm.accept_eq, htx]
  unfold acceptDuplicate
  simp only [hfound, hpayload]
  exact ⟨_, _, rfl⟩

end

/-! ## Every verifier is a reader -/

/-- What `verify_payload` finds in order is handed out. -/
def Db.VerifiedIsRead (db : Db) (e : String) : Prop :=
  ∀ env env' : CallEnv, env'.ReadsPayload → verifyPayload env db e = .ok →
    ∃ payload, readVerifiedPayload env' db e = .found payload

/-- What `accept` answers as a duplicate is handed out. -/
def Db.DuplicateIsRead (db : Db) (e : String) : Prop :=
  ∀ (j j' : LocalJournal) (env env' : CallEnv) (req : AcceptRequest) (a : AcceptedEvent),
    j.db = db → req.eventId = e → env'.ReadsPayload →
    j.accept env req = some (j', .existingDuplicate a) →
    ∃ payload, readVerifiedPayload env' j'.db e = .found payload

section

variable {db : Db} {e : String}

theorem Db.verifiedIsRead_iff : db.VerifiedIsRead e ↔ db.DigestsAgree e := by
  constructor
  · intro h b hb hver
    have hcalm := CallEnv.calm_faultless 0
    have hblob : db.BlobVerifies e := ⟨b, hb, hver⟩
    have hread := h (.calm 0) (.calm 0) ⟨hcalm _, hcalm _⟩
      (verifyPayload_eq_ok.mpr ⟨hcalm _, hblob⟩)
    exact (hblob.read_iff ⟨hcalm _, hcalm _⟩).mp hread b hb hver
  · intro h env env' henv hok
    exact ((verifyPayload_eq_ok.mp hok).2.read_iff henv).mpr h

/-- The request that asks for an event again, as small as the admission checks allow. -/
def repeatRequest (e : String) (fingerprint : Checksum) : AcceptRequest where
  installationId := "i"
  eventId := e
  producerId := ""
  producerInstanceId := ""
  producerOperationSequence := 0
  «namespace» := ""
  logicalStreamType := ""
  streamKey := ""
  eventType := ""
  schemaVersion := 0
  payload := []
  requestFingerprint := fingerprint
  routingVersion := 0

theorem Db.duplicateIsRead_iff :
    db.DuplicateIsRead e ↔ (e ≠ "" → db.KnowsEvent e → db.DigestsAgree e) := by
  constructor
  · intro h hid hknown b hb hver
    have hcalm := CallEnv.calm_faultless 0
    have hblob : db.BlobVerifies e := ⟨b, hb, hver⟩
    obtain ⟨row, f, hrow, hf⟩ := hknown.fingerprint
    have hinst : "i" ≠ "" := by decide
    have hadm : (repeatRequest e f).Admissible ⟨{}, db, false⟩ (.calm 0) :=
      ⟨rfl, rfl, Nat.zero_le _, hid, hinst⟩
    obtain ⟨j', a, hdup⟩ := accept_of_known hknown.status hrow hf hblob hcalm hadm
    have hread := h _ j' (.calm 0) (.calm 0) _ a rfl rfl ⟨hcalm _, hcalm _⟩ hdup
    obtain ⟨-, -, -, log, hlog⟩ := LocalJournal.accept_duplicate_vouches hdup
    rw [hlog] at hread
    exact (hblob.read_iff ⟨hcalm _, hcalm _⟩).mp hread b hb hver
  · intro h j j' env env' req a hj he henv hdup
    subst hj he
    obtain ⟨hid, hknown, hblob, log, hlog⟩ := LocalJournal.accept_duplicate_vouches hdup
    rw [hlog]
    exact (hblob.read_iff henv).mpr (h hid hknown)

end

end CraftRelay
