import CraftRelay.Lib.EarlyReturn
import CraftRelay.Journal.Calls

/-!
# What a verified read says about the database

Each reader's good answer, as an equivalence: the statements did not fail and
the rows are there and carry their checksums. The predicates `Verifies` are the
readers' verdicts on a row alone; the invariants of the journal are stated with
them, and no later proof opens a reader again.
-/

namespace CraftRelay

/-! ## The shape rules as propositions -/

section Shape

variable {field status : String}

@[simp] theorem requireSome_ok {α : Type} {value : Option α} :
    requireSome value field status = .ok () ↔ value.isSome := by
  unfold requireSome
  split <;> simp_all

@[simp] theorem requireAbsent_ok {α : Type} {value : Option α} :
    requireAbsent value field status = .ok () ↔ value = none := by
  unfold requireAbsent
  split <;> simp_all

@[simp] theorem requireNonEmpty_ok {value : Option String} :
    requireNonEmpty value field status = .ok () ↔ ∃ v, value = some v ∧ v ≠ "" := by
  unfold requireNonEmpty
  cases value with
  | none => simp
  | some v => by_cases h : v = "" <;> simp [h]

@[simp] theorem requireNumber_ok {ok : Int → Bool} {value : Option Int} :
    requireNumber ok value field status = .ok () ↔ ∃ v, value = some v ∧ ok v := by
  unfold requireNumber
  cases value with
  | none => simp
  | some v => by_cases h : ok v <;> simp [h]

end Shape

/-- Topic, fingerprint and profile are present and well formed. -/
structure DeliveryStateRecord.Routed (s : DeliveryStateRecord) : Prop where
  topic : ∃ t, s.kafkaTopic = some t ∧ t ≠ ""
  fingerprint : s.routingFingerprint.isSome
  profileId : ∃ p, s.profileId = some p ∧ p ≠ ""
  profileVersion : ∃ v, s.profileVersion = some v ∧ 0 < v

/-- No coordinates of a broker acknowledgement. -/
structure DeliveryStateRecord.Unconfirmed (s : DeliveryStateRecord) : Prop where
  partition : s.kafkaPartition = none
  offset : s.kafkaOffset = none
  confirmedAt : s.confirmedAtMs = none

theorem requireDeliveryRoutingFields_ok {s : DeliveryStateRecord} {status : String} :
    requireDeliveryRoutingFields s status = .ok () ↔ s.Routed := by
  simp only [requireDeliveryRoutingFields, requirePositiveI32, Except.check_eq_ok_iff,
    requireNonEmpty_ok, requireSome_ok, requireNumber_ok, decide_eq_true_eq]
  constructor
  · rintro ⟨h1, h2, h3, h4⟩
    exact ⟨h1, h2, h3, h4⟩
  · rintro ⟨h1, h2, h3, h4⟩
    exact ⟨h1, h2, h3, h4⟩

theorem requireNoConfirmedKafkaMetadata_ok {s : DeliveryStateRecord} {status : String} :
    requireNoConfirmedKafkaMetadata s status = .ok () ↔ s.Unconfirmed := by
  simp only [requireNoConfirmedKafkaMetadata, Except.check_eq_ok_iff, requireAbsent_ok]
  constructor
  · rintro ⟨h1, h2, h3⟩
    exact ⟨h1, h2, h3⟩
  · rintro ⟨h1, h2, h3⟩
    exact ⟨h1, h2, h3⟩

/-- The columns each status demands and forbids. -/
def DeliveryStateRecord.Shaped (s : DeliveryStateRecord) : Prop :=
  (s.deliveryStatus = "REPLICATED" → s.Routed ∧ (∃ p, s.kafkaPartition = some p ∧ 0 ≤ p) ∧
      (∃ o, s.kafkaOffset = some o ∧ 0 ≤ o) ∧ s.confirmedAtMs.isSome ∧
      s.blockedReason = none ∧ s.nextRetryAtMs = none) ∧
  (s.deliveryStatus = "DELIVERY_PENDING" → s.Routed ∧ s.nextRetryAtMs = none ∧
      s.blockedReason = none ∧ s.Unconfirmed) ∧
  (s.deliveryStatus = "DELIVERY_RETRYING" → s.Routed ∧ s.nextRetryAtMs.isSome ∧
      s.blockedReason = none ∧ s.Unconfirmed) ∧
  (s.deliveryStatus = "DELIVERY_BLOCKED" → (∃ r, s.blockedReason = some r ∧ r ≠ "") ∧
      s.nextRetryAtMs = none ∧ s.Unconfirmed)

theorem validateDeliveryStateInvariants_ok {s : DeliveryStateRecord} :
    validateDeliveryStateInvariants s = .ok () ↔ s.Shaped := by
  unfold validateDeliveryStateInvariants DeliveryStateRecord.Shaped
  -- a replicated row has its own list of demands, which repeats the routing fields
  by_cases h1 : s.deliveryStatus = "REPLICATED"
  · simp only [h1, if_true, Except.check_eq_ok_iff, requirePositiveI32, requireNonNegativeI32,
      requireNonNegativeI64, requireNonEmpty_ok, requireSome_ok, requireNumber_ok,
      requireAbsent_ok, decide_eq_true_eq, String.reduceEq, false_implies, and_true,
      forall_const]
    constructor
    · rintro ⟨ht, hf, hp, hv, hpart, hoff, hconf, hblock, hretry⟩
      exact ⟨⟨ht, hf, hp, hv⟩, hpart, hoff, hconf, hblock, hretry⟩
    · rintro ⟨⟨ht, hf, hp, hv⟩, hpart, hoff, hconf, hblock, hretry⟩
      exact ⟨ht, hf, hp, hv, hpart, hoff, hconf, hblock, hretry⟩
  by_cases h2 : s.deliveryStatus = "DELIVERY_PENDING"
  · simp [h2, Except.check_eq_ok_iff, requireDeliveryRoutingFields_ok,
      requireNoConfirmedKafkaMetadata_ok]
  by_cases h3 : s.deliveryStatus = "DELIVERY_RETRYING"
  · simp [h3, Except.check_eq_ok_iff, requireDeliveryRoutingFields_ok,
      requireNoConfirmedKafkaMetadata_ok]
  by_cases h4 : s.deliveryStatus = "DELIVERY_BLOCKED"
  · simp [h4, Except.check_eq_ok_iff, requireNoConfirmedKafkaMetadata_ok]
  · simp [h1, h2, h3, h4]

/-! ## Delivery rows -/

/-- The columns of an in-memory record. -/
def DeliveryStateRecord.toRow (s : DeliveryStateRecord) : DeliveryState where
  eventId := s.eventId
  deliveryStatus := s.deliveryStatus
  attemptCount := s.attemptCount
  nextRetryAtMs := s.nextRetryAtMs
  lastError := s.lastError
  blockedReason := s.blockedReason
  kafkaTopic := s.kafkaTopic
  kafkaPartition := s.kafkaPartition
  kafkaOffset := s.kafkaOffset
  routingFingerprint := s.routingFingerprint.map (·.val)
  profileId := s.profileId
  profileVersion := s.profileVersion
  deliveryRevision := s.deliveryRevision
  deliveryChecksum := s.deliveryChecksum.val
  confirmedAtMs := s.confirmedAtMs
  createdAtMs := s.createdAtMs
  updatedAtMs := s.updatedAtMs

theorem routingFingerprintOfSlice_eq_some {b : Option Bytes} {c : Option Checksum} :
    routingFingerprintOfSlice b = some c ↔ b = c.map (·.val) := by
  cases b with
  | none => cases c <;> simp [routingFingerprintOfSlice]
  | some b =>
      cases c with
      | none => simp [routingFingerprintOfSlice]
      | some c => simp [routingFingerprintOfSlice, checksumOfSlice_eq_some]

theorem mem_deliveryStateStatuses {status : String} :
    status ∈ deliveryStateStatuses ↔ status = "DELIVERY_PENDING" ∨ status = "DELIVERY_RETRYING" ∨
      status = "REPLICATED" ∨ status = "DELIVERY_BLOCKED" := by
  simp [deliveryStateStatuses]

variable [Sha256]

/-- The reader's verdict on a record: a count that fits, a known status, the
checksum of its columns and the shape of its status. -/
structure DeliveryStateRecord.Verifies (s : DeliveryStateRecord) : Prop where
  count : InI32 s.attemptCount
  status : s.deliveryStatus ∈ deliveryStateStatuses
  checksum : s.deliveryChecksum = computeDeliveryChecksum s
  shape : s.Shaped

/-- A verified record has one of the four statuses of a delivery. -/
theorem DeliveryStateRecord.Verifies.status_cases {s : DeliveryStateRecord} (h : s.Verifies) :
    s.deliveryStatus = "DELIVERY_PENDING" ∨ s.deliveryStatus = "DELIVERY_RETRYING" ∨
      s.deliveryStatus = "REPLICATED" ∨ s.deliveryStatus = "DELIVERY_BLOCKED" :=
  mem_deliveryStateStatuses.mp h.status

theorem verifyDeliveryRow_found_iff {row : DeliveryState} {s : DeliveryStateRecord} :
    verifyDeliveryRow row.eventId row = .found s ↔ row = s.toRow ∧ s.Verifies := by
  constructor
  · -- each early return of the reader is a verdict that was not given
    intro h
    unfold verifyDeliveryRow at h
    split at h
    · cases h
    rename_i hcount
    split at h
    · cases h
    rename_i deliveryChecksum hdc
    split at h
    · cases h
    rename_i routingFingerprint hrf
    split at h
    · cases h
    rename_i hstatus
    simp only at h
    split at h
    · cases h
    rename_i hchecksum
    split at h
    · cases h
    rename_i hvalid
    injection h with h
    subst h
    rw [checksumOfSlice_eq_some] at hdc
    rw [routingFingerprintOfSlice_eq_some] at hrf
    refine ⟨?_, not_not.mp hcount, not_not.mp hstatus, not_not.mp hchecksum,
      validateDeliveryStateInvariants_ok.mp hvalid⟩
    -- the two blobs are all that `toRow` converts
    cases row
    dsimp only at hdc hrf
    subst hdc hrf
    rfl
  · rintro ⟨rfl, hcount, hstatus, hchecksum, hshape⟩
    have hrec : s.toRow.toRecord s.toRow.eventId s.deliveryChecksum s.routingFingerprint = s := rfl
    have hrf : routingFingerprintOfSlice s.toRow.routingFingerprint = some s.routingFingerprint :=
      routingFingerprintOfSlice_eq_some.mpr rfl
    have hdc : checksumOfSlice s.toRow.deliveryChecksum = some s.deliveryChecksum :=
      checksumOfSlice_val _
    have hcount' : InI32 s.toRow.attemptCount := hcount
    have hstatus' : s.toRow.deliveryStatus ∈ deliveryStateStatuses := hstatus
    unfold verifyDeliveryRow
    rw [if_neg (not_not.mpr hcount')]
    simp only [hdc, hrf, hrec]
    rw [if_neg (not_not.mpr hstatus'), if_neg (not_not.mpr hchecksum),
      validateDeliveryStateInvariants_ok.mpr hshape]

/-- A delivery row loads as found exactly when it is there and verifies. -/
theorem loadDeliveryState_found_iff {env : CallEnv} {db : Db} {eventId : String}
    {s : DeliveryStateRecord} :
    loadDeliveryState env db eventId = .found s ↔
      env.fault .selectDeliveryState = none ∧
        db.deliveryState.find? eventId = some s.toRow ∧ s.Verifies := by
  unfold loadDeliveryState
  cases hfault : env.fault .selectDeliveryState with
  | some e => simp [CallEnv.run, hfault]
  | none =>
      rw [CallEnv.run_of_none _ hfault]
      cases hfind : db.deliveryState.find? eventId with
      | none => simp
      | some row =>
          have hkey : row.eventId = eventId := KeyedTable.key_of_find? hfind
          simp only [true_and, Option.some.injEq]
          rw [← hkey]
          exact verifyDeliveryRow_found_iff

/-! ## Envelopes and lifecycle -/

/-- The envelope carries the checksum of its own columns, and they convert. -/
def StoredEnvelope.Verifies (v : StoredEnvelope) : Prop :=
  InI32 v.schemaVersion ∧ ∃ payloadDigest requestFingerprint : Checksum,
    v.payloadDigest = payloadDigest.val ∧ v.requestFingerprint = requestFingerprint.val ∧
      v.envelopeChecksum =
        (computeEnvelopeChecksum (v.fields v.eventId payloadDigest requestFingerprint)).val

/-- The lifecycle row carries its checksum and statuses the reader allows. -/
structure LifecycleState.Verifies (l : LifecycleState) : Prop where
  checksum : l.lifecycleChecksum =
    (computeLifecycleChecksum l.eventId l.revision l.deliveryStatus l.retentionStatus).val
  delivery : isAllowedDeliveryStatus l.deliveryStatus = true
  retention : isAllowedRetentionStatus l.retentionStatus = true

theorem recomputeEnvelopeChecksumFromRow_eq_ok {env : CallEnv} {db : Db} {eventId : String}
    {c : Checksum} :
    recomputeEnvelopeChecksumFromRow env db eventId = .ok c ↔
      env.fault .selectEnvelopeRow = none ∧ ∃ v, db.storedEnvelope.find? eventId = some v ∧
        InI32 v.schemaVersion ∧ ∃ payloadDigest requestFingerprint : Checksum,
          v.payloadDigest = payloadDigest.val ∧ v.requestFingerprint = requestFingerprint.val ∧
            c = computeEnvelopeChecksum (v.fields eventId payloadDigest requestFingerprint) := by
  unfold recomputeEnvelopeChecksumFromRow
  cases hfault : env.fault .selectEnvelopeRow with
  | some e => simp [CallEnv.run, hfault]
  | none =>
      rw [CallEnv.run_of_none _ hfault]
      cases hfind : db.storedEnvelope.find? eventId with
      | none => simp
      | some v =>
          simp only [true_and, Option.some.injEq, exists_eq_left']
          constructor
          · intro h
            split at h
            · cases h
            rename_i hversion
            split at h
            · cases h
            rename_i payloadDigest hpd
            split at h
            · cases h
            rename_i requestFingerprint hrf
            injection h with h
            exact ⟨not_not.mp hversion, payloadDigest, requestFingerprint,
              checksumOfSlice_eq_some.mp hpd, checksumOfSlice_eq_some.mp hrf, h.symm⟩
          · rintro ⟨hversion, payloadDigest, requestFingerprint, hpd, hrf, rfl⟩
            rw [if_neg (not_not.mpr hversion)]
            simp only [checksumOfSlice_eq_some.mpr hpd, checksumOfSlice_eq_some.mpr hrf]

/-- A recomputed checksum equal to the stored one is the envelope's verdict. -/
theorem recompute_matches_iff {env : CallEnv} {db : Db} {eventId : String} {v : StoredEnvelope}
    (hfind : db.storedEnvelope.find? eventId = some v) {stored : Checksum}
    (hstored : v.envelopeChecksum = stored.val) :
    recomputeEnvelopeChecksumFromRow env db eventId = .ok stored ↔
      env.fault .selectEnvelopeRow = none ∧ v.Verifies := by
  have hkey : v.eventId = eventId := KeyedTable.key_of_find? hfind
  rw [recomputeEnvelopeChecksumFromRow_eq_ok]
  simp only [hfind, Option.some.injEq, exists_eq_left', StoredEnvelope.Verifies, hkey, hstored,
    Subtype.ext_iff]

/-- The status the readers report for an envelope and its lifecycle row. -/
structure PersistedStatus.Reports (st : PersistedStatus) (v : StoredEnvelope)
    (l : LifecycleState) : Prop where
  eventId : st.eventId = v.eventId
  journalSequence : st.journalSequence = v.journalSequence
  streamSequence : st.streamSequence = v.streamSequence
  lifecycleRevision : st.lifecycleRevision = l.revision
  lifecycleChecksum : l.lifecycleChecksum = st.lifecycleChecksum.val
  deliveryStatus : st.deliveryStatus = l.deliveryStatus
  retentionStatus : st.retentionStatus = l.retentionStatus
  payloadDigest : v.payloadDigest = st.payloadDigest.val
  envelopeChecksum : v.envelopeChecksum = st.envelopeChecksum.val

omit [Sha256] in
theorem Db.statusRow_eq_some {db : Db} {eventId : String} {v : StoredEnvelope}
    {l : LifecycleState} :
    db.statusRow eventId = some (v, l) ↔
      db.storedEnvelope.find? eventId = some v ∧ db.lifecycleState.find? eventId = some l := by
  unfold Db.statusRow
  cases db.storedEnvelope.find? eventId <;> cases db.lifecycleState.find? eventId <;> simp

/-- A status that is found is that of two rows that verify. -/
theorem reports_of_getStatusImpl {env : CallEnv} {db : Db} {eventId : String}
    {st : PersistedStatus} (h : getStatusImpl env db eventId = .found st) :
    (env.fault .selectStatus = none ∧ env.fault .selectEnvelopeRow = none) ∧
      ∃ v l, db.storedEnvelope.find? eventId = some v ∧
        db.lifecycleState.find? eventId = some l ∧ v.Verifies ∧ l.Verifies ∧
          st.Reports v l := by
  unfold getStatusImpl at h
  cases hfault : env.fault .selectStatus with
  | some e => simp [CallEnv.run, hfault] at h
  | none =>
      rw [CallEnv.run_of_none _ hfault] at h
      split at h
      · cases h
      · cases h
      rename_i v l hrow
      injection hrow with hrow
      obtain ⟨hv, hl⟩ := Db.statusRow_eq_some.mp hrow
      have hvkey : v.eventId = eventId := KeyedTable.key_of_find? hv
      have hlkey : l.eventId = eventId := KeyedTable.key_of_find? hl
      -- three digests of the right length, then the checks in their order
      split at h
      · rename_i pd ec lc hpd hec hlc
        split at h
        · cases h
        rename_i hlcs
        split at h
        · cases h
        rename_i hds
        split at h
        · cases h
        rename_i hrs
        split at h
        · cases h
        rename_i expected hexp
        split at h
        · cases h
        rename_i hecs
        injection h with h
        subst h
        rw [checksumOfSlice_eq_some] at hpd hec hlc
        rw [not_not] at hlcs hecs
        rw [← hecs] at hexp
        obtain ⟨hf, hver⟩ := (recompute_matches_iff hv hec).mp hexp
        refine ⟨⟨rfl, hf⟩, v, l, hv, hl, hver, ⟨?_, ?_, ?_⟩, ?_⟩
        · rw [hlc, hlcs, hlkey]
        · simpa using hds
        · simpa using hrs
        · exact ⟨hvkey.symm, rfl, rfl, rfl, hlc, rfl, rfl, hpd, hec⟩
      · cases h

/-- Two rows that verify pass every check of the reader. -/
theorem getStatusImpl_of_reports {env : CallEnv} {db : Db} {eventId : String}
    {st : PersistedStatus} {v : StoredEnvelope} {l : LifecycleState}
    (hfault : env.fault .selectStatus = none) (hf : env.fault .selectEnvelopeRow = none)
    (hv : db.storedEnvelope.find? eventId = some v)
    (hl : db.lifecycleState.find? eventId = some l) (hver : v.Verifies) (hlver : l.Verifies)
    (hrep : st.Reports v l) : getStatusImpl env db eventId = .found st := by
  have hlkey : l.eventId = eventId := KeyedTable.key_of_find? hl
  have hlcs : st.lifecycleChecksum =
      computeLifecycleChecksum eventId l.revision l.deliveryStatus l.retentionStatus := by
    rw [Subtype.ext_iff, ← hrep.lifecycleChecksum, hlver.checksum, hlkey]
  have hexp := (recompute_matches_iff hv hrep.envelopeChecksum).mpr ⟨hf, hver⟩
  have hvkey : v.eventId = eventId := KeyedTable.key_of_find? hv
  unfold getStatusImpl
  rw [CallEnv.run_of_none _ hfault]
  simp only [Db.statusRow_eq_some.mpr ⟨hv, hl⟩,
    checksumOfSlice_eq_some.mpr hrep.payloadDigest,
    checksumOfSlice_eq_some.mpr hrep.envelopeChecksum,
    checksumOfSlice_eq_some.mpr hrep.lifecycleChecksum, hlcs, hlver.delivery,
    hlver.retention, hexp, ne_eq, not_true_eq_false, Bool.not_true, if_false,
    Bool.false_eq_true]
  congr 1
  cases st
  obtain ⟨h1, h2, h3, h4, h5, h6, h7, h8, h9⟩ := hrep
  simp_all

/-- A status is found exactly when both rows are there and verify. -/
theorem getStatusImpl_found_iff {env : CallEnv} {db : Db} {eventId : String}
    {st : PersistedStatus} :
    getStatusImpl env db eventId = .found st ↔
      (env.fault .selectStatus = none ∧ env.fault .selectEnvelopeRow = none) ∧
        ∃ v l, db.storedEnvelope.find? eventId = some v ∧
          db.lifecycleState.find? eventId = some l ∧ v.Verifies ∧ l.Verifies ∧
            st.Reports v l := by
  constructor
  · exact reports_of_getStatusImpl
  · rintro ⟨⟨hfault, hf⟩, v, l, hv, hl, hver, hlver, hrep⟩
    exact getStatusImpl_of_reports hfault hf hv hl hver hlver hrep

/-! ## Payloads -/

/-- The blob carries the digest of its payload. -/
def PayloadBlob.Verifies (b : PayloadBlob) : Prop :=
  b.payloadDigest = (computeSha256 b.payload).val

theorem verifyPayloadDigest_eq_ok {env : CallEnv} {db : Db} {eventId : String} :
    verifyPayloadDigest env db eventId = .ok () ↔
      env.fault .selectPayloadBlob = none ∧
        ∃ b, db.payloadBlob.find? eventId = some b ∧ b.Verifies := by
  unfold verifyPayloadDigest
  cases hfault : env.fault .selectPayloadBlob with
  | some e => simp [CallEnv.run, hfault]
  | none =>
      rw [CallEnv.run_of_none _ hfault]
      cases hfind : db.payloadBlob.find? eventId with
      | none => simp
      | some b =>
          simp only [true_and, Option.some.injEq, exists_eq_left', PayloadBlob.Verifies]
          constructor
          · intro h
            split at h
            · cases h
            split at h
            · cases h
            rename_i hdigest
            exact (not_not.mp hdigest).symm
          · intro h
            have hlen : b.payloadDigest.length = 32 := by
              rw [h]
              exact (computeSha256 b.payload).property
            rw [if_neg (not_not.mpr hlen), if_neg (not_not.mpr h.symm)]

/-- A payload is handed out exactly when envelope and blob are there and both carry its
digest. -/
theorem readVerifiedPayload_found_iff {env : CallEnv} {db : Db} {eventId : String}
    {payload : Bytes} :
    readVerifiedPayload env db eventId = .found payload ↔
      (env.fault .selectPayloadDigest = none ∧ env.fault .selectPayloadBlob = none) ∧
        ∃ v b, db.storedEnvelope.find? eventId = some v ∧
          db.payloadBlob.find? eventId = some b ∧ b.payload = payload ∧ b.Verifies ∧
          b.payloadDigest = v.payloadDigest := by
  unfold readVerifiedPayload
  constructor
  · intro h
    split at h
    · cases h
    · cases h
    rename_i v hv
    split at h
    · cases h
    split at h
    · cases h
    · cases h
    rename_i b hb
    obtain ⟨hf₁, hv⟩ := CallEnv.run_eq_ok.mp hv
    obtain ⟨hf₂, hb⟩ := CallEnv.run_eq_ok.mp hb
    split at h
    · cases h
    split at h
    · cases h
    rename_i hsame
    split at h
    · cases h
    rename_i hdigest
    injection h with h
    rw [not_not] at hsame hdigest
    exact ⟨⟨hf₁, hf₂⟩, v, b, Except.ok.inj hv, Except.ok.inj hb, h,
      hsame.trans hdigest.symm, hsame⟩
  · rintro ⟨⟨hf₁, hf₂⟩, v, b, hv, hb, rfl, hver, hsame⟩
    have hlen : b.payloadDigest.length = 32 := by
      rw [hver]
      exact (computeSha256 b.payload).property
    simp only [CallEnv.run_of_none _ hf₁, CallEnv.run_of_none _ hf₂, hv, hb]
    rw [← hsame, if_neg (not_not.mpr hlen), if_neg (not_not.mpr hlen), if_neg (not_not.mpr rfl),
      if_neg (not_not.mpr hver.symm)]

/-! ## Candidates -/

/-- The candidate has the routing columns of its envelope. -/
structure DeliveryCandidate.Describes (c : DeliveryCandidate) (v : StoredEnvelope) : Prop where
  eventId : c.eventId = v.eventId
  installationId : c.installationId = v.installationId
  «namespace» : c.namespace = v.namespace
  logicalStreamType : c.logicalStreamType = v.logicalStreamType
  streamKey : c.streamKey = v.streamKey
  streamSequence : c.streamSequence = v.streamSequence
  eventType : c.eventType = v.eventType
  routingVersion : c.routingVersion = v.routingVersion

/-- A candidate is found exactly when its delivery row loads and its envelope
verifies. -/
theorem loadDeliveryCandidate_found_iff {env : CallEnv} {db : Db} {eventId : String}
    {c : DeliveryCandidate} :
    loadDeliveryCandidate env db eventId = .found c ↔
      loadDeliveryState env db eventId = .found c.deliveryState ∧
        (env.fault .selectCandidateEnvelope = none ∧ env.fault .selectEnvelopeRow = none) ∧
          ∃ v, db.storedEnvelope.find? eventId = some v ∧ v.Verifies ∧ c.Describes v := by
  unfold loadDeliveryCandidate
  cases hload : loadDeliveryState env db eventId with
  | notFound => simp
  | corrupted e d => simp
  | error e => simp
  | found s =>
      cases hfault : env.fault .selectCandidateEnvelope with
      | some e => simp [CallEnv.run, hfault]
      | none =>
          simp only [CallEnv.run_of_none _ hfault, DeliveryStateResult.found.injEq]
          cases hv : db.storedEnvelope.find? eventId with
          | none => simp
          | some v =>
              have hvkey : v.eventId = eventId := KeyedTable.key_of_find? hv
              simp only [Option.some.injEq, exists_eq_left']
              constructor
              · intro h
                split at h
                · cases h
                rename_i ec hec
                split at h
                · cases h
                rename_i expected hexp
                split at h
                · cases h
                rename_i hecs
                injection h with h
                subst h
                rw [checksumOfSlice_eq_some] at hec
                rw [not_not] at hecs
                rw [← hecs] at hexp
                obtain ⟨hf, hver⟩ := (recompute_matches_iff hv hec).mp hexp
                exact ⟨rfl, ⟨trivial, hf⟩, hver, hvkey.symm, rfl, rfl, rfl, rfl, rfl, rfl, rfl⟩
              · rintro ⟨hs, ⟨-, hf⟩, hver, hdesc⟩
                obtain ⟨-, pd, rf, -, -, hec⟩ := id hver
                have hexp := (recompute_matches_iff hv hec).mpr ⟨hf, hver⟩
                simp only [checksumOfSlice_eq_some.mpr hec, hexp, ne_eq, not_true_eq_false,
                  if_false]
                congr 1
                cases c
                obtain ⟨h1, h2, h3, h4, h5, h6, h7, h8⟩ := hdesc
                simp_all

/-! ## Scans -/

/-- The delivery a scan lists for a row whose envelope side is there. -/
def DeliveryScanRow.toPending (r : DeliveryScanRow) : PendingDelivery where
  eventId := r.eventId
  journalSequence := r.journalSequence.getD 0
  streamKey := r.streamKey.getD ""
  streamSequence := r.streamSequence.getD 0
  deliveryStatus := r.deliveryStatus
  attemptCount := r.attemptCount
  nextRetryAtMs := r.nextRetryAtMs

/-- A joined row whose envelope side is accepted is listed as it is. -/
theorem verifyDeliveryScanEnvelope_eq_ok {env : CallEnv} {db : Db} {d : DeliveryState}
    {p : PendingDelivery} :
    verifyDeliveryScanEnvelope env db (db.joinScanRow d) = .ok p ↔
      env.fault .selectEnvelopeRow = none ∧ p = (db.joinScanRow d).toPending ∧
        ∃ v, db.storedEnvelope.find? d.eventId = some v ∧ v.Verifies := by
  unfold verifyDeliveryScanEnvelope
  cases hv : db.storedEnvelope.find? d.eventId with
  | none => simp [Db.joinScanRow, hv]
  | some v =>
      simp only [Db.joinScanRow, hv, Option.map_some, Option.some.injEq, exists_eq_left',
        DeliveryScanRow.toPending, Option.getD_some]
      constructor
      · intro h
        split at h
        · cases h
        rename_i ec hec
        split at h
        · cases h
        rename_i expected hexp
        split at h
        · cases h
        rename_i hecs
        injection h with h
        rw [checksumOfSlice_eq_some] at hec
        rw [not_not] at hecs
        rw [← hecs] at hexp
        obtain ⟨hf, hver⟩ := (recompute_matches_iff hv hec).mp hexp
        exact ⟨hf, h.symm, hver⟩
      · rintro ⟨hf, rfl, hver⟩
        obtain ⟨-, pd, rf, -, -, hec⟩ := id hver
        have hexp := (recompute_matches_iff hv hec).mpr ⟨hf, hver⟩
        simp [checksumOfSlice_eq_some.mpr hec, hexp]

/-- A scan loop that ends with a list has listed its rows, and every one of
them has a verified delivery row and a verified envelope. -/
theorem collectDeliveryScan_ok {env : CallEnv} {db : Db} :
    ∀ (rows : List DeliveryScanRow) (index : Nat) (deliveries out : List PendingDelivery),
    (∀ r ∈ rows, ∃ d, r = db.joinScanRow d) →
    collectDeliveryScan env db index deliveries rows = .ok out →
    out = deliveries ++ rows.map DeliveryScanRow.toPending ∧
      ∀ r ∈ rows, (∃ s : DeliveryStateRecord, s.Verifies ∧
          db.deliveryState.find? r.eventId = some s.toRow) ∧
        ∃ v, db.storedEnvelope.find? r.eventId = some v ∧ v.Verifies := by
  intro rows
  induction rows with
  | nil =>
      intro index deliveries out _ h
      simp only [collectDeliveryScan] at h
      injection h with h
      simp [h]
  | cons r rows ih =>
      intro index deliveries out hjoin h
      obtain ⟨d, rfl⟩ := hjoin r List.mem_cons_self
      simp only [collectDeliveryScan] at h
      split at h
      · cases h
      rename_i pending hfetch
      -- the conversion of a row either fails or leaves it as it is
      have hp : pending = db.joinScanRow d := by
        obtain ⟨-, hconv⟩ := CallEnv.run_eq_ok.mp hfetch
        unfold convertScanRow at hconv
        split at hconv
        · injection hconv with hconv
          exact hconv.symm
        · cases hconv
      subst hp
      split at h
      · cases h
      · cases h
      · cases h
      rename_i s hload
      obtain ⟨-, hrow, hver⟩ := loadDeliveryState_found_iff.mp hload
      split at h
      · rename_i p hp
        obtain ⟨-, rfl, v, hv, hvver⟩ := verifyDeliveryScanEnvelope_eq_ok.mp hp
        obtain ⟨hout, hrest⟩ := ih _ _ _ (fun r hr => hjoin r (List.mem_cons_of_mem _ hr)) h
        refine ⟨by simp [hout], ?_⟩
        intro r hr
        rcases List.mem_cons.mp hr with rfl | hr
        · exact ⟨⟨s, hver, hrow⟩, v, hv, hvver⟩
        · exact hrest r hr
      · cases h

/-- A faultless scan loop over verified rows lists all of them. -/
theorem collectDeliveryScan_of_verified {env : CallEnv} (hfl : env.Faultless) {db : Db} :
    ∀ (rows : List DeliveryScanRow) (index : Nat) (deliveries : List PendingDelivery),
    (∀ r ∈ rows, ∃ s : DeliveryStateRecord, r = db.joinScanRow s.toRow ∧ s.Verifies ∧
      db.deliveryState.find? s.eventId = some s.toRow ∧
        ∃ v, db.storedEnvelope.find? s.eventId = some v ∧ v.Verifies) →
    collectDeliveryScan env db index deliveries rows =
      .ok (deliveries ++ rows.map DeliveryScanRow.toPending) := by
  intro rows
  induction rows with
  | nil =>
      intro index deliveries _
      simp [collectDeliveryScan]
  | cons r rows ih =>
      intro index deliveries hrows
      obtain ⟨s, rfl, hver, hfind, v, hv, hvver⟩ := hrows r List.mem_cons_self
      have hfl' := hfl.atRow index
      have hconv : convertScanRow (db.joinScanRow s.toRow) = .ok (db.joinScanRow s.toRow) :=
        if_pos hver.count
      have hload : loadDeliveryState (env.atRow index) db (db.joinScanRow s.toRow).eventId =
          .found s := loadDeliveryState_found_iff.mpr ⟨hfl' _, hfind, hver⟩
      have henv : verifyDeliveryScanEnvelope (env.atRow index) db (db.joinScanRow s.toRow) =
          .ok (db.joinScanRow s.toRow).toPending :=
        verifyDeliveryScanEnvelope_eq_ok.mpr ⟨hfl' _, rfl, v, hv, hvver⟩
      simp only [collectDeliveryScan, CallEnv.run_of_none _ (hfl' .fetchScanRow), hconv, hload,
        henv]
      rw [ih _ _ fun r hr => hrows r (List.mem_cons_of_mem _ hr)]
      simp

omit [Sha256] in
theorem mem_of_mem_limitRows {α : Type} {limit : Int} {rows : List α} {a : α}
    (h : a ∈ limitRows limit rows) : a ∈ rows := by
  unfold limitRows at h
  split at h
  · exact h
  · exact List.mem_of_mem_take h

omit [Sha256] in
@[simp] theorem mem_orderBy {α : Type} {column : α → Option Int} {rows : List α} {a : α} :
    a ∈ orderBy column rows ↔ a ∈ rows := List.mem_insertionSort _

omit [Sha256] in
theorem nullFirst_total (m n : Option Int) : nullFirst m n ∨ nullFirst n m := by
  cases m with
  | none => exact .inl rfl
  | some m =>
      cases n with
      | none => exact .inr rfl
      | some n => simpa [nullFirst] using Int.le_total m n

omit [Sha256] in
theorem nullFirst_trans {l m n : Option Int} (hlm : nullFirst l m) (hmn : nullFirst m n) :
    nullFirst l n := by
  cases l with
  | none => rfl
  | some l =>
      cases m with
      | none => cases hlm
      | some m =>
          cases n with
          | none => cases hmn
          | some n =>
              simp only [nullFirst, decide_eq_true_eq] at hlm hmn ⊢
              omega

omit [Sha256] in
theorem orderBy_sorted {α : Type} (column : α → Option Int) (rows : List α) :
    (orderBy column rows).Pairwise fun a b => nullFirst (column a) (column b) := by
  have htotal : Std.Total fun a b : α => (nullFirst (column a) (column b) : Prop) :=
    ⟨fun a b => nullFirst_total _ _⟩
  have htrans : IsTrans α fun a b => nullFirst (column a) (column b) :=
    ⟨fun a b c => nullFirst_trans⟩
  exact List.pairwise_insertionSort _ rows

omit [Sha256] in
/-- What a limit cuts off comes after what it keeps. -/
theorem rel_of_mem_limitRows {α : Type} {R : α → α → Prop} {limit : Int} {rows : List α}
    {a b : α} (hrows : rows.Pairwise R) (ha : a ∈ limitRows limit rows) (hb : b ∈ rows)
    (hcut : b ∉ limitRows limit rows) : R a b := by
  unfold limitRows at ha hcut
  split at ha
  · rename_i hneg
    rw [if_pos hneg] at hcut
    exact absurd hb hcut
  · rename_i hneg
    rw [if_neg hneg] at hcut
    rw [← List.take_append_drop limit.toNat rows] at hrows hb
    rcases List.mem_append.mp hb with hb | hb
    · exact absurd hb hcut
    · exact (List.pairwise_append.mp hrows).2.2 a ha b hb

/-- A scan that ends with a list has listed the rows its query selects, and every
one of them has a verified delivery row and a verified envelope. -/
theorem scanDeliveries_ok {env : CallEnv} {db : Db} {rows : List DeliveryScanRow}
    {out : List PendingDelivery} (hrows : ∀ r ∈ rows, r ∈ db.scanRows)
    (h : scanDeliveries env db rows = .ok out) :
    out = rows.map DeliveryScanRow.toPending ∧
      ∀ r ∈ rows, (∃ s : DeliveryStateRecord, s.Verifies ∧
          db.deliveryState.find? r.eventId = some s.toRow) ∧
        ∃ v, db.storedEnvelope.find? r.eventId = some v ∧ v.Verifies := by
  unfold scanDeliveries at h
  split at h
  · cases h
  split at h
  · cases h
  rename_i rows' hrun
  cases (CallEnv.run_eq_ok.mp hrun).2
  have hjoin : ∀ r ∈ rows, ∃ d, r = db.joinScanRow d := by
    intro r hr
    obtain ⟨d, -, rfl⟩ := List.mem_map.mp (hrows r hr)
    exact ⟨d, rfl⟩
  exact collectDeliveryScan_ok rows 0 [] out hjoin h

/-- A faultless scan of verified rows lists the rows its query selects. -/
theorem scanDeliveries_of_rows {env : CallEnv} (hfl : env.Faultless) {db : Db}
    {rows : List DeliveryScanRow}
    (hrows : ∀ r ∈ rows, ∃ s : DeliveryStateRecord, r = db.joinScanRow s.toRow ∧ s.Verifies ∧
      db.deliveryState.find? s.eventId = some s.toRow ∧
        ∃ v, db.storedEnvelope.find? s.eventId = some v ∧ v.Verifies) :
    scanDeliveries env db rows = .ok (rows.map DeliveryScanRow.toPending) := by
  unfold scanDeliveries
  simp only [CallEnv.run_of_none _ (hfl .prepareScan), CallEnv.run_of_none _ (hfl .queryScan)]
  rw [collectDeliveryScan_of_verified hfl rows 0 [] hrows, List.nil_append]

/-- So does one of any rows, when all rows of the table are verified. -/
theorem scanDeliveries_of_verified {env : CallEnv} (hfl : env.Faultless) {db : Db}
    (hdb : ∀ d ∈ db.deliveryState.rows, ∃ s : DeliveryStateRecord, d = s.toRow ∧ s.Verifies ∧
      ∃ v, db.storedEnvelope.find? d.eventId = some v ∧ v.Verifies)
    {rows : List DeliveryScanRow} (hrows : ∀ r ∈ rows, r ∈ db.scanRows) :
    scanDeliveries env db rows = .ok (rows.map DeliveryScanRow.toPending) := by
  refine scanDeliveries_of_rows hfl fun r hr => ?_
  obtain ⟨d, hd, rfl⟩ := List.mem_map.mp (hrows r hr)
  obtain ⟨s, rfl, hver, v, hv, hvver⟩ := hdb d hd
  exact ⟨s, rfl, hver, KeyedTable.find?_of_mem hd, v, hv, hvver⟩

end CraftRelay
