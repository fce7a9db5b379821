import CraftRelay.Journal.EventLog
import CraftRelay.Journal.Vouching

/-!
# The journal's tables store the event log

`Db.Stores` relates a database to the log: the envelopes and the payloads are those of the
entries, in the log's order. An accepted request appends to both sides; every other call
leaves the two tables alone, and what the readers make of the rows is what the log answers.
Where no statement of a call fails, the call is not refused.
-/

namespace CraftRelay

variable [Sha256]

/-- The envelope row of an entry. -/
def LogEntry.envelope (e : LogEntry) : StoredEnvelope :=
  e.request.envelope e.acceptedAtMs e.journalSequence e.streamSequence

/-- The payload row of an entry. -/
def LogEntry.blob (e : LogEntry) : PayloadBlob :=
  ⟨e.request.eventId, e.request.payload, (computeSha256 e.request.payload).val⟩

/-- The tables hold the entries of the log, in its order. -/
structure Db.Stores (db : Db) (log : EventLog) : Prop where
  storedEnvelope : db.storedEnvelope.rows = log.entries.map LogEntry.envelope
  payloadBlob : db.payloadBlob.rows = log.entries.map LogEntry.blob

section Lookup

variable {db : Db} {log : EventLog} {eventId : String}

theorem Db.stores_empty : Db.empty.Stores .empty := ⟨rfl, rfl⟩

/-- A row of the table is that of an entry. -/
theorem Db.Stores.entry_of_envelope (h : db.Stores log) {v : StoredEnvelope}
    (hv : db.storedEnvelope.find? eventId = some v) :
    ∃ e, log.Has eventId e ∧ v = e.envelope := by
  obtain ⟨hmem, hkey⟩ := KeyedTable.find?_eq_some_iff.mp hv
  rw [h.storedEnvelope] at hmem
  obtain ⟨e, he, rfl⟩ := List.mem_map.mp hmem
  exact ⟨e, ⟨he, hkey⟩, rfl⟩

theorem Db.Stores.entry_of_blob (h : db.Stores log) {b : PayloadBlob}
    (hb : db.payloadBlob.find? eventId = some b) : ∃ e, log.Has eventId e ∧ b = e.blob := by
  obtain ⟨hmem, hkey⟩ := KeyedTable.find?_eq_some_iff.mp hb
  rw [h.payloadBlob] at hmem
  obtain ⟨e, he, rfl⟩ := List.mem_map.mp hmem
  exact ⟨e, ⟨he, hkey⟩, rfl⟩

theorem Db.Stores.lacks_iff (h : db.Stores log) :
    log.Lacks eventId ↔ db.storedEnvelope.find? eventId = none := by
  rw [KeyedTable.find?_eq_none_iff, h.storedEnvelope, List.forall_mem_map]
  exact Iff.rfl

theorem Db.Stores.lacks_of_blob (h : db.Stores log)
    (hb : db.payloadBlob.find? eventId = none) : log.Lacks eventId := by
  rw [KeyedTable.find?_eq_none_iff, h.payloadBlob, List.forall_mem_map] at hb
  exact hb

theorem Db.Stores.streamEnvelopes (h : db.Stores log) (key : String) :
    db.streamEnvelopes key = (streamEntries log.entries key).map LogEntry.envelope := by
  unfold Db.streamEnvelopes streamEntries
  rw [h.storedEnvelope, List.filter_map]
  rfl

theorem Db.Stores.producerEnvelopes (h : db.Stores log) (key : String) :
    db.producerEnvelopes key = (producerEntries log.entries key).map LogEntry.envelope := by
  unfold Db.producerEnvelopes producerEntries
  rw [h.storedEnvelope, List.filter_map]
  rfl

/-- A status that verifies describes the entry. -/
theorem LogEntry.described_of_reports {e : LogEntry} {st : PersistedStatus}
    {l : LifecycleState} (h : st.Reports e.envelope l) : e.Described st where
  eventId := h.eventId
  journalSequence := h.journalSequence
  streamSequence := h.streamSequence
  payloadDigest := (Subtype.ext h.payloadDigest).symm
  envelopeChecksum := (Subtype.ext h.envelopeChecksum).symm

end Lookup

/-! ## An accepted request -/

section Accepted

variable {now : Int} {db db' : Db} {log : EventLog} {req : AcceptRequest} {a : AcceptedEvent}

theorem AcceptedStep.journalSequence_eq (h : AcceptedStep now db req a db') :
    a.journalSequence = db.nextJournalSequence := by
  rw [h.event]

theorem AcceptedStep.streamSequence_eq (h : AcceptedStep now db req a db') :
    a.streamSequence = db.nextStreamSequence req.formattedStreamKey := by
  rw [h.event]

/-- The new entry comes next in the log. -/
theorem AcceptedStep.follows (h : AcceptedStep now db req a db') (hc : db.Consistent)
    (hg : db.Gapless) (hp : db.ProducersIncrease) (hs : db.Stores log) :
    (req.entry now a).Follows log.entries where
  fresh := by
    have hdedup := hc.dedup req.eventId
    rw [h.dedup] at hdedup
    exact hs.lacks_iff.mpr (Option.map_eq_none_iff.mp hdedup.symm)
  journalSequence := by
    show a.journalSequence = _
    rw [h.journalSequence_eq, hg.nextJournalSequence, hs.storedEnvelope, List.length_map]
  streamSequence := by
    show a.streamSequence = _
    rw [h.streamSequence_eq, hg.nextStreamSequence, hs.streamEnvelopes, List.length_map]
    rfl
  producer := by
    -- the operation sequences still increase with the request's row at the end
    have hnext := (h.producersIncrease hc hp).increasing req.formattedProducerKey
    rw [h.producerEnvelopes, if_pos rfl, List.map_append, List.pairwise_append] at hnext
    intro e he
    have hmem : e.envelope ∈ db.producerEnvelopes req.formattedProducerKey := by
      rw [hs.producerEnvelopes]
      exact List.mem_map_of_mem he
    exact hnext.2.2 _ (List.mem_map_of_mem hmem) _ (List.mem_singleton.mpr rfl)

theorem AcceptedStep.reported (h : AcceptedStep now db req a db') :
    (req.entry now a).Reported a := by
  refine ⟨?_, rfl, rfl, ?_⟩
  · rw [h.event]
    rfl
  · rw [h.event]
    rfl

theorem AcceptedStep.stores (h : AcceptedStep now db req a db') (hs : db.Stores log)
    (he : (req.entry now a).Follows log.entries) : db'.Stores (log.append _ he) := by
  refine ⟨?_, ?_⟩
  · rw [h.storedEnvelope, hs.storedEnvelope, ← h.journalSequence_eq, ← h.streamSequence_eq,
      GuardedLog.entries_append, List.map_append]
    rfl
  · rw [h.payloadBlob, hs.payloadBlob, GuardedLog.entries_append, List.map_append]
    rfl

end Accepted

/-! ## Reads -/

section Reads

variable {env : CallEnv} {db : Db} {log : EventLog} {eventId : String}

/-- A status is missing only where the event is. -/
theorem getStatusImpl_notFound (hc : db.Consistent)
    (h : getStatusImpl env db eventId = .notFound) : db.storedEnvelope.find? eventId = none := by
  unfold getStatusImpl at h
  split at h
  · cases h
  · rename_i hrun
    have hrow := Except.ok.inj (CallEnv.run_eq_ok.mp hrun).2
    have hl := hc.lifecycle eventId
    unfold Db.statusRow at hrow
    split at hrow
    · cases hrow
    · rename_i hnone
      cases hv : db.storedEnvelope.find? eventId with
      | none => rfl
      | some v =>
          -- an envelope has its lifecycle row
          rw [hv] at hl
          obtain ⟨l, hl⟩ := Option.isSome_iff_exists.mp hl
          exact absurd hl (hnone v l hv)
  · split at h
    · split at h
      · cases h
      split at h
      · cases h
      split at h
      · cases h
      split at h
      · cases h
      split at h
      · cases h
      · cases h
    · cases h

theorem getStatusImpl_described (hs : db.Stores log) {st : PersistedStatus}
    (h : getStatusImpl env db eventId = .found st) :
    ∃ e, log.Has eventId e ∧ e.Described st := by
  obtain ⟨-, v, l, hv, -, -, -, hrep⟩ := getStatusImpl_found_iff.mp h
  obtain ⟨e, he, rfl⟩ := hs.entry_of_envelope hv
  exact ⟨e, he, LogEntry.described_of_reports hrep⟩

/-- Without failures no status is reported as corrupted. -/
theorem getStatusImpl_ne_corrupted (hc : db.Consistent) (henv : env.Faultless) :
    ∀ e d, getStatusImpl env db eventId ≠ .corrupted e d := by
  intro e d h
  cases hv : db.storedEnvelope.find? eventId with
  | none =>
      have hrow : db.statusRow eventId = none := by
        unfold Db.statusRow
        rw [hv]
      unfold getStatusImpl at h
      rw [henv.run, hrow] at h
      cases h
  | some v =>
      obtain ⟨l, hst⟩ := hc.hasStatus hv
      obtain ⟨st, hrep⟩ := hst.reports
      rw [hst.found hrep (henv _) (henv _)] at h
      cases h

/-- A payload is missing only where the envelope is. -/
theorem readVerifiedPayload_notFound (h : readVerifiedPayload env db eventId = .notFound) :
    db.storedEnvelope.find? eventId = none := by
  unfold readVerifiedPayload at h
  split at h
  · cases h
  · rename_i hrun
    exact Except.ok.inj (CallEnv.run_eq_ok.mp hrun).2
  split at h
  · cases h
  split at h
  · cases h
  · cases h
  split at h
  · cases h
  split at h
  · cases h
  split at h
  · cases h
  · cases h

theorem getStatusByJournalSeq_answers (hc : db.Consistent) (hs : db.Stores log) {n : Int} :
    log.Answers (.getStatusByJournalSeq n) (getStatusByJournalSeq env db n) ∨
      JournalCall.Refuses (.getStatusByJournalSeq n) (getStatusByJournalSeq env db n) := by
  unfold getStatusByJournalSeq
  split
  · exact .inr ⟨_, _, rfl⟩
  · rename_i hrun
    have hnone := Except.ok.inj (CallEnv.run_eq_ok.mp hrun).2
    rw [hs.storedEnvelope, List.find?_eq_none, List.forall_mem_map] at hnone
    exact .inl (.inr ⟨rfl, fun e he heq => hnone e he (decide_eq_true heq)⟩)
  · rename_i v hrun
    have hfind := Except.ok.inj (CallEnv.run_eq_ok.mp hrun).2
    have hseq : v.journalSequence = n := by simpa using List.find?_some hfind
    have hv := KeyedTable.find?_of_mem (List.mem_of_find?_eq_some hfind)
    cases hst : getStatusImpl env db v.eventId with
    | found st =>
        obtain ⟨e, he, hdesc⟩ := getStatusImpl_described hs hst
        obtain ⟨e', he', rfl⟩ := hs.entry_of_envelope hv
        obtain rfl := he.unique he'
        exact .inl (.inl ⟨e, st, rfl, he.mem, hseq, hdesc⟩)
    | notFound =>
        rw [getStatusImpl_notFound hc hst] at hv
        cases hv
    | corrupted e d => exact .inr ⟨e, d, rfl⟩

theorem getStatus_answers (hc : db.Consistent) (hs : db.Stores log) :
    log.Answers (.getStatus eventId) (getStatusImpl env db eventId) ∨
      JournalCall.Refuses (.getStatus eventId) (getStatusImpl env db eventId) := by
  cases hst : getStatusImpl env db eventId with
  | found st =>
      obtain ⟨e, he, hdesc⟩ := getStatusImpl_described hs hst
      exact .inl (.inl ⟨e, st, rfl, he, hdesc⟩)
  | notFound => exact .inl (.inr ⟨rfl, hs.lacks_iff.mpr (getStatusImpl_notFound hc hst)⟩)
  | corrupted e d => exact .inr ⟨e, d, rfl⟩

theorem verifyPayload_answers (hc : db.Consistent) (hs : db.Stores log) :
    log.Answers (.verifyPayload eventId) (verifyPayload env db eventId) ∨
      JournalCall.Refuses (.verifyPayload eventId) (verifyPayload env db eventId) := by
  unfold verifyPayload
  split
  · exact .inr ⟨_, rfl⟩
  · rename_i hrun
    exact .inl (.inr ⟨rfl, hs.lacks_of_blob (Except.ok.inj (CallEnv.run_eq_ok.mp hrun).2)⟩)
  · rename_i b hrun
    have hb := Except.ok.inj (CallEnv.run_eq_ok.mp hrun).2
    -- a stored payload carries its digest
    rw [if_pos (hc.payloadVerifies _ _ hb).symm]
    obtain ⟨e, he, -⟩ := hs.entry_of_blob hb
    exact .inl (.inl ⟨rfl, e, he⟩)

theorem readVerifiedPayload_answers (hs : db.Stores log) :
    log.Answers (.readVerifiedPayload eventId) (readVerifiedPayload env db eventId) ∨
      JournalCall.Refuses (.readVerifiedPayload eventId) (readVerifiedPayload env db eventId) := by
  cases hread : readVerifiedPayload env db eventId with
  | found payload =>
      obtain ⟨-, v, b, -, hb, rfl, -, -⟩ := readVerifiedPayload_found_iff.mp hread
      obtain ⟨e, he, rfl⟩ := hs.entry_of_blob hb
      exact .inl (.inl ⟨e, rfl, he⟩)
  | notFound =>
      refine .inl (.inr ⟨rfl, hs.lacks_iff.mpr ?_⟩)
      exact readVerifiedPayload_notFound hread
  | corrupted e d => exact .inr (.inl ⟨e, d, rfl⟩)
  | error m => exact .inr (.inr ⟨m, rfl⟩)

theorem loadDeliveryCandidate_answers (hs : db.Stores log) :
    log.Answers (.getDeliveryCandidate eventId) (loadDeliveryCandidate env db eventId) := by
  intro c hc
  obtain ⟨-, -, v, hv, -, hdesc⟩ := loadDeliveryCandidate_found_iff.mp hc
  obtain ⟨e, he, rfl⟩ := hs.entry_of_envelope hv
  exact ⟨e, he, hdesc.eventId, hdesc.installationId, hdesc.namespace, hdesc.logicalStreamType,
    hdesc.streamKey, hdesc.streamSequence, hdesc.eventType, hdesc.routingVersion⟩

/-- What has a delivery row has an entry. -/
theorem Db.Stores.entry_of_delivery (hs : db.Stores log) (hc : db.Consistent)
    (hd : (db.deliveryState.find? eventId).isSome) : ∃ e, log.Has eventId e := by
  obtain ⟨v, hv⟩ := Option.isSome_iff_exists.mp (hc.delivery eventId hd)
  obtain ⟨e, he, -⟩ := hs.entry_of_envelope hv
  exact ⟨e, he⟩

theorem loadDeliveryState_answers (hc : db.Consistent) (hs : db.Stores log) :
    log.Answers (.getDeliveryState eventId) (loadDeliveryState env db eventId) := by
  intro s hfound
  obtain ⟨-, hrow, -⟩ := loadDeliveryState_found_iff.mp hfound
  exact hs.entry_of_delivery hc (by rw [hrow]; rfl)

/-- What a scan lists is of entries, with their numbers. -/
theorem scanDeliveries_lists_entries {rows : List DeliveryScanRow} (hs : db.Stores log)
    (hrows : ∀ r ∈ rows, r ∈ db.scanRows) : log.Lists (scanDeliveries env db rows) := by
  intro deliveries hok p hp
  obtain ⟨rfl, hall⟩ := scanDeliveries_ok hrows hok
  obtain ⟨r, hr, rfl⟩ := List.mem_map.mp hp
  obtain ⟨-, v, hv, -⟩ := hall r hr
  obtain ⟨d, -, rfl⟩ := List.mem_map.mp (hrows r hr)
  have hv : db.storedEnvelope.find? d.eventId = some v := hv
  obtain ⟨e, he, rfl⟩ := hs.entry_of_envelope hv
  refine ⟨e, he, ?_, ?_, ?_⟩
  · simp [DeliveryScanRow.toPending, Db.joinScanRow, hv]
    rfl
  · simp [DeliveryScanRow.toPending, Db.joinScanRow, hv]
    rfl
  · simp [DeliveryScanRow.toPending, Db.joinScanRow, hv]
    rfl

/-- A call that changed something about an event changed it about an entry. -/
theorem DbStep.answers {db' : Db} {c : JournalCall} {r : c.Reply} (h : DbStep env db c r db')
    (hcommits : c.Commits r) (hnone : (⟨env, c, r⟩ : JournalEvent).accepted? = none)
    (hc : db.Consistent) (hs : db.Stores log) : log.Answers c r := by
  have hentry : ∀ {e v}, db.storedEnvelope.find? e = some v → ∃ entry, log.Has e entry := by
    intro e v hv
    obtain ⟨entry, he, -⟩ := hs.entry_of_envelope hv
    exact ⟨entry, he⟩
  have hdelivery : ∀ {e s}, db.HasDelivery e s → ∃ entry, log.Has e entry := by
    intro e s hd
    exact hs.entry_of_delivery hc (by rw [hd.row]; rfl)
  cases h with
  | quiet hquiet => exact absurd hcommits hquiet
  | accepted => cases hnone
  | lifecycle hst => exact fun _ => hentry hst.envelope
  | created hv => exact fun _ => hentry hv
  | attempted hd => exact fun _ => hdelivery hd
  | confirmed hd => exact fun _ => hdelivery hd
  | blocked hd => exact fun _ => hdelivery hd
  | retried hd => exact fun _ => hdelivery hd

end Reads

/-! ## A request that is not taken -/

section Accept

variable {env : CallEnv} {db db' : Db} {log : EventLog} {req : AcceptRequest} {r : AcceptResult}

/-- What a transaction that neither accepts nor refuses found. -/
inductive AcceptFinding (env : CallEnv) (db : Db) (req : AcceptRequest) : AcceptResult → Prop
  | duplicate {st : PersistedStatus}
      (hdedup : checkDedup env db req.eventId req.requestFingerprint = .ok .duplicate)
      (hst : getStatusImpl env db req.eventId = .found st) :
      AcceptFinding env db req (.existingDuplicate
        { eventId := st.eventId
          journalSequence := st.journalSequence
          streamSequence := st.streamSequence
          lifecycleRevision := st.lifecycleRevision
          envelopeChecksum := st.envelopeChecksum
          deliveryStatus := duplicateDeliveryStatus st.deliveryStatus })
  | conflict (hdedup : checkDedup env db req.eventId req.requestFingerprint = .ok .conflict) :
      AcceptFinding env db req (.fingerprintConflict req.eventId)
  | sequence {detail : String}
      (hdedup : checkDedup env db req.eventId req.requestFingerprint = .ok .new)
      (hseq : checkProducerSequence env db req.formattedProducerKey
        req.producerOperationSequence req.eventId = .ok (some detail)) :
      AcceptFinding env db req (.sequenceConflict detail)

theorem acceptNew_answers (h : acceptNew env db req = some (db', r)) :
    (∃ a, r = .accepted a) ∨ ∃ message, r = .error message := by
  unfold acceptNew at h
  split at h
  · cases h
  split at h
  · cases h
    exact .inr ⟨_, rfl⟩
  split at h
  · cases h
    exact .inr ⟨_, rfl⟩
  simp only at h
  split at h
  · cases h
    exact .inr ⟨_, rfl⟩
  · cases h
    exact .inl ⟨_, rfl⟩

/-- Whatever the transaction answers, it accepted, was refused, or found what it says. -/
theorem acceptTransaction_answers (h : acceptTransaction env db req = some (db', r)) :
    (∃ a, r = .accepted a) ∨ JournalCall.Refuses (.accept req) r ∨
      AcceptFinding env db req r := by
  unfold acceptTransaction at h
  split at h
  · cases h
    exact .inr (.inl (.inr (.inr (.inr ⟨_, rfl⟩))))
  split at h
  · cases h
    exact .inr (.inl (.inl ⟨_, _, rfl⟩))
  · rename_i hdedup
    injection h with h
    unfold acceptDuplicate at h
    split at h
    · cases h
      exact .inr (.inl (.inr (.inr (.inr ⟨_, rfl⟩))))
    · cases h
      exact .inr (.inl (.inl ⟨_, _, rfl⟩))
    rename_i st hst
    split at h
    · cases h
      exact .inr (.inl (.inl ⟨_, _, rfl⟩))
    · cases h
      exact .inr (.inr (.duplicate hdedup hst))
  · rename_i hdedup
    cases h
    exact .inr (.inr (.conflict hdedup))
  rename_i hdedup
  split at h
  · cases h
    exact .inr (.inl (.inl ⟨_, _, rfl⟩))
  · rename_i hseq
    cases h
    exact .inr (.inr (.sequence hdedup hseq))
  · rcases acceptNew_answers h with ha | ⟨message, hr⟩
    · exact .inl ha
    · exact .inr (.inl (.inr (.inr (.inr ⟨message, hr⟩))))

omit [Sha256] in
theorem checkDedup_conflict {fingerprint : Checksum} {e : String}
    (h : checkDedup env db e fingerprint = .ok .conflict) :
    ∃ row, db.dedupFingerprint.find? e = some row ∧ row.requestFingerprint ≠ fingerprint.val := by
  unfold checkDedup at h
  split at h
  · cases h
  · cases h
  rename_i row hrow
  refine ⟨row, Except.ok.inj (CallEnv.run_eq_ok.mp hrow).2, ?_⟩
  intro hsame
  rw [if_pos hsame] at h
  cases h

omit [Sha256] in
theorem checkProducerSequence_conflict {producerKey : String} {seq : Int} {eventId detail : String}
    (h : checkProducerSequence env db producerKey seq eventId = .ok (some detail)) :
    ∃ row, db.producerSequence.find? producerKey = some row ∧ seq ≤ row.highestSeq ∧
      detail = producerSequenceConflict seq row.highestSeq row.lastEventId := by
  unfold checkProducerSequence at h
  split at h
  · cases h
  · cases h
  rename_i row hrow
  split at h
  · rename_i hcond
    cases h
    exact ⟨row, Except.ok.inj (CallEnv.run_eq_ok.mp hrow).2, hcond.1, rfl⟩
  · cases h

/-- The fingerprint of an event is that of its entry's request. -/
theorem Db.Stores.entry_of_dedup (hs : db.Stores log) (hc : db.Consistent) {e : String}
    {row : DedupFingerprint} (hrow : db.dedupFingerprint.find? e = some row) :
    ∃ entry, log.Has e entry ∧ row.requestFingerprint = entry.request.requestFingerprint.val := by
  rw [hc.dedup, Option.map_eq_some_iff] at hrow
  obtain ⟨v, hv, rfl⟩ := hrow
  obtain ⟨entry, he, rfl⟩ := hs.entry_of_envelope hv
  exact ⟨entry, he, rfl⟩

/-- The row of a producer is about its last entry. -/
theorem Db.Stores.entry_of_producer (hs : db.Stores log) (hp : db.ProducersIncrease)
    {key : String} {row : ProducerSequence} (hrow : db.producerSequence.find? key = some row) :
    ∃ e, (producerEntries log.entries key).getLast? = some e ∧
      row.highestSeq = e.request.producerOperationSequence ∧
      row.lastEventId = e.request.eventId := by
  rw [hp.last, hs.producerEnvelopes, List.getLast?_map, Option.map_map,
    Option.map_eq_some_iff] at hrow
  obtain ⟨e, he, rfl⟩ := hrow
  exact ⟨e, he, rfl, rfl⟩

/-- What the transaction found is what the log answers. -/
theorem AcceptFinding.answers (h : AcceptFinding env db req r) (hc : db.Consistent)
    (hp : db.ProducersIncrease) (hs : db.Stores log) : log.AnswersAccept req r := by
  cases h with
  | duplicate hdedup hst =>
      obtain ⟨row, hrow, hsame⟩ := checkDedup_duplicate hdedup
      obtain ⟨e, he, hfp⟩ := hs.entry_of_dedup hc hrow
      obtain ⟨e', he', hdesc⟩ := getStatusImpl_described hs hst
      obtain rfl := he.unique he'
      exact ⟨e, he, Subtype.ext (hfp.symm.trans hsame), hdesc.eventId, hdesc.journalSequence,
        hdesc.streamSequence, hdesc.envelopeChecksum⟩
  | conflict hdedup =>
      obtain ⟨row, hrow, hother⟩ := checkDedup_conflict hdedup
      obtain ⟨e, he, hfp⟩ := hs.entry_of_dedup hc hrow
      exact ⟨rfl, e, he, fun hsame => hother (hfp.trans (congrArg Subtype.val hsame))⟩
  | sequence hdedup hseq =>
      obtain ⟨row, hrow, hle, hdetail⟩ := checkProducerSequence_conflict hseq
      obtain ⟨e, he, hhighest, hlast⟩ := hs.entry_of_producer hp hrow
      rw [hhighest] at hle hdetail
      rw [hlast] at hdetail
      have hnew := hc.dedup req.eventId
      rw [checkDedup_new hdedup] at hnew
      exact ⟨hs.lacks_iff.mpr (Option.map_eq_none_iff.mp hnew.symm), e, he, hle, hdetail⟩

/-- A request that is not accepted is answered from the log or refused. -/
theorem LocalJournal.accept_answers {j j' : LocalJournal} (h : j.accept env req = some (j', r))
    (hr : ∀ a, r ≠ .accepted a) (hc : j.db.Consistent) (hp : j.db.ProducersIncrease)
    (hs : j.db.Stores log) :
    log.Answers (.accept req) r ∨ JournalCall.Refuses (.accept req) r := by
  unfold LocalJournal.accept at h
  split at h
  · cases h
    exact .inr (.inr (.inr (.inl rfl)))
  split at h
  · cases h
    exact .inr (.inr (.inl rfl))
  split at h
  · cases h
    exact .inr (.inr (.inr (.inr ⟨_, rfl⟩)))
  split at h
  · cases h
    exact .inr (.inr (.inr (.inr ⟨_, rfl⟩)))
  obtain ⟨⟨db', r'⟩, htx, heq⟩ := Option.map_eq_some_iff.mp h
  cases heq
  rcases acceptTransaction_answers htx with ⟨a, ha⟩ | hrefused | hfound
  · exact absurd ha (hr a)
  · exact .inr hrefused
  · exact .inl (hfound.answers hc hp hs)

end Accept

/-! ## Every call -/

/-- A call that accepts nothing is answered from the log or refused. -/
theorem journalStep_answers {j j' : LocalJournal} {ev : JournalEvent} {log : EventLog}
    (h : journalLts.step j ev j') (hr : ev.accepted? = none) (hc : j.db.Consistent)
    (hp : j.db.ProducersIncrease) (hs : j.db.Stores log) :
    log.Answers ev.call ev.reply ∨ ev.call.Refuses ev.reply := by
  have hstep := journalStep_cases h
  obtain ⟨env, c, r⟩ := ev
  have h : j.exec env c = some (j', r) := h
  cases c with
  | accept req =>
      refine LocalJournal.accept_answers h ?_ hc hp hs
      rintro a rfl
      cases hr
  | getStatus =>
      cases h
      exact getStatus_answers hc hs
  | getStatusByJournalSeq =>
      cases h
      exact getStatusByJournalSeq_answers hc hs
  | verifyPayload =>
      cases h
      exact verifyPayload_answers hc hs
  | readVerifiedPayload =>
      cases h
      exact readVerifiedPayload_answers hs
  | getDeliveryCandidate =>
      cases h
      exact .inl (loadDeliveryCandidate_answers hs)
  | getDeliveryState =>
      cases h
      exact .inl (loadDeliveryState_answers hc hs)
  | scanPendingDeliveries limit =>
      cases h
      exact .inl (scanDeliveries_lists_entries hs fun r hr =>
        List.mem_of_mem_filter (mem_orderBy.mp (mem_of_mem_limitRows hr)))
  | scanRetryingDeliveries nowMs limit =>
      cases h
      exact .inl (scanDeliveries_lists_entries hs fun r hr =>
        List.mem_of_mem_filter (mem_orderBy.mp (mem_of_mem_limitRows hr)))
  | scanDeliveryGateStates limit =>
      cases h
      exact .inl (scanDeliveries_lists_entries hs fun r hr =>
        mem_orderBy.mp (mem_of_mem_limitRows hr))
  | updateLifecycle => exact .inl fun hr => hstep.answers hr rfl hc hs hr
  | createDeliveryPending => exact .inl fun hr => hstep.answers hr rfl hc hs hr
  | recordDeliveryAttempt => exact .inl fun hr => hstep.answers hr rfl hc hs hr
  | confirmReplicatedDelivery => exact .inl fun hr => hstep.answers hr rfl hc hs hr
  | blockDelivery => exact .inl fun hr => hstep.answers hr rfl hc hs hr
  | updateDeliveryRetry => exact .inl fun hr => hstep.answers hr rfl hc hs hr
  | shutdown => exact .inl trivial
  | isShutdown => exact .inl trivial

/-- A step of the journal is a step of the log that its tables store. -/
theorem journalStep_refines {j j' : LocalJournal} {ev : JournalEvent} {log : EventLog}
    (h : journalLts.step j ev j') (hreach : Reachable j) (hs : j.db.Stores log) :
    ∃ log', eventLogLts.step log ev log' ∧ j'.db.Stores log' := by
  have hc := hreach.consistent
  have hp := hreach.producersIncrease
  rcases (journalStep_cases h).acceptance with ⟨req, a, hev, hacc⟩ | ⟨hnone, hsame⟩
  · have hfollows := hacc.follows hc hreach.gapless hp hs
    obtain ⟨env, c, r⟩ := ev
    cases hev
    exact ⟨_, .accepted hfollows hacc.reported, hacc.stores hs hfollows⟩
  · refine ⟨log, ?_, ?_⟩
    · rcases journalStep_answers h hnone hc hp hs with hans | href
      · exact .answered hans
      · exact .refused href
    · refine ⟨?_, ?_⟩
      · rw [hsame.storedEnvelope]
        exact hs.storedEnvelope
      · rw [hsame.payloadBlob]
        exact hs.payloadBlob

/-- Every run of the journal is a run of the log. -/
theorem journalRun_refines {config : JournalConfig} {tr : List JournalEvent} {j : LocalJournal}
    (hrun : journalLts.Run (LocalJournal.open config) tr j) :
    ∃ log, eventLogLts.Run .empty tr log ∧ j.db.Stores log := by
  induction hrun with
  | nil => exact ⟨.empty, .nil, Db.stores_empty⟩
  | snoc hrun hst ih =>
      obtain ⟨log, hlog, hs⟩ := ih
      obtain ⟨log', hstep, hs'⟩ := journalStep_refines hst ⟨_, _, hrun⟩ hs
      exact ⟨log', hlog.snoc hstep, hs'⟩

/-! ## Without failures -/

section Faultless

variable {env : CallEnv} {db : Db} {req : AcceptRequest}

theorem getStatusByJournalSeq_ne_corrupted (hc : db.Consistent) (henv : env.Faultless) (n : Int)
    (e d : String) : getStatusByJournalSeq env db n ≠ .corrupted e d := by
  unfold getStatusByJournalSeq
  rw [henv.run]
  cases db.storedEnvelope.rows.find? fun v => v.journalSequence = n with
  | none => simp
  | some v => exact getStatusImpl_ne_corrupted hc henv e d

/-- Without failures a payload is found or missing. -/
theorem readVerifiedPayload_ne_refused (hc : db.Consistent) (henv : env.Faultless)
    (eventId : String) :
    ¬ JournalCall.Refuses (.readVerifiedPayload eventId) (readVerifiedPayload env db eventId) := by
  cases hv : db.storedEnvelope.find? eventId with
  | none =>
      have hnone : readVerifiedPayload env db eventId = .notFound := by
        unfold readVerifiedPayload
        rw [henv.run, hv]
      simp [hnone, JournalCall.Refuses]
  | some v =>
      have hp := hc.payload eventId
      rw [hv] at hp
      obtain ⟨b, hb, hsame⟩ := Option.map_eq_some_iff.mp hp
      have hfound : readVerifiedPayload env db eventId = .found b.payload :=
        readVerifiedPayload_found_iff.mpr ⟨⟨henv _, henv _⟩, v, b, hv, hb, rfl,
          hc.payloadVerifies _ _ hb, hsame⟩
      simp [hfound, JournalCall.Refuses]

/-- A new event under a number that its producer used is told so. -/
theorem acceptTransaction_of_used {row : ProducerSequence} (henv : env.Faultless)
    (hc : db.Consistent) (hp : db.ProducersIncrease)
    (hnew : db.storedEnvelope.find? req.eventId = none)
    (hrow : db.producerSequence.find? req.formattedProducerKey = some row)
    (hused : req.producerOperationSequence ≤ row.highestSeq) :
    ∃ db' detail, acceptTransaction env db req = some (db', .sequenceConflict detail) := by
  have hdedup : checkDedup env db req.eventId req.requestFingerprint = .ok .new := by
    unfold checkDedup
    rw [henv.run, (hc.unknown hnew).dedupFingerprint]
  have hlast : row.lastEventId ≠ req.eventId := by
    -- the last event of a producer is stored
    rw [hp.last, Option.map_eq_some_iff] at hrow
    obtain ⟨v, hv, rfl⟩ := hrow
    have hmem : v ∈ db.storedEnvelope.rows := List.mem_of_mem_filter (List.mem_of_getLast? hv)
    exact KeyedTable.find?_eq_none_iff.mp hnew v hmem
  have hseq : checkProducerSequence env db req.formattedProducerKey
      req.producerOperationSequence req.eventId =
        .ok (some (producerSequenceConflict req.producerOperationSequence row.highestSeq
          row.lastEventId)) := by
    unfold checkProducerSequence
    simp only [henv.run, hrow]
    rw [if_pos ⟨hused, hlast⟩]
  unfold acceptTransaction
  simp only [henv.run, hdedup, hseq]
  exact ⟨_, _, rfl⟩

/-- Without failures a request is accepted or answered from what is stored. -/
theorem acceptTransaction_of_faultless (henv : env.Faultless) (hc : db.Consistent)
    (hg : db.Gapless) (hp : db.ProducersIncrease) (req : AcceptRequest) :
    ∃ db' r, acceptTransaction env db req = some (db', r) ∧
      ¬ JournalCall.Refuses (.accept req) r := by
  cases hv : db.storedEnvelope.find? req.eventId with
  | some v =>
      obtain ⟨log, r, htx, hsame, hother⟩ := acceptTransaction_of_stored hc henv hv
      refine ⟨_, r, htx, ?_⟩
      by_cases hfp : v.requestFingerprint = req.requestFingerprint.val
      · obtain ⟨a, rfl, -⟩ := hsame hfp
        simp [JournalCall.Refuses]
      · rw [hother hfp]
        simp [JournalCall.Refuses]
  | none =>
      by_cases hused : ∃ row, db.producerSequence.find? req.formattedProducerKey = some row ∧
          req.producerOperationSequence ≤ row.highestSeq
      · obtain ⟨row, hrow, hle⟩ := hused
        obtain ⟨db', detail, htx⟩ := acceptTransaction_of_used henv hc hp hv hrow hle
        exact ⟨db', _, htx, by simp [JournalCall.Refuses]⟩
      · have habove : ∀ row, db.producerSequence.find? req.formattedProducerKey = some row →
            row.highestSeq < req.producerOperationSequence := by
          intro row hrow
          exact lt_of_not_ge fun hle => hused ⟨row, hrow, hle⟩
        obtain ⟨db', a, htx, -⟩ := acceptTransaction_of_new hg hc henv hv habove
        exact ⟨db', _, htx, by simp [JournalCall.Refuses]⟩

end Faultless

/-- An admissible request returns, and is not refused. -/
theorem LocalJournal.accept_of_faultless {j : LocalJournal} {env : CallEnv}
    {req : AcceptRequest} (hreach : Reachable j) (henv : env.Faultless)
    (hadm : req.Admissible j env) :
    ∃ j' r, j.exec env (.accept req) = some (j', r) ∧ ¬ JournalCall.Refuses (.accept req) r := by
  obtain ⟨db', r, htx, hr⟩ := acceptTransaction_of_faultless henv hreach.consistent
    hreach.gapless hreach.producersIncrease req
  refine ⟨{ j with db := db' }, r, ?_, hr⟩
  show j.accept env req = _
  rw [hadm.accept_eq, htx]
  rfl

/-- A request reaches its transaction. -/
def JournalEvent.Admitted (ev : JournalEvent) (j : LocalJournal) : Prop :=
  ∀ req, ev.call = .accept req → req.Admissible j ev.env

/-- Where no statement fails, nothing that is admitted is refused. -/
theorem journalStep_ne_refused {j j' : LocalJournal} {ev : JournalEvent}
    (h : journalLts.step j ev j') (hreach : Reachable j) (henv : ev.env.Faultless)
    (hadm : ev.Admitted j) : ¬ ev.call.Refuses ev.reply := by
  have hc := hreach.consistent
  obtain ⟨env, c, r⟩ := ev
  have h : j.exec env c = some (j', r) := h
  cases c with
  | accept req =>
      obtain ⟨j₁, r₁, hexec, hr⟩ := LocalJournal.accept_of_faultless hreach henv (hadm req rfl)
      cases h.symm.trans hexec
      exact hr
  | getStatus eventId =>
      cases h
      rintro ⟨e, d, hcorrupted⟩
      exact getStatusImpl_ne_corrupted hc henv e d hcorrupted
  | getStatusByJournalSeq n =>
      cases h
      rintro ⟨e, d, hcorrupted⟩
      exact getStatusByJournalSeq_ne_corrupted hc henv n e d hcorrupted
  | verifyPayload eventId =>
      cases h
      rintro ⟨message, herror⟩
      have herror : verifyPayload env j.db eventId = .error message := herror
      unfold verifyPayload at herror
      rw [henv.run] at herror
      cases hb : j.db.payloadBlob.find? eventId with
      | none => simp [hb] at herror
      | some b =>
          simp only [hb] at herror
          split at herror <;> cases herror
  | readVerifiedPayload eventId =>
      cases h
      exact readVerifiedPayload_ne_refused hc henv eventId
  | _ => exact id

end CraftRelay
