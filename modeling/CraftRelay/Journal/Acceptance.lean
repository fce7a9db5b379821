import CraftRelay.Lib.CountUp
import CraftRelay.Journal.Step

/-!
# The acceptance tables

What `accept` keeps true of the tables it alone writes. Journal sequences are
`1, …, N` in the order of acceptance; under each formatted stream key the stream
sequences are `1, …, m` and the head is `m`; every envelope has its payload, its
lifecycle row and its fingerprint, and each of them verifies; a producer's
operation sequences increase, which rests on the last event of every producer
being shielded by the fingerprint table.
-/

namespace CraftRelay

/-- The event an `Accepted` answer reports. -/
def JournalEvent.accepted? (ev : JournalEvent) : Option AcceptedEvent :=
  match ev with
  | ⟨_, .accept _, .accepted a⟩ => some a
  | _ => none

/-- The accepted events of a trace, oldest first. -/
def acceptedEvents (tr : List JournalEvent) : List AcceptedEvent :=
  tr.filterMap JournalEvent.accepted?

def StoredEnvelope.formattedStreamKey (v : StoredEnvelope) : String :=
  formatStreamKey v.installationId v.namespace v.logicalStreamType v.streamKey

def StoredEnvelope.formattedProducerKey (v : StoredEnvelope) : String :=
  formatProducerKey v.installationId v.producerId v.producerInstanceId

/-- The envelopes under a formatted stream key, in journal order. -/
def Db.streamEnvelopes (db : Db) (key : String) : List StoredEnvelope :=
  db.storedEnvelope.rows.filter fun v => v.formattedStreamKey = key

/-- The envelopes under a formatted producer key, in journal order. -/
def Db.producerEnvelopes (db : Db) (key : String) : List StoredEnvelope :=
  db.storedEnvelope.rows.filter fun v => v.formattedProducerKey = key

/-- The tables that only `accept` writes are the same. -/
structure Db.SameAcceptance (db db' : Db) : Prop where
  storedEnvelope : db'.storedEnvelope = db.storedEnvelope
  payloadBlob : db'.payloadBlob = db.payloadBlob
  dedupFingerprint : db'.dedupFingerprint = db.dedupFingerprint
  producerSequence : db'.producerSequence = db.producerSequence
  streamHead : db'.streamHead = db.streamHead

variable [Sha256]

/-- Every call either accepted an event or left the acceptance tables alone. -/
theorem DbStep.acceptance {env : CallEnv} {db db' : Db} {c : JournalCall} {r : c.Reply}
    (h : DbStep env db c r db') :
    (∃ req a, (⟨env, c, r⟩ : JournalEvent) = ⟨env, .accept req, .accepted a⟩ ∧
      AcceptedStep env.nowMs db req a db') ∨
    ((⟨env, c, r⟩ : JournalEvent).accepted? = none ∧ db.SameAcceptance db') := by
  cases h with
  | quiet hc =>
      refine .inr ⟨?_, rfl, rfl, rfl, rfl, rfl⟩
      cases c with
      | accept req =>
          cases r with
          | accepted a => exact absurd ⟨a, rfl⟩ hc
          | _ => rfl
      | _ => rfl
  | accepted hacc => exact .inl ⟨_, _, rfl, hacc⟩
  | lifecycle => exact .inr ⟨rfl, rfl, rfl, rfl, rfl, rfl⟩
  | created => exact .inr ⟨rfl, rfl, rfl, rfl, rfl, rfl⟩
  | attempted => exact .inr ⟨rfl, rfl, rfl, rfl, rfl, rfl⟩
  | confirmed => exact .inr ⟨rfl, rfl, rfl, rfl, rfl, rfl⟩
  | blocked => exact .inr ⟨rfl, rfl, rfl, rfl, rfl, rfl⟩
  | retried => exact .inr ⟨rfl, rfl, rfl, rfl, rfl, rfl⟩

/-! ## Sequences -/

/-- Both sequences are gapless and the heads are their last numbers. -/
structure Db.Gapless (db : Db) : Prop where
  journal : db.storedEnvelope.rows.map (·.journalSequence) = countUp db.storedEnvelope.rows.length
  stream : ∀ key, (db.streamEnvelopes key).map (·.streamSequence) =
    countUp (db.streamEnvelopes key).length
  head : ∀ key, db.streamHead.find? key =
    if db.streamEnvelopes key = [] then none else some ⟨key, (db.streamEnvelopes key).length⟩

omit [Sha256] in
theorem Db.gapless_empty : Db.empty.Gapless where
  journal := rfl
  stream := fun _ => rfl
  head := fun _ => rfl

omit [Sha256] in
theorem Db.Gapless.nextJournalSequence {db : Db} (h : db.Gapless) :
    db.nextJournalSequence = db.storedEnvelope.rows.length + 1 := by
  unfold Db.nextJournalSequence
  rw [h.journal, max_countUp]

omit [Sha256] in
theorem Db.Gapless.nextStreamSequence {db : Db} (h : db.Gapless) (key : String) :
    db.nextStreamSequence key = (db.streamEnvelopes key).length + 1 := by
  unfold Db.nextStreamSequence
  rw [h.head key]
  by_cases hnil : db.streamEnvelopes key = []
  · simp [hnil]
  · simp [hnil]

theorem AcceptedStep.streamEnvelopes {now : Int} {db db' : Db} {req : AcceptRequest}
    {a : AcceptedEvent} (h : AcceptedStep now db req a db') (key : String) :
    db'.streamEnvelopes key =
      if req.formattedStreamKey = key then
        db.streamEnvelopes key ++ [req.envelope now db.nextJournalSequence
          (db.nextStreamSequence req.formattedStreamKey)]
      else db.streamEnvelopes key := by
  unfold Db.streamEnvelopes
  rw [h.storedEnvelope, List.filter_append]
  by_cases hkey : req.formattedStreamKey = key
  · have hnew : (req.envelope now db.nextJournalSequence
        (db.nextStreamSequence req.formattedStreamKey)).formattedStreamKey = key := hkey
    rw [if_pos hkey, List.filter_singleton]
    simp [hnew]
  · have hnew : (req.envelope now db.nextJournalSequence
        (db.nextStreamSequence req.formattedStreamKey)).formattedStreamKey ≠ key := hkey
    rw [if_neg hkey, List.filter_singleton]
    simp [hnew]

/-- An accepted event advances the head of its stream and no other. -/
theorem AcceptedStep.nextStreamSequence {now : Int} {db db' : Db} {req : AcceptRequest}
    {a : AcceptedEvent} (h : AcceptedStep now db req a db') (key : String) :
    db'.nextStreamSequence key =
      if req.formattedStreamKey = key then db.nextStreamSequence key + 1
      else db.nextStreamSequence key := by
  unfold Db.nextStreamSequence
  rw [h.streamHead, KeyedTable.find?_upsert]
  by_cases hkey : req.formattedStreamKey = key
  · rw [if_pos hkey, if_pos hkey, hkey]
    rfl
  · rw [if_neg hkey, if_neg hkey]

theorem AcceptedStep.gapless {now : Int} {db db' : Db} {req : AcceptRequest}
    {a : AcceptedEvent} (h : AcceptedStep now db req a db') (hg : db.Gapless) :
    db'.Gapless where
  journal := by
    rw [h.storedEnvelope, List.map_append, hg.journal, List.length_append, List.length_singleton,
      countUp_succ, ← hg.nextJournalSequence]
    rfl
  stream := by
    intro key
    rw [h.streamEnvelopes key]
    by_cases hkey : req.formattedStreamKey = key
    · rw [if_pos hkey, List.map_append, hg.stream key, List.length_append,
        List.length_singleton, countUp_succ, ← hg.nextStreamSequence, ← hkey]
      rfl
    · rw [if_neg hkey, hg.stream key]
  head := by
    intro key
    rw [h.streamHead, KeyedTable.find?_upsert, h.streamEnvelopes key]
    -- the head that was written is the length the stream has now
    by_cases hkey : req.formattedStreamKey = key
    · subst hkey
      simp [hg.nextStreamSequence]
    · rw [if_neg hkey, if_neg hkey, hg.head key]

omit [Sha256] in
theorem Db.SameAcceptance.gapless {db db' : Db} (h : db.SameAcceptance db') (hg : db.Gapless) :
    db'.Gapless := by
  have hstream : ∀ key, db'.streamEnvelopes key = db.streamEnvelopes key := by
    intro key
    unfold Db.streamEnvelopes
    rw [h.storedEnvelope]
  refine ⟨?_, ?_, ?_⟩
  · rw [h.storedEnvelope]
    exact hg.journal
  · intro key
    rw [hstream]
    exact hg.stream key
  · intro key
    rw [hstream, h.streamHead]
    exact hg.head key

theorem DbStep.gapless {env : CallEnv} {db db' : Db} {c : JournalCall} {r : c.Reply}
    (h : DbStep env db c r db') (hg : db.Gapless) : db'.Gapless := by
  rcases h.acceptance with ⟨req, a, -, hacc⟩ | ⟨-, hsame⟩
  · exact hacc.gapless hg
  · exact hsame.gapless hg

theorem Reachable.gapless {j : LocalJournal} (h : Reachable j) : j.db.Gapless :=
  h.invariant Db.gapless_empty fun _ _ _ _ _ hstep hg => hstep.gapless hg

/-! ## One row in each table -/

/-- Envelopes, payloads, lifecycle rows and fingerprints stand in one-to-one
correspondence and verify; a delivery row has its envelope. -/
structure Db.Consistent (db : Db) : Prop where
  envelope : ∀ e v, db.storedEnvelope.find? e = some v → v.Verifies
  dedup : ∀ e, db.dedupFingerprint.find? e =
    (db.storedEnvelope.find? e).map fun v => ⟨e, v.requestFingerprint⟩
  payload : ∀ e, (db.payloadBlob.find? e).map (·.payloadDigest) =
    (db.storedEnvelope.find? e).map (·.payloadDigest)
  payloadVerifies : ∀ e b, db.payloadBlob.find? e = some b → b.Verifies
  lifecycle : ∀ e, (db.lifecycleState.find? e).isSome = (db.storedEnvelope.find? e).isSome
  lifecycleVerifies : ∀ e l, db.lifecycleState.find? e = some l → l.Verifies
  delivery : ∀ e, (db.deliveryState.find? e).isSome → (db.storedEnvelope.find? e).isSome

theorem Db.consistent_empty : Db.empty.Consistent where
  envelope := fun _ _ h => by cases h
  dedup := fun _ => rfl
  payload := fun _ => rfl
  payloadVerifies := fun _ _ h => by cases h
  lifecycle := fun _ => rfl
  lifecycleVerifies := fun _ _ h => by cases h
  delivery := fun _ h => by cases h

/-- The envelope a request is stored as carries its own checksum. -/
theorem AcceptRequest.envelope_verifies (req : AcceptRequest) (now js ss : Int) :
    (req.envelope now js ss).Verifies :=
  ⟨inI32_toInt req.schemaVersion, computeSha256 req.payload, req.requestFingerprint, rfl, rfl, rfl⟩

theorem LifecycleState.advance_verifies {l : LifecycleState} {delivery retention : String}
    {now : Int} (hd : isAllowedDeliveryStatus delivery = true)
    (hr : isAllowedRetentionStatus retention = true) :
    (l.advance delivery retention now).Verifies := ⟨rfl, hd, hr⟩

section Puts

variable {now : Int} {db db' : Db} {req : AcceptRequest} {a : AcceptedEvent}

theorem AcceptedStep.putsEnvelope (h : AcceptedStep now db req a db') :
    db.storedEnvelope.Puts req.eventId (req.envelope now db.nextJournalSequence
      (db.nextStreamSequence req.formattedStreamKey)) db'.storedEnvelope :=
  KeyedTable.find?_append h.storedEnvelope

theorem AcceptedStep.putsPayload (h : AcceptedStep now db req a db') :
    db.payloadBlob.Puts req.eventId
      ⟨req.eventId, req.payload, (computeSha256 req.payload).val⟩ db'.payloadBlob :=
  KeyedTable.find?_append h.payloadBlob

theorem AcceptedStep.putsLifecycle (h : AcceptedStep now db req a db') :
    db.lifecycleState.Puts req.eventId
      ⟨req.eventId, 1, (computeLifecycleChecksum req.eventId 1 "LOCAL_ACCEPTED" "PRESENT").val,
        "LOCAL_ACCEPTED", "PRESENT", now⟩ db'.lifecycleState :=
  KeyedTable.find?_append h.lifecycleState

theorem AcceptedStep.putsDedup (h : AcceptedStep now db req a db') :
    db.dedupFingerprint.Puts req.eventId
      ⟨req.eventId, req.requestFingerprint.val⟩ db'.dedupFingerprint :=
  KeyedTable.find?_append h.dedupFingerprint

theorem AcceptedStep.consistent (h : AcceptedStep now db req a db') (hc : db.Consistent) :
    db'.Consistent := by
  -- the new event's rows verify by construction; every other event keeps its rows
  refine ⟨?_, ?_, ?_, ?_, ?_, ?_, ?_⟩
  · exact h.putsEnvelope.all hc.envelope (req.envelope_verifies _ _ _)
  · intro e
    by_cases he : req.eventId = e
    · subst he
      rw [h.putsEnvelope.self, h.putsDedup.self]
      rfl
    · rw [h.putsEnvelope.other he, h.putsDedup.other he]
      exact hc.dedup e
  · intro e
    by_cases he : req.eventId = e
    · subst he
      rw [h.putsEnvelope.self, h.putsPayload.self]
      rfl
    · rw [h.putsEnvelope.other he, h.putsPayload.other he]
      exact hc.payload e
  · exact h.putsPayload.all hc.payloadVerifies rfl
  · intro e
    by_cases he : req.eventId = e
    · subst he
      rw [h.putsEnvelope.self, h.putsLifecycle.self]
      rfl
    · rw [h.putsEnvelope.other he, h.putsLifecycle.other he]
      exact hc.lifecycle e
  · exact h.putsLifecycle.all hc.lifecycleVerifies ⟨rfl, rfl, rfl⟩
  · intro e hd
    rw [h.deliveryState] at hd
    by_cases he : req.eventId = e
    · subst he
      rw [h.putsEnvelope.self]
      rfl
    · rw [h.putsEnvelope.other he]
      exact hc.delivery e hd

/-- The rows of an accepted event in the six acceptance tables, as its answer
reports them. -/
structure Db.HoldsAccepted (db : Db) (now : Int) (req : AcceptRequest) (a : AcceptedEvent)
    (v : StoredEnvelope) (b : PayloadBlob) (l : LifecycleState) : Prop where
  storedEnvelope : db.storedEnvelope.find? req.eventId = some v
  columns : v = req.envelope now a.journalSequence a.streamSequence
  envelopeVerifies : v.Verifies
  envelopeChecksum : v.envelopeChecksum = a.envelopeChecksum.val
  payloadBlob : db.payloadBlob.find? req.eventId = some b
  payload : b.payload = req.payload
  payloadDigest : b.payloadDigest = (computeSha256 b.payload).val ∧
    v.payloadDigest = b.payloadDigest
  lifecycleState : db.lifecycleState.find? req.eventId = some l
  lifecycleVerifies : l.Verifies
  lifecycleStatus : l.revision = 1 ∧ l.deliveryStatus = "LOCAL_ACCEPTED" ∧
    l.retentionStatus = "PRESENT"
  dedupFingerprint : db.dedupFingerprint.find? req.eventId =
    some ⟨req.eventId, v.requestFingerprint⟩
  producerSequence : db.producerSequence.find? v.formattedProducerKey =
    some ⟨v.formattedProducerKey, v.producerOpSeq, v.eventId⟩
  streamHead : db.streamHead.find? v.formattedStreamKey =
    some ⟨v.formattedStreamKey, v.streamSequence⟩

theorem AcceptedStep.holds (h : AcceptedStep now db req a db') :
    ∃ v b l, db'.HoldsAccepted now req a v b l := by
  refine ⟨_, _, _, h.putsEnvelope.self, ?_, req.envelope_verifies _ _ _, ?_,
    h.putsPayload.self, rfl, ⟨rfl, rfl⟩, h.putsLifecycle.self, ⟨rfl, rfl, rfl⟩,
    ⟨rfl, rfl, rfl⟩, h.putsDedup.self, ?_, ?_⟩
  · rw [h.event]
  · rw [h.event]
    rfl
  · rw [h.producerSequence, KeyedTable.find?_upsert]
    exact if_pos rfl
  · rw [h.streamHead, KeyedTable.find?_upsert]
    exact if_pos rfl

end Puts

/-- A verified lifecycle row put in place of the one an event has. -/
theorem Db.Consistent.putLifecycle {db : Db} {e : String} {l l' : LifecycleState}
    {t : KeyedTable LifecycleState.eventId} (hc : db.Consistent)
    (hl : db.lifecycleState.find? e = some l) (ht : db.lifecycleState.Puts e l' t)
    (hver : l'.Verifies) : { db with lifecycleState := t }.Consistent := by
  refine ⟨hc.envelope, hc.dedup, hc.payload, hc.payloadVerifies, ?_, ?_, hc.delivery⟩
  · intro e'
    by_cases he : e = e'
    · subst he
      show (t.find? e).isSome = _
      rw [ht.self, ← hc.lifecycle e, hl]
      rfl
    · show (t.find? e').isSome = _
      rw [ht.other he]
      exact hc.lifecycle e'
  · exact ht.all hc.lifecycleVerifies hver

/-- A delivery row for an event that has an envelope. -/
theorem Db.Consistent.putDelivery {db : Db} {e : String} {d : DeliveryState}
    {t : KeyedTable DeliveryState.eventId} (hc : db.Consistent)
    (he : (db.storedEnvelope.find? e).isSome) (ht : db.deliveryState.Puts e d t)
    (log : AutoLog DeliveryAttemptRecord) :
    { db with deliveryState := t, deliveryAttempt := log }.Consistent := by
  refine ⟨hc.envelope, hc.dedup, hc.payload, hc.payloadVerifies, hc.lifecycle,
    hc.lifecycleVerifies, ?_⟩
  intro e' hd
  by_cases hee : e = e'
  · subst hee
    exact he
  · have hd' : (t.find? e').isSome := hd
    rw [ht.other hee] at hd'
    exact hc.delivery e' hd'

theorem Db.Consistent.envelope_of_delivery {db : Db} (hc : db.Consistent) {e : String}
    {s : DeliveryStateRecord} (hs : db.HasDelivery e s) : (db.storedEnvelope.find? e).isSome :=
  hc.delivery e (by rw [hs.row]; rfl)

theorem DbStep.consistent {env : CallEnv} {db db' : Db} {c : JournalCall} {r : c.Reply}
    (h : DbStep env db c r db') (hc : db.Consistent) : db'.Consistent := by
  cases h with
  | quiet _ => exact ⟨hc.1, hc.2, hc.3, hc.4, hc.5, hc.6, hc.7⟩
  | accepted hacc => exact hacc.consistent hc
  | lifecycle hst hrev ht =>
      rename_i delivery retention v l t
      refine hc.putLifecycle hst.lifecycle ht (LifecycleState.advance_verifies ?_ ?_)
      · cases delivery <;> decide
      · cases retention
        decide
  | created hv hnew ht => exact hc.putDelivery (by rw [hv]; rfl) ht _
  | attempted hs ht => exact hc.putDelivery (hc.envelope_of_delivery hs) ht _
  | confirmed hs hst hstatus hrev hk ht ht' =>
      have hc' := hc.putDelivery (hc.envelope_of_delivery hs) ht db.deliveryAttempt
      exact hc'.putLifecycle hst.lifecycle ht'
        (LifecycleState.advance_verifies (by decide) hst.lifecycleVerifies.retention)
  | blocked hs hst hstatus hrev ht ht' =>
      have hc' := hc.putDelivery (hc.envelope_of_delivery hs) ht db.deliveryAttempt
      exact hc'.putLifecycle hst.lifecycle ht'
        (LifecycleState.advance_verifies (by decide) hst.lifecycleVerifies.retention)
  | retried hs hstatus hrev ht => exact hc.putDelivery (hc.envelope_of_delivery hs) ht _

theorem Reachable.consistent {j : LocalJournal} (h : Reachable j) : j.db.Consistent :=
  h.invariant Db.consistent_empty fun _ _ _ _ _ hstep hc => hstep.consistent hc

/-! ## Producer sequences -/

/-- Operation sequences increase under every producer key, and the stored
highest one is the last of them. -/
structure Db.ProducersIncrease (db : Db) : Prop where
  increasing : ∀ key, ((db.producerEnvelopes key).map (·.producerOpSeq)).Pairwise (· < ·)
  last : ∀ key, db.producerSequence.find? key =
    (db.producerEnvelopes key).getLast?.map fun v => ⟨key, v.producerOpSeq, v.eventId⟩

omit [Sha256] in
theorem Db.producersIncrease_empty : Db.empty.ProducersIncrease where
  increasing := fun _ => List.Pairwise.nil
  last := fun _ => rfl

theorem AcceptedStep.producerEnvelopes {now : Int} {db db' : Db} {req : AcceptRequest}
    {a : AcceptedEvent} (h : AcceptedStep now db req a db') (key : String) :
    db'.producerEnvelopes key =
      if req.formattedProducerKey = key then
        db.producerEnvelopes key ++ [req.envelope now db.nextJournalSequence
          (db.nextStreamSequence req.formattedStreamKey)]
      else db.producerEnvelopes key := by
  unfold Db.producerEnvelopes
  rw [h.storedEnvelope, List.filter_append]
  by_cases hkey : req.formattedProducerKey = key
  · have hnew : (req.envelope now db.nextJournalSequence
        (db.nextStreamSequence req.formattedStreamKey)).formattedProducerKey = key := hkey
    rw [if_pos hkey, List.filter_singleton]
    simp [hnew]
  · have hnew : (req.envelope now db.nextJournalSequence
        (db.nextStreamSequence req.formattedStreamKey)).formattedProducerKey ≠ key := hkey
    rw [if_neg hkey, List.filter_singleton]
    simp [hnew]

/-- The exemption for a repeated last event never applies to a new event: the
last event of a producer has an envelope, hence a fingerprint. -/
theorem AcceptedStep.above_highest {now : Int} {db db' : Db} {req : AcceptRequest}
    {a : AcceptedEvent} (h : AcceptedStep now db req a db') (hc : db.Consistent)
    (hp : db.ProducersIncrease) {row : ProducerSequence}
    (hrow : db.producerSequence.find? req.formattedProducerKey = some row) :
    row.highestSeq < req.producerOperationSequence := by
  rcases h.producer row hrow with hlt | hlast
  · exact hlt
  · -- the exempted event would be stored, but the fingerprint table said it is new
    rw [hp.last, Option.map_eq_some_iff] at hrow
    obtain ⟨v, hv, rfl⟩ := hrow
    have hmem : v ∈ db.storedEnvelope.rows :=
      List.mem_of_mem_filter (List.mem_of_getLast? hv)
    have hfind := KeyedTable.find?_of_mem hmem
    have hdedup := hc.dedup v.eventId
    have hlast : v.eventId = req.eventId := hlast
    rw [hfind, hlast, h.dedup] at hdedup
    cases hdedup

theorem AcceptedStep.producersIncrease {now : Int} {db db' : Db} {req : AcceptRequest}
    {a : AcceptedEvent} (h : AcceptedStep now db req a db') (hc : db.Consistent)
    (hp : db.ProducersIncrease) : db'.ProducersIncrease where
  increasing := by
    intro key
    rw [h.producerEnvelopes key]
    by_cases hkey : req.formattedProducerKey = key
    · subst hkey
      rw [if_pos rfl, List.map_append, List.pairwise_append]
      refine ⟨hp.increasing _, List.pairwise_singleton _ _, ?_⟩
      intro n hn m hm
      rw [List.map_singleton, List.mem_singleton] at hm
      subst hm
      -- `n` is at most the last sequence of the producer, which the request exceeds
      obtain ⟨v, hv, rfl⟩ := List.mem_map.mp hn
      cases hlast : (db.producerEnvelopes req.formattedProducerKey).getLast? with
      | none =>
          rw [List.getLast?_eq_none_iff] at hlast
          rw [hlast] at hv
          cases hv
      | some w =>
          have habove := h.above_highest hc hp (by rw [hp.last, hlast]; rfl)
          have hle : v.producerOpSeq ≤ w.producerOpSeq := by
            obtain ⟨ys, hys⟩ := List.getLast?_eq_some_iff.mp hlast
            have hsorted := hp.increasing req.formattedProducerKey
            rw [hys, List.map_append, List.pairwise_append] at hsorted
            rw [hys] at hv
            rcases List.mem_append.mp hv with hv | hv
            · exact le_of_lt (hsorted.2.2 _ (List.mem_map_of_mem hv) _ (by simp))
            · rw [List.mem_singleton.mp hv]
          exact lt_of_le_of_lt hle habove
    · rw [if_neg hkey]
      exact hp.increasing key
  last := by
    intro key
    rw [h.producerSequence, KeyedTable.find?_upsert, h.producerEnvelopes key]
    by_cases hkey : req.formattedProducerKey = key
    · subst hkey
      rw [if_pos rfl, if_pos rfl, List.getLast?_concat]
      rfl
    · rw [if_neg hkey, if_neg hkey]
      exact hp.last key

omit [Sha256] in
theorem Db.SameAcceptance.producersIncrease {db db' : Db} (h : db.SameAcceptance db')
    (hp : db.ProducersIncrease) : db'.ProducersIncrease := by
  have henv : ∀ key, db'.producerEnvelopes key = db.producerEnvelopes key := by
    intro key
    unfold Db.producerEnvelopes
    rw [h.storedEnvelope]
  refine ⟨fun key => ?_, fun key => ?_⟩
  · rw [henv]
    exact hp.increasing key
  · rw [henv, h.producerSequence]
    exact hp.last key

theorem DbStep.producersIncrease {env : CallEnv} {db db' : Db} {c : JournalCall} {r : c.Reply}
    (h : DbStep env db c r db') (hc : db.Consistent) (hp : db.ProducersIncrease) :
    db'.ProducersIncrease := by
  rcases h.acceptance with ⟨req, a, -, hacc⟩ | ⟨-, hsame⟩
  · exact hacc.producersIncrease hc hp
  · exact hsame.producersIncrease hp

theorem Reachable.producersIncrease {j : LocalJournal} (h : Reachable j) :
    j.db.ProducersIncrease :=
  (h.invariant (P := fun db => db.Consistent ∧ db.ProducersIncrease)
    ⟨Db.consistent_empty, Db.producersIncrease_empty⟩
    fun _ _ _ _ _ hstep hi => ⟨hstep.consistent hi.1, hstep.producersIncrease hi.1 hi.2⟩).2

/-! ## The history of acceptances -/

/-- What an `Accepted` answer reports about the stored envelope. -/
def AcceptedEvent.report (a : AcceptedEvent) : String × Int × Int × Bytes :=
  (a.eventId, a.journalSequence, a.streamSequence, a.envelopeChecksum.val)

/-- The same columns of the envelope. -/
def StoredEnvelope.report (v : StoredEnvelope) : String × Int × Int × Bytes :=
  (v.eventId, v.journalSequence, v.streamSequence, v.envelopeChecksum)

omit [Sha256] in
theorem acceptedEvents_snoc (tr : List JournalEvent) (ev : JournalEvent) :
    acceptedEvents (tr ++ [ev]) = acceptedEvents tr ++ ev.accepted?.toList :=
  Lts.filterMap_snoc _ _ _

/-- The envelopes are the accepted events, in the order of their answers. -/
theorem journalRun_records {config : JournalConfig} {tr : List JournalEvent} {j : LocalJournal}
    (hrun : journalLts.Run (LocalJournal.open config) tr j) :
    j.db.storedEnvelope.rows.map StoredEnvelope.report =
      (acceptedEvents tr).map AcceptedEvent.report := by
  induction hrun with
  | nil => rfl
  | snoc hrun hst ih =>
      rename_i tr t ev u
      rw [acceptedEvents_snoc, List.map_append, ← ih]
      rcases (journalStep_cases hst).acceptance with ⟨req, a, hev, hacc⟩ | ⟨hev, hsame⟩
      · have hev : ev = ⟨ev.env, .accept req, .accepted a⟩ := hev
        rw [hev, hacc.storedEnvelope, List.map_append, hacc.event]
        rfl
      · have hev : ev.accepted? = none := hev
        rw [hev, hsame.storedEnvelope]
        simp

/-- An envelope is never rewritten or removed. -/
theorem DbStep.keepsEnvelope {env : CallEnv} {db db' : Db} {c : JournalCall} {r : c.Reply}
    (h : DbStep env db c r db') {e : String} {v : StoredEnvelope}
    (hv : db.storedEnvelope.find? e = some v) : db'.storedEnvelope.find? e = some v := by
  rcases h.acceptance with ⟨req, a, -, hacc⟩ | ⟨-, hsame⟩
  · have hmem : v ∈ db'.storedEnvelope.rows := by
      rw [hacc.storedEnvelope]
      exact List.mem_append_left _ (KeyedTable.mem_of_find? hv)
    rw [← KeyedTable.key_of_find? hv]
    exact KeyedTable.find?_of_mem hmem
  · rw [hsame.storedEnvelope]
    exact hv

theorem journalRun_keepsEnvelope {j j' : LocalJournal} {tr : List JournalEvent}
    (hrun : journalLts.Run j tr j') {e : String} {v : StoredEnvelope}
    (hv : j.db.storedEnvelope.find? e = some v) : j'.db.storedEnvelope.find? e = some v := by
  refine hrun.invariant (P := fun j => j.db.storedEnvelope.find? e = some v)
    (Q := fun _ => True) (fun _ _ => trivial) hv ?_
  intro t ev u _ hv hst
  exact (journalStep_cases hst).keepsEnvelope hv

/-- An accepted request is stored as its answer reports it, with its
fingerprint. -/
theorem journalRun_accepted {config : JournalConfig} {tr : List JournalEvent} {j : LocalJournal}
    (hrun : journalLts.Run (LocalJournal.open config) tr j) {env : CallEnv}
    {req : AcceptRequest} {a : AcceptedEvent}
    (hmem : (⟨env, .accept req, .accepted a⟩ : JournalEvent) ∈ tr) :
    ∃ v, j.db.storedEnvelope.find? req.eventId = some v ∧ v.report = a.report ∧
      v.requestFingerprint = req.requestFingerprint.val := by
  induction hrun with
  | nil => cases hmem
  | snoc hrun hst ih =>
      rename_i tr t ev u
      have hstep := journalStep_cases hst
      rcases List.mem_append.mp hmem with hmem | hmem
      · obtain ⟨v, hv, hrest⟩ := ih hmem
        exact ⟨v, hstep.keepsEnvelope hv, hrest⟩
      · -- the newest call is the acceptance itself
        rw [List.mem_singleton] at hmem
        subst hmem
        rcases hstep.acceptance with ⟨req', a', hev, hacc⟩ | ⟨hev, -⟩
        · cases hev
          refine ⟨_, hacc.putsEnvelope.self, ?_, rfl⟩
          rw [hacc.event]
          rfl
        · cases hev

end CraftRelay
