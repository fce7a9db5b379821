import CraftRelay.Journal.Acceptance

/-!
# Delivery rows and the lifecycle

Each transition computes a checksum from its in-memory copy and writes columns
with a separate statement. Here the two are compared: the row a transition
leaves is the sealed record, and it has the shape of its new status whenever the
arguments allow it (`WellFormed`). The second half compares the two places where
replication is recorded.
-/

namespace CraftRelay

/-! ## Shapes -/

section Records

variable {s : DeliveryStateRecord}

/-- The columns the shape rules look at. -/
def DeliveryStateRecord.shapeColumns (s : DeliveryStateRecord) :=
  (s.deliveryStatus, s.nextRetryAtMs, s.blockedReason, s.kafkaTopic, s.kafkaPartition,
    s.kafkaOffset, s.routingFingerprint, s.profileId, s.profileVersion, s.confirmedAtMs)

theorem DeliveryStateRecord.Shaped.congr {s' : DeliveryStateRecord} (h : s.Shaped)
    (hcols : s'.shapeColumns = s.shapeColumns) : s'.Shaped := by
  simp only [DeliveryStateRecord.shapeColumns, Prod.mk.injEq] at hcols
  obtain ⟨h1, h2, h3, h4, h5, h6, h7, h8, h9, h10⟩ := hcols
  have hrouted : s.Routed → s'.Routed := fun r =>
    ⟨by rw [h4]; exact r.topic, by rw [h7]; exact r.fingerprint, by rw [h8]; exact r.profileId,
      by rw [h9]; exact r.profileVersion⟩
  have hunconfirmed : s.Unconfirmed → s'.Unconfirmed := fun u =>
    ⟨by rw [h5]; exact u.partition, by rw [h6]; exact u.offset, by rw [h10]; exact u.confirmedAt⟩
  unfold DeliveryStateRecord.Shaped at h ⊢
  rw [h1, h2, h3, h5, h6, h10]
  obtain ⟨hr, hp, ht, hb⟩ := h
  refine ⟨fun hs => ⟨hrouted (hr hs).1, (hr hs).2⟩, fun hs => ?_, fun hs => ?_, fun hs => ?_⟩
  · exact ⟨hrouted (hp hs).1, (hp hs).2.1, (hp hs).2.2.1, hunconfirmed (hp hs).2.2.2⟩
  · exact ⟨hrouted (ht hs).1, (ht hs).2.1, (ht hs).2.2.1, hunconfirmed (ht hs).2.2.2⟩
  · exact ⟨(hb hs).1, (hb hs).2.1, hunconfirmed (hb hs).2.2⟩

/-- The columns before a confirmation: every status but `REPLICATED` forbids
broker coordinates. -/
theorem DeliveryStateRecord.Shaped.unconfirmed (h : s.Shaped)
    (hmem : s.deliveryStatus ∈ deliveryStateStatuses) (hne : s.deliveryStatus ≠ "REPLICATED") :
    s.Unconfirmed := by
  rcases mem_deliveryStateStatuses.mp hmem with hs | hs | hs | hs
  · exact (h.2.1 hs).2.2.2
  · exact (h.2.2.1 hs).2.2.2
  · exact absurd hs hne
  · exact (h.2.2.2 hs).2.2

/-- Rows that are neither replicated nor blocked carry no reason. -/
theorem DeliveryStateRecord.Shaped.noReason (h : s.Shaped)
    (hmem : s.deliveryStatus ∈ deliveryStateStatuses) (hne : s.deliveryStatus ≠ "REPLICATED")
    (hblocked : s.deliveryStatus ≠ "DELIVERY_BLOCKED") : s.blockedReason = none := by
  rcases mem_deliveryStateStatuses.mp hmem with hs | hs | hs | hs
  · exact (h.2.1 hs).2.2.1
  · exact (h.2.2.1 hs).2.2.1
  · exact absurd hs hne
  · exact absurd hs hblocked

end Records

variable [Sha256] {s : DeliveryStateRecord}

/-- A sealed record verifies when its count fits and it has the shape of its
status. -/
theorem DeliveryStateRecord.sealed_verifies (hcount : InI32 s.attemptCount)
    (hmem : s.deliveryStatus ∈ deliveryStateStatuses) (hshape : s.Shaped) :
    s.sealed.Verifies := ⟨hcount, hmem, rfl, hshape.congr rfl⟩

/-- A record that verifies and has topic, fingerprint and profile. -/
structure DeliveryStateRecord.Healthy (s : DeliveryStateRecord) : Prop where
  verifies : s.Verifies
  routed : s.Routed

/-- The row of `create_delivery_pending`. -/
theorem pending_healthy {now : Int} {eventId : String} {fingerprint : Checksum}
    {profileId : String} {profileVersion : Int} {topic : String} (htopic : topic ≠ "")
    (hprofile : profileId ≠ "") (hversion : 0 < profileVersion) :
    (pendingRecord now eventId fingerprint profileId profileVersion topic).sealed.Healthy := by
  have hrouted : (pendingRecord now eventId fingerprint profileId profileVersion topic).Routed :=
    ⟨⟨_, rfl, htopic⟩, rfl, ⟨_, rfl, hprofile⟩, ⟨_, rfl, hversion⟩⟩
  refine ⟨DeliveryStateRecord.sealed_verifies (by show InI32 0; decide)
    (by show "DELIVERY_PENDING" ∈ _; decide) ?_, hrouted.1, hrouted.2, hrouted.3, hrouted.4⟩
  refine ⟨fun h => absurd h ?_, fun _ => ⟨hrouted, rfl, rfl, rfl, rfl, rfl⟩,
    fun h => absurd h ?_, fun h => absurd h ?_⟩
  · show "DELIVERY_PENDING" ≠ "REPLICATED"
    decide
  · show "DELIVERY_PENDING" ≠ "DELIVERY_RETRYING"
    decide
  · show "DELIVERY_PENDING" ≠ "DELIVERY_BLOCKED"
    decide

/-- The row of `record_delivery_attempt`, while the count fits. -/
theorem attempted_healthy (h : s.Healthy) (errorCode : Option String) (now : Int)
    (hcount : InI32 (s.attemptCount + 1)) :
    ∃ s' : DeliveryStateRecord, s.toRow.setAttempted errorCode
        (computeDeliveryChecksum (s.attempted errorCode now)) now = s'.toRow ∧ s'.Healthy := by
  -- memory wraps and SQLite does not: the two counts agree while they fit
  have hwrap : i32Wrap (s.attemptCount + 1) = s.attemptCount + 1 := i32Wrap_of_inI32 hcount
  refine ⟨(s.attempted errorCode now).sealed, ?_,
    DeliveryStateRecord.sealed_verifies ?_ h.verifies.status (h.verifies.shape.congr rfl),
    h.routed.1, h.routed.2, h.routed.3, h.routed.4⟩
  · simp only [DeliveryState.setAttempted, DeliveryStateRecord.toRow,
      DeliveryStateRecord.sealed, DeliveryStateRecord.attempted, hwrap]
  · show InI32 (i32Wrap (s.attemptCount + 1))
    rw [hwrap]
    exact hcount

/-- The row of `confirm_replicated_delivery`. -/
theorem replicated_healthy (h : s.Healthy) {k : ReplicatedDeliveryConfirmation}
    (hk : k.Matches s) (hpartition : 0 ≤ k.kafkaPartition) (hoffset : 0 ≤ k.kafkaOffset)
    (rev now : Int) : (s.replicated k rev now).sealed.Healthy := by
  -- the topic written is the topic the row had, since the confirmation matches
  have hrouted : ∀ s' : DeliveryStateRecord, s'.kafkaTopic = some k.kafkaTopic →
      s'.routingFingerprint = s.routingFingerprint → s'.profileId = s.profileId →
      s'.profileVersion = s.profileVersion → s'.Routed := by
    intro s' h1 h2 h3 h4
    exact ⟨by rw [h1, ← hk.kafkaTopic]; exact h.routed.topic, by rw [h2]; exact h.routed.fingerprint,
      by rw [h3]; exact h.routed.profileId, by rw [h4]; exact h.routed.profileVersion⟩
  refine ⟨DeliveryStateRecord.sealed_verifies h.verifies.count
    (by show "REPLICATED" ∈ _; decide) ?_, hrouted _ rfl rfl rfl rfl⟩
  refine ⟨fun _ => ⟨hrouted _ rfl rfl rfl rfl, ⟨_, rfl, hpartition⟩, ⟨_, rfl, hoffset⟩, rfl, rfl,
    rfl⟩, fun h => absurd h ?_, fun h => absurd h ?_, fun h => absurd h ?_⟩
  · show "REPLICATED" ≠ "DELIVERY_PENDING"
    decide
  · show "REPLICATED" ≠ "DELIVERY_RETRYING"
    decide
  · show "REPLICATED" ≠ "DELIVERY_BLOCKED"
    decide

/-- The row of `block_delivery`. -/
theorem blocked_healthy (h : s.Healthy) (hne : s.deliveryStatus ≠ "REPLICATED")
    {reason : String} (hreason : reason ≠ "") (rev now : Int) :
    (s.blocked reason rev now).sealed.Healthy := by
  have hunconfirmed := h.verifies.shape.unconfirmed h.verifies.status hne
  refine ⟨DeliveryStateRecord.sealed_verifies h.verifies.count
    (by show "DELIVERY_BLOCKED" ∈ _; decide) ?_, h.routed.1, h.routed.2, h.routed.3, h.routed.4⟩
  refine ⟨fun h => absurd h ?_, fun h => absurd h ?_, fun h => absurd h ?_,
    fun _ => ⟨⟨_, rfl, hreason⟩, rfl, hunconfirmed.1, hunconfirmed.2, hunconfirmed.3⟩⟩
  · show "DELIVERY_BLOCKED" ≠ "REPLICATED"
    decide
  · show "DELIVERY_BLOCKED" ≠ "DELIVERY_PENDING"
    decide
  · show "DELIVERY_BLOCKED" ≠ "DELIVERY_RETRYING"
    decide

/-- The row of `update_delivery_retry`, for a row that was not blocked: the
reason of a blocked row would stay. -/
theorem retrying_healthy (h : s.Healthy) (hne : s.deliveryStatus ≠ "REPLICATED")
    (hblocked : s.deliveryStatus ≠ "DELIVERY_BLOCKED") (next rev now : Int) :
    (s.retrying next rev now).sealed.Healthy := by
  -- only a replicated row is confirmed, and only a blocked one has a reason
  have hunconfirmed := h.verifies.shape.unconfirmed h.verifies.status hne
  have hreason := h.verifies.shape.noReason h.verifies.status hne hblocked
  have hrouted : (s.retrying next rev now).Routed :=
    ⟨h.routed.1, h.routed.2, h.routed.3, h.routed.4⟩
  refine ⟨DeliveryStateRecord.sealed_verifies h.verifies.count
    (by show "DELIVERY_RETRYING" ∈ _; decide) ?_, h.routed.1, h.routed.2, h.routed.3, h.routed.4⟩
  refine ⟨fun h => absurd h ?_, fun h => absurd h ?_,
    fun _ => ⟨hrouted, rfl, hreason, hunconfirmed.1, hunconfirmed.2, hunconfirmed.3⟩,
    fun h => absurd h ?_⟩
  · show "DELIVERY_RETRYING" ≠ "REPLICATED"
    decide
  · show "DELIVERY_RETRYING" ≠ "DELIVERY_PENDING"
    decide
  · show "DELIVERY_RETRYING" ≠ "DELIVERY_BLOCKED"
    decide

/-! ## Healthy tables -/

/-- The arguments the callers are meant to pass, on the database of the call. -/
def JournalCall.WellFormed (db : Db) : JournalCall → Prop
  | .createDeliveryPending _ _ profileId profileVersion topic =>
      topic ≠ "" ∧ profileId ≠ "" ∧ 0 < profileVersion
  | .confirmReplicatedDelivery _ _ k => 0 ≤ k.kafkaPartition ∧ 0 ≤ k.kafkaOffset
  | .blockDelivery _ _ reason => reason ≠ ""
  | .updateDeliveryRetry eventId _ _ => ∀ d, db.deliveryState.find? eventId = some d →
      d.deliveryStatus ≠ "DELIVERY_BLOCKED"
  | _ => True

/-- Every attempt count is below `2 ^ 31`. -/
def Db.CountsFit (db : Db) : Prop := ∀ d ∈ db.deliveryState.rows, d.attemptCount < 2 ^ 31

/-- The journal under well-formed calls, while the attempt counts fit. -/
def carefulLts : Lts LocalJournal JournalEvent where
  step j ev j' := journalLts.step j ev j' ∧ ev.call.WellFormed j.db ∧ j'.db.CountsFit

/-- Every delivery row is the row of a healthy record. -/
def Db.Healthy (db : Db) : Prop :=
  ∀ e d, db.deliveryState.find? e = some d → ∃ s : DeliveryStateRecord, d = s.toRow ∧ s.Healthy

omit [Sha256] in
/-- A row determines its record. -/
theorem DeliveryStateRecord.toRow_injective {s s' : DeliveryStateRecord}
    (h : s.toRow = s'.toRow) : s = s' := by
  obtain ⟨⟩ := s
  obtain ⟨⟩ := s'
  simp only [DeliveryStateRecord.toRow, DeliveryState.mk.injEq] at h
  obtain ⟨h1, h2, h3, h4, h5, h6, h7, h8, h9, h10, h11, h12, h13, h14, h15, h16, h17⟩ := h
  have hfp := Option.map_injective Subtype.val_injective h10
  have hcs := Subtype.ext h14
  subst h1 h2 h3 h4 h5 h6 h7 h8 h9 hfp h11 h12 h13 hcs h15 h16 h17
  rfl

/-- The row a transition loaded is healthy. -/
theorem Db.Healthy.record {db : Db} (h : db.Healthy) {e : String} {s : DeliveryStateRecord}
    (hs : db.HasDelivery e s) : s.Healthy := by
  obtain ⟨s', heq, hhealthy⟩ := h e _ hs.row
  rw [DeliveryStateRecord.toRow_injective heq]
  exact hhealthy

theorem Db.Healthy.puts {db : Db} (h : db.Healthy) {e : String} {d : DeliveryState}
    {t : KeyedTable DeliveryState.eventId} (ht : db.deliveryState.Puts e d t)
    (hd : ∃ s : DeliveryStateRecord, d = s.toRow ∧ s.Healthy) :
    ∀ e' d', t.find? e' = some d' → ∃ s : DeliveryStateRecord, d' = s.toRow ∧ s.Healthy :=
  ht.all h hd

/-- A well-formed call keeps the delivery table healthy. -/
theorem DbStep.healthy {env : CallEnv} {db db' : Db} {c : JournalCall} {r : c.Reply}
    (h : DbStep env db c r db') (hwf : c.WellFormed db) (hfit : db'.CountsFit)
    (hh : db.Healthy) : db'.Healthy := by
  cases h with
  | quiet _ => exact hh
  | accepted hacc =>
      unfold Db.Healthy
      rw [hacc.deliveryState]
      exact hh
  | lifecycle => exact hh
  | created hv hnew ht =>
      obtain ⟨htopic, hprofile, hversion⟩ := hwf
      exact hh.puts ht ⟨_, rfl, pending_healthy htopic hprofile hversion⟩
  | attempted hs ht =>
      -- the bound on the counts of the new table is the bound on the incremented count
      have hrow := KeyedTable.mem_of_find? ht.self
      have hlt : _ < _ := hfit _ hrow
      have hle := (hh.record hs).verifies.count.1
      simp only [DeliveryState.setAttempted, DeliveryStateRecord.toRow] at hlt
      exact hh.puts ht (attempted_healthy (hh.record hs) _ _ ⟨by omega, by omega⟩)
  | confirmed hs hst hstatus hrev hk ht ht' =>
      exact hh.puts ht ⟨_, rfl, replicated_healthy (hh.record hs) hk hwf.1 hwf.2 _ _⟩
  | blocked hs hst hstatus hrev ht ht' =>
      exact hh.puts ht ⟨_, rfl, blocked_healthy (hh.record hs) hstatus hwf _ _⟩
  | retried hs hstatus hrev ht =>
      have hblocked := hwf _ hs.row
      exact hh.puts ht ⟨_, rfl, retrying_healthy (hh.record hs) hstatus hblocked _ _ _⟩

theorem carefulRun_healthy {config : JournalConfig} {tr : List JournalEvent} {j : LocalJournal}
    (hrun : carefulLts.Run (LocalJournal.open config) tr j) : j.db.Healthy := by
  refine hrun.invariant (P := fun j => j.db.Healthy) (Q := fun _ => True)
    (fun _ _ => trivial) (fun e d h => by cases h) ?_
  intro t ev u _ hh hst
  exact (journalStep_cases hst.1).healthy hst.2.1 hst.2.2 hh

/-- A careful run is a run. -/
theorem carefulRun_run {j j' : LocalJournal} {tr : List JournalEvent}
    (hrun : carefulLts.Run j tr j') : journalLts.Run j tr j' :=
  hrun.mono (Q := fun _ => True) (fun _ _ => trivial) fun _ _ _ _ hst => hst.1

theorem carefulRun_reachable {config : JournalConfig} {tr : List JournalEvent} {j : LocalJournal}
    (hrun : carefulLts.Run (LocalJournal.open config) tr j) : Reachable j :=
  ⟨config, tr, carefulRun_run hrun⟩

/-! ## Replication in two tables -/

/-- Lifecycle and delivery row agree on which events are replicated. -/
def Db.Agrees (db : Db) : Prop :=
  ∀ e, (∃ l, db.lifecycleState.find? e = some l ∧ l.deliveryStatus = "REPLICATED") ↔
    ∃ d, db.deliveryState.find? e = some d ∧ d.deliveryStatus = "REPLICATED"

/-- A lifecycle call on the current revision of an event whose lifecycle is
`REPLICATED`, with no statement failing. -/
def JournalEvent.Demotes (ev : JournalEvent) (db : Db) : Prop :=
  match ev.call with
  | .updateLifecycle eventId rev _ _ =>
      (∃ l, db.lifecycleState.find? eventId = some l ∧ l.revision = rev ∧
        l.deliveryStatus = "REPLICATED") ∧
      ev.env.fault .selectStatus = none ∧ ev.env.fault .selectEnvelopeRow = none ∧
      ev.env.fault .updateLifecycleState = none
  | _ => False

omit [Sha256] in
theorem Db.agrees_empty : Db.empty.Agrees := by
  intro e
  constructor
  · rintro ⟨l, hl, -⟩
    cases hl
  · rintro ⟨d, hd, -⟩
    cases hd

omit [Sha256] in
/-- Both rows of `e` were put, with statuses that agree. -/
theorem Db.Agrees.putBoth {db : Db} (ha : db.Agrees) {e : String} {d : DeliveryState}
    {l : LifecycleState} {t : KeyedTable DeliveryState.eventId}
    {t' : KeyedTable LifecycleState.eventId} (ht : db.deliveryState.Puts e d t)
    (ht' : db.lifecycleState.Puts e l t')
    (heq : l.deliveryStatus = "REPLICATED" ↔ d.deliveryStatus = "REPLICATED") :
    { db with deliveryState := t, lifecycleState := t' }.Agrees := by
  intro e'
  rw [ht.exists_iff, ht'.exists_iff]
  by_cases he : e = e'
  · rw [if_pos he, if_pos he]
    exact heq
  · rw [if_neg he, if_neg he]
    exact ha e'

omit [Sha256] in
/-- A delivery row was put that is not replicated, over none or over one that
was not replicated either. -/
theorem Db.Agrees.putDelivery {db : Db} (ha : db.Agrees) {e : String} {d : DeliveryState}
    {t : KeyedTable DeliveryState.eventId} (ht : db.deliveryState.Puts e d t)
    (heq : d.deliveryStatus = "REPLICATED" ↔
      ∃ d', db.deliveryState.find? e = some d' ∧ d'.deliveryStatus = "REPLICATED")
    (log : AutoLog DeliveryAttemptRecord) :
    { db with deliveryState := t, deliveryAttempt := log }.Agrees := by
  intro e'
  rw [ht.exists_iff]
  by_cases he : e = e'
  · subst he
    rw [if_pos rfl, heq]
    exact ha e
  · rw [if_neg he]
    exact ha e'

omit [Sha256] in
/-- A lifecycle row was put that is not replicated, over one that was not. -/
theorem Db.Agrees.putLifecycle {db : Db} (ha : db.Agrees) {e : String} {l l' : LifecycleState}
    {t : KeyedTable LifecycleState.eventId} (hl : db.lifecycleState.find? e = some l)
    (hne : l.deliveryStatus ≠ "REPLICATED") (ht : db.lifecycleState.Puts e l' t)
    (hne' : l'.deliveryStatus ≠ "REPLICATED") : { db with lifecycleState := t }.Agrees := by
  intro e'
  rw [ht.exists_iff]
  by_cases he : e = e'
  · subst he
    rw [if_pos rfl, ← ha e, hl]
    simp [hne, hne']
  · rw [if_neg he]
    exact ha e'

omit [Sha256] in
theorem LocalDeliveryStatus.asStr_ne_replicated (d : LocalDeliveryStatus) :
    d.asStr ≠ "REPLICATED" := by
  cases d <;> decide

/-- A new event has no envelope yet, hence no delivery row. -/
theorem AcceptedStep.noDelivery {now : Int} {db db' : Db} {req : AcceptRequest}
    {a : AcceptedEvent} (h : AcceptedStep now db req a db') (hc : db.Consistent) :
    db.deliveryState.find? req.eventId = none := by
  have hnone : db.storedEnvelope.find? req.eventId = none :=
    KeyedTable.find?_eq_none_of_append h.storedEnvelope
  cases hd : db.deliveryState.find? req.eventId with
  | none => rfl
  | some d =>
      have hsome := hc.delivery req.eventId (by rw [hd]; rfl)
      rw [hnone] at hsome
      cases hsome

theorem AcceptedStep.agrees {now : Int} {db db' : Db} {req : AcceptRequest} {a : AcceptedEvent}
    (h : AcceptedStep now db req a db') (hc : db.Consistent) (ha : db.Agrees) : db'.Agrees := by
  intro e
  rw [h.deliveryState, h.putsLifecycle.exists_iff]
  by_cases he : req.eventId = e
  · subst he
    rw [if_pos rfl, h.noDelivery hc]
    simp
  · rw [if_neg he]
    exact ha e

/-- Every call but a lifecycle update of a replicated event keeps the agreement. -/
theorem DbStep.agrees {env : CallEnv} {db db' : Db} {c : JournalCall} {r : c.Reply}
    (h : DbStep env db c r db') (hc : db.Consistent)
    (hkeep : ∀ e rev delivery retention, (⟨env, c, r⟩ : JournalEvent) =
      ⟨env, .updateLifecycle e rev delivery retention, .updated⟩ →
      ∀ l, db.lifecycleState.find? e = some l → l.revision = rev →
        l.deliveryStatus ≠ "REPLICATED")
    (ha : db.Agrees) : db'.Agrees := by
  cases h with
  | quiet _ => exact ha
  | accepted hacc => exact hacc.agrees hc ha
  | lifecycle hst hrev ht =>
      exact ha.putLifecycle hst.lifecycle (hkeep _ _ _ _ rfl _ hst.lifecycle hrev) ht
        (LocalDeliveryStatus.asStr_ne_replicated _)
  | created hv hnew ht =>
      -- there was no row, and a pending one is not replicated
      refine ha.putDelivery ht ?_ _
      rw [hnew]
      simp [pendingRow]
  | attempted hs ht =>
      refine ha.putDelivery ht ?_ _
      rw [hs.row]
      simp [DeliveryState.setAttempted]
  | confirmed hs hst hstatus hrev hk ht ht' =>
      exact ha.putBoth ht ht' (iff_of_true rfl rfl)
  | blocked hs hst hstatus hrev ht ht' =>
      refine ha.putBoth ht ht' (iff_of_false ?_ ?_)
      · show "DELIVERY_BLOCKED" ≠ "REPLICATED"
        decide
      · show "DELIVERY_BLOCKED" ≠ "REPLICATED"
        decide
  | retried hs hstatus hrev ht =>
      refine ha.putDelivery ht (iff_of_false ?_ ?_) _
      · show "DELIVERY_RETRYING" ≠ "REPLICATED"
        decide
      · rw [hs.row]
        rintro ⟨d, hd, hrep⟩
        cases hd
        exact hstatus hrep

/-- A lifecycle update that went through ran its statements. -/
theorem updateLifecycle_updated_faults {env : CallEnv} {db db' : Db} {eventId : String}
    {rev : Int} {delivery : LocalDeliveryStatus} {retention : LocalRetentionStatus}
    (h : updateLifecycle env db eventId rev delivery retention = (db', .updated)) :
    env.fault .selectStatus = none ∧ env.fault .selectEnvelopeRow = none ∧
      env.fault .updateLifecycleState = none := by
  unfold updateLifecycle at h
  split at h
  · cases h
  · cases h
  rename_i st hfound
  obtain ⟨⟨h1, h2⟩, -⟩ := getStatusImpl_found_iff.mp hfound
  split at h
  · cases h
  simp only at h
  split at h
  · cases h
  rename_i hrun
  exact ⟨h1, h2, (CallEnv.run_eq_ok.mp hrun).1⟩

/-- A step that does not demote a replicated event keeps the agreement. -/
theorem journalStep_agrees {j j' : LocalJournal} {ev : JournalEvent}
    (hst : journalLts.step j ev j') (hc : j.db.Consistent) (hkeep : ¬ ev.Demotes j.db)
    (ha : j.db.Agrees) : j'.db.Agrees := by
  refine (journalStep_cases hst).agrees hc ?_ ha
  intro e rev delivery retention hev l hl hrev hrep
  have hev : ev = ⟨ev.env, .updateLifecycle e rev delivery retention, .updated⟩ := hev
  rw [hev] at hst hkeep
  have hupd : updateLifecycle ev.env j.db e rev delivery retention = (j'.db, .updated) :=
    LocalJournal.write_eq_some hst
  exact hkeep ⟨⟨l, hl, hrev, hrep⟩, updateLifecycle_updated_faults hupd⟩

/-- A replicated delivery row is never met with a lifecycle that is not
replicated, which is what `confirm_replicated_delivery` would report. -/
def Db.NeverSplit (db : Db) : Prop :=
  ∀ env e s st, loadDeliveryState env db e = .found s → s.deliveryStatus = "REPLICATED" →
    getStatusImpl env db e = .found st → st.deliveryStatus = "REPLICATED"

theorem Db.Agrees.neverSplit {db : Db} (ha : db.Agrees) : db.NeverSplit := by
  intro env e s st hload hrep hstatus
  obtain ⟨-, hrow, -⟩ := loadDeliveryState_found_iff.mp hload
  obtain ⟨-, v, l, -, hl, -, -, hreports⟩ := getStatusImpl_found_iff.mp hstatus
  obtain ⟨l', hl', hrep'⟩ := (ha e).mpr ⟨_, hrow, hrep⟩
  rw [hl] at hl'
  cases hl'
  rw [hreports.deliveryStatus]
  exact hrep'

/-! ## Calls that spare the rows -/

/-- The call leaves the delivery rows there are alone. -/
def JournalCall.SparesRows : JournalCall → Prop
  | .recordDeliveryAttempt _ => False
  | .confirmReplicatedDelivery .. => False
  | .blockDelivery .. => False
  | .updateDeliveryRetry .. => False
  | _ => True

/-- The delivery row the call created. -/
def JournalEvent.created? (ev : JournalEvent) : Option DeliveryState :=
  match ev with
  | ⟨env, .createDeliveryPending eventId fingerprint profileId profileVersion topic, .updated⟩ =>
      some (pendingRow env.nowMs eventId fingerprint profileId profileVersion topic)
  | _ => none

theorem JournalEvent.created?_eq_some {ev : JournalEvent} {d : DeliveryState}
    (h : ev.created? = some d) :
    ∃ eventId fingerprint profileId profileVersion topic,
      ev.call = .createDeliveryPending eventId fingerprint profileId profileVersion topic ∧
      d = pendingRow ev.env.nowMs eventId fingerprint profileId profileVersion topic := by
  unfold JournalEvent.created? at h
  split at h
  · cases h
    exact ⟨_, _, _, _, _, rfl, rfl⟩
  · cases h

/-- Such a call keeps every row, and a row that is new is the one it created. -/
theorem DbStep.spares_rows {env : CallEnv} {db db' : Db} {c : JournalCall} {r : c.Reply}
    (h : DbStep env db c r db') (hc : c.SparesRows) :
    (∀ e d, db.deliveryState.find? e = some d → db'.deliveryState.find? e = some d) ∧
      ∀ e d, db'.deliveryState.find? e = some d → db.deliveryState.find? e = some d ∨
        db.deliveryState.find? e = none ∧ (⟨env, c, r⟩ : JournalEvent).created? = some d := by
  cases h with
  | quiet => exact ⟨fun _ _ hd => hd, fun _ _ hd => .inl hd⟩
  | accepted hacc =>
      rw [hacc.deliveryState]
      exact ⟨fun _ _ hd => hd, fun _ _ hd => .inl hd⟩
  | lifecycle => exact ⟨fun _ _ hd => hd, fun _ _ hd => .inl hd⟩
  | created hv hnew ht =>
      rename_i eventId fingerprint profileId profileVersion topic v t
      constructor
      · intro e d hd
        have hne : eventId ≠ e := by
          rintro rfl
          cases hnew.symm.trans hd
        exact (ht.other hne).trans hd
      · intro e d hd
        by_cases he : eventId = e
        · subst he
          have hd : t.find? eventId = some d := hd
          rw [ht.self] at hd
          cases hd
          exact .inr ⟨hnew, rfl⟩
        · exact .inl ((ht.other he).symm.trans hd)
  | attempted => exact absurd hc id
  | confirmed => exact absurd hc id
  | blocked => exact absurd hc id
  | retried => exact absurd hc id

/-! ## Blocks in two tables -/

/-- The lifecycle of a blocked delivery says so. -/
def Db.BlocksAgree (db : Db) : Prop :=
  ∀ e d, db.deliveryState.find? e = some d → d.deliveryStatus = "DELIVERY_BLOCKED" →
    ∃ l, db.lifecycleState.find? e = some l ∧ l.deliveryStatus = "DELIVERY_BLOCKED"

omit [Sha256] in
/-- A delivery row was put that is blocked only where one was before. -/
theorem Db.BlocksAgree.puts {db db' : Db} {e : String} {d : DeliveryState}
    (ha : db.BlocksAgree) (ht : db.deliveryState.Puts e d db'.deliveryState)
    (hlife : db'.lifecycleState = db.lifecycleState)
    (hd : d.deliveryStatus = "DELIVERY_BLOCKED" →
      ∃ d', db.deliveryState.find? e = some d' ∧ d'.deliveryStatus = "DELIVERY_BLOCKED") :
    db'.BlocksAgree := by
  intro e' d₁ hd₁ hblocked
  rw [hlife]
  by_cases he : e = e'
  · subst he
    rw [ht.self] at hd₁
    cases hd₁
    obtain ⟨d', hd', hblocked'⟩ := hd hblocked
    exact ha e d' hd' hblocked'
  · rw [ht.other he] at hd₁
    exact ha e' d₁ hd₁ hblocked

omit [Sha256] in
/-- Both rows of `e` were put, and the lifecycle is blocked where the delivery is. -/
theorem Db.BlocksAgree.putBoth {db : Db} (ha : db.BlocksAgree) {e : String} {d : DeliveryState}
    {l : LifecycleState} {t : KeyedTable DeliveryState.eventId}
    {t' : KeyedTable LifecycleState.eventId} (ht : db.deliveryState.Puts e d t)
    (ht' : db.lifecycleState.Puts e l t')
    (hd : d.deliveryStatus = "DELIVERY_BLOCKED" → l.deliveryStatus = "DELIVERY_BLOCKED") :
    { db with deliveryState := t, lifecycleState := t' }.BlocksAgree := by
  intro e' d₁ hd₁ hblocked
  by_cases he : e = e'
  · subst he
    have hd₁ : t.find? e = some d₁ := hd₁
    rw [ht.self] at hd₁
    cases hd₁
    exact ⟨l, ht'.self, hd hblocked⟩
  · obtain ⟨l', hl', hblocked'⟩ := ha e' d₁ ((ht.other he).symm.trans hd₁) hblocked
    exact ⟨l', (ht'.other he).trans hl', hblocked'⟩

/-- Only `update_lifecycle` can tell the two apart. -/
theorem DbStep.blocksAgree {env : CallEnv} {db db' : Db} {c : JournalCall} {r : c.Reply}
    (h : DbStep env db c r db') (hc : db.Consistent)
    (hlife : ∀ e rev delivery retention, c ≠ .updateLifecycle e rev delivery retention)
    (ha : db.BlocksAgree) : db'.BlocksAgree := by
  cases h with
  | quiet => exact ha
  | accepted hacc =>
      rename_i req a
      intro e d hd hblocked
      rw [hacc.deliveryState] at hd
      obtain ⟨l, hl, hblocked'⟩ := ha e d hd hblocked
      -- the accepted event is new, so this row is another one's
      have hne : req.eventId ≠ e := by
        rintro rfl
        cases (hacc.noDelivery hc).symm.trans hd
      exact ⟨l, (hacc.putsLifecycle.other hne).trans hl, hblocked'⟩
  | lifecycle => exact absurd rfl (hlife _ _ _ _)
  | created hv hnew ht =>
      refine ha.puts ht rfl fun hblocked => ?_
      exact absurd hblocked (by show "DELIVERY_PENDING" ≠ "DELIVERY_BLOCKED"; decide)
  | attempted hs ht => exact ha.puts ht rfl fun hblocked => ⟨_, hs.row, hblocked⟩
  | confirmed hs hst hstatus hrev hk ht ht' =>
      refine ha.putBoth ht ht' fun hblocked => ?_
      exact absurd hblocked (by show "REPLICATED" ≠ "DELIVERY_BLOCKED"; decide)
  | blocked hs hst hstatus hrev ht ht' => exact ha.putBoth ht ht' fun _ => rfl
  | retried hs hstatus hrev ht =>
      refine ha.puts ht rfl fun hblocked => ?_
      exact absurd hblocked (by show "DELIVERY_RETRYING" ≠ "DELIVERY_BLOCKED"; decide)

end CraftRelay
