import CraftRelay.Journal.Acceptance

/-!
# A replicated row is final

Every transition refuses a `REPLICATED` row except `record_delivery_attempt`,
which counts the attempt and leaves the columns of the confirmation alone. So
the broker's coordinates, once confirmed, are what every later reader finds.
-/

namespace CraftRelay

/-- The columns of a confirmed delivery. -/
def DeliveryState.ack (d : DeliveryState) :=
  (d.deliveryStatus, d.kafkaTopic, d.kafkaPartition, d.kafkaOffset, d.routingFingerprint,
    d.profileId, d.profileVersion, d.deliveryRevision)

/-- The delivery of the event is confirmed. -/
def Db.Replicated (db : Db) (eventId : String) : Prop :=
  ∃ d, db.deliveryState.find? eventId = some d ∧ d.deliveryStatus = "REPLICATED"

/-- The delivery of the event is confirmed with these coordinates. -/
def Db.Acked (db : Db) (eventId : String) (kafkaPartition kafkaOffset : Int) : Prop :=
  ∃ d, db.deliveryState.find? eventId = some d ∧ d.deliveryStatus = "REPLICATED" ∧
    d.kafkaPartition = some kafkaPartition ∧ d.kafkaOffset = some kafkaOffset

theorem Db.Acked.replicated {db : Db} {e : String} {p o : Int} (h : db.Acked e p o) :
    db.Replicated e := by
  obtain ⟨d, hd, hrep, -⟩ := h
  exact ⟨d, hd, hrep⟩

variable [Sha256]

/-- A call leaves a replicated row alone, or records an attempt of its event. -/
theorem DbStep.replicatedRow {env : CallEnv} {db db' : Db} {c : JournalCall} {r : c.Reply}
    (h : DbStep env db c r db') {e : String} {d : DeliveryState}
    (hd : db.deliveryState.find? e = some d) (hrep : d.deliveryStatus = "REPLICATED") :
    db'.deliveryState.find? e = some d ∨
      ∃ attempt s, c = .recordDeliveryAttempt attempt ∧ attempt.eventId = e ∧
        db.HasDelivery e s ∧ db'.deliveryState.find? e =
          some (s.toRow.setAttempted attempt.errorCode
            (computeDeliveryChecksum (s.attempted attempt.errorCode env.nowMs)) env.nowMs) := by
  -- a transition that refuses replicated rows wrote another event's row
  have hother : ∀ {e' : String} {s : DeliveryStateRecord} {d' : DeliveryState}
      {t : KeyedTable DeliveryState.eventId}, db.HasDelivery e' s →
      s.deliveryStatus ≠ "REPLICATED" → db.deliveryState.Puts e' d' t → t.find? e = some d := by
    intro e' s d' t hs hne ht
    have hee : e' ≠ e := by
      rintro rfl
      cases hs.row.symm.trans hd
      exact hne hrep
    rw [ht.other hee]
    exact hd
  cases h with
  | quiet => exact .inl hd
  | accepted h =>
      rw [h.deliveryState]
      exact .inl hd
  | lifecycle => exact .inl hd
  | created hv hnew ht =>
      rename_i e' _ _ _ _ _ _
      have hee : e' ≠ e := by
        rintro rfl
        cases hnew.symm.trans hd
      exact .inl ((ht.other hee).trans hd)
  | attempted hs ht =>
      rename_i attempt s _ _
      by_cases hee : attempt.eventId = e
      · subst hee
        exact .inr ⟨attempt, s, rfl, rfl, hs, ht.self⟩
      · exact .inl ((ht.other hee).trans hd)
  | confirmed hs _ hstatus _ _ ht _ => exact .inl (hother hs hstatus ht)
  | blocked hs _ hstatus _ ht _ => exact .inl (hother hs hstatus ht)
  | retried hs hstatus _ ht => exact .inl (hother hs hstatus ht)

/-- No call changes the confirmation of a replicated row. -/
theorem DbStep.keepsAck {env : CallEnv} {db db' : Db} {c : JournalCall} {r : c.Reply}
    (h : DbStep env db c r db') {e : String} {d : DeliveryState}
    (hd : db.deliveryState.find? e = some d) (hrep : d.deliveryStatus = "REPLICATED") :
    ∃ d', db'.deliveryState.find? e = some d' ∧ d'.ack = d.ack := by
  rcases h.replicatedRow hd hrep with hsame | ⟨attempt, s, -, -, hs, hnew⟩
  · exact ⟨d, hsame, rfl⟩
  · cases hs.row.symm.trans hd
    exact ⟨_, hnew, rfl⟩

/-- No run changes the confirmation of a replicated row. -/
theorem journalRun_keepsAck {j j' : LocalJournal} {tr : List JournalEvent}
    (hrun : journalLts.Run j tr j') {e : String} {d : DeliveryState}
    (hd : j.db.deliveryState.find? e = some d) (hrep : d.deliveryStatus = "REPLICATED") :
    ∃ d', j'.db.deliveryState.find? e = some d' ∧ d'.ack = d.ack := by
  induction hrun with
  | nil => exact ⟨d, hd, rfl⟩
  | snoc _ hst ih =>
      obtain ⟨d₁, hd₁, hack₁⟩ := ih
      have hrep₁ : d₁.deliveryStatus = "REPLICATED" := (congrArg Prod.fst hack₁).trans hrep
      obtain ⟨d₂, hd₂, hack₂⟩ := (journalStep_cases hst).keepsAck hd₁ hrep₁
      exact ⟨d₂, hd₂, hack₂.trans hack₁⟩

theorem DbStep.keepsReplicated {env : CallEnv} {db db' : Db} {c : JournalCall} {r : c.Reply}
    (h : DbStep env db c r db') {e : String} (hrep : db.Replicated e) : db'.Replicated e := by
  obtain ⟨d, hd, hstatus⟩ := hrep
  obtain ⟨d', hd', hack⟩ := h.keepsAck hd hstatus
  exact ⟨d', hd', (congrArg Prod.fst hack).trans hstatus⟩

theorem journalRun_keepsAcked {j j' : LocalJournal} {tr : List JournalEvent}
    (hrun : journalLts.Run j tr j') {e : String} {p o : Int} (h : j.db.Acked e p o) :
    j'.db.Acked e p o := by
  obtain ⟨d, hd, hrep, hp, ho⟩ := h
  obtain ⟨d', hd', hack⟩ := journalRun_keepsAck hrun hd hrep
  simp only [DeliveryState.ack, Prod.mk.injEq] at hack
  obtain ⟨h1, -, h3, h4, -⟩ := hack
  exact ⟨d', hd', h1.trans hrep, h3.trans hp, h4.trans ho⟩

/-! ## Confirmations -/

/-- `AlreadyConfirmed` is answered on a replicated row that repeats the
confirmation. -/
theorem confirmReplicatedDelivery_alreadyConfirmed {env : CallEnv} {db db' : Db}
    {eventId : String} {rev : Int} {k : ReplicatedDeliveryConfirmation}
    (h : confirmReplicatedDelivery env db eventId rev k = (db', .alreadyConfirmed)) :
    db' = db ∧ ∃ s, db.HasDelivery eventId s ∧ s.deliveryStatus = "REPLICATED" ∧
      sameConfirmation s k = true := by
  have hmade : CasResult.alreadyConfirmed.Made := .inr rfl
  unfold confirmReplicatedDelivery settle at h
  split at h
  · cases h
  rename_i r hx
  cases h
  refine ⟨rfl, ?_⟩
  rcases Except.bind_eq_error_iff.mp hx with hx | ⟨-, -, hx⟩
  · exact absurd hx (Never.exec hmade _ _ _)
  rcases Except.bind_eq_error_iff.mp hx with hx | ⟨s, hs, hx⟩
  · exact absurd hx (Never.orReturn hmade _)
  rcases Except.bind_eq_error_iff.mp hx with hx | ⟨-, -, hx⟩
  · -- the early return of a replicated row
    have hdel := orReturn_load hs
    unfold ensure at hx
    split at hx
    · cases hx
    rename_i hstatus
    injection hx with hagain
    refine ⟨s, hdel, by simpa using hstatus, ?_⟩
    unfold confirmAgain at hagain
    split at hagain
    · rename_i r hlife
      rw [hagain] at hlife
      exact absurd hlife (Never.loadVerifiedLifecycle hmade _ _ _)
    split at hagain
    · cases hagain
    split at hagain
    · assumption
    · cases hagain
  · exact absurd hx (Never.confirmCurrent hmade _ _ _ _ _ _)

/-- A confirmation that was made, now or before, is on record. -/
theorem confirmReplicatedDelivery_acked {env : CallEnv} {db db' : Db} {eventId : String}
    {rev : Int} {k : ReplicatedDeliveryConfirmation} {r : CasResult}
    (h : confirmReplicatedDelivery env db eventId rev k = (db', r)) (hr : r.Made) :
    db'.Acked eventId k.kafkaPartition k.kafkaOffset := by
  rcases hr with rfl | rfl
  · cases confirmReplicatedDelivery_step h with
    | quiet hno => exact absurd rfl hno
    | confirmed hs _ _ _ _ ht _ => exact ⟨_, ht.self, rfl, rfl, rfl⟩
  · obtain ⟨hdb, s, hs, hrep, hsame⟩ := confirmReplicatedDelivery_alreadyConfirmed h
    rw [hdb]
    simp only [sameConfirmation, Bool.and_eq_true, beq_iff_eq] at hsame
    obtain ⟨⟨⟨⟨⟨-, hpart⟩, hoff⟩, -⟩, -⟩, -⟩ := hsame
    exact ⟨_, hs.row, hrep, hpart, hoff⟩

end CraftRelay
