import CraftRelay.Journal.Replicated
import CraftRelay.Journal.Progress

/-!
# After a confirmation

What a journal answers about an event whose delivery was confirmed. The row keeps
every column but the four that `record_delivery_attempt` writes, and the lifecycle
row stays as the confirmation left it, so a repeated confirmation is recognised
and a different one is refused. Both need the row to load, which it does until its
attempt count leaves the range of an `i32`.
-/

namespace CraftRelay

/-- The rows differ at most in what `record_delivery_attempt` writes. -/
def DeliveryState.SameButAttempts (d d' : DeliveryState) : Prop :=
  d' = { d with
    attemptCount := d'.attemptCount
    lastError := d'.lastError
    deliveryChecksum := d'.deliveryChecksum
    updatedAtMs := d'.updatedAtMs }

theorem DeliveryState.SameButAttempts.refl (d : DeliveryState) : d.SameButAttempts d := rfl

theorem DeliveryState.SameButAttempts.setAttempted {d d' : DeliveryState}
    (h : d.SameButAttempts d') (errorCode : Option String) (checksum : Checksum) (nowMs : Int) :
    d.SameButAttempts (d'.setAttempted errorCode checksum nowMs) := by
  unfold DeliveryState.SameButAttempts at h
  rw [h]
  rfl

variable [Sha256]

/-! ## Rows that load are routed -/

/-- A record that verifies is routed, unless it is blocked: the shape of a blocked
row asks for no topic and no profile. -/
theorem DeliveryStateRecord.Verifies.routed {s : DeliveryStateRecord} (h : s.Verifies)
    (hblocked : s.deliveryStatus ≠ "DELIVERY_BLOCKED") : s.Routed := by
  rcases h.status_cases with hs | hs | hs | hs
  · exact (h.shape.2.1 hs).1
  · exact (h.shape.2.2.1 hs).1
  · exact (h.shape.1 hs).1
  · exact absurd hs hblocked

/-- Every delivery row that loads has topic, fingerprint and profile, blocked rows
included. -/
def Db.LoadsRouted (db : Db) : Prop :=
  ∀ e d, db.deliveryState.find? e = some d →
    ∀ s : DeliveryStateRecord, d = s.toRow → s.Verifies → s.Routed

theorem Db.LoadsRouted.healthy {db : Db} (h : db.LoadsRouted) {e : String}
    {s : DeliveryStateRecord} (hs : db.HasDelivery e s) : s.Healthy :=
  ⟨hs.verifies, h e _ hs.row s rfl hs.verifies⟩

theorem DbStep.loadsRouted {env : CallEnv} {db db' : Db} {c : JournalCall} {r : c.Reply}
    (h : DbStep env db c r db') (hl : db.LoadsRouted) : db'.LoadsRouted := by
  cases h with
  | quiet => exact hl
  | accepted hacc =>
      unfold Db.LoadsRouted
      rw [hacc.deliveryState]
      exact hl
  | lifecycle => exact hl
  | created hv hnew ht =>
      refine ht.all hl fun s hrow hver => hver.routed ?_
      have hs : "DELIVERY_PENDING" = s.deliveryStatus := congrArg DeliveryState.deliveryStatus hrow
      rw [← hs]
      decide
  | attempted hs ht =>
      rename_i attempt s t log
      refine ht.all hl fun s' hrow _ => ?_
      have hrow : ({ s with
          attemptCount := s.attemptCount + 1
          lastError := attempt.errorCode
          deliveryChecksum := computeDeliveryChecksum (s.attempted attempt.errorCode env.nowMs)
          updatedAtMs := env.nowMs } : DeliveryStateRecord).toRow = s'.toRow := hrow
      obtain rfl := DeliveryStateRecord.toRow_injective hrow
      have hrouted := (hl.healthy hs).routed
      exact ⟨hrouted.1, hrouted.2, hrouted.3, hrouted.4⟩
  | confirmed hs hst hstatus hrev hk ht ht' =>
      refine ht.all hl fun s' hrow hver => hver.routed ?_
      obtain rfl := DeliveryStateRecord.toRow_injective hrow
      show "REPLICATED" ≠ "DELIVERY_BLOCKED"
      decide
  | blocked hs hst hstatus hrev ht ht' =>
      refine ht.all hl fun s' hrow _ => ?_
      obtain rfl := DeliveryStateRecord.toRow_injective hrow
      have hrouted := (hl.healthy hs).routed
      exact ⟨hrouted.1, hrouted.2, hrouted.3, hrouted.4⟩
  | retried hs hstatus hrev ht =>
      refine ht.all hl fun s' hrow hver => hver.routed ?_
      obtain rfl := DeliveryStateRecord.toRow_injective hrow
      show "DELIVERY_RETRYING" ≠ "DELIVERY_BLOCKED"
      decide

theorem Reachable.loadsRouted {j : LocalJournal} (h : Reachable j) : j.db.LoadsRouted :=
  h.invariant (fun _ _ h => by cases h) fun _ _ _ _ _ hstep hl => hstep.loadsRouted hl

/-! ## Repeated confirmations -/

/-- The statements of a confirmation that is answered from the rows do not fail. -/
structure CallEnv.ReadsConfirmation (env : CallEnv) : Prop where
  begin_ : env.fault .begin = none
  delivery : env.fault .selectDeliveryState = none
  status : env.fault .selectStatus = none
  envelope : env.fault .selectEnvelopeRow = none

omit [Sha256] in
theorem CallEnv.Faultless.readsConfirmation {env : CallEnv} (h : env.Faultless) :
    env.ReadsConfirmation := ⟨h _, h _, h _, h _⟩

/-- A confirmation of a replicated row is compared with what the row has. -/
theorem confirmReplicatedDelivery_of_replicated {env : CallEnv} {db : Db} {e : String}
    {s : DeliveryStateRecord} {v : StoredEnvelope} {l : LifecycleState}
    (henv : env.ReadsConfirmation) (hs : db.HasDelivery e s) (hst : db.HasStatus e v l)
    (hrow : s.deliveryStatus = "REPLICATED") (hlife : l.deliveryStatus = "REPLICATED")
    (rev : Int) (k : ReplicatedDeliveryConfirmation) :
    confirmReplicatedDelivery env db e rev k =
      (db, if sameConfirmation s k then .alreadyConfirmed
        else .corrupted e "conflicting replicated confirmation metadata") := by
  have hload := DeliveryStateResult.orReturn_eq_ok.mpr (hs.found henv.delivery)
  obtain ⟨st, hstatus, hrep⟩ := hst.loadVerifiedLifecycle henv.status henv.envelope
  have hword : st.deliveryStatus = "REPLICATED" := hrep.deliveryStatus.trans hlife
  have hagain : confirmAgain env db e s k =
      if sameConfirmation s k then .alreadyConfirmed
        else .corrupted e "conflicting replicated confirmation metadata" := by
    unfold confirmAgain
    rw [hstatus]
    simp [hword]
  unfold confirmReplicatedDelivery
  simp only [CallEnv.exec_of_none _ henv.begin_, hload, bind, Except.bind, hrow, bne_self_eq_false,
    ensure, Bool.false_eq_true, if_false, hagain]
  rfl

omit [Sha256] in
/-- A row that has the metadata of one confirmation repeats no other. -/
theorem sameConfirmation_iff {s : DeliveryStateRecord} {k : ReplicatedDeliveryConfirmation}
    (hk : k.Matches s) (hpartition : s.kafkaPartition = some k.kafkaPartition)
    (hoffset : s.kafkaOffset = some k.kafkaOffset) (k' : ReplicatedDeliveryConfirmation) :
    sameConfirmation s k' = true ↔ k' = k := by
  obtain ⟨fp, profileId, profileVersion, topic, partition, offset⟩ := k
  obtain ⟨fp', profileId', profileVersion', topic', partition', offset'⟩ := k'
  simp only [sameConfirmation, hk.routingFingerprint, hk.profileId, hk.profileVersion,
    hk.kafkaTopic, hpartition, hoffset, Bool.and_eq_true, beq_iff_eq, Option.some.injEq,
    ReplicatedDeliveryConfirmation.mk.injEq]
  constructor
  · rintro ⟨⟨⟨⟨⟨h1, h2⟩, h3⟩, h4⟩, h5⟩, h6⟩
    exact ⟨h4.symm, h5.symm, h6.symm, h1.symm, h2.symm, h3.symm⟩
  · rintro ⟨h4, h5, h6, h1, h2, h3⟩
    exact ⟨⟨⟨⟨⟨h1.symm, h2.symm⟩, h3.symm⟩, h4.symm⟩, h5.symm⟩, h6.symm⟩

/-! ## The rows of a confirmed event -/

/-- The rows a confirmation left: the delivery row is `d₁` but for attempts, and loads
while its count fits; the lifecycle row is `l₁`. -/
structure Db.Confirmed (db : Db) (e : String) (d₁ : DeliveryState) (l₁ : LifecycleState) :
    Prop where
  row : ∃ d, db.deliveryState.find? e = some d ∧ d₁.SameButAttempts d ∧
    (d.attemptCount < 2 ^ 31 → ∃ s : DeliveryStateRecord, d = s.toRow ∧ s.Healthy)
  lifecycle : db.lifecycleState.find? e = some l₁

/-- The lifecycle row of a replicated event changes by hand only: the event is stored, so
no row is inserted for it, and the transitions refuse it. -/
theorem DbStep.keepsLifecycle {env : CallEnv} {db db' : Db} {c : JournalCall} {r : c.Reply}
    (h : DbStep env db c r db') (hc : db.Consistent) {e : String} {d : DeliveryState}
    {l : LifecycleState} (hd : db.deliveryState.find? e = some d)
    (hrep : d.deliveryStatus = "REPLICATED") (hl : db.lifecycleState.find? e = some l)
    (hlife : ∀ rev delivery retention, c ≠ .updateLifecycle e rev delivery retention) :
    db'.lifecycleState.find? e = some l := by
  have hother : ∀ {e' : String} {s : DeliveryStateRecord}
      {l' : LifecycleState} {t : KeyedTable LifecycleState.eventId}, db.HasDelivery e' s →
      s.deliveryStatus ≠ "REPLICATED" → db.lifecycleState.Puts e' l' t →
      t.find? e = some l := by
    intro e' s l' t hs hne ht
    have hee : e' ≠ e := by
      rintro rfl
      cases hs.row.symm.trans hd
      exact hne hrep
    rw [ht.other hee]
    exact hl
  cases h with
  | quiet => exact hl
  | accepted hacc =>
      rename_i req a
      have hee : req.eventId ≠ e := by
        rintro rfl
        have hstored := hc.lifecycle req.eventId
        have hdedup := hc.dedup req.eventId
        rw [hl] at hstored
        obtain ⟨v, hv⟩ := Option.isSome_iff_exists.mp hstored.symm
        rw [hv, hacc.dedup] at hdedup
        cases hdedup
      exact (hacc.putsLifecycle.other hee).trans hl
  | lifecycle hst hrev ht =>
      rename_i e' rev delivery retention v l t
      have hee : e' ≠ e := by
        rintro rfl
        exact hlife _ _ _ rfl
      exact (ht.other hee).trans hl
  | created => exact hl
  | attempted => exact hl
  | confirmed hs _ hstatus _ _ _ ht' => exact hother hs hstatus ht'
  | blocked hs _ hstatus _ _ ht' => exact hother hs hstatus ht'
  | retried => exact hl

/-- A call leaves the rows of a confirmed event as they are, but for attempts, unless
it writes the lifecycle by hand. -/
theorem DbStep.keepsConfirmed {env : CallEnv} {db db' : Db} {c : JournalCall} {r : c.Reply}
    (h : DbStep env db c r db') (hc : db.Consistent) {e : String} {d₁ : DeliveryState}
    {l₁ : LifecycleState} (hd₁ : d₁.deliveryStatus = "REPLICATED")
    (hconf : db.Confirmed e d₁ l₁)
    (hlife : ∀ rev delivery retention, c ≠ .updateLifecycle e rev delivery retention) :
    db'.Confirmed e d₁ l₁ := by
  obtain ⟨⟨d, hd, hsame, hloads⟩, hl⟩ := hconf
  have hrep : d.deliveryStatus = "REPLICATED" := by
    have hstatus : d.deliveryStatus = d₁.deliveryStatus := by
      rw [hsame]
    rw [hstatus, hd₁]
  refine ⟨?_, h.keepsLifecycle hc hd hrep hl hlife⟩
  rcases h.replicatedRow hd hrep with hkept | ⟨attempt, s, -, -, hs, hnew⟩
  · exact ⟨d, hkept, hsame, hloads⟩
  · cases hs.row.symm.trans hd
    refine ⟨_, hnew, hsame.setAttempted _ _ _, fun hcount => ?_⟩
    -- the row was loaded, so it is healthy, and the new count still fits
    have hlt : s.attemptCount + 1 < 2 ^ 31 := hcount
    obtain ⟨s', hs', hhealthy⟩ := hloads (by show s.attemptCount < 2 ^ 31; omega)
    obtain rfl := DeliveryStateRecord.toRow_injective hs'
    have hle := hs.verifies.count.1
    exact attempted_healthy hhealthy _ _ ⟨by omega, by omega⟩

/-- A confirmation leaves rows that repeat it. -/
theorem DbStep.confirms {env : CallEnv} {db db' : Db} {e : String} {rev : Int}
    {k : ReplicatedDeliveryConfirmation} {r : CasResult}
    (h : DbStep env db (.confirmReplicatedDelivery e rev k) r db') (hr : r = .updated)
    (hl : db.LoadsRouted) (hpartition : 0 ≤ k.kafkaPartition) (hoffset : 0 ≤ k.kafkaOffset) :
    ∃ (s : DeliveryStateRecord) (l : LifecycleState), k.Matches s ∧
      db'.deliveryState.find? e = some (s.replicated k (rev + 1) env.nowMs).sealed.toRow ∧
      db'.Confirmed e (s.replicated k (rev + 1) env.nowMs).sealed.toRow
        (l.advance "REPLICATED" l.retentionStatus env.nowMs) := by
  subst hr
  cases h with
  | quiet hno => exact absurd rfl hno
  | confirmed hs hst hstatus hrev hk ht ht' =>
      rename_i s v l t t'
      refine ⟨s, l, hk, ht.self, ⟨_, ht.self, .refl _, fun _ => ⟨_, rfl, ?_⟩⟩, ht'.self⟩
      exact replicated_healthy (hl.healthy hs) hk hpartition hoffset _ _

/-- The call made a transition of the event's delivery. -/
inductive JournalEvent.Transitions (e : String) : JournalEvent → Prop
  | confirm (env rev k) :
      Transitions e ⟨env, .confirmReplicatedDelivery e rev k, .updated⟩
  | block (env rev reason) : Transitions e ⟨env, .blockDelivery e rev reason, .updated⟩
  | retry (env rev next) : Transitions e ⟨env, .updateDeliveryRetry e rev next, .updated⟩

/-- No transition is made on a replicated row. -/
theorem DbStep.replicated_refuses {env : CallEnv} {db db' : Db} {c : JournalCall} {r : c.Reply}
    (h : DbStep env db c r db') {e : String} {d : DeliveryState}
    (hd : db.deliveryState.find? e = some d) (hrep : d.deliveryStatus = "REPLICATED") :
    ¬ JournalEvent.Transitions e ⟨env, c, r⟩ := by
  have hrefuse : ∀ s, db.HasDelivery e s → s.deliveryStatus = "REPLICATED" := by
    intro s hs
    cases hs.row.symm.trans hd
    exact hrep
  intro htransition
  cases htransition with
  | confirm =>
      cases h with
      | quiet hno => exact hno rfl
      | confirmed hs _ hstatus _ _ _ _ => exact hstatus (hrefuse _ hs)
  | block =>
      cases h with
      | quiet hno => exact hno rfl
      | blocked hs _ hstatus _ _ _ => exact hstatus (hrefuse _ hs)
  | retry =>
      cases h with
      | quiet hno => exact hno rfl
      | retried hs hstatus _ _ => exact hstatus (hrefuse _ hs)

/-- Along a run that does not write the lifecycle by hand, the rows of a confirmed
event stay, no transition of it is made, and without attempts the delivery row is the
one the confirmation wrote. -/
theorem journalRun_confirmed {j₁ j₂ : LocalJournal} {tr : List JournalEvent}
    (hreach : Reachable j₁) (hrun : journalLts.Run j₁ tr j₂) {e : String} {d₁ : DeliveryState}
    {l₁ : LifecycleState} (hd₁ : d₁.deliveryStatus = "REPLICATED")
    (hrow : j₁.db.deliveryState.find? e = some d₁) (hconf : j₁.db.Confirmed e d₁ l₁)
    (hlife : ∀ ev ∈ tr, ∀ rev delivery retention,
      ev.call ≠ .updateLifecycle e rev delivery retention) :
    j₂.db.Confirmed e d₁ l₁ ∧ (∀ ev ∈ tr, ¬ ev.Transitions e) ∧
      ((∀ ev ∈ tr, ∀ attempt, ev.call = .recordDeliveryAttempt attempt → attempt.eventId ≠ e) →
        j₂.db.deliveryState.find? e = some d₁) := by
  induction hrun with
  | nil => exact ⟨hconf, fun ev h => (by cases h), fun _ => hrow⟩
  | snoc hrun hst ih =>
      rename_i tr t ev u
      obtain ⟨hconf, hnone, hkept⟩ := ih fun ev' hev' => hlife ev' (List.mem_append_left _ hev')
      have hstep := journalStep_cases hst
      have hev : ev ∈ tr ++ [ev] := List.mem_append_right _ (List.mem_singleton.mpr rfl)
      obtain ⟨d, hd, hsame, -⟩ := hconf.row
      have hrep : d.deliveryStatus = "REPLICATED" := by
        rw [hsame]
        exact hd₁
      refine ⟨hstep.keepsConfirmed (hreach.run hrun).consistent hd₁ hconf (hlife ev hev), ?_, ?_⟩
      · intro ev' hmem
        rcases List.mem_append.mp hmem with hmem | hmem
        · exact hnone ev' hmem
        · rw [List.mem_singleton.mp hmem]
          exact hstep.replicated_refuses hd hrep
      · intro hno
        have hd₁' := hkept fun ev' hev' => hno ev' (List.mem_append_left _ hev')
        rcases hstep.replicatedRow hd₁' hd₁ with hsame' | ⟨attempt, s, hcall, heq, -⟩
        · exact hsame'
        · exact absurd heq (hno ev hev attempt hcall)

/-- How a confirmed event answers a confirmation: by comparing it with the first. -/
theorem Db.Confirmed.answers {db : Db} {e : String} {s₁ : DeliveryStateRecord}
    {l₁ : LifecycleState} {k₁ : ReplicatedDeliveryConfirmation} {rev₁ now₁ : Int}
    (h : db.Confirmed e (s₁.replicated k₁ rev₁ now₁).sealed.toRow l₁) (hk : k₁.Matches s₁)
    (hl₁ : l₁.deliveryStatus = "REPLICATED") (hc : db.Consistent) {d : DeliveryState}
    (hd : db.deliveryState.find? e = some d) (hcount : d.attemptCount < 2 ^ 31)
    {env : CallEnv} (henv : env.ReadsConfirmation) (rev : Int)
    (k : ReplicatedDeliveryConfirmation) :
    confirmReplicatedDelivery env db e rev k =
      (db, if k = k₁ then .alreadyConfirmed
        else .corrupted e "conflicting replicated confirmation metadata") := by
  obtain ⟨d', hd', hsame, hloads⟩ := h.row
  cases hd.symm.trans hd'
  obtain ⟨s, rfl, hhealthy⟩ := hloads hcount
  have hs : db.HasDelivery e s := ⟨hd, hhealthy.verifies⟩
  obtain ⟨v, hv⟩ := Option.isSome_iff_exists.mp (hc.envelope_of_delivery hs)
  have hst : db.HasStatus e v l₁ :=
    ⟨hv, h.lifecycle, hc.envelope _ _ hv, hc.lifecycleVerifies _ _ h.lifecycle⟩
  -- the record is the one the confirmation sealed, but for attempts
  have hrecord : s = { (s₁.replicated k₁ rev₁ now₁).sealed with
      attemptCount := s.attemptCount
      lastError := s.lastError
      deliveryChecksum := s.deliveryChecksum
      updatedAtMs := s.updatedAtMs } := DeliveryStateRecord.toRow_injective hsame
  have hrow : s.deliveryStatus = "REPLICATED" := by rw [hrecord]; rfl
  have hk' : k₁.Matches s := by
    rw [hrecord]
    exact ⟨hk.routingFingerprint, hk.profileId, hk.profileVersion, rfl⟩
  have hiff := sameConfirmation_iff hk' (by rw [hrecord]; rfl) (by rw [hrecord]; rfl) k
  rw [confirmReplicatedDelivery_of_replicated henv hs hst hrow hl₁]
  by_cases hkk : k = k₁
  · rw [if_pos hkk, if_pos (hiff.mpr hkk)]
  · rw [if_neg hkk, if_neg fun h => hkk (hiff.mp h)]

/-- A confirmation that is made is the first one of its event. -/
theorem journalRun_unconfirmed_before {j j₀ j₁ : LocalJournal} {tr : List JournalEvent}
    (hrun : journalLts.Run j tr j₀) {env : CallEnv} {e : String} {rev : Int}
    {k : ReplicatedDeliveryConfirmation}
    (hst : journalLts.step j₀ ⟨env, .confirmReplicatedDelivery e rev k, .updated⟩ j₁)
    (env' : CallEnv) (rev' : Int) (k' : ReplicatedDeliveryConfirmation) :
    (⟨env', .confirmReplicatedDelivery e rev' k', .updated⟩ : JournalEvent) ∉ tr := by
  intro hmem
  obtain ⟨tr₁, tr₂, rfl⟩ := List.append_of_mem hmem
  rw [List.append_cons] at hrun
  obtain ⟨j', hpre, hpost⟩ := hrun.split
  obtain ⟨j'', -, hfirst⟩ := hpre.last
  -- the earlier confirmation made the row replicated, and it still is
  have hupd : confirmReplicatedDelivery env' j''.db e rev' k' = (j'.db, .updated) :=
    LocalJournal.write_eq_some hfirst
  obtain ⟨d, hd, hrep, -⟩ := confirmReplicatedDelivery_acked hupd CasResult.made_updated
  obtain ⟨d', hd', hack⟩ := journalRun_keepsAck hpost hd hrep
  exact (journalStep_cases hst).replicated_refuses hd' ((congrArg Prod.fst hack).trans hrep)
    (.confirm _ _ _)

/-! ## Counts that leave the range -/

/-- An attempt of an event, with nothing more to report. -/
def blankAttempt (e : String) : DeliveryAttemptRecord where
  eventId := e
  attemptNumber := 1
  outcome := "RETRY"
  errorCode := none
  kafkaTopic := none
  kafkaPartition := none
  kafkaOffset := none
  profileId := none
  profileVersion := none
  attemptedAtMs := 50

/-- Attempts of a confirmed event can be recorded until its count is `2 ^ 31`. -/
theorem journalRun_attempts {j₁ : LocalJournal} (hreach : Reachable j₁) {e : String}
    {d₁ : DeliveryState} {l₁ : LifecycleState} (hd₁ : d₁.deliveryStatus = "REPLICATED")
    (hrow : j₁.db.deliveryState.find? e = some d₁) (hconf : j₁.db.Confirmed e d₁ l₁) (n : Nat)
    (hn : d₁.attemptCount + n ≤ 2 ^ 31) :
    ∃ tr j₂ d, journalLts.Run j₁ tr j₂ ∧
      (∀ ev ∈ tr, ∃ attempt, ev.call = .recordDeliveryAttempt attempt) ∧
      j₂.db.deliveryState.find? e = some d ∧ d.attemptCount = d₁.attemptCount + n := by
  induction n with
  | zero => exact ⟨[], j₁, d₁, .nil, fun ev h => (by cases h), hrow, by simp⟩
  | succ n ih =>
      obtain ⟨tr, j₂, d, hrun, hcalls, hd, hcount⟩ := ih (by omega)
      have hlife : ∀ ev ∈ tr, ∀ rev delivery retention,
          ev.call ≠ .updateLifecycle e rev delivery retention := by
        intro ev hev rev delivery retention hcall
        obtain ⟨attempt, hattempt⟩ := hcalls ev hev
        cases hattempt.symm.trans hcall
      obtain ⟨⟨⟨d', hd', -, hloads⟩, -⟩, -, -⟩ :=
        journalRun_confirmed hreach hrun hd₁ hrow hconf hlife
      cases hd.symm.trans hd'
      -- the count still fits, so the row loads and one more attempt goes through
      obtain ⟨s, rfl, hhealthy⟩ := hloads (by omega)
      have hs : j₂.db.HasDelivery (blankAttempt e).eventId s := ⟨hd, hhealthy.verifies⟩
      obtain ⟨t, log, hrecord, ht⟩ := recordDeliveryAttempt_of_found
        ((CallEnv.calm_faultless 50).executes _) hs
        ((hreach.run hrun).consistent.envelope_of_delivery hs)
      have hst : journalLts.step j₂ ⟨.calm 50, .recordDeliveryAttempt (blankAttempt e), .updated⟩
          { j₂ with db := { j₂.db with deliveryState := t, deliveryAttempt := log } } :=
        congrArg j₂.write hrecord
      refine ⟨_, _, _, hrun.snoc hst, ?_, ht.self, ?_⟩
      · intro ev hev
        rcases List.mem_append.mp hev with hev | hev
        · exact hcalls ev hev
        · rw [List.mem_singleton.mp hev]
          exact ⟨_, rfl⟩
      · have hcount : s.attemptCount = d₁.attemptCount + n := hcount
        show s.attemptCount + 1 = _
        push_cast
        omega

end CraftRelay
