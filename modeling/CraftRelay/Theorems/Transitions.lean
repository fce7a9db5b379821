import CraftRelay.Journal.Confirmation
import CraftRelay.Journal.Revisions
import CraftRelay.Delivery.Policy

/-!
# The transitions of lifecycle and delivery rows

No update is lost, no write of the journal's own is later diagnosed as
corruption, and the two tables agree on replication, each with the exact
conditions under which it holds. The repair of a blocked row is the write these
conditions leave out: it never leaves a row that loads.
-/

namespace CraftRelay

/-- Revisions count the successful transitions; each revision is consumed at
most once; a call that answered anything but `Updated` changed none of the
three tables. -/
theorem no_lost_update [Sha256] {config : JournalConfig} {tr : List JournalEvent}
    {j : LocalJournal} (hrun : journalLts.Run (LocalJournal.open config) tr j) (e : String) :
    ((j.db.deliveryRevision? e = none ∧ deliveryUpdates tr e = []) ∨
        j.db.deliveryRevision? e = some (1 + ((deliveryUpdates tr e).length : Int))) ∧
      ((j.db.lifecycleRevision? e = none ∧ lifecycleMoves tr e = 0) ∨
        j.db.lifecycleRevision? e = some (1 + (lifecycleMoves tr e : Int))) ∧
      (∀ rev, (deliveryUpdates tr e).count rev ≤ 1) ∧
      (∀ rev, (lifecycleUpdates tr e).count rev ≤ 1) ∧
      ∀ j₁ ev j₂ answer, journalLts.step j₁ ev j₂ → ev.casReply? = some answer →
        answer ≠ .updated →
        j₂.db.deliveryState = j₁.db.deliveryState ∧
          j₂.db.lifecycleState = j₁.db.lifecycleState ∧
          j₂.db.deliveryAttempt = j₁.db.deliveryAttempt := by
  obtain ⟨n, hn, hdelivery⟩ := journalRun_deliveryUpdates hrun e
  obtain ⟨hlifecycle, hinc⟩ := journalRun_lifecycleUpdates hrun e
  refine ⟨?_, hlifecycle, ?_, ?_, ?_⟩
  · rw [hn, length_countUp]
    rcases hdelivery with ⟨hnone, rfl⟩ | hsome
    · exact .inl ⟨hnone, rfl⟩
    · exact .inr (by rw [hsome, Int.add_comm])
  · intro rev
    rw [hn]
    exact List.nodup_iff_count_le_one.mp (countUp_sorted n).nodup rev
  · intro rev
    exact List.nodup_iff_count_le_one.mp hinc.1.nodup rev
  · intro j₁ ev j₂ answer hst hcas hne
    exact (journalStep_cases hst).cas_unchanged hcas hne

/-- The sample event after its confirmation: one transition, revision 2. -/
theorem no_lost_update_confirmed :
    ∃ db a, (@journalLts fipsSha256).Run (LocalJournal.open {})
        (sampleTrace a ++ [⟨.calm 30, .confirmReplicatedDelivery "e1" 1 sampleConfirmation,
          .updated⟩]) ⟨{}, db, false⟩ ∧
      db.deliveryRevision? "e1" = some 2 := by
  obtain ⟨db, a, l, hrun, -, -⟩ := @sampleRun_confirmed fipsSha256
  obtain ⟨hdelivery, -⟩ := @no_lost_update fipsSha256 _ _ _ hrun "e1"
  refine ⟨db, a, hrun, ?_⟩
  rcases hdelivery with ⟨-, hnil⟩ | hsome
  · cases hnil
  · exact hsome

/-- In every run of well-formed calls in which the attempt counts fit, every
delivery row loads with its checksum and shape, its candidate is found, and the
three scans list their rows. -/
theorem own_writes_verify [Sha256] {config : JournalConfig} {tr : List JournalEvent}
    {j : LocalJournal} (hrun : carefulLts.Run (LocalJournal.open config) tr j)
    {env : CallEnv} (henv : env.Faultless) :
    (∀ d ∈ j.db.deliveryState.rows, ∃ s c,
      loadDeliveryState env j.db d.eventId = .found s ∧ s.toRow = d ∧
        s.deliveryChecksum = computeDeliveryChecksum s ∧
        validateDeliveryStateInvariants s = .ok () ∧
        loadDeliveryCandidate env j.db d.eventId = .found c) ∧
      (∀ limit, ∃ ds, scanPendingDeliveries env j.db limit = .ok ds) ∧
      (∀ nowMs limit, ∃ ds, scanRetryingDeliveries env j.db nowMs limit = .ok ds) ∧
      ∀ limit, ∃ ds, scanDeliveryGateStates env j.db limit = .ok ds := by
  have hhealthy := carefulRun_healthy hrun
  have hcons := (carefulRun_reachable hrun).consistent
  have hrows : ∀ d ∈ j.db.deliveryState.rows, ∃ s : DeliveryStateRecord, d = s.toRow ∧
      s.Verifies ∧ ∃ v, j.db.storedEnvelope.find? d.eventId = some v ∧ v.Verifies := by
    intro d hd
    have hfind := KeyedTable.find?_of_mem hd
    obtain ⟨s, hs, hs'⟩ := hhealthy _ _ hfind
    obtain ⟨v, hv⟩ := Option.isSome_iff_exists.mp (hcons.delivery d.eventId (by rw [hfind]; rfl))
    exact ⟨s, hs, hs'.verifies, v, hv, hcons.envelope _ _ hv⟩
  refine ⟨?_, ?_, ?_, ?_⟩
  · intro d hd
    obtain ⟨s, rfl, hver, v, hv, hvver⟩ := hrows d hd
    have hload : loadDeliveryState env j.db s.toRow.eventId = .found s :=
      loadDeliveryState_found_iff.mpr ⟨henv _, KeyedTable.find?_of_mem hd, hver⟩
    refine ⟨s, ⟨v.eventId, v.installationId, v.namespace, v.logicalStreamType, v.streamKey,
      v.streamSequence, v.eventType, v.routingVersion, s⟩, hload, rfl, hver.checksum,
      validateDeliveryStateInvariants_ok.mpr hver.shape, ?_⟩
    exact loadDeliveryCandidate_found_iff.mpr ⟨hload, ⟨henv _, henv _⟩, v, hv, hvver,
      rfl, rfl, rfl, rfl, rfl, rfl, rfl, rfl⟩
  · intro limit
    refine ⟨_, scanDeliveries_of_verified henv hrows fun r hr => ?_⟩
    exact List.mem_of_mem_filter (mem_orderBy.mp (mem_of_mem_limitRows hr))
  · intro nowMs limit
    refine ⟨_, scanDeliveries_of_verified henv hrows fun r hr => ?_⟩
    exact List.mem_of_mem_filter (mem_orderBy.mp (mem_of_mem_limitRows hr))
  · intro limit
    refine ⟨_, scanDeliveries_of_verified henv hrows fun r hr => ?_⟩
    exact mem_orderBy.mp (mem_of_mem_limitRows hr)

/-- The sample event's row, read back. -/
theorem own_writes_verify_pending :
    ∃ db a, (@carefulLts fipsSha256).Run (LocalJournal.open {}) (sampleTrace a)
        ⟨{}, db, false⟩ ∧
      ∃ c, @loadDeliveryCandidate fipsSha256 (.calm 30) db "e1" = .found c := by
  obtain ⟨db, a, v, l, hrun, hs, -⟩ := @sampleRun_pending fipsSha256
  obtain ⟨hrows, -⟩ := @own_writes_verify fipsSha256 _ _ _ hrun _ (CallEnv.calm_faultless 30)
  have hrow := @Db.HasDelivery.row fipsSha256 _ _ _ hs
  obtain ⟨s, c, -, -, -, -, hc⟩ := hrows _ (KeyedTable.mem_of_find? hrow)
  exact ⟨db, a, hrun, c, hc⟩

/-- Lifecycle and delivery rows agree on replication in every state of a run
exactly when no step of the run is a lifecycle update on the current revision of
an event whose lifecycle is already `REPLICATED`. -/
theorem replication_agrees_iff [Sha256] {config : JournalConfig} {tr : List JournalEvent}
    {j : LocalJournal} (hrun : journalLts.Run (LocalJournal.open config) tr j) :
    (∀ tr₁ tr₂ j₁, tr = tr₁ ++ tr₂ → journalLts.Run (LocalJournal.open config) tr₁ j₁ →
        j₁.db.Agrees ∧ j₁.db.NeverSplit) ↔
      ∀ tr₁ ev tr₂ j₁, tr = tr₁ ++ ev :: tr₂ →
        journalLts.Run (LocalJournal.open config) tr₁ j₁ → ¬ ev.Demotes j₁.db := by
  constructor
  · intro hagree tr₁ ev tr₂ j₁ htr hrun₁ hdem
    have htr' : tr = (tr₁ ++ [ev]) ++ tr₂ := by
      rw [htr, List.append_assoc]
      rfl
    rw [htr'] at hrun
    obtain ⟨j₂, hrun₂, -⟩ := hrun.split
    obtain ⟨j₁', hrun₁', hst⟩ := hrun₂.last
    obtain rfl := journalRun_deterministic hrun₁ hrun₁'
    have hreach : Reachable j₁ := ⟨config, tr₁, hrun₁⟩
    exact demotion_disagrees hst hreach.consistent (hagree tr₁ _ j₁ htr hrun₁).1 hdem
      (hagree _ tr₂ j₂ htr' hrun₂).1
  · intro hkeep tr₁ tr₂ j₁ htr hrun₁
    suffices ha : j₁.db.Agrees from ⟨ha, ha.neverSplit⟩
    -- along the prefix, no step demotes
    induction hrun₁ generalizing tr₂ with
    | nil => exact Db.agrees_empty
    | snoc hrun₁ hst ih =>
        rename_i tr₁ t ev u
        have htr' : tr = tr₁ ++ ev :: tr₂ := by
          rw [htr, List.append_assoc]
          rfl
        have hreach : Reachable t := ⟨config, tr₁, hrun₁⟩
        exact journalStep_agrees hst hreach.consistent (hkeep tr₁ ev tr₂ t htr' hrun₁)
          (ih (ev :: tr₂) htr')

/-- A run that never updates the lifecycle of a replicated event. -/
theorem replication_agrees_iff_confirmed :
    ∃ db a, (@journalLts fipsSha256).Run (LocalJournal.open {})
        (sampleTrace a ++ [⟨.calm 30, .confirmReplicatedDelivery "e1" 1 sampleConfirmation,
          .updated⟩]) ⟨{}, db, false⟩ ∧ db.Agrees := by
  obtain ⟨db, a, l, hrun, -, -⟩ := @sampleRun_confirmed fipsSha256
  refine ⟨db, a, hrun, ((@replication_agrees_iff fipsSha256 _ _ _ hrun).mpr ?_ _ [] _
    (List.append_nil _).symm hrun).1⟩
  intro tr₁ ev tr₂ j₁ htr _ hdem
  have hmem : ev ∈ tr₁ ++ ev :: tr₂ := by simp
  rw [← htr] at hmem
  simp only [sampleTrace, List.cons_append, List.nil_append, List.mem_cons,
    List.not_mem_nil, or_false] at hmem
  rcases hmem with rfl | rfl | rfl
  · exact hdem
  · exact hdem
  · exact hdem

/-- The lifecycle of a confirmed event can be set back while its delivery row
stays replicated. -/
theorem replication_disagrees :
    ¬ ∃ h : Sha256, ∀ config tr j,
      (@journalLts h).Run (LocalJournal.open config) tr j → j.db.Agrees := by
  rintro ⟨h, hall⟩
  obtain ⟨db, a, l, hrun, hl, hrep, -⟩ := @sampleRun_confirmed h
  have hcons := (show Reachable ⟨{}, db, false⟩ from ⟨_, _, hrun⟩).consistent
  have hagrees : db.Agrees := hall _ _ _ hrun
  obtain ⟨v, hv⟩ := Option.isSome_iff_exists.mp
    ((hcons.lifecycle "e1").symm.trans (by rw [hl]; rfl))
  have hcalm := CallEnv.calm_faultless 40
  obtain ⟨t, hupd, -⟩ := updateLifecycle_of_current
    ⟨hv, hl, hcons.envelope _ _ hv, hcons.lifecycleVerifies _ _ hl⟩ (hcalm _) (hcalm _) (hcalm _)
    .localAccepted .present
  have hst : journalLts.step ⟨{}, db, false⟩
      ⟨.calm 40, .updateLifecycle "e1" l.revision .localAccepted .present, .updated⟩
      ⟨{}, { db with lifecycleState := t }, false⟩ :=
    congrArg (LocalJournal.write ⟨{}, db, false⟩) hupd
  exact demotion_disagrees hst hcons hagrees ⟨⟨l, hl, rfl, hrep⟩, rfl, rfl, rfl⟩
    (hall _ _ _ (hrun.snoc hst))

/-! ## Repair -/

/-- What a repaired event looks like to its readers. -/
structure Db.Repaired [Sha256] (db : Db) (env : CallEnv) (eventId : String) (next : Int) :
    Prop where
  state : ∃ s, loadDeliveryState env db eventId = .found s ∧
    s.deliveryStatus = "DELIVERY_RETRYING" ∧ s.nextRetryAtMs = some next
  candidate : ∃ c, loadDeliveryCandidate env db eventId = .found c
  status : ∀ st, getStatusImpl env db eventId = .found st →
    st.deliveryStatus ≠ "DELIVERY_BLOCKED"

/-- The row a retry makes of a blocked one keeps its reason, which its new status
forbids. -/
theorem retried_unreadable [Sha256] {db : Db} {e : String} {s : DeliveryStateRecord}
    (hs : db.HasDelivery e s) (hblocked : s.deliveryStatus = "DELIVERY_BLOCKED")
    {next rev now : Int} {t : KeyedTable DeliveryState.eventId}
    (ht : db.deliveryState.Puts e (s.retrying next rev now).sealed.toRow t) (env : CallEnv)
    (s' : DeliveryStateRecord) :
    loadDeliveryState env { db with deliveryState := t } e ≠ .found s' := by
  intro hload
  obtain ⟨-, hrow, hver⟩ := loadDeliveryState_found_iff.mp hload
  obtain rfl := DeliveryStateRecord.toRow_injective (Option.some.inj (hrow.symm.trans ht.self))
  have hnone : s.blockedReason = none := (hver.shape.2.2.1 rfl).2.2.1
  obtain ⟨reason, hsome, -⟩ := (hs.verifies.shape.2.2.2 hblocked).1
  rw [hnone] at hsome
  cases hsome

/-- A blocked row may be repaired by the rules, the journal answers `Updated`,
and then the row never loads, the event is no candidate, and its status is what
it was. -/
theorem repair_of_blocked_fails [Sha256] {env₀ : CallEnv} {db : Db} {e : String}
    {s : DeliveryStateRecord} (hload : loadDeliveryState env₀ db e = .found s)
    (hblocked : s.deliveryStatus = "DELIVERY_BLOCKED") (env env' : CallEnv) (next : Int) :
    classifyForRepair s.deliveryStatus s.attemptCount s.blockedReason [] true =
        .eligibleForRetry ∧
      validateTransition .deliveryBlocked .deliveryRetrying = .ok () ∧
      (env.Faultless → ∃ db', updateDeliveryRetry env db e s.deliveryRevision next =
        (db', .updated)) ∧
      ∀ db', updateDeliveryRetry env db e s.deliveryRevision next = (db', .updated) →
        (∀ s', loadDeliveryState env' db' e ≠ .found s') ∧
          (∀ c, loadDeliveryCandidate env' db' e ≠ .found c) ∧
          getStatusImpl env' db' e = getStatusImpl env' db e ∧
          ¬ db'.Repaired env' e next := by
  obtain ⟨-, hrow, hver⟩ := loadDeliveryState_found_iff.mp hload
  have hs : db.HasDelivery e s := ⟨hrow, hver⟩
  have hstatus : s.deliveryStatus ≠ "REPLICATED" := by
    rw [hblocked]
    decide
  refine ⟨?_, rfl, ?_, ?_⟩
  · rw [hblocked]
    rfl
  · intro henv
    obtain ⟨t, hupd, -⟩ := updateDeliveryRetry_of_current (henv.executes _) hs hstatus
    exact ⟨_, hupd⟩
  · intro db' hupd
    cases updateDeliveryRetry_step hupd with
    | quiet h => exact absurd rfl h
    | retried hs' _ _ ht =>
        obtain rfl := DeliveryStateRecord.toRow_injective
          (Option.some.inj (hrow.symm.trans hs'.row))
        have hunread := retried_unreadable hs hblocked ht env'
        refine ⟨hunread, ?_, rfl, ?_⟩
        · intro c hc
          exact hunread _ (loadDeliveryCandidate_found_iff.mp hc).1
        · intro hrep
          obtain ⟨s', hs', -⟩ := hrep.state
          exact hunread s' hs'

/-- The sample event, blocked and then retried. -/
theorem repair_of_blocked_fails_sample :
    ∃ db a, (@journalLts fipsSha256).Run (LocalJournal.open {})
        (sampleTrace a ++ [⟨.calm 30, .blockDelivery "e1" 1 "broker refused", .updated⟩])
        ⟨{}, db, false⟩ ∧
      ∃ db', @updateDeliveryRetry fipsSha256 (.calm 40) db "e1" 2 5000 = (db', .updated) ∧
        ¬ @Db.Repaired fipsSha256 db' (.calm 50) "e1" 5000 := by
  obtain ⟨db, a, hrun, hs⟩ := @sampleRun_blocked fipsSha256
  have hload := @Db.HasDelivery.found fipsSha256 (.calm 30) _ _ _ hs rfl
  obtain ⟨-, -, hupdated, hfails⟩ :=
    @repair_of_blocked_fails fipsSha256 _ _ _ _ hload rfl (.calm 40) (.calm 50) 5000
  obtain ⟨db', hdb'⟩ := hupdated (CallEnv.calm_faultless 40)
  exact ⟨db, a, hrun, db', hdb', (hfails db' hdb').2.2.2⟩

/-- Not every repair of a blocked row works. -/
theorem repair_breaks_row :
    ¬ ∃ h : Sha256, ∀ j e s env env' next db', @Reachable h j →
      @loadDeliveryState h env j.db e = .found s → s.deliveryStatus = "DELIVERY_BLOCKED" →
      @updateDeliveryRetry h env j.db e s.deliveryRevision next = (db', .updated) →
      @Db.Repaired h db' env' e next := by
  rintro ⟨h, hall⟩
  obtain ⟨db, a, hrun, hs⟩ := @sampleRun_blocked h
  have hcalm := CallEnv.calm_faultless 40
  obtain ⟨t, hupd, ht⟩ := updateDeliveryRetry_of_current (hcalm.executes _) hs
    (by show "DELIVERY_BLOCKED" ≠ "REPLICATED"; decide)
  have hrep := hall ⟨{}, db, false⟩ "e1" _ (.calm 40) (.calm 50) 5000 _ ⟨_, _, hrun⟩
    (hs.found rfl) rfl hupd
  obtain ⟨s', hs', -⟩ := hrep.state
  exact retried_unreadable hs rfl ht (.calm 50) s' hs'

/-! ## Confirmations -/

/-- A confirmation that was made is the only one of its event. Afterwards, as long as
the lifecycle is not written by hand, no transition of the event is made, its rows stay
but for recorded attempts, and while the attempt count fits an `i32` a repeated
confirmation is answered `AlreadyConfirmed` and a different one `Corrupted`, whatever
revision they name. -/
theorem confirmation_final [Sha256] {config : JournalConfig} {tr₁ tr₂ : List JournalEvent}
    {j₀ j₁ j₂ : LocalJournal} {env : CallEnv} {e : String} {rev : Int}
    {k : ReplicatedDeliveryConfirmation}
    (hbefore : journalLts.Run (LocalJournal.open config) tr₁ j₀)
    (hconfirm : journalLts.step j₀ ⟨env, .confirmReplicatedDelivery e rev k, .updated⟩ j₁)
    (hpartition : 0 ≤ k.kafkaPartition) (hoffset : 0 ≤ k.kafkaOffset)
    (hafter : journalLts.Run j₁ tr₂ j₂)
    (hlife : ∀ ev ∈ tr₂, ∀ rev delivery retention,
      ev.call ≠ .updateLifecycle e rev delivery retention) :
    (∀ env' rev' k', (⟨env', .confirmReplicatedDelivery e rev' k', .updated⟩ : JournalEvent) ∉
      tr₁ ++ tr₂) ∧
    (∀ ev ∈ tr₂, ¬ ev.Transitions e) ∧
    j₂.db.lifecycleState.find? e = j₁.db.lifecycleState.find? e ∧
    ∃ d₁ d₂, j₁.db.deliveryState.find? e = some d₁ ∧ j₂.db.deliveryState.find? e = some d₂ ∧
      d₁.SameButAttempts d₂ ∧
      ((∀ ev ∈ tr₂, ∀ attempt, ev.call = .recordDeliveryAttempt attempt → attempt.eventId ≠ e) →
        d₂ = d₁) ∧
      (d₂.attemptCount < 2 ^ 31 → ∀ env' : CallEnv, env'.ReadsConfirmation → ∀ rev',
        j₂.exec env' (.confirmReplicatedDelivery e rev' k) = some (j₂, .alreadyConfirmed) ∧
        ∀ k', k' ≠ k → ∃ detail, j₂.exec env' (.confirmReplicatedDelivery e rev' k') =
          some (j₂, .corrupted e detail)) := by
  have hreach : Reachable j₀ := ⟨config, tr₁, hbefore⟩
  have hreach₁ : Reachable j₁ := ⟨config, _, hbefore.snoc hconfirm⟩
  obtain ⟨s, l, hk, hd₁, hconf⟩ := (journalStep_cases hconfirm).confirms rfl hreach.loadsRouted
    hpartition hoffset
  obtain ⟨hconf₂, hnone, hkept⟩ := journalRun_confirmed hreach₁ hafter rfl hd₁ hconf hlife
  obtain ⟨d₂, hd₂, hsame, -⟩ := hconf₂.row
  refine ⟨?_, hnone, hconf₂.lifecycle.trans hconf.lifecycle.symm, _, d₂, hd₁, hd₂, hsame, ?_, ?_⟩
  · intro env' rev' k' hmem
    rcases List.mem_append.mp hmem with hmem | hmem
    · exact journalRun_unconfirmed_before hbefore hconfirm env' rev' k' hmem
    · exact hnone _ hmem (.confirm _ _ _)
  · intro hno
    exact Option.some.inj (hd₂.symm.trans (hkept hno))
  · intro hcount env' henv rev'
    have hanswer := hconf₂.answers hk rfl (hreach₁.run hafter).consistent hd₂ hcount henv rev'
    constructor
    · show j₂.write _ = _
      rw [hanswer k, if_pos rfl]
      rfl
    · intro k' hne
      refine ⟨"conflicting replicated confirmation metadata", ?_⟩
      show j₂.write _ = _
      rw [hanswer k', if_neg hne]
      rfl

/-- The sample event, confirmed, and the confirmation repeated with another revision. -/
theorem confirmation_final_sample :
    ∃ j : LocalJournal, @Reachable fipsSha256 j ∧
      @LocalJournal.exec fipsSha256 j (.calm 40)
        (.confirmReplicatedDelivery "e1" 7 sampleConfirmation) = some (j, .alreadyConfirmed) := by
  obtain ⟨db, a, l, hrun, -, -, hrow⟩ := @sampleRun_confirmed fipsSha256
  obtain ⟨j, hbefore, hconfirm⟩ := hrun.last
  obtain ⟨-, -, -, d₁, d₂, -, hd₂, -, -, hanswers⟩ :=
    @confirmation_final fipsSha256 _ _ _ _ _ _ _ _ _ _ hbefore hconfirm (by decide) (by decide)
      .nil fun ev hev => (by cases hev)
  cases hrow.symm.trans hd₂
  obtain ⟨hagain, -⟩ := hanswers (by show (0 : Int) < 2 ^ 31; decide) _
    (CallEnv.calm_faultless 40).readsConfirmation 7
  exact ⟨_, ⟨_, _, hrun⟩, hagain⟩

/-- The calls of producers and of the delivery service, with coordinates a broker can
return. -/
def JournalCall.Ordinary : JournalCall → Prop
  | .accept _ => True
  | .createDeliveryPending .. => True
  | .recordDeliveryAttempt _ => True
  | .confirmReplicatedDelivery _ _ k => 0 ≤ k.kafkaPartition ∧ 0 ≤ k.kafkaOffset
  | .blockDelivery .. => True
  | .updateDeliveryRetry .. => True
  | _ => False

/-- After `2 ^ 31` recorded attempts the sample event's row no longer loads, and its
confirmation is not recognised. -/
theorem confirmation_forgotten :
    ¬ ∃ h : Sha256, ∀ config tr₁ tr₂ j₀ j₁ j₂ env e rev k,
      (@journalLts h).Run (LocalJournal.open config) tr₁ j₀ →
      (@journalLts h).step j₀ ⟨env, .confirmReplicatedDelivery e rev k, .updated⟩ j₁ →
      (@journalLts h).Run j₁ tr₂ j₂ →
      (∀ ev ∈ tr₁ ++ ⟨env, .confirmReplicatedDelivery e rev k, .updated⟩ :: tr₂,
        ev.call.Ordinary) →
      ∀ env' rev', env'.Faultless →
        @LocalJournal.exec h j₂ env' (.confirmReplicatedDelivery e rev' k) =
          some (j₂, .alreadyConfirmed) := by
  rintro ⟨h, hall⟩
  obtain ⟨db, a, l, hrun, -, -, hrow⟩ := @sampleRun_confirmed h
  obtain ⟨j, hbefore, hconfirm⟩ := hrun.last
  have hreach : Reachable j := ⟨_, _, hbefore⟩
  have hreach₁ : Reachable ⟨{}, db, false⟩ := ⟨_, _, hrun⟩
  obtain ⟨s, l', hk, hd₁, hconf⟩ := (journalStep_cases hconfirm).confirms rfl hreach.loadsRouted
    (by decide) (by decide)
  have hzero : (s.replicated sampleConfirmation 2 30).sealed.toRow.attemptCount = 0 :=
    congrArg DeliveryState.attemptCount (Option.some.inj (hd₁.symm.trans hrow))
  obtain ⟨tr, j₂, d, hafter, hcalls, hd, hcount⟩ :=
    journalRun_attempts hreach₁ rfl hd₁ hconf 2147483648 (by
      show (s.replicated sampleConfirmation 2 30).sealed.toRow.attemptCount + _ ≤ _
      rw [hzero]
      decide)
  have hordinary : ∀ ev ∈ sampleTrace a ++
      ⟨.calm 30, .confirmReplicatedDelivery "e1" 1 sampleConfirmation, .updated⟩ :: tr,
      ev.call.Ordinary := by
    intro ev hev
    rw [List.mem_append, List.mem_cons] at hev
    rcases hev with hev | rfl | hev
    · simp only [sampleTrace, List.mem_cons, List.not_mem_nil, or_false] at hev
      rcases hev with rfl | rfl
      · trivial
      · trivial
    · exact ⟨by decide, by decide⟩
    · obtain ⟨attempt, hattempt⟩ := hcalls ev hev
      rw [hattempt]
      trivial
  have hanswer := hall _ _ _ _ _ _ _ _ _ _ hbefore hconfirm hafter hordinary (.calm 60) 2
    (CallEnv.calm_faultless 60)
  -- an answer would mean that the row loads, but its count does not fit
  obtain ⟨-, s', hs', -, -⟩ := confirmReplicatedDelivery_alreadyConfirmed
    (LocalJournal.write_eq_some hanswer)
  cases hs'.row.symm.trans hd
  have hle : s'.attemptCount ≤ 2147483647 := hs'.verifies.count.2
  have hcount : s'.attemptCount =
    (s.replicated sampleConfirmation 2 30).sealed.toRow.attemptCount + 2147483648 := hcount
  rw [hzero] at hcount
  omega

end CraftRelay
