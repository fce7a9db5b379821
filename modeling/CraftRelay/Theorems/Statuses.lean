import CraftRelay.Delivery.Statuses

/-!
# Where the status words disagree

`accept` reports a replicated event as blocked, and the journal confirms blocked
deliveries, which `validate_transition` forbids. Both are the only exceptions:
each result says exactly when the words agree.
-/

namespace CraftRelay

/-! ## Changes of a delivery row -/

/-- In every reachable journal a call changes delivery statuses as
`validate_transition` allows, exactly when it is not a confirmation that goes
through on a blocked row. -/
theorem status_changes_follow_table [Sha256] {j j' : LocalJournal} {ev : JournalEvent}
    (h : Reachable j) (hst : journalLts.step j ev j') :
    j.db.FollowsTable j'.db ↔ ¬ ev.ConfirmsBlocked j.db := by
  constructor
  · intro hfollows hconfirms
    obtain ⟨env, c, r⟩ := ev
    cases c with
    | confirmReplicatedDelivery e rev k =>
        obtain ⟨henv, s, hs, hblocked, rfl, hk⟩ := hconfirms
        obtain ⟨v, hv⟩ := Option.isSome_iff_exists.mp (h.consistent.envelope_of_delivery hs)
        obtain ⟨l, hstatus⟩ := h.consistent.hasStatus hv
        have hne : s.deliveryStatus ≠ "REPLICATED" := by
          rw [hblocked]
          decide
        obtain ⟨t, t', hconfirm, ht, -⟩ :=
          confirmReplicatedDelivery_of_current henv hs hstatus hne hk
        have hst : j.write (confirmReplicatedDelivery env j.db e s.deliveryRevision k) =
          some (j', r) := hst
        rw [hconfirm] at hst
        cases hst
        -- the row went from blocked to replicated, which no pair of the table allows
        obtain ⟨a, b, ha, hb, hvalid⟩ := hfollows e _ _ hs.row ht.self hne.symm
        have ha : a.stored = DeliveryStatus.deliveryBlocked.stored := ha.trans hblocked
        have hb : b.stored = DeliveryStatus.replicated.stored := hb
        cases DeliveryStatus.stored_injective ha
        cases DeliveryStatus.stored_injective hb
        cases hvalid
    | _ => exact hconfirms.elim
  · intro hno
    refine (journalStep_cases hst).followsTable ?_
    intro e rev k s hev hs hrev hk hblocked
    have hev : ev = ⟨ev.env, .confirmReplicatedDelivery e rev k, .updated⟩ := hev
    rw [hev] at hst hno
    have hupd : confirmReplicatedDelivery ev.env j.db e rev k = (j'.db, .updated) :=
      LocalJournal.write_eq_some hst
    exact hno ⟨confirmReplicatedDelivery_updated_executes hupd, s, hs, hblocked, hrev, hk⟩

/-- The sample event goes from pending to blocked, which the table allows. -/
theorem status_changes_follow_table_sample :
    ∃ j j' : LocalJournal, @Reachable fipsSha256 j ∧ (@journalLts fipsSha256).step j
        ⟨.calm 30, .blockDelivery "e1" 1 "broker refused", .updated⟩ j' ∧
      j.db.FollowsTable j'.db := by
  obtain ⟨db, a, hrun, -⟩ := @sampleRun_blocked fipsSha256
  obtain ⟨j, hj, hst⟩ := hrun.last
  have hreach : @Reachable fipsSha256 j := ⟨_, _, hj⟩
  exact ⟨j, _, hreach, hst,
    (@status_changes_follow_table fipsSha256 _ _ _ hreach hst).mpr fun h => h⟩

/-- The sample event, blocked and then confirmed. -/
theorem blocked_row_is_confirmed :
    ¬ ∃ h : Sha256, ∀ j j' e rev k r, @Reachable h j →
      (@journalLts h).step j ⟨.calm 40, .confirmReplicatedDelivery e rev k, r⟩ j' →
      j.db.FollowsTable j'.db := by
  rintro ⟨h, hall⟩
  obtain ⟨db, a, hrun, hs⟩ := @sampleRun_blocked h
  have hreach : Reachable ⟨{}, db, false⟩ := ⟨_, _, hrun⟩
  obtain ⟨v, hv⟩ := Option.isSome_iff_exists.mp (hreach.consistent.envelope_of_delivery hs)
  obtain ⟨l, hstatus⟩ := hreach.consistent.hasStatus hv
  have hne : "DELIVERY_BLOCKED" ≠ "REPLICATED" := by decide
  obtain ⟨t, t', hconfirm, ht, -⟩ := confirmReplicatedDelivery_of_current
    ((CallEnv.calm_faultless 40).executes _) hs hstatus hne
    (⟨rfl, rfl, rfl, rfl⟩ : sampleConfirmation.Matches _)
  have hfollows := hall _ _ "e1" _ sampleConfirmation .updated hreach
    (congrArg (LocalJournal.write ⟨{}, db, false⟩) hconfirm)
  obtain ⟨b, c, hb, hc, hvalid⟩ := hfollows "e1" _ _ hs.row ht.self hne.symm
  have hb : b.stored = DeliveryStatus.deliveryBlocked.stored := hb
  have hc : c.stored = DeliveryStatus.replicated.stored := hc
  cases DeliveryStatus.stored_injective hb
  cases DeliveryStatus.stored_injective hc
  cases hvalid

/-! ## Duplicates -/

/-- The answer of a duplicate agrees with a reported status. -/
def AcceptedEvent.AgreesWith (a : AcceptedEvent) (st : PersistedStatus) : Prop :=
  st.deliveryStatus = a.deliveryStatus.stored ∧ st.lifecycleRevision = a.lifecycleRevision

/-- A duplicate is answered with the status and the revision `get_status` reports
in the same state, exactly when the lifecycle of the event is not `REPLICATED`. -/
theorem duplicate_status_agrees [Sha256] {j j' : LocalJournal} {env : CallEnv}
    {req : AcceptRequest} {a : AcceptedEvent} (h : Reachable j)
    (hdup : j.exec env (.accept req) = some (j', .existingDuplicate a)) :
    (∀ env', env'.Faultless → ∃ st, j.exec env' (.getStatus req.eventId) =
      some (j, .found st)) ∧
    ((∀ env' st, j.exec env' (.getStatus req.eventId) = some (j, .found st) →
        a.AgreesWith st) ↔
      ∀ l, j.db.lifecycleState.find? req.eventId = some l → l.deliveryStatus ≠ "REPLICATED") := by
  have hdup : j.accept env req = some (j', .existingDuplicate a) := hdup
  obtain ⟨v, l, hstatus, hrev, hword⟩ := LocalJournal.accept_duplicate hdup
  obtain ⟨st, hrep⟩ := hstatus.reports
  have hread : ∀ env' : CallEnv, env'.Faultless →
      j.exec env' (.getStatus req.eventId) = some (j, .found st) := by
    intro env' henv
    show some (j, getStatusImpl env' j.db req.eventId) = _
    rw [hstatus.found hrep (henv _) (henv _)]
  have hstored := duplicateDeliveryStatus_stored hstatus.lifecycleVerifies.delivery
    (h.noRetryingLifecycle _ _ hstatus.lifecycle)
  refine ⟨fun env' henv => ⟨st, hread env' henv⟩, ?_, ?_⟩
  · intro hagrees l' hl'
    cases hstatus.lifecycle.symm.trans hl'
    obtain ⟨hsame, -⟩ := hagrees (.calm 0) st (hread _ (CallEnv.calm_faultless 0))
    rw [hrep.deliveryStatus, hword] at hsame
    exact hstored.mp hsame.symm
  · intro hne env' st' hst'
    have hst' : some (j, getStatusImpl env' j.db req.eventId) = some (j, .found st') := hst'
    have hfound : getStatusImpl env' j.db req.eventId = .found st' := by
      injection hst' with hst'
      exact congrArg Prod.snd hst'
    obtain ⟨-, v', l', hv', hl', -, -, hrep'⟩ := getStatusImpl_found_iff.mp hfound
    cases hstatus.lifecycle.symm.trans hl'
    constructor
    · rw [hrep'.deliveryStatus, hword]
      exact (hstored.mpr (hne l hstatus.lifecycle)).symm
    · rw [hrep'.lifecycleRevision, hrev]

/-- The accepted sample event, sent again. -/
theorem duplicate_status_agrees_sample :
    ∃ (j : LocalJournal) (a : AcceptedEvent) (st : PersistedStatus), @Reachable fipsSha256 j ∧
      (∃ j', @LocalJournal.exec fipsSha256 j (.calm 40) (.accept (sampleRequest "e1" "ns" 1)) =
        some (j', .existingDuplicate a)) ∧
      @LocalJournal.exec fipsSha256 j (.calm 40) (.getStatus "e1") = some (j, .found st) ∧
      a.AgreesWith st := by
  obtain ⟨db, a₀, hrun, hstep, -⟩ := @sampleAccept fipsSha256 [] .empty "e1" 1 .nil
    (by decide) rfl (fun _ _ h => by cases h) "ns" 10
  have hreach : @Reachable fipsSha256 ⟨{}, db, false⟩ := ⟨_, _, hrun⟩
  obtain ⟨log, a, hdup⟩ := @sampleRun_duplicate fipsSha256 _ _ hrun _ _
    (List.mem_singleton.mpr rfl) 40
  obtain ⟨hfound, hagrees⟩ := @duplicate_status_agrees fipsSha256 _ _ _ _ _ hreach hdup
  obtain ⟨st, hst⟩ := hfound (.calm 40) (CallEnv.calm_faultless 40)
  refine ⟨_, a, st, hreach, ⟨_, hdup⟩, hst, hagrees.mpr ?_ _ _ hst⟩
  intro l hl
  cases (@AcceptedStep.putsLifecycle fipsSha256 _ _ _ _ _ hstep).self.symm.trans hl
  show "LOCAL_ACCEPTED" ≠ "REPLICATED"
  decide

/-- The sample event, confirmed and then sent again, is answered as blocked. -/
theorem replicated_duplicate_reported_blocked :
    ¬ ∃ h : Sha256, ∀ j j' env req a st, @Reachable h j →
      @LocalJournal.exec h j env (.accept req) = some (j', .existingDuplicate a) →
      @LocalJournal.exec h j env (.getStatus req.eventId) = some (j, .found st) →
      a.AgreesWith st := by
  rintro ⟨h, hall⟩
  obtain ⟨db, a₀, l, hrun, hl, hrep, -⟩ := @sampleRun_confirmed h
  have hreach : Reachable ⟨{}, db, false⟩ := ⟨_, _, hrun⟩
  have hmem : (⟨.calm 10, .accept (sampleRequest "e1" "ns" 1), .accepted a₀⟩ : JournalEvent) ∈
    sampleTrace a₀ ++ [⟨.calm 30, .confirmReplicatedDelivery "e1" 1 sampleConfirmation,
      .updated⟩] := List.mem_cons_self
  obtain ⟨log, a, hdup⟩ := sampleRun_duplicate hrun hmem 40
  obtain ⟨v, l', hstatus, -, hword⟩ := LocalJournal.accept_duplicate hdup
  cases hl.symm.trans hstatus.lifecycle
  obtain ⟨st, hreports⟩ := hstatus.reports
  have hcalm := CallEnv.calm_faultless 40
  have hfound := hstatus.found hreports (hcalm _) (hcalm _)
  obtain ⟨hsame, -⟩ := hall _ _ (.calm 40) _ a st hreach hdup
    (congrArg (fun r => some (_, r)) hfound)
  rw [hreports.deliveryStatus, hword, hrep] at hsame
  exact absurd hsame (by decide)

end CraftRelay
