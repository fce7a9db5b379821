import CraftRelay.Journal.Vouching
import CraftRelay.Delivery.Policy

/-!
# The status words

The enumeration `DeliveryStatus` and the texts in the tables meet in two places:
`accept` turns the lifecycle text of a stored event into a `DeliveryStatus` with a
match that ends in a catch-all, and `validate_transition` lists the changes a
delivery row may make, which nothing consults at run time. Which texts the
lifecycle table can hold, and which changes the transitions of the journal make,
decide how far each of the two is right.
-/

namespace CraftRelay

/-- The text a table holds for a status. -/
def DeliveryStatus.stored : DeliveryStatus → String
  | .localAccepted => "LOCAL_ACCEPTED"
  | .deliveryPending => "DELIVERY_PENDING"
  | .deliveryRetrying => "DELIVERY_RETRYING"
  | .replicated => "REPLICATED"
  | .deliveryBlocked => "DELIVERY_BLOCKED"

theorem DeliveryStatus.stored_injective {s t : DeliveryStatus} (h : s.stored = t.stored) :
    s = t := by
  cases s <;> cases t <;> first | rfl | exact absurd h (by decide)

variable [Sha256]

/-! ## The lifecycle texts -/

/-- No lifecycle row says retrying: `update_delivery_retry` leaves the lifecycle
alone and no other transition writes that text. -/
def Db.NoRetryingLifecycle (db : Db) : Prop :=
  ∀ e l, db.lifecycleState.find? e = some l → l.deliveryStatus ≠ "DELIVERY_RETRYING"

theorem DbStep.noRetryingLifecycle {env : CallEnv} {db db' : Db} {c : JournalCall} {r : c.Reply}
    (h : DbStep env db c r db') (hn : db.NoRetryingLifecycle) : db'.NoRetryingLifecycle := by
  cases h with
  | quiet => exact hn
  | accepted hacc =>
      refine hacc.putsLifecycle.all hn ?_
      show "LOCAL_ACCEPTED" ≠ "DELIVERY_RETRYING"
      decide
  | lifecycle hst hrev ht =>
      rename_i delivery retention v l t
      refine ht.all hn ?_
      show delivery.asStr ≠ "DELIVERY_RETRYING"
      cases delivery <;> decide
  | created => exact hn
  | attempted => exact hn
  | confirmed _ _ _ _ _ _ ht' =>
      refine ht'.all hn ?_
      show "REPLICATED" ≠ "DELIVERY_RETRYING"
      decide
  | blocked _ _ _ _ _ ht' =>
      refine ht'.all hn ?_
      show "DELIVERY_BLOCKED" ≠ "DELIVERY_RETRYING"
      decide
  | retried => exact hn

theorem Reachable.noRetryingLifecycle {j : LocalJournal} (h : Reachable j) :
    j.db.NoRetryingLifecycle :=
  h.invariant (fun _ _ h => by cases h) fun _ _ _ _ _ hstep hn => hstep.noRetryingLifecycle hn

omit [Sha256] in
/-- The match of `accept` gives the stored text back unless it is the one text
that the catch-all turns into another. -/
theorem duplicateDeliveryStatus_stored {status : String}
    (hallowed : isAllowedDeliveryStatus status = true) (hretry : status ≠ "DELIVERY_RETRYING") :
    (duplicateDeliveryStatus status).stored = status ↔ status ≠ "REPLICATED" := by
  simp only [isAllowedDeliveryStatus, List.mem_cons, List.not_mem_nil, or_false,
    decide_eq_true_eq] at hallowed
  rcases hallowed with rfl | rfl | rfl | rfl | rfl
  · decide
  · decide
  · exact absurd rfl hretry
  · decide
  · decide

/-! ## Changes of a delivery row -/

/-- The two texts stand for statuses that `validate_transition` joins. -/
def AllowedChange (source target : String) : Prop :=
  ∃ s t : DeliveryStatus, s.stored = source ∧ t.stored = target ∧
    validateTransition s t = .ok ()

/-- Every delivery row that has another status now made an allowed change. -/
def Db.FollowsTable (db db' : Db) : Prop :=
  ∀ e d d', db.deliveryState.find? e = some d → db'.deliveryState.find? e = some d' →
    d'.deliveryStatus ≠ d.deliveryStatus → AllowedChange d.deliveryStatus d'.deliveryStatus

/-- A confirmation of a blocked delivery: it names the revision and the metadata
of the row, and none of its statements fails. -/
def JournalEvent.ConfirmsBlocked (ev : JournalEvent) (db : Db) : Prop :=
  match ev.call with
  | .confirmReplicatedDelivery e rev k =>
      ev.env.Executes (.confirmReplicatedDelivery e rev k) ∧
        ∃ s, db.HasDelivery e s ∧ s.deliveryStatus = "DELIVERY_BLOCKED" ∧
          s.deliveryRevision = rev ∧ k.Matches s
  | _ => False

omit [Sha256] in
theorem Db.FollowsTable.of_same {db db' : Db} (h : db'.deliveryState = db.deliveryState) :
    db.FollowsTable db' := by
  intro e d d' hd hd' hne
  rw [h, hd] at hd'
  cases hd'
  exact absurd rfl hne

omit [Sha256] in
/-- One row was put; only its change matters. -/
theorem Db.FollowsTable.of_puts {db db' : Db} {e : String} {d' : DeliveryState}
    (ht : db.deliveryState.Puts e d' db'.deliveryState)
    (hchange : ∀ d, db.deliveryState.find? e = some d → d'.deliveryStatus ≠ d.deliveryStatus →
      AllowedChange d.deliveryStatus d'.deliveryStatus) : db.FollowsTable db' := by
  intro e' d₁ d₂ h₁ h₂ hne
  by_cases hee : e = e'
  · subst hee
    rw [ht.self] at h₂
    cases h₂
    exact hchange _ h₁ hne
  · rw [ht.other hee, h₁] at h₂
    cases h₂
    exact absurd rfl hne

/-- What the transitions of the journal do to the status of a row, compared with
the table: only the confirmation of a blocked row is not in it. -/
theorem DbStep.followsTable {env : CallEnv} {db db' : Db} {c : JournalCall} {r : c.Reply}
    (h : DbStep env db c r db')
    (hopen : ∀ e rev k s, (⟨env, c, r⟩ : JournalEvent) =
        ⟨env, .confirmReplicatedDelivery e rev k, .updated⟩ → db.HasDelivery e s →
      s.deliveryRevision = rev → k.Matches s → s.deliveryStatus ≠ "DELIVERY_BLOCKED") :
    db.FollowsTable db' := by
  cases h with
  | quiet => exact .of_same rfl
  | accepted hacc => exact .of_same hacc.deliveryState
  | lifecycle => exact .of_same rfl
  | created hv hnew ht =>
      refine .of_puts ht fun d hd => ?_
      cases hnew.symm.trans hd
  | attempted hs ht =>
      refine .of_puts ht fun d hd hne => ?_
      cases hs.row.symm.trans hd
      exact absurd rfl hne
  | confirmed hs hst hstatus hrev hk ht ht' =>
      refine .of_puts ht fun d hd _ => ?_
      cases hs.row.symm.trans hd
      show AllowedChange _ "REPLICATED"
      rcases hs.verifies.status_cases with hp | hr | hrep | hb
      · exact ⟨.deliveryPending, .replicated, hp.symm, rfl, rfl⟩
      · exact ⟨.deliveryRetrying, .replicated, hr.symm, rfl, rfl⟩
      · exact absurd hrep hstatus
      · exact absurd hb (hopen _ _ _ _ rfl hs hrev hk)
  | blocked hs hst hstatus hrev ht ht' =>
      refine .of_puts ht fun d hd hne => ?_
      cases hs.row.symm.trans hd
      show AllowedChange _ "DELIVERY_BLOCKED"
      rcases hs.verifies.status_cases with hp | hr | hrep | hb
      · exact ⟨.deliveryPending, .deliveryBlocked, hp.symm, rfl, rfl⟩
      · exact ⟨.deliveryRetrying, .deliveryBlocked, hr.symm, rfl, rfl⟩
      · exact absurd hrep hstatus
      · exact absurd hb.symm hne
  | retried hs hstatus hrev ht =>
      refine .of_puts ht fun d hd hne => ?_
      cases hs.row.symm.trans hd
      show AllowedChange _ "DELIVERY_RETRYING"
      rcases hs.verifies.status_cases with hp | hr | hrep | hb
      · exact ⟨.deliveryPending, .deliveryRetrying, hp.symm, rfl, rfl⟩
      · exact absurd hr.symm hne
      · exact absurd hrep hstatus
      · exact ⟨.deliveryBlocked, .deliveryRetrying, hb.symm, rfl, rfl⟩

theorem loadVerifiedLifecycle_faults {env : CallEnv} {db : Db} {eventId : String}
    {st : PersistedStatus} (h : loadVerifiedLifecycleForTransition env db eventId = .ok st) :
    env.fault .selectStatus = none ∧ env.fault .selectEnvelopeRow = none := by
  unfold loadVerifiedLifecycleForTransition at h
  split at h
  · rename_i hfound
    exact (getStatusImpl_found_iff.mp hfound).1
  · cases h
  · cases h

/-- A confirmation that was made ran all its statements. -/
theorem confirmReplicatedDelivery_updated_executes {env : CallEnv} {db db' : Db} {e : String}
    {rev : Int} {k : ReplicatedDeliveryConfirmation}
    (h : confirmReplicatedDelivery env db e rev k = (db', .updated)) :
    env.Executes (.confirmReplicatedDelivery e rev k) := by
  obtain ⟨hne, -⟩ | ⟨-, hbegin, s, hs, -, hok⟩ := confirmReplicatedDelivery_cases h
  · exact absurd rfl hne
  unfold confirmCurrent at hok
  obtain ⟨st, hst, hok⟩ := Except.bind_eq_ok_iff.mp hok
  obtain ⟨-, hok⟩ := Except.check_eq_ok_iff.mp hok
  obtain ⟨-, hok⟩ := Except.check_eq_ok_iff.mp hok
  obtain ⟨-, hok⟩ := Except.check_eq_ok_iff.mp hok
  obtain ⟨-, hok⟩ := Except.check_eq_ok_iff.mp hok
  obtain ⟨⟨tx, n⟩, htx, hok⟩ := Except.bind_eq_ok_iff.mp hok
  obtain ⟨-, hok⟩ := Except.check_eq_ok_iff.mp hok
  obtain ⟨tx', htx', hcommit⟩ := Except.bind_eq_ok_iff.mp hok
  obtain ⟨⟨tx'', n'⟩, hlife, -⟩ := Except.bind_eq_ok_iff.mp htx'
  have hload := loadDeliveryState_found_iff.mp (DeliveryStateResult.orReturn_eq_ok.mp hs)
  have hstatus := loadVerifiedLifecycle_faults hst
  intro stmt hmem
  simp only [JournalCall.statements, List.mem_cons, List.not_mem_nil, or_false] at hmem
  rcases hmem with rfl | rfl | rfl | rfl | rfl | rfl | rfl
  · exact hbegin
  · exact hload.1
  · exact hstatus.1
  · exact hstatus.2
  · exact (CallEnv.exec_eq_ok.mp htx).1
  · exact (CallEnv.exec_eq_ok.mp hlife).1
  · exact (CallEnv.exec_eq_ok.mp hcommit).1

end CraftRelay
