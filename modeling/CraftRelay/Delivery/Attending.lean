import CraftRelay.Journal.Confirmation
import CraftRelay.Delivery.Accounting

/-!
# Attending to one event

The walk through `attempt_delivery` with an account of errors. While the service
attends to an event the other events are settled; the event itself is settled again
when the method returns, and the answer agrees with its row. The row is written twice
after a failed send, by the attempt record and by the retry or block that follows, and
the second write names the revision that was read before the send: the attempt record
keeps it.
-/

namespace CraftRelay

variable [Sha256]

/-! ## Following the service -/

/-- What is known about an answer when its method returns; `before` are the states the
attempt may have begun at. -/
def RetryPost (C : Clients) (before : LocalJournal → Prop) (j : LocalJournal) :
    (c : ServiceCall) → c.Reply → Prop
  | .attemptDelivery e, out => ∀ j₀, before j₀ → C.Reported j₀ j e out
  | .recover, _ => True
  | .shutdown, _ => True

/-- A send is for an event whose row is open. -/
def SendOpen (j : LocalJournal) (errors : String → List SendError) : Effect → Prop
  | .send request => j.db.Settled (errors request.eventId) request.eventId ∧
      ∃ d, j.db.deliveryState.find? request.eventId = some d ∧
        d.deliveryStatus ≠ "REPLICATED" ∧ d.deliveryStatus ≠ "DELIVERY_BLOCKED"
  | _ => True

/-- The one service at a time. A new instance finds every event settled, and the
statements of the service are executed. -/
def retryTracking (C : Clients) (before : LocalJournal → Prop) :
    Tracking (String → List SendError) where
  thread := 0
  next := chargeError
  admits j errors ev _ :=
    match ev with
    | .client ev => C.may ev
    | .install i _ => i = 0 ∧ j.Settled errors
    | .call i _ => i = 0 ∧ ∀ j₀, before j₀ → j₀.MovedBy C j
    | .journal i ev => i = 0 ∧ ev.env.Faultless
    | .send i _ _ => i = 0
    | .clock i _ => i = 0
    | .return i _ _ => i = 0
  rely := LocalJournal.MovedBy C
  idle j errors _ := j.Settled errors
  post := RetryPost C before
  guard := SendOpen
  refl := LocalJournal.MovedBy.refl
  trans _ _ _ := LocalJournal.MovedBy.trans
  stable _ _ _ _ h hmoved := h.moved hmoved

/-- The service attends to an event whose delivery is open: `s₀` is the row it read and
`s` the row there is. The other events are settled. -/
structure Attending (C : Clients) (before : LocalJournal → Prop) (e : String)
    (v : StoredEnvelope) (s₀ s : DeliveryStateRecord) (j : LocalJournal)
    (errors : String → List SendError) : Prop where
  reachable : Reachable j
  others : ∀ e', e' ≠ e → j.db.Settled (errors e') e'
  envelope : j.db.storedEnvelope.find? e = some v
  delivery : j.db.HasDelivery e s
  unconfirmed : s.deliveryStatus ≠ "REPLICATED"
  unblocked : s.deliveryStatus ≠ "DELIVERY_BLOCKED"
  first : ∀ j₀, before j₀ → C.RowBefore j₀ e s₀.toRow
  revision : s.deliveryRevision = s₀.deliveryRevision

namespace Attending

variable {C : Clients} {before : LocalJournal → Prop} {e : String} {v : StoredEnvelope}
  {s₀ s s' : DeliveryStateRecord} {j j' : LocalJournal} {errors : String → List SendError}

theorem moved (h : Attending C before e v s₀ s j errors) (hmoved : j.MovedBy C j') :
    Attending C before e v s₀ s j' errors where
  reachable := hmoved.reachable h.reachable
  others e' he := hmoved.settled (h.others e' he)
  envelope := hmoved.envelope h.envelope
  delivery := hmoved.delivery h.delivery
  unconfirmed := h.unconfirmed
  unblocked := h.unblocked
  first := h.first
  revision := h.revision

theorem healthy (h : Attending C before e v s₀ s j errors) : s.Healthy :=
  h.reachable.loadsRouted.healthy h.delivery

/-- The row is put; nothing else is owed to the other events. -/
theorem othersPut (h : Attending C before e v s₀ s j errors) {d : DeliveryState}
    (ht : j.db.deliveryState.Puts e d j'.db.deliveryState) (e' : String) (he : e' ≠ e) :
    j'.db.Settled (errors e') e' := (h.others e' he).congr (ht.other (Ne.symm he))

/-- The row that is put settles the event. -/
theorem settledPut (h : Attending C before e v s₀ s j errors) {ev : JournalEvent}
    (hst : journalLts.step j ev j') {d : DeliveryState}
    (ht : j.db.deliveryState.Puts e d j'.db.deliveryState)
    (hcount : d.attemptCount = (errors e).length)
    (hretries : d.deliveryStatus ≠ "DELIVERY_BLOCKED" → RetryLeft (errors e))
    (hbound : (errors e).length ≤ maxRetryAttempts) : j'.Settled errors := by
  refine ⟨h.reachable.run (Lts.Run.nil.snoc hst), fun e' => ?_⟩
  by_cases he : e' = e
  · subst he
    exact .of_row ht.self hcount hretries hbound
  · exact h.othersPut ht e' he

/-- An error is charged to the event. -/
theorem charged (h : Attending C before e v s₀ s j errors) {errors' : String → List SendError}
    (hothers : ∀ e', e' ≠ e → errors' e' = errors e') : Attending C before e v s₀ s j errors' :=
  { h with
    others := by
      intro e' he
      rw [hothers e' he]
      exact h.others e' he }

/-- The event is settled by the row there is. -/
theorem settled (h : Attending C before e v s₀ s j errors)
    (hcount : s.attemptCount = (errors e).length) (hleft : RetryLeft (errors e)) :
    j.Settled errors := by
  refine ⟨h.reachable, fun e' => ?_⟩
  by_cases he : e' = e
  · subst he
    exact .of_row h.delivery.row hcount (fun _ => hleft) (Int.le_of_lt hleft.1)
  · exact h.others e' he

end Attending

/-! ## The walk through the method -/

namespace DeliveryService

variable {C : Clients} {before : LocalJournal → Prop} {e : String} {v : StoredEnvelope}
  {s₀ s : DeliveryStateRecord} {j : LocalJournal} {errors : String → List SendError}
  {svc : DeliveryService}

/-- The method ends with every event settled and an answer that agrees with the row. -/
theorem answered (h : j.Settled errors) {out : DeliveryOutcome}
    (hout : ∀ j₀, before j₀ → C.Reported j₀ j e out) :
    (retryTracking C before).SafeProg (.attemptDelivery e) j errors (.done (svc, out)) :=
  Tracking.safeProg_done h fun _ hmoved j₀ hj₀ => (hout j₀ hj₀).moved hmoved

/-- The block is persisted on the revision that was read. -/
theorem blockAndMark_answered (h : Attending C before e v s₀ s j errors)
    (hcount : s.attemptCount = (errors e).length) (hbound : (errors e).length ≤ maxRetryAttempts)
    {streamKey reason : String} {n : Int} :
    (retryTracking C before).SafeProg (.attemptDelivery e) j errors
      (svc.blockAndMark e streamKey n s₀.deliveryRevision reason) := by
  rw [← h.revision]
  refine Tracking.safeProg_journal ?_
  rintro j₁ env r j₂ hmoved hexec ⟨-, henv⟩
  have hat := h.moved hmoved
  obtain ⟨rfl, ht, -⟩ := LocalJournal.blocks henv hat.reachable.consistent hat.envelope
    hat.delivery hat.unconfirmed hexec
  have hst : journalLts.step j₁ ⟨env, .blockDelivery e s.deliveryRevision reason, .updated⟩ j₂ :=
    hexec
  have hsettled := hat.settledPut hst ht hcount (fun hblocked => absurd rfl hblocked) hbound
  exact answered hsettled fun _ _ => ⟨_, ht.self, rfl, rfl⟩

/-- After the attempt is on record: the retry or the block is persisted. -/
theorem retryOrBlock_answered (h : Attending C before e v s₀ s j errors)
    (hcount : s.attemptCount = s₀.attemptCount + 1) {earlier : List SendError}
    {sendErr : SendError} (herrors : errors e = earlier ++ [sendErr])
    (hearlier : s₀.attemptCount = earlier.length) (hleft : RetryLeft earlier) {nowMs : Int} :
    (retryTracking C before).SafeProg (.attemptDelivery e) j errors
      (svc.retryOrBlock e (v.candidate s₀) sendErr nowMs) := by
  have hlength : ((errors e).length : Int) = earlier.length + 1 := by
    rw [herrors, List.length_append, List.length_singleton, Int.natCast_add]
    rfl
  have hbound : (errors e).length ≤ maxRetryAttempts := by
    have hlt := hleft.1
    omega
  have hblock : ∀ reason, (retryTracking C before).SafeProg (.attemptDelivery e) j errors
      (svc.blockAndMark e v.streamKey v.streamSequence s₀.deliveryRevision reason) :=
    fun reason => blockAndMark_answered h (by omega) hbound
  have hattempts : i32Wrap (s₀.attemptCount + 1) = earlier.length + 1 := by
    rw [hearlier]
    exact i32Wrap_of_inI32 hleft.fits
  unfold DeliveryService.retryOrBlock
  simp only
  split
  · rename_i hretry
    split
    · refine Tracking.safeProg_journal ?_
      rintro j₁ env r j₂ hmoved hexec ⟨-, henv⟩
      rename_i next _
      have hat := h.moved hmoved
      have hexec : j₁.exec env (.updateDeliveryRetry e s.deliveryRevision next) =
          some (j₂, r) := by
        rw [h.revision]
        exact hexec
      obtain ⟨rfl, ht, -⟩ := LocalJournal.reschedules henv hat.delivery hat.unconfirmed hexec
      have hst : journalLts.step j₁ ⟨env, .updateDeliveryRetry e s.deliveryRevision next,
        .updated⟩ j₂ := hexec
      have hretry : shouldRetry sendErr (i32Wrap (s₀.attemptCount + 1)) = true := hretry
      rw [hattempts] at hretry
      have hagain : RetryLeft (errors e) := by
        rw [herrors]
        exact hleft.snoc hretry
      have hrow : s.attemptCount = (errors e).length := by omega
      refine answered (hat.settledPut hst ht hrow (fun _ => hagain) hbound) ?_
      intro j₀ hj₀
      refine ⟨_, _, h.first j₀ hj₀, ht.self, rfl, rfl, hcount, ?_⟩
      exact congrArg (· + 1) h.revision
    · exact hblock _
  · exact hblock _

/-- After a failed send: the attempt is put on record. -/
theorem recordFailure_answered (h : Attending C before e v s s j errors)
    {earlier : List SendError} {sendErr : SendError} (herrors : errors e = earlier ++ [sendErr])
    (hearlier : s.attemptCount = earlier.length) (hleft : RetryLeft earlier)
    {routing : RoutingResolution} :
    (retryTracking C before).SafeProg (.attemptDelivery e) j errors
      (svc.recordFailure e (v.candidate s) routing sendErr) := by
  refine Tracking.safeProg_clock ?_
  rintro j₁ nowMs hmoved₁ -
  refine Tracking.safeProg_journal ?_
  rintro j₂ env r j₃ hmoved₂ hexec ⟨-, henv⟩
  have hat := (h.moved hmoved₁).moved hmoved₂
  obtain ⟨rfl, henvelope, s', hs', ht, hstatus, hrev, hcount⟩ := LocalJournal.records henv
    hat.envelope hat.delivery hat.healthy (hearlier ▸ hleft.fits) hexec
  have hst : journalLts.step j₂ ⟨env, .recordDeliveryAttempt
    (svc.failedAttempt e (v.candidate s) routing sendErr nowMs), .updated⟩ j₃ := hexec
  have hrecorded : Attending C before e v s s' j₃ errors := {
    reachable := hat.reachable.run (Lts.Run.nil.snoc hst)
    others := hat.othersPut ht
    envelope := by
      rw [henvelope]
      exact hat.envelope
    delivery := ⟨ht.self, hs'.verifies⟩
    unconfirmed := hstatus.symm ▸ hat.unconfirmed
    unblocked := hstatus.symm ▸ hat.unblocked
    first := h.first
    revision := hrev }
  exact retryOrBlock_answered hrecorded hcount herrors hearlier hleft

/-- After a successful send: the event is confirmed, or its row left as it was. -/
theorem confirmSent_answered (h : Attending C before e v s s j errors)
    (hcount : s.attemptCount = (errors e).length) (hleft : RetryLeft (errors e))
    {routing : RoutingResolution} {success : SendSuccess} :
    (retryTracking C before).SafeProg (.attemptDelivery e) j errors
      (svc.confirmSent e (v.candidate s) routing success) := by
  refine Tracking.safeProg_journal ?_
  rintro j₁ env r j₂ hmoved hexec -
  have hat := h.moved hmoved
  have hst : journalLts.step j₁ ⟨env, _, r⟩ j₂ := hexec
  have hconfirm := LocalJournal.write_eq_some hexec
  rcases (confirmReplicatedDelivery_step hconfirm).confirmed_cases with
    ⟨-, hrows, -⟩ | ⟨rfl, s₁, hs₁, -, ht, -⟩
  · have hrow : j₂.db.deliveryState.find? e = some s.toRow := by
      rw [hrows]
      exact hat.delivery.row
    have hsettled : j₂.Settled errors :=
      ⟨hat.reachable.run (Lts.Run.nil.snoc hst), fun e' =>
        ((hat.settled hcount hleft).rows e').congr (by rw [hrows])⟩
    cases r with
    | updated => exact answered hsettled fun _ _ => trivial
    | alreadyConfirmed => exact answered hsettled fun _ _ => trivial
    | _ => exact answered hsettled fun j₀ hj₀ => .error_of_row (h.first j₀ hj₀) hrow
  · cases DeliveryStateRecord.toRow_injective
      (Option.some.inj (hat.delivery.row.symm.trans hs₁.row))
    exact answered (hat.settledPut hst ht hcount (fun _ => hleft) (Int.le_of_lt hleft.1))
      fun _ _ => trivial

/-- The one send is for the open row that was read. -/
theorem sendPayload_answered (h : Attending C before e v s s j errors)
    (hcount : s.attemptCount = (errors e).length) (hleft : RetryLeft (errors e))
    {routing : RoutingResolution} :
    (retryTracking C before).SafeProg (.attemptDelivery e) j errors
      (svc.sendPayload e (v.candidate s) routing) := by
  refine Tracking.safeProg_journal ?_
  rintro j₁ env r j₂ hmoved hexec -
  obtain ⟨rfl, -⟩ := LocalJournal.read_eq_some hexec
  have hat := h.moved hmoved
  have hunread : ∀ {svc' : DeliveryService} {message : String},
      (retryTracking C before).SafeProg (.attemptDelivery e) _ errors
        (.done (svc', .error message)) :=
    answered (hat.settled hcount hleft) fun j₀ hj₀ =>
      .error_of_row (h.first j₀ hj₀) hat.delivery.row
  cases r with
  | found payload =>
      refine Tracking.safeProg_send ?_ ?_
      · rintro j₂ r hmoved₂ -
        have hat := hat.moved hmoved₂
        cases r with
        | ok success => exact confirmSent_answered hat hcount hleft
        | error sendErr =>
            refine recordFailure_answered (hat.charged fun e' he => ?_) ?_ hcount hleft
            · exact if_neg (Ne.symm he)
            · exact if_pos rfl
      · intro j₂ hmoved₂
        have hat := hat.moved hmoved₂
        exact ⟨(hat.settled hcount hleft).rows e, _, hat.delivery.row, hat.unconfirmed,
          hat.unblocked⟩
  | _ => exact hunread

/-- A candidate that was found. What the method does not write it leaves to the clients. -/
theorem deliverCandidate_answered (h : j.Settled errors)
    (hbegan : ∀ j₀, before j₀ → j₀.MovedBy C j) (hv : j.db.storedEnvelope.find? e = some v)
    (hs : j.db.HasDelivery e s) :
    (retryTracking C before).SafeProg (.attemptDelivery e) j errors
      (svc.deliverCandidate e (v.candidate s)) := by
  unfold DeliveryService.deliverCandidate
  split
  · exact answered h fun _ _ => trivial
  unfold DeliveryService.deliverAllowed
  simp only
  split
  · split
    · exact answered h fun _ _ => trivial
    · exact answered h fun j₀ hj₀ => .error_of_moved (hbegan j₀ hj₀)
  rename_i hunconfirmed
  split
  · rename_i hblocked
    obtain ⟨⟨reason, hreason, -⟩, -⟩ := hs.verifies.shape.2.2.2 hblocked
    have hanswer : (v.candidate s).deliveryState.blockedReason.getD "delivery blocked" =
        reason := congrArg (·.getD "delivery blocked") hreason
    rw [hanswer]
    exact answered h fun _ _ => ⟨_, hs.row, hblocked, hreason⟩
  rename_i hunblocked
  have hat : Attending C before e v s s j errors := {
    reachable := h.reachable
    others := fun e' _ => h.rows e'
    envelope := hv
    delivery := hs
    unconfirmed := hunconfirmed
    unblocked := hunblocked
    first := fun j₀ hj₀ => (hbegan j₀ hj₀).rowBefore hs.row
    revision := rfl }
  have hcount := (h.rows e).counted _ hs.row
  have hleft := (h.rows e).retries _ hs.row hunblocked
  split
  · exact blockAndMark_answered hat hcount (Int.le_of_lt hleft.1)
  · exact sendPayload_answered hat hcount hleft

theorem attemptDelivery_answered (h : j.Settled errors)
    (hbegan : ∀ j₀, before j₀ → j₀.MovedBy C j) :
    (retryTracking C before).SafeProg (.attemptDelivery e) j errors (svc.attemptDelivery e) := by
  unfold DeliveryService.attemptDelivery
  split
  · exact answered h fun j₀ hj₀ => .error_of_moved (hbegan j₀ hj₀)
  refine Tracking.safeProg_journal ?_
  rintro j₁ env r j₂ hmoved hexec -
  obtain ⟨rfl, hload⟩ := LocalJournal.read_eq_some hexec
  have hbegan := fun j₀ hj₀ => (hbegan j₀ hj₀).trans hmoved
  cases r with
  | found candidate =>
      obtain ⟨hstate, -, v, hv, -, hdesc⟩ := loadDeliveryCandidate_found_iff.mp hload
      obtain ⟨-, hrow, hver⟩ := loadDeliveryState_found_iff.mp hstate
      show (retryTracking C before).SafeProg (.attemptDelivery e) _ errors
        (svc.deliverCandidate e candidate)
      rw [hdesc.eq_candidate]
      exact deliverCandidate_answered (h.moved hmoved) hbegan hv ⟨hrow, hver⟩
  | _ => exact answered (h.moved hmoved) fun j₀ hj₀ => .error_of_moved (hbegan j₀ hj₀)

/-- A recovery reads, and changes the gate alone. -/
theorem recover_settled (h : j.Settled errors) :
    (retryTracking C before).SafeProg .recover j errors svc.recover := by
  refine Tracking.safeProg_journal ?_
  rintro j₁ env r j₂ hmoved hexec -
  obtain ⟨rfl, -⟩ := LocalJournal.read_eq_some hexec
  have hsettled := h.moved hmoved
  cases r <;> exact Tracking.safeProg_done hsettled fun _ _ => trivial

end DeliveryService

theorem retryTracking_sound (C : Clients) (before : LocalJournal → Prop) :
    (retryTracking C before).Sound where
  others := by
    rintro w errors ev w' hev hst hadm
    cases hst with
    | client hj =>
        rename_i jev j'
        refine ⟨rfl, [jev], Lts.Run.nil.snoc hj, ?_⟩
        intro ev hev
        rw [List.mem_singleton.mp hev]
        exact hadm
    | install => exact absurd (congrArg some hadm.1) hev
    | call => exact absurd (congrArg some hadm.1) hev
    | journal => exact absurd (congrArg some hadm.1) hev
    | send => exact absurd (congrArg some hadm) hev
    | clock => exact absurd (congrArg some hadm) hev
    | «return» => exact absurd (congrArg some hadm) hev
  install _ _ _ hadm := hadm.2
  call := by
    rintro j errors c svc ⟨-, hbegan⟩ hidle
    cases c with
    | attemptDelivery e => exact DeliveryService.attemptDelivery_answered hidle hbegan
    | recover => exact DeliveryService.recover_settled hidle
    | shutdown => exact Tracking.safeProg_done hidle fun _ _ => trivial

end CraftRelay
