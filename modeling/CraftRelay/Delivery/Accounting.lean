import CraftRelay.Delivery.OneService

/-!
# Errors and rows

What the delivery rows say about the sends of a run. One service at a time writes the
rows, and each failed send is charged to its event: whenever the service is at rest
the attempt count of a row is the number of errors charged to the event, and a row
that is not blocked still has retries left (`Settled`). An answer of `attempt_delivery`
is compared with the row it leaves (`Reported`). Clients may create rows meanwhile;
neither notion is disturbed by it.
-/

namespace CraftRelay

/-! ## Errors of a run -/

/-- The error the send of the event was answered with. -/
def WorldEvent.sendError? (e : String) : WorldEvent → Option SendError
  | .send _ request (.error sendErr) => if request.eventId = e then some sendErr else none
  | _ => none

/-- The errors the sends of the event were answered with, oldest first. -/
def sendErrors (tr : List WorldEvent) (e : String) : List SendError :=
  tr.filterMap (WorldEvent.sendError? e)

/-- Charge a failed send to its event. -/
def chargeError (errors : String → List SendError) : WorldEvent → String → List SendError
  | .send _ request (.error sendErr) => fun e =>
      if request.eventId = e then errors e ++ [sendErr] else errors e
  | _ => errors

theorem sendErrors_snoc (tr : List WorldEvent) (ev : WorldEvent) :
    sendErrors (tr ++ [ev]) = chargeError (sendErrors tr) ev := by
  funext e
  unfold sendErrors
  rw [Lts.filterMap_snoc]
  cases ev with
  | send i request r =>
      cases r with
      | ok success => simp [WorldEvent.sendError?, chargeError]
      | error sendErr =>
          simp only [WorldEvent.sendError?, chargeError]
          split <;> simp
  | _ => simp [WorldEvent.sendError?, chargeError]

theorem sendErrors_append (tr tr' : List WorldEvent) (e : String) :
    sendErrors (tr ++ tr') e = sendErrors tr e ++ sendErrors tr' e := List.filterMap_append

/-- After these errors the event may be sent again. -/
def RetryLeft (errors : List SendError) : Prop :=
  errors.length < maxRetryAttempts ∧ ∀ sendErr ∈ errors, sendErr.isRetriable = true

theorem retryLeft_nil : RetryLeft [] := by
  refine ⟨by decide, ?_⟩
  intro sendErr h
  cases h

/-- `should_retry` decides whether the newest error leaves a retry. -/
theorem RetryLeft.snoc {errors : List SendError} {sendErr : SendError} (h : RetryLeft errors)
    (hretry : shouldRetry sendErr (errors.length + 1) = true) :
    RetryLeft (errors ++ [sendErr]) := by
  unfold shouldRetry at hretry
  rw [Bool.and_eq_true, decide_eq_true_eq] at hretry
  refine ⟨?_, ?_⟩
  · rw [List.length_append, List.length_singleton, Int.natCast_add]
    exact hretry.2
  · intro sendErr' hmem
    rcases List.mem_append.mp hmem with hmem | hmem
    · exact h.2 _ hmem
    · rw [List.mem_singleton.mp hmem]
      exact hretry.1

/-- The count of an attempt that may still be made fits its column. -/
theorem RetryLeft.fits {errors : List SendError} (h : RetryLeft errors) :
    InI32 (errors.length + 1) := by
  have hlt : (errors.length : Int) < 32 := h.1
  unfold InI32
  omega

variable [Sha256]

/-- The row of the event counts the errors charged to it, and while it is not blocked
there are retries left. -/
structure Db.Settled (db : Db) (errors : List SendError) (e : String) : Prop where
  created : db.deliveryState.find? e = none → errors = []
  counted : ∀ d, db.deliveryState.find? e = some d → d.attemptCount = errors.length
  retries : ∀ d, db.deliveryState.find? e = some d → d.deliveryStatus ≠ "DELIVERY_BLOCKED" →
    RetryLeft errors
  bounded : errors.length ≤ maxRetryAttempts

omit [Sha256] in
theorem Db.Settled.of_row {db : Db} {errors : List SendError} {e : String} {d : DeliveryState}
    (hd : db.deliveryState.find? e = some d) (hcount : d.attemptCount = errors.length)
    (hretries : d.deliveryStatus ≠ "DELIVERY_BLOCKED" → RetryLeft errors)
    (hbound : errors.length ≤ maxRetryAttempts) : db.Settled errors e := by
  refine ⟨?_, ?_, ?_, hbound⟩
  · intro hnone
    cases hnone.symm.trans hd
  · intro d' hd'
    cases hd.symm.trans hd'
    exact hcount
  · intro d' hd' hblocked
    cases hd.symm.trans hd'
    exact hretries hblocked

omit [Sha256] in
/-- The row is all it is about. -/
theorem Db.Settled.congr {db db' : Db} {errors : List SendError} {e : String}
    (h : db.Settled errors e)
    (hrow : db'.deliveryState.find? e = db.deliveryState.find? e) : db'.Settled errors e := by
  refine ⟨?_, ?_, ?_, h.bounded⟩
  · rw [hrow]
    exact h.created
  · rw [hrow]
    exact h.counted
  · rw [hrow]
    exact h.retries

omit [Sha256] in
/-- Errors that leave no retry were charged to a row, which they left blocked. -/
theorem Db.Settled.blocked {db : Db} {errors : List SendError} {e : String}
    (h : db.Settled errors e)
    (hlast : (∃ sendErr ∈ errors, sendErr.isRetriable = false) ∨ errors.length = 32) :
    ∃ d, db.deliveryState.find? e = some d ∧ d.deliveryStatus = "DELIVERY_BLOCKED" := by
  have hno : ¬ RetryLeft errors := by
    rintro ⟨hlt, hretriable⟩
    rcases hlast with ⟨sendErr, hmem, hnot⟩ | hlength
    · rw [hretriable sendErr hmem] at hnot
      cases hnot
    · have hlt : (errors.length : Int) < 32 := hlt
      omega
  cases hd : db.deliveryState.find? e with
  | none =>
      rw [h.created hd] at hno
      exact absurd retryLeft_nil hno
  | some d =>
      refine ⟨d, rfl, ?_⟩
      by_contra hunblocked
      exact hno (h.retries d hd hunblocked)

/-! ## Clients -/

/-- What the clients may do: calls that leave the delivery rows there are alone. -/
structure Clients where
  may : JournalEvent → Prop
  spares : ∀ ev, may ev → ev.call.SparesRows

/-- Clients lead from one state to the other. -/
def LocalJournal.MovedBy (C : Clients) (j j' : LocalJournal) : Prop :=
  ∃ tr, journalLts.Run j tr j' ∧ ∀ ev ∈ tr, C.may ev

/-- The row of the event at `j`, or the one a client created since. -/
def Clients.RowBefore (C : Clients) (j : LocalJournal) (e : String) (d : DeliveryState) : Prop :=
  j.db.deliveryState.find? e = some d ∨
    j.db.deliveryState.find? e = none ∧ d.eventId = e ∧ ∃ ev, C.may ev ∧ ev.created? = some d

namespace LocalJournal.MovedBy

variable {C : Clients} {j j' j'' : LocalJournal} {e : String} {d : DeliveryState}

theorem refl (j : LocalJournal) : j.MovedBy C j := ⟨[], .nil, by simp⟩

theorem trans (h : j.MovedBy C j') (h' : j'.MovedBy C j'') : j.MovedBy C j'' := by
  obtain ⟨tr, hrun, hmay⟩ := h
  obtain ⟨tr', hrun', hmay'⟩ := h'
  refine ⟨tr ++ tr', hrun.append hrun', ?_⟩
  intro ev hev
  rcases List.mem_append.mp hev with hev | hev
  · exact hmay ev hev
  · exact hmay' ev hev

theorem reachable (h : j.MovedBy C j') (hreach : Reachable j) : Reachable j' := by
  obtain ⟨tr, hrun, -⟩ := h
  exact hreach.run hrun

theorem envelope (h : j.MovedBy C j') {v : StoredEnvelope}
    (hv : j.db.storedEnvelope.find? e = some v) : j'.db.storedEnvelope.find? e = some v := by
  obtain ⟨tr, hrun, -⟩ := h
  exact journalRun_keepsEnvelope hrun hv

/-- Clients keep the rows there are. -/
theorem row (h : j.MovedBy C j') (hd : j.db.deliveryState.find? e = some d) :
    j'.db.deliveryState.find? e = some d := by
  obtain ⟨tr, hrun, hmay⟩ := h
  refine hrun.invariant (P := fun j => j.db.deliveryState.find? e = some d) hmay hd ?_
  intro t ev u hev hrow hst
  exact ((journalStep_cases hst).spares_rows (C.spares ev hev)).1 e _ hrow

theorem delivery (h : j.MovedBy C j') {s : DeliveryStateRecord} (hs : j.db.HasDelivery e s) :
    j'.db.HasDelivery e s := ⟨h.row hs.row, hs.verifies⟩

/-- A row that is there afterwards was there before or is one they created. -/
theorem rowBefore (h : j.MovedBy C j') (hd : j'.db.deliveryState.find? e = some d) :
    C.RowBefore j e d := by
  obtain ⟨tr, hrun, hmay⟩ := h
  revert d
  refine (hrun.invariant
    (P := fun t => (∀ d, j.db.deliveryState.find? e = some d → t.db.deliveryState.find? e = some d)
      ∧ ∀ {d}, t.db.deliveryState.find? e = some d → C.RowBefore j e d) hmay
    ⟨fun _ hd => hd, fun hd => .inl hd⟩ ?_).2
  rintro t ev u hev ⟨hkeeps, hbefore⟩ hst
  obtain ⟨hkeeps', hnew⟩ := (journalStep_cases hst).spares_rows (C.spares ev hev)
  refine ⟨fun d hd => hkeeps' e d (hkeeps d hd), fun {d} hd => ?_⟩
  rcases hnew e d hd with hd | ⟨hnone, hcreated⟩
  · exact hbefore hd
  · cases hold : j.db.deliveryState.find? e with
    | none => exact .inr ⟨hold, KeyedTable.key_of_find? hd, ev, hev, hcreated⟩
    | some d' => cases hnone.symm.trans (hkeeps d' hold)

/-- No error is charged to a row that was just created. -/
theorem settled (h : j.MovedBy C j') {errors : List SendError} (hs : j.db.Settled errors e) :
    j'.db.Settled errors e := by
  cases hrow : j'.db.deliveryState.find? e with
  | none =>
      refine hs.congr ?_
      cases hold : j.db.deliveryState.find? e with
      | none => exact hrow
      | some d => cases hrow.symm.trans (h.row hold)
  | some d =>
      rcases h.rowBefore hrow with hold | ⟨hold, -, ev, -, hcreated⟩
      · exact hs.congr (hrow.trans hold.symm)
      · obtain ⟨eventId, fingerprint, profileId, profileVersion, topic, -, rfl⟩ :=
          JournalEvent.created?_eq_some hcreated
        rw [hs.created hold]
        exact .of_row hrow rfl (fun _ => retryLeft_nil) (by decide)

end LocalJournal.MovedBy

/-- Every event is settled. -/
structure LocalJournal.Settled (j : LocalJournal) (errors : String → List SendError) : Prop where
  reachable : Reachable j
  rows : ∀ e, j.db.Settled (errors e) e

theorem LocalJournal.Settled.moved {C : Clients} {j j' : LocalJournal}
    {errors : String → List SendError} (h : j.Settled errors) (hmoved : j.MovedBy C j') :
    j'.Settled errors := ⟨hmoved.reachable h.reachable, fun e => hmoved.settled (h.rows e)⟩

/-! ## Answers -/

/-- The row was scheduled for a retry, one attempt and one revision further. -/
structure DeliveryState.Rescheduled (d d' : DeliveryState) (nextRetryAtMs : Int) : Prop where
  status : d'.deliveryStatus = "DELIVERY_RETRYING"
  next : d'.nextRetryAtMs = some nextRetryAtMs
  attempts : d'.attemptCount = d.attemptCount + 1
  revision : d'.deliveryRevision = d.deliveryRevision + 1

/-- The answer of an attempt that began at `j₀` agrees with the row at `j`. -/
def Clients.Reported (C : Clients) (j₀ j : LocalJournal) (e : String) : DeliveryOutcome → Prop
  | .retrying nextRetryAtMs => ∃ d d', C.RowBefore j₀ e d ∧
      j.db.deliveryState.find? e = some d' ∧ d.Rescheduled d' nextRetryAtMs
  | .blocked reason => ∃ d, j.db.deliveryState.find? e = some d ∧
      d.deliveryStatus = "DELIVERY_BLOCKED" ∧ d.blockedReason = some reason
  | .error _ => (∀ d, j₀.db.deliveryState.find? e = some d →
      j.db.deliveryState.find? e = some d) ∧
      ∀ d, j.db.deliveryState.find? e = some d → C.RowBefore j₀ e d
  | _ => True

/-- An attempt that fails has left the row it read. -/
theorem Clients.Reported.error_of_row {C : Clients} {j₀ j : LocalJournal} {e : String}
    {d : DeliveryState} {message : String} (hbefore : C.RowBefore j₀ e d)
    (hrow : j.db.deliveryState.find? e = some d) : C.Reported j₀ j e (.error message) := by
  constructor
  · intro d' hd'
    rcases hbefore with hd | ⟨hnone, -⟩
    · cases hd.symm.trans hd'
      exact hrow
    · cases hnone.symm.trans hd'
  · intro d' hd'
    cases hrow.symm.trans hd'
    exact hbefore

/-- An attempt that wrote nothing has left the row to the clients. -/
theorem Clients.Reported.error_of_moved {C : Clients} {j₀ j : LocalJournal} {e message : String}
    (h : j₀.MovedBy C j) : C.Reported j₀ j e (.error message) :=
  ⟨fun _ hd => h.row hd, fun _ hd => h.rowBefore hd⟩

theorem Clients.Reported.moved {C : Clients} {j₀ j j' : LocalJournal} {e : String}
    {out : DeliveryOutcome} (h : C.Reported j₀ j e out) (hmoved : j.MovedBy C j') :
    C.Reported j₀ j' e out := by
  cases out with
  | retrying next =>
      obtain ⟨d, d', hbefore, hd', hnext⟩ := h
      exact ⟨d, d', hbefore, hmoved.row hd', hnext⟩
  | blocked reason =>
      obtain ⟨d, hd, hblocked⟩ := h
      exact ⟨d, hmoved.row hd, hblocked⟩
  | error message =>
      obtain ⟨hkeeps, hbefore⟩ := h
      refine ⟨fun d hd => hmoved.row (hkeeps d hd), fun d hd => ?_⟩
      rcases hmoved.rowBefore hd with hd | ⟨hnone, hid, ev, hev, hcreated⟩
      · exact hbefore d hd
      · cases hold : j₀.db.deliveryState.find? e with
        | none => exact .inr ⟨hold, hid, ev, hev, hcreated⟩
        | some d' => cases hnone.symm.trans (hkeeps d' hold)
  | replicated => trivial
  | gateHeld => trivial

end CraftRelay
