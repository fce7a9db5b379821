import CraftRelay.Delivery.Tracking
import CraftRelay.Delivery.Progress

/-!
# The in-flight mark

`attempt_delivery` marks its event in flight before the send. A confirmation,
made or refused, takes the mark back; after a failed send only the end of the
method does, and the method gets there when the attempt and the retry or block
that follows it are persisted. The two early returns in between leave the mark,
and with it the gate at the event's own sequence.
-/

namespace CraftRelay

/-! ## Gates at rest -/

/-- No stream has a sequence in flight. -/
def OrderingGate.AtRest (gate : OrderingGate) : Prop := ∀ k, (gate.entry k).inFlight = none

namespace OrderingGate

variable {gate : OrderingGate} {k : String} {n : Int}

/-- A gate at rest does not hold an event back for the event itself. -/
theorem AtRest.check_ne_own (h : gate.AtRest) : gate.check k n ≠ .blocked n := by
  rw [check_of_idle (h k)]
  split
  · simp
  · rename_i hn
    simpa using Ne.symm hn

theorem AtRest.modify (h : gate.AtRest) {f : StreamGateState → StreamGateState}
    (hf : (f (gate.entry k)).inFlight = none) : (gate.modify k f).AtRest := by
  intro k'
  rw [entry_modify]
  split
  · exact hf
  · exact h k'

theorem AtRest.markBlocking (h : gate.AtRest) : (gate.markBlocking k n).AtRest := by
  refine h.modify ?_
  simp [h k]

theorem AtRest.markCompleted (h : gate.AtRest) : (gate.markCompleted k n).AtRest := by
  refine h.modify ?_
  simp [h k]

/-- A mark that takes its own event out of flight brings a gate back to rest. -/
theorem AtRest.backToRest (h : gate.AtRest) {f : StreamGateState → StreamGateState}
    (hf : ∀ state, state.inFlight = some n → (f state).inFlight = none) :
    ((gate.markInFlight k n).modify k f).AtRest := by
  intro k'
  rw [entry_modify]
  by_cases hk : k = k'
  · rw [if_pos hk]
    refine hf _ ?_
    rw [OrderingGate.markInFlight, entry_modify, if_pos rfl]
  · rw [if_neg hk, OrderingGate.markInFlight, entry_modify, if_neg hk]
    exact h k'

theorem AtRest.failed (h : gate.AtRest) : ((gate.markInFlight k n).markBlocking k n).AtRest :=
  h.backToRest fun state hfl => by simp [hfl]

theorem AtRest.sent (h : gate.AtRest) : ((gate.markInFlight k n).markCompleted k n).AtRest :=
  h.backToRest fun state hfl => by simp [hfl]

theorem atRest_new : new.AtRest := fun _ => rfl

/-- Recovery puts nothing in flight. -/
theorem atRest_recoverFromScan (gate : OrderingGate) {states : List RecoveredStreamState}
    (h : ∀ p ∈ states, p.inFlight = false) : (gate.recoverFromScan states).AtRest := by
  unfold recoverFromScan
  induction states using List.reverseRecOn with
  | nil => exact atRest_new
  | append_singleton states p ih =>
      rw [List.foldl_append, List.foldl_cons, List.foldl_nil]
      have hrest := ih fun q hq => h q (List.mem_append_left _ hq)
      refine hrest.modify ?_
      have hp := h p (by simp)
      show (if p.inFlight then _ else _) = _
      rw [hp]
      exact hrest p.streamKey

end OrderingGate

/-! ## Failures that are persisted -/

variable [Sha256]

/-- The calls after a failed send go through: their statements are executed on a
row that verifies, and the revision that is updated is still the current one of a
delivery that is not confirmed. -/
def CallEnv.Persists (env : CallEnv) (db : Db) (call : JournalCall) : Prop :=
  match call with
  | .recordDeliveryAttempt attempt =>
      env.Executes call ∧ ∃ s, db.HasDelivery attempt.eventId s
  | .updateDeliveryRetry eventId rev _ =>
      env.Executes call ∧ ∃ s, db.HasDelivery eventId s ∧ s.deliveryRevision = rev ∧
        s.deliveryStatus ≠ "REPLICATED"
  | .blockDelivery eventId rev _ =>
      env.Executes call ∧ ∃ s v l, db.HasDelivery eventId s ∧ db.HasStatus eventId v l ∧
        s.deliveryRevision = rev ∧ s.deliveryStatus ≠ "REPLICATED"
  | _ => True

section Persists

variable {env : CallEnv} {j j' : LocalJournal} {e : String} {rev : Int} {r : CasResult}

theorem CallEnv.Persists.attempt {attempt : DeliveryAttemptRecord}
    (h : env.Persists j.db (.recordDeliveryAttempt attempt))
    (hv : (j.db.storedEnvelope.find? attempt.eventId).isSome)
    (hexec : j.exec env (.recordDeliveryAttempt attempt) = some (j', r)) : r = .updated := by
  obtain ⟨henv, s, hs⟩ := h
  obtain ⟨t, log, hupd, -⟩ := recordDeliveryAttempt_of_found henv hs hv
  have hexec := LocalJournal.write_eq_some hexec
  rw [hupd] at hexec
  exact (Prod.mk.inj hexec).2.symm

theorem CallEnv.Persists.retry {next : Int}
    (h : env.Persists j.db (.updateDeliveryRetry e rev next))
    (hexec : j.exec env (.updateDeliveryRetry e rev next) = some (j', r)) : r = .updated := by
  obtain ⟨henv, s, hs, rfl, hstatus⟩ := h
  obtain ⟨t, hupd, -⟩ := updateDeliveryRetry_of_current henv hs hstatus
  have hexec := LocalJournal.write_eq_some hexec
  rw [hupd] at hexec
  exact (Prod.mk.inj hexec).2.symm

theorem CallEnv.Persists.block {reason : String}
    (h : env.Persists j.db (.blockDelivery e rev reason))
    (hexec : j.exec env (.blockDelivery e rev reason) = some (j', r)) : r = .updated := by
  obtain ⟨henv, s, v, l, hs, hst, rfl, hstatus⟩ := h
  obtain ⟨t, t', hupd, -⟩ := blockDelivery_of_current henv hs hst hstatus
  have hexec := LocalJournal.write_eq_some hexec
  rw [hupd] at hexec
  exact (Prod.mk.inj hexec).2.symm

end Persists

/-- Whether the last send of service `i` in the method it is in failed. -/
def WorldEvent.sendFailed (i : Nat) (failed : Bool) : WorldEvent → Bool
  | .call k _ => if k = i then false else failed
  | .send k _ (.ok _) => if k = i then false else failed
  | .send k _ (.error _) => if k = i then true else failed
  | _ => failed

/-- What service `i` journals after a failed send goes through. -/
def FailuresPersisted (i : Nat) (w : World) (tr : List WorldEvent) : Prop :=
  ∀ tr₁ ev tr₂ w₁, tr = tr₁ ++ .journal i ev :: tr₂ → worldLts.Run w tr₁ w₁ →
    tr₁.foldl (WorldEvent.sendFailed i) false = true → ev.env.Persists w₁.journal.db ev.call

/-- An event is not held back for itself. -/
def HeldPost (j : LocalJournal) : (c : ServiceCall) → c.Reply → Prop
  | .attemptDelivery e, out => ∀ n v, out = .gateHeld n →
      j.db.storedEnvelope.find? e = some v → v.streamSequence ≠ n
  | .recover, _ => True
  | .shutdown, _ => True

/-- Calls of any parties lead from one state to the other. -/
def LocalJournal.LeadsTo (j j' : LocalJournal) : Prop := ∃ tr, journalLts.Run j tr j'

/-- Service `i` among any others, with its failures persisted. -/
def flightTracking (i : Nat) : Tracking Bool where
  thread := i
  next := WorldEvent.sendFailed i
  admits j failed ev _ := ∀ jev, ev = .journal i jev → failed = true →
    jev.env.Persists j.db jev.call
  rely := LocalJournal.LeadsTo
  idle _ _ svc := svc.gate.AtRest
  post := HeldPost
  refl _ := ⟨[], .nil⟩
  trans := by
    rintro a b c ⟨tr, h⟩ ⟨tr', h'⟩
    exact ⟨tr ++ tr', h.append h'⟩
  stable _ _ _ _ h _ := h

theorem flightTracking_call (i : Nat) (failed : Bool) (c : ServiceCall) :
    (flightTracking i).next failed (.call (flightTracking i).thread c) = false := if_pos rfl

theorem flightTracking_failed (i : Nat) (failed : Bool) (request : SendRequest)
    (sendErr : SendError) :
    (flightTracking i).next failed
      (.send (flightTracking i).thread request (.error sendErr)) = true := if_pos rfl

namespace DeliveryService

variable {i : Nat} {e : String} {j : LocalJournal} {svc : DeliveryService} {failed : Bool}
  {candidate : DeliveryCandidate}

/-- The method ends with its gate at rest, and not held. -/
theorem finish_atRest {out : DeliveryOutcome} (hrest : svc.gate.AtRest)
    (hout : ∀ n, out ≠ .gateHeld n) :
    (flightTracking i).SafeProg (.attemptDelivery e) j failed (.done (svc, out)) :=
  Tracking.safeProg_done hrest fun _ _ n _ h => absurd h (hout n)

/-- A block is persisted after a failed send, or finds the gate at rest before any. -/
theorem blockAndMark_atRest {streamKey reason : String} {streamSequence rev : Int}
    (hrest : failed = false → svc.gate.AtRest)
    (hmark : (svc.gate.markBlocking streamKey streamSequence).AtRest) :
    (flightTracking i).SafeProg (.attemptDelivery e) j failed
      (svc.blockAndMark e streamKey streamSequence rev reason) := by
  refine Tracking.safeProg_journal ?_
  intro j' env r j'' _ hexec hadm
  cases failed with
  | true =>
      obtain rfl := (hadm _ rfl rfl).block hexec
      exact finish_atRest hmark (by simp)
  | false =>
      cases r with
      | updated => exact finish_atRest hmark (by simp)
      | _ => exact finish_atRest (hrest rfl) (by simp [persistenceFailed])

theorem confirmSent_atRest {routing : RoutingResolution} {success : SendSuccess}
    (hmark : (svc.gate.markBlocking candidate.streamKey candidate.streamSequence).AtRest)
    (hdone : (svc.gate.markCompleted candidate.streamKey candidate.streamSequence).AtRest) :
    (flightTracking i).SafeProg (.attemptDelivery e) j failed
      (svc.confirmSent e candidate routing success) := by
  refine Tracking.safeProg_journal ?_
  intro j' env r j'' _ _ _
  cases r with
  | updated => exact finish_atRest hdone (by simp)
  | alreadyConfirmed => exact finish_atRest hdone (by simp)
  | _ => exact finish_atRest hmark (by simp)

theorem retryOrBlock_atRest {sendErr : SendError} {nowMs : Int}
    (hmark : (svc.gate.markBlocking candidate.streamKey candidate.streamSequence).AtRest) :
    (flightTracking i).SafeProg (.attemptDelivery e) j true
      (svc.retryOrBlock e candidate sendErr nowMs) := by
  unfold DeliveryService.retryOrBlock
  simp only
  split
  · split
    · refine Tracking.safeProg_journal ?_
      intro j' env r j'' _ hexec hadm
      obtain rfl := (hadm _ rfl rfl).retry hexec
      exact finish_atRest hmark (by simp)
    · exact blockAndMark_atRest (by simp) hmark
  · exact blockAndMark_atRest (by simp) hmark

theorem recordFailure_atRest {routing : RoutingResolution} {sendErr : SendError}
    {v : StoredEnvelope} (hv : j.db.storedEnvelope.find? e = some v)
    (hmark : (svc.gate.markBlocking candidate.streamKey candidate.streamSequence).AtRest) :
    (flightTracking i).SafeProg (.attemptDelivery e) j true
      (svc.recordFailure e candidate routing sendErr) := by
  refine Tracking.safeProg_clock ?_
  rintro j₁ nowMs ⟨tr₁, hrun₁⟩ -
  refine Tracking.safeProg_journal ?_
  rintro j₂ env r j₃ ⟨tr₂, hrun₂⟩ hexec hadm
  have hv₂ := journalRun_keepsEnvelope hrun₂ (journalRun_keepsEnvelope hrun₁ hv)
  obtain rfl := (hadm _ rfl rfl).attempt (Option.isSome_iff_exists.mpr ⟨v, hv₂⟩) hexec
  exact retryOrBlock_atRest hmark

theorem sendPayload_atRest {routing : RoutingResolution} {v : StoredEnvelope}
    (hv : j.db.storedEnvelope.find? e = some v) (hrest : svc.gate.AtRest) :
    (flightTracking i).SafeProg (.attemptDelivery e) j failed
      (svc.sendPayload e candidate routing) := by
  refine Tracking.safeProg_journal ?_
  rintro j₁ env r j₂ ⟨tr₁, hrun₁⟩ hexec -
  have hst : journalLts.step j₁ ⟨env, .readVerifiedPayload e, r⟩ j₂ := hexec
  have hv₂ := journalRun_keepsEnvelope (hrun₁.snoc hst) hv
  cases r with
  | found payload =>
      refine Tracking.safeProg_send ?_
      rintro j₃ r ⟨tr₃, hrun₃⟩ -
      cases r with
      | ok success => exact confirmSent_atRest hrest.failed hrest.sent
      | error sendErr =>
          rw [flightTracking_failed]
          exact recordFailure_atRest (journalRun_keepsEnvelope hrun₃ hv₂) hrest.failed
  | _ => exact finish_atRest hrest.markBlocking (by simp)

theorem deliverCandidate_atRest {v : StoredEnvelope}
    (hv : j.db.storedEnvelope.find? e = some v)
    (hseq : candidate.streamSequence = v.streamSequence) (hrest : svc.gate.AtRest) :
    (flightTracking i).SafeProg (.attemptDelivery e) j false
      (svc.deliverCandidate e candidate) := by
  unfold DeliveryService.deliverCandidate
  split
  · -- held back: the gate is at rest, so not for this event
    rename_i n hgate
    refine Tracking.safeProg_done hrest ?_
    rintro j' ⟨tr, hrun⟩ m v' ⟨⟩ hv'
    rw [journalRun_keepsEnvelope hrun hv] at hv'
    cases hv'
    rintro rfl
    rw [hseq] at hgate
    exact hrest.check_ne_own hgate
  unfold DeliveryService.deliverAllowed
  simp only
  split
  · split
    · exact finish_atRest hrest.markCompleted (by simp)
    · exact finish_atRest hrest (by simp)
  split
  · exact finish_atRest hrest.markBlocking (by simp)
  split
  · exact blockAndMark_atRest (fun _ => hrest) hrest.markBlocking
  · exact sendPayload_atRest hv hrest

theorem attemptDelivery_atRest (hrest : svc.gate.AtRest) :
    (flightTracking i).SafeProg (.attemptDelivery e) j false (svc.attemptDelivery e) := by
  unfold DeliveryService.attemptDelivery
  split
  · exact finish_atRest hrest (by simp)
  refine Tracking.safeProg_journal ?_
  intro j₁ env r j₂ _ hexec _
  obtain ⟨rfl, hload⟩ := LocalJournal.read_eq_some hexec
  cases r with
  | found candidate =>
      obtain ⟨-, -, v, hv, -, hdesc⟩ := loadDeliveryCandidate_found_iff.mp hload
      exact deliverCandidate_atRest hv hdesc.streamSequence hrest
  | _ => exact finish_atRest hrest (by simp)

end DeliveryService

/-- The service keeps its gate at rest between its methods. -/
theorem flightTracking_sound (i : Nat) : (flightTracking i).Sound where
  others := by
    intro w failed ev w' hev hst _
    have hne : ∀ {k}, some k ≠ some i → k ≠ i := by
      rintro k h rfl
      exact h rfl
    have hrely : ∃ tr, journalLts.Run w.journal tr w'.journal :=
      worldRun_journal (Lts.Run.nil.snoc hst)
    refine ⟨?_, hrely⟩
    cases ev with
    | call k c => exact if_neg (hne hev)
    | send k request r => cases r <;> exact if_neg (hne hev)
    | _ => rfl
  install _ _ _ _ := OrderingGate.atRest_new
  call := by
    intro j failed c svc _ hrest
    rw [flightTracking_call]
    cases c with
    | attemptDelivery e => exact DeliveryService.attemptDelivery_atRest hrest
    | recover =>
        refine Tracking.safeProg_journal ?_
        intro j' env r j'' _ _ _
        cases r with
        | ok persisted =>
            refine Tracking.safeProg_done (svc.gate.atRest_recoverFromScan ?_)
              fun _ _ => trivial
            intro p hp
            obtain ⟨q, -, rfl⟩ := List.mem_map.mp hp
            rfl
        | _ => exact Tracking.safeProg_done hrest fun _ _ => trivial
    | shutdown => exact Tracking.safeProg_done hrest fun _ _ => trivial

/-- A new service whose failures are persisted is safe in every run. -/
theorem worldRun_atRest {i : Nat} {journal : LocalJournal}
    {profile : Nat → KafkaProductionProfile} {tr : List WorldEvent} {w : World}
    (hrun : worldLts.Run (World.start journal profile) tr w)
    (hfail : FailuresPersisted i (World.start journal profile) tr) :
    (flightTracking i).ThreadSafe w.journal (tr.foldl (WorldEvent.sendFailed i) false)
      (w.threads i) := by
  refine Tracking.thread_run (T := flightTracking i) (flightTracking_sound i) hrun
    OrderingGate.atRest_new ?_
  rintro tr₁ ev tr₂ w₁ w₂ htr hrun₁ - - jev rfl hfailed
  exact hfail tr₁ jev tr₂ w₁ htr hrun₁ hfailed

/-! ## Runs that leave the mark -/

omit [Sha256] in
/-- Before any send fails there is nothing to persist. -/
theorem sendFailed_of_none_failed {i : Nat} {tr : List WorldEvent}
    (h : ∀ request sendErr, .send i request (.error sendErr) ∉ tr) :
    tr.foldl (WorldEvent.sendFailed i) false = false := by
  induction tr using List.reverseRecOn with
  | nil => rfl
  | append_singleton tr ev ih =>
      have hpre := ih fun request sendErr hmem => h request sendErr (List.mem_append_left _ hmem)
      rw [List.foldl_append, hpre, List.foldl_cons, List.foldl_nil]
      cases ev with
      | call k c => exact ite_self false
      | send k request r =>
          cases r with
          | ok success => exact ite_self false
          | error sendErr =>
              refine if_neg ?_
              rintro rfl
              exact h request sendErr (by simp)
      | _ => rfl

theorem FailuresPersisted.of_none_failed {i : Nat} {w : World} {tr : List WorldEvent}
    (h : ∀ request sendErr, .send i request (.error sendErr) ∉ tr) :
    FailuresPersisted i w tr := by
  intro tr₁ ev tr₂ w₁ htr _ hfailed
  rw [sendFailed_of_none_failed] at hfailed
  · cases hfailed
  · intro request sendErr hmem
    refine h request sendErr ?_
    rw [htr]
    exact List.mem_append_left _ hmem

/-- The attempt cannot be recorded. -/
def CallEnv.attemptBlocked (nowMs : Int) : CallEnv where
  nowMs := nowMs
  diskSafe := true
  fault s := if s = .insertDeliveryAttempt then some "attempt persistence blocked" else none

theorem recordDeliveryAttempt_attemptBlocked {db : Db} {attempt : DeliveryAttemptRecord}
    {s : DeliveryStateRecord} (hs : db.HasDelivery attempt.eventId s) (nowMs : Int) :
    recordDeliveryAttempt (.attemptBlocked nowMs) db attempt =
      (db, .error "attempt persistence blocked") := by
  have hload := DeliveryStateResult.orReturn_eq_ok.mpr
    (hs.found (show (CallEnv.attemptBlocked nowMs).fault .selectDeliveryState = none from rfl))
  unfold recordDeliveryAttempt
  rw [CallEnv.exec_of_none _ rfl, hload]
  rfl

theorem worldStep_clock {w : World} {i : Nat} {c : ServiceCall} {k : Int → ServiceProg c.Reply}
    (nowMs : Int) :
    worldLts.step (w.setThread i (.running c (.op .clock k))) (.clock i nowMs)
      (w.setThread i (.running c (k nowMs))) := by
  have hst := World.Step.clock (w := w.setThread i (.running c (.op .clock k))) nowMs
    (w.setThread_self i _)
  have heq := World.setThread_setThread w w.journal i (.running c (.op .clock k))
    (.running c (k nowMs))
  exact heq ▸ hst

section Runs

variable {w : World} {i : Nat} {svc : DeliveryService} {e : String} {v : StoredEnvelope}
  {s : DeliveryStateRecord} {env : CallEnv}

/-- A failure that cannot be recorded ends the method with the gate as it is. -/
theorem worldRun_recordFailure_blocked {candidate : DeliveryCandidate}
    {routing : RoutingResolution} {sendErr : SendError} (hs : w.journal.db.HasDelivery e s)
    (nowMs : Int) :
    ∃ tr, worldLts.Run
      (w.setThread i (.running (.attemptDelivery e)
        (svc.recordFailure e candidate routing sendErr))) tr (w.setThread i (.idle svc)) := by
  have hrow : w.journal.db.HasDelivery
      (svc.failedAttempt e candidate routing sendErr nowMs).eventId s := hs
  have hexec : w.journal.exec (.attemptBlocked nowMs)
      (.recordDeliveryAttempt (svc.failedAttempt e candidate routing sendErr nowMs)) =
      some (w.journal, .error "attempt persistence blocked") :=
    congrArg w.journal.write (recordDeliveryAttempt_attemptBlocked hrow nowMs)
  have hclock : worldLts.step (w.setThread i (.running (.attemptDelivery e)
      (svc.recordFailure e candidate routing sendErr))) (.clock i nowMs) _ :=
    worldStep_clock (w := w) (c := .attemptDelivery e) nowMs
  have hreturn : worldLts.step (w.setThread i (.running (.attemptDelivery e) (.done (svc,
      DeliveryService.persistenceFailed "attempt" (.error "attempt persistence blocked"))))) _ _ :=
    worldStep_return
  exact ⟨_, ((Lts.Run.nil.snoc hclock).snoc (worldStep_journal hexec)).snoc hreturn⟩

/-- A ready event whose send times out and whose attempt cannot be recorded stays in
flight. -/
theorem DeliveryService.Ready.leavesMark {routing : RoutingResolution}
    (h : svc.Ready w.journal.db e v s routing) (hc : w.journal.db.Consistent)
    (henv : env.Faultless) (hidle : w.threads i = .idle svc) (nowMs : Int) :
    ∃ tr, worldLts.Run w tr (w.setThread i
      (.idle (svc.withGate (svc.gate.markInFlight v.streamKey v.streamSequence)))) := by
  obtain ⟨payload, happroach⟩ := h.approach hc henv hidle
  have hsend : worldLts.step
      (w.setThread i (.running (.attemptDelivery e)
        (svc.sendInFlight e (v.candidate s) routing payload))) _
      (w.setThread i (.running (.attemptDelivery e)
        ((svc.withGate (svc.gate.markInFlight v.streamKey v.streamSequence)).recordFailure
          e (v.candidate s) routing .timeout))) :=
    worldStep_send (w := w) (c := .attemptDelivery e) (.error .timeout)
  obtain ⟨tr, hrest⟩ := worldRun_recordFailure_blocked h.delivery nowMs
  exact ⟨_, (happroach.snoc hsend).append hrest⟩

/-- A candidate the gate holds back is answered at once. -/
theorem worldRun_gateHeld {n : Int} (hidle : w.threads i = .idle svc)
    (hsvc : svc.shutdown = false) (hs : w.journal.db.HasDelivery e s)
    (hv : w.journal.db.storedEnvelope.find? e = some v) (hver : v.Verifies)
    (henv : env.Faultless)
    (hgate : svc.gate.check v.streamKey v.streamSequence = .blocked n) :
    ∃ tr w', worldLts.Run w tr w' ∧ w'.journal = w.journal ∧
      worldLts.step w' (.return i (.attemptDelivery e) (.gateHeld n))
        (w.setThread i (.idle svc)) := by
  have hfound := StoredEnvelope.candidate_found henv hs hv hver
  have hprogram : svc.attemptDelivery e =
      .op (.journal (.getDeliveryCandidate e)) (svc.resolveCandidate e) := by
    unfold DeliveryService.attemptDelivery
    rw [hsvc]
    rfl
  have hcall : worldLts.step w (.call i (.attemptDelivery e))
      (w.setThread i (.running (.attemptDelivery e)
        (.op (.journal (.getDeliveryCandidate e)) (svc.resolveCandidate e)))) := by
    rw [← hprogram]
    exact World.Step.call hidle
  have hread : w.journal.exec env (.getDeliveryCandidate e) =
      some (w.journal, .found (v.candidate s)) :=
    congrArg (fun r => some (w.journal, r)) hfound
  have hjournal := worldStep_journal (w := w) (i := i) (c := .attemptDelivery e)
    (k := svc.resolveCandidate e) hread
  have hheld : svc.resolveCandidate e (.found (v.candidate s)) = .done (svc, .gateHeld n) := by
    show svc.deliverCandidate e (v.candidate s) = _
    unfold DeliveryService.deliverCandidate
    rw [show svc.gate.check (v.candidate s).streamKey (v.candidate s).streamSequence = .blocked n
      from hgate]
  rw [hheld] at hjournal
  exact ⟨_, _, (Lts.Run.nil.snoc hcall).snoc hjournal, rfl, worldStep_return⟩

end Runs

end CraftRelay
