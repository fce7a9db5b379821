import CraftRelay.Delivery.Attending

/-!
# One service after another

Runs in which one service at a time writes the delivery rows. A new instance takes the
place of the old one between two of its methods, its statements are executed, and the
clients make any call but the four that write delivery rows. Along such a run the
account of errors is kept; within one call of `attempt_delivery` the operations of the
service are those of the program, one after the other.
-/

namespace CraftRelay

/-- The clients that make any call but those that write delivery rows. -/
def Clients.sparing : Clients := ⟨fun ev => ev.call.SparesRows, fun _ h => h⟩

/-- The clients of a trace. -/
def Clients.within (tr : List WorldEvent) : Clients :=
  ⟨fun ev => .client ev ∈ tr ∧ ev.call.SparesRows, fun _ h => h.2⟩

/-- A step of the one service there is, of a client that spares the delivery rows, or the
installation of a new instance between two methods. -/
def WorldEvent.Successive (w : World) : WorldEvent → Prop
  | .client ev => ev.call.SparesRows
  | .install i _ => i = 0 ∧ ∃ svc, w.threads 0 = .idle svc
  | .call i _ => i = 0
  | .journal i ev => i = 0 ∧ ev.env.Faultless
  | .send i _ _ => i = 0
  | .clock i _ => i = 0
  | .return i _ _ => i = 0

variable [Sha256]

def successiveLts : Lts World WorldEvent := worldLts.restrict fun w ev _ => ev.Successive w

/-! ## The account along a run -/

section Run

variable {config : JournalConfig} {profile : Nat → KafkaProductionProfile}
  {tr : List WorldEvent} {w w' : World}

/-- Whatever the service is doing, it will leave every event settled. -/
theorem successive_safe
    (hrun : successiveLts.Run (World.start (LocalJournal.open config) profile) tr w) :
    (retryTracking .sparing fun _ => False).ThreadSafe w.journal (sendErrors tr)
      (w.threads 0) := by
  induction hrun with
  | nil =>
      refine ⟨⟨config, [], .nil⟩, fun e => ⟨fun _ => rfl, ?_, ?_, Int.le_of_lt retryLeft_nil.1⟩⟩
      · intro d hd
        cases hd
      · intro d hd
        cases hd
  | snoc hrun hst ih =>
      rename_i tr w ev w'
      rw [sendErrors_snoc]
      refine Tracking.thread_step (retryTracking_sound _ _) hst.1 ?_ ih
      have hev : ev.Successive w := hst.2
      cases ev with
      | install i profile =>
          obtain ⟨hi, svc, hidle⟩ := hev
          rw [hidle] at ih
          exact ⟨hi, ih⟩
      | call i c => exact ⟨hev, fun _ h => absurd h id⟩
      | _ => exact hev

/-- A service at rest has left every event settled. -/
theorem successive_settled
    (hrun : successiveLts.Run (World.start (LocalJournal.open config) profile) tr w)
    {svc : DeliveryService} (hidle : w.threads 0 = .idle svc) :
    w.journal.Settled (sendErrors tr) := by
  have hsafe := successive_safe hrun
  rw [hidle] at hsafe
  exact hsafe

/-- What is sent is an event whose row is open and that has retries left. -/
theorem successive_send
    (hrun : successiveLts.Run (World.start (LocalJournal.open config) profile) tr w)
    {i : Nat} {request : SendRequest} {r : Except SendError SendSuccess}
    (hst : successiveLts.step w (.send i request r) w') :
    RetryLeft (sendErrors tr request.eventId) ∧
      ∃ d, w.journal.db.deliveryState.find? request.eventId = some d ∧
        d.deliveryStatus ≠ "REPLICATED" ∧ d.deliveryStatus ≠ "DELIVERY_BLOCKED" := by
  obtain ⟨hst, rfl⟩ := hst
  obtain ⟨hsettled, d, hd, hopen⟩ := (successive_safe hrun).send hst
  exact ⟨hsettled.retries d hd hopen.2, d, hd, hopen⟩

/-- The errors of an event stay within the retries, also while they are recorded. -/
theorem successive_bounded
    (hrun : successiveLts.Run (World.start (LocalJournal.open config) profile) tr w)
    (e : String) : (sendErrors tr e).length ≤ maxRetryAttempts := by
  induction hrun with
  | nil => exact Int.le_of_lt retryLeft_nil.1
  | snoc hrun hst ih =>
      rename_i tr w ev w'
      rw [sendErrors_snoc]
      cases ev with
      | send i request r =>
          cases r with
          | ok success => exact ih
          | error sendErr =>
              by_cases he : request.eventId = e
              · subst he
                have hlt := (successive_send hrun hst).1.1
                simp only [chargeError, if_true, List.length_append, List.length_singleton]
                omega
              · simp only [chargeError, if_neg he]
                exact ih
      | _ => exact ih

end Run

/-! ## Within one method -/

/-- What a client did. -/
def WorldEvent.client? : WorldEvent → Option JournalEvent
  | .client ev => some ev
  | _ => none

/-- The operation service `i` performed. -/
def WorldEvent.operation? (i : Nat) : WorldEvent → Option ((e : Effect) × e.Reply)
  | .journal k ev => if k = i then some ⟨.journal ev.call, ev.reply⟩ else none
  | .send k request r => if k = i then some ⟨.send request, r⟩ else none
  | .clock k nowMs => if k = i then some ⟨.clock, nowMs⟩ else none
  | _ => none

section Method

variable {tr : List WorldEvent} {w w' : World} {c : ServiceCall} {p : ServiceProg c.Reply}

theorem successive_call (hst : successiveLts.step w (.call 0 c) w') :
    ∃ svc, w.threads 0 = .idle svc ∧ w'.threads 0 = .running c (c.program svc) ∧
      w'.journal = w.journal := by
  obtain ⟨hst, -⟩ := hst
  cases hst with
  | call h => exact ⟨_, h, World.setThread_self _ _ _, rfl⟩

theorem successive_return {out : c.Reply} (hst : successiveLts.step w (.return 0 c out) w') :
    ∃ svc, w.threads 0 = .running c (.done (svc, out)) ∧ w'.journal = w.journal := by
  obtain ⟨hst, -⟩ := hst
  cases hst with
  | «return» h => exact ⟨_, h, rfl⟩

/-- Until the method returns, the service performs the operations of its program. -/
theorem successive_method (hrun : successiveLts.Run w tr w') (hat : w.threads 0 = .running c p)
    (hwithin : ∀ c out, WorldEvent.return 0 c out ∉ tr) :
    ∃ p', w'.threads 0 = .running c p' ∧
      Prog.Run (fun _ _ _ _ => True) p () (tr.filterMap (·.operation? 0)) p' () := by
  induction hrun with
  | nil => exact ⟨p, hat, .refl _ _⟩
  | snoc hrun hst ih =>
      rename_i tr w₁ ev w'
      obtain ⟨p₁, hat₁, hops⟩ := ih fun c out h => hwithin c out (List.mem_append_left _ h)
      rw [Lts.filterMap_snoc]
      obtain ⟨hst, hev⟩ := hst
      cases hst with
      | client => exact ⟨p₁, hat₁, by simpa [WorldEvent.operation?] using hops⟩
      | install =>
          obtain ⟨-, svc, hidle⟩ := hev
          cases hidle.symm.trans hat₁
      | call h =>
          cases hev
          cases h.symm.trans hat₁
      | journal h hj =>
          obtain ⟨rfl, -⟩ := hev
          cases h.symm.trans hat₁
          exact ⟨_, World.setThread_self _ _ _, hops.snoc trivial⟩
      | send r h =>
          cases hev
          cases h.symm.trans hat₁
          exact ⟨_, World.setThread_self _ _ _, hops.snoc trivial⟩
      | clock r h =>
          cases hev
          cases h.symm.trans hat₁
          exact ⟨_, World.setThread_self _ _ _, hops.snoc trivial⟩
      | «return» h =>
          cases hev
          exact absurd (List.mem_append_right _ (List.mem_singleton.mpr rfl)) (hwithin _ _)

/-- And it stays safe. -/
theorem successive_within {C : Clients} {before : LocalJournal → Prop}
    {errors : String → List SendError} (hrun : successiveLts.Run w tr w')
    (hmay : ∀ ev, .client ev ∈ tr → ev.call.SparesRows → C.may ev)
    (hat : w.threads 0 = .running c p) (hwithin : ∀ c out, WorldEvent.return 0 c out ∉ tr)
    (hsafe : (retryTracking C before).ThreadSafe w.journal errors (w.threads 0)) :
    ∃ errors', (retryTracking C before).ThreadSafe w'.journal errors' (w'.threads 0) := by
  induction hrun with
  | nil => exact ⟨errors, hsafe⟩
  | snoc hrun hst ih =>
      rename_i tr w₁ ev w'
      have hwithin₁ : ∀ c out, WorldEvent.return 0 c out ∉ tr :=
        fun c out h => hwithin c out (List.mem_append_left _ h)
      obtain ⟨errors₁, hsafe₁⟩ := ih (fun ev h => hmay ev (List.mem_append_left _ h)) hwithin₁
      obtain ⟨p₁, hat₁, -⟩ := successive_method hrun hat hwithin₁
      obtain ⟨hst, hev⟩ := hst
      refine ⟨_, Tracking.thread_step (retryTracking_sound _ _) hst ?_ hsafe₁⟩
      cases hst with
      | client => exact hmay _ (by simp) hev
      | install =>
          obtain ⟨-, svc, hidle⟩ := hev
          cases hidle.symm.trans hat₁
      | call h =>
          cases hev
          cases h.symm.trans hat₁
      | _ => exact hev

end Method

/-! ## Held back -/

section Held

variable {svc svc' : DeliveryService} {e : String} {n : Int}
  {ops : List ((o : Effect) × o.Reply)}

/-- An answer other than that the gate holds the event back. -/
def DeliveryOutcome.NotHeld (out : DeliveryService × DeliveryOutcome) : Prop :=
  ∀ n, out.2 ≠ .gateHeld n

omit [Sha256] in
theorem DeliveryService.blockAndMark_notHeld {streamKey reason : String} {n rev : Int} :
    (svc.blockAndMark e streamKey n rev reason).Ends DeliveryOutcome.NotHeld := by
  refine .op fun r => ?_
  cases r <;> exact .done fun n h => by cases h

omit [Sha256] in
theorem DeliveryService.sendPayload_notHeld {candidate : DeliveryCandidate}
    {routing : RoutingResolution} :
    (svc.sendPayload e candidate routing).Ends DeliveryOutcome.NotHeld := by
  refine .op fun r => ?_
  cases r with
  | found payload =>
      refine .op fun r => ?_
      cases r with
      | ok success =>
          refine .op fun r => ?_
          cases r <;> exact .done fun n h => by cases h
      | error sendErr =>
          refine .op fun nowMs => .op fun r => ?_
          cases r with
          | updated =>
              show (DeliveryService.retryOrBlock _ _ _ _ _).Ends _
              unfold DeliveryService.retryOrBlock
              simp only
              split
              · split
                · refine .op fun r => ?_
                  cases r <;> exact .done fun n h => by cases h
                · exact DeliveryService.blockAndMark_notHeld
              · exact DeliveryService.blockAndMark_notHeld
          | _ => exact .done fun n h => by cases h
  | _ => exact .done fun n h => by cases h

/-- An event that is held back was looked up, and that is all. -/
theorem DeliveryService.attemptDelivery_held
    (hrun : Prog.Run (fun _ _ _ _ => True) (svc.attemptDelivery e) () ops
      (.done (svc', .gateHeld n)) ()) :
    ∃ r, ops = [⟨.journal (.getDeliveryCandidate e), r⟩] := by
  unfold DeliveryService.attemptDelivery at hrun
  split at hrun
  · cases hrun.done_inv.2.1
  obtain ⟨-, h, -⟩ | ⟨r, _, ops', rfl, -, hrest⟩ := hrun.op_inv
  · cases h
  cases r with
  | found candidate =>
      have hrun : Prog.Run (fun _ _ _ _ => True) (svc.deliverCandidate e candidate) () ops'
        (.done (svc', .gateHeld n)) () := hrest
      unfold DeliveryService.deliverCandidate at hrun
      split at hrun
      · obtain ⟨rfl, -, -⟩ := hrun.done_inv
        exact ⟨_, rfl⟩
      -- past the gate no answer is that the event is held back
      unfold DeliveryService.deliverAllowed at hrun
      simp only at hrun
      split at hrun
      · split at hrun <;> cases hrun.done_inv.2.1
      split at hrun
      · cases hrun.done_inv.2.1
      split at hrun
      · exact absurd rfl ((DeliveryService.blockAndMark_notHeld.run hrun).value n)
      · exact absurd rfl ((DeliveryService.sendPayload_notHeld.run hrun).value n)
  | _ => cases hrest.done_inv.2.1

end Held

/-- While the service only looks up candidates, the journal is moved by the clients. -/
theorem successive_lookups {w w' : World} {tr : List WorldEvent}
    (hrun : successiveLts.Run w tr w')
    (hops : ∀ o ∈ tr.filterMap (·.operation? 0), ∃ e, o.1 = .journal (.getDeliveryCandidate e)) :
    journalLts.Run w.journal (tr.filterMap WorldEvent.client?) w'.journal := by
  induction hrun with
  | nil => exact .nil
  | snoc hrun hst ih =>
      rename_i tr w₁ ev w'
      rw [Lts.filterMap_snoc] at hops ⊢
      have ih := ih fun o h => hops o (List.mem_append_left _ h)
      obtain ⟨hst, hev⟩ := hst
      cases hst with
      | client h => exact ih.snoc h
      | journal h hj =>
          rename_i i c call k env r j'
          obtain ⟨rfl, -⟩ := hev
          obtain ⟨e, hcall⟩ := hops ⟨.journal call, r⟩ (by simp [WorldEvent.operation?])
          have hcall : Effect.journal call = .journal (.getDeliveryCandidate e) := hcall
          cases hcall
          obtain ⟨rfl, -⟩ := LocalJournal.read_eq_some hj
          exact (List.append_nil _).symm ▸ ih
      | _ => exact (List.append_nil _).symm ▸ ih

/-! ## Lifecycles -/

/-- The journal is moved by the calls of clients and those a service makes. -/
theorem worldRun_callers {w w' : World} {tr : List WorldEvent} (hrun : worldLts.Run w tr w')
    (hidle : ∀ i, ∃ svc, w.threads i = .idle svc) :
    ∃ jtr, journalLts.Run w.journal jtr w'.journal ∧
      ∀ ev ∈ jtr, .client ev ∈ tr ∨ ev.call.ByService := by
  induction hrun with
  | nil => exact ⟨[], .nil, by simp⟩
  | snoc hrun hst ih =>
      rename_i tr w₁ last w'
      obtain ⟨jtr, hjournal, hcallers⟩ := ih
      have hold : ∀ ev ∈ jtr, .client ev ∈ tr ++ [last] ∨ ev.call.ByService := by
        intro ev hev
        exact (hcallers ev hev).imp_left fun h => List.mem_append_left _ h
      cases hst with
      | client h =>
          refine ⟨_, hjournal.snoc h, ?_⟩
          intro ev hev
          rcases List.mem_append.mp hev with hev | hev
          · exact hold ev hev
          · rw [List.mem_singleton.mp hev]
            exact .inl (by simp)
      | journal h hj =>
          rename_i i c call k env r j'
          have hguard := (Prog.Safe.op ((worldRun_ackSafe hrun hidle).running h)
            (ackDiscipline.refl _ trivial)).1
          have hstep : journalLts.step w₁.journal ⟨env, call, r⟩ j' := hj
          refine ⟨_, hjournal.snoc hstep, ?_⟩
          intro ev hev
          rcases List.mem_append.mp hev with hev | hev
          · exact hold ev hev
          · rw [List.mem_singleton.mp hev]
            exact .inr (hguard call rfl)
      | _ => exact ⟨jtr, hjournal, hold⟩

/-- As long as no client updates a lifecycle, the lifecycle of a blocked delivery says
so. -/
theorem worldRun_blocksAgree {config : JournalConfig} {profile : Nat → KafkaProductionProfile}
    {w : World} {tr : List WorldEvent}
    (hrun : worldLts.Run (World.start (LocalJournal.open config) profile) tr w)
    (hlife : ∀ env e rev delivery retention r,
      WorldEvent.client ⟨env, .updateLifecycle e rev delivery retention, r⟩ ∉ tr) :
    w.journal.db.BlocksAgree := by
  obtain ⟨jtr, hjournal, hcallers⟩ := worldRun_callers hrun fun i => ⟨_, rfl⟩
  refine (hjournal.invariant (P := fun j => Reachable j ∧ j.db.BlocksAgree)
    (Q := fun ev => ∀ e rev delivery retention, ev.call ≠ .updateLifecycle e rev delivery retention)
    ?_ ⟨⟨config, [], .nil⟩, fun _ _ hd => by cases hd⟩ ?_).2
  · rintro ⟨env, call, r⟩ hev e rev delivery retention hcall
    have hcall : call = .updateLifecycle e rev delivery retention := hcall
    subst hcall
    rcases hcallers _ hev with hclient | hservice
    · exact hlife _ _ _ _ _ _ hclient
    · exact hservice
  · rintro j ev j' hev ⟨hreach, ha⟩ hst
    exact ⟨hreach.run (Lts.Run.nil.snoc hst),
      (journalStep_cases hst).blocksAgree hreach.consistent hev ha⟩

/-! ## A failed send -/

/-- A run whose events any instance may take part in. -/
theorem successive_of_run {w w' : World} {tr : List WorldEvent} (hrun : worldLts.Run w tr w')
    (hev : ∀ ev ∈ tr, ∀ w : World, ev.Successive w) : successiveLts.Run w tr w' :=
  hrun.mono hev fun t _ _ hev hst => ⟨hst, hev t⟩

/-- The events from a send that times out to the retry that is scheduled. -/
def timeoutTrace (env : CallEnv) (e : String) (request : SendRequest)
    (attempt : DeliveryAttemptRecord) (rev nowMs next : Int) : List WorldEvent :=
  [ .send 0 request (.error .timeout),
    .clock 0 nowMs,
    .journal 0 ⟨env, .recordDeliveryAttempt attempt, .updated⟩,
    .journal 0 ⟨env, .updateDeliveryRetry e rev next, .updated⟩ ]

omit [Sha256] in
/-- A failed send is followed by a reading of the clock and the attempt record. -/
theorem DeliveryService.recordFailure_ops (svc : DeliveryService) (e : String)
    (candidate : DeliveryCandidate) (routing : RoutingResolution) (sendErr : SendError) :
    ∃ k : Int → CasResult → ServiceProg DeliveryOutcome,
      svc.recordFailure e candidate routing sendErr = (.op .clock fun nowMs =>
        .op (.journal (.recordDeliveryAttempt
          (svc.failedAttempt e candidate routing sendErr nowMs))) (k nowMs)) ∧
      ∀ nowMs, k nowMs .updated = svc.retryOrBlock e candidate sendErr nowMs :=
  ⟨_, rfl, fun _ => rfl⟩

omit [Sha256] in
/-- A time for the next retry is computed only while a retry is left. -/
theorem count_of_computeNextRetry {attempts nowMs next : Int}
    (hnext : computeNextRetry attempts nowMs = .retry next) : attempts < maxRetryAttempts := by
  unfold computeNextRetry at hnext
  split at hnext
  · cases hnext
  · omega

omit [Sha256] in
/-- A timeout after which a retry is left leads to that retry. -/
theorem DeliveryService.retryOrBlock_retry (svc : DeliveryService) (e : String)
    (v : StoredEnvelope) {s : DeliveryStateRecord} (hcount : InI32 (s.attemptCount + 1))
    {nowMs next : Int} (hnext : computeNextRetry (s.attemptCount + 1) nowMs = .retry next) :
    ∃ k, svc.retryOrBlock e (v.candidate s) .timeout nowMs =
        .op (.journal (.updateDeliveryRetry e s.deliveryRevision next)) k ∧
      k .updated = .done (svc.withGate (svc.gate.markBlocking v.streamKey v.streamSequence),
        .retrying next) := by
  have hattempts : i32Wrap ((v.candidate s).deliveryState.attemptCount + 1) =
      s.attemptCount + 1 := i32Wrap_of_inI32 hcount
  have hretry : shouldRetry .timeout (s.attemptCount + 1) = true :=
    decide_eq_true (count_of_computeNextRetry hnext)
  unfold DeliveryService.retryOrBlock
  simp only [hattempts, hnext]
  rw [if_pos hretry]
  exact ⟨_, rfl, rfl⟩

/-- An attempt and the retry after it leave alone what a send is checked against, so an
instance with the same profile whose gate is at the event would send it. -/
theorem DeliveryService.Ready.of_rescheduled {svc fresh : DeliveryService} {db db' : Db}
    {e : String} {v : StoredEnvelope} {s s' : DeliveryStateRecord} {routing : RoutingResolution}
    (h : svc.Ready db e v s routing) {errorCode : Option String} {checksum : Checksum}
    {now next rev now' : Int} (hrow : s.toRow.setAttempted errorCode checksum now = s'.toRow)
    (hretrying : db'.HasDelivery e (s'.retrying next rev now').sealed)
    (henvelope : db'.storedEnvelope = db.storedEnvelope) (hrunning : fresh.shutdown = false)
    (hprofile : fresh.profile = svc.profile)
    (hgate : fresh.gate.check v.streamKey v.streamSequence = .allowed) :
    fresh.Ready db' e v (s'.retrying next rev now').sealed routing := by
  have hfingerprint : s.routingFingerprint = s'.routingFingerprint :=
    Option.map_injective Subtype.val_injective (congrArg DeliveryState.routingFingerprint hrow)
  refine ⟨hrunning, hretrying, henvelope ▸ h.envelope, ?_, ?_, hgate, h.routed,
    hfingerprint.symm.trans h.fingerprint, ?_, ?_, ?_, ?_⟩
  · show "DELIVERY_RETRYING" ≠ "REPLICATED"
    decide
  · show "DELIVERY_RETRYING" ≠ "DELIVERY_BLOCKED"
    decide
  · rw [hprofile]
    exact (congrArg DeliveryState.profileId hrow).symm.trans h.profileId
  · rw [hprofile]
    exact (congrArg DeliveryState.profileVersion hrow).symm.trans h.profileVersion
  · exact (congrArg DeliveryState.kafkaTopic hrow).symm.trans h.topic
  · rw [hprofile]
    exact h.profile

/-- A ready event that times out while a retry is left is scheduled again with one more
attempt, and an instance started after it that has the same profile would send it. -/
theorem DeliveryService.Ready.timesOut {w : World} {svc : DeliveryService} {e : String}
    {v : StoredEnvelope} {s : DeliveryStateRecord} {routing : RoutingResolution} {env : CallEnv}
    (h : svc.Ready w.journal.db e v s routing) (hs : s.Healthy) (henv : env.Faultless)
    {nowMs next : Int} (hnext : computeNextRetry (s.attemptCount + 1) nowMs = .retry next)
    (payload : Bytes) :
    ∃ request attempt svc' w' s', request.eventId = e ∧ worldLts.Run
      (w.setThread 0 (.running (.attemptDelivery e)
        (svc.sendInFlight e (v.candidate s) routing payload)))
      (timeoutTrace env e request attempt s.deliveryRevision nowMs next) w' ∧
      w'.threads 0 = .running (.attemptDelivery e) (.done (svc', .retrying next)) ∧
      s'.attemptCount = s.attemptCount + 1 ∧ s'.Healthy ∧
      ∀ fresh : DeliveryService, fresh.shutdown = false → fresh.profile = svc.profile →
        fresh.gate.check v.streamKey v.streamSequence = .allowed →
        fresh.Ready w'.journal.db e v s' routing := by
  let svc' := svc.withGate (svc.gate.markInFlight v.streamKey v.streamSequence)
  let attempt := svc'.failedAttempt e (v.candidate s) routing .timeout nowMs
  have hv : (w.journal.db.storedEnvelope.find? attempt.eventId).isSome := by
    show (w.journal.db.storedEnvelope.find? e).isSome = true
    rw [h.envelope]
    rfl
  have hfits : InI32 (s.attemptCount + 1) := by
    have hless : s.attemptCount + 1 < 32 := count_of_computeNextRetry hnext
    have hcount := hs.verifies.count
    unfold InI32 at hcount ⊢
    omega
  obtain ⟨t, log, hrecord, ht⟩ := recordDeliveryAttempt_of_found
    (henv.executes (.recordDeliveryAttempt attempt)) h.delivery hv
  obtain ⟨s', hrow, hs'⟩ := attempted_healthy hs attempt.errorCode env.nowMs hfits
  rw [hrow] at ht
  have hrev : s.deliveryRevision = s'.deliveryRevision :=
    congrArg DeliveryState.deliveryRevision hrow
  have hstatus : s.deliveryStatus = s'.deliveryStatus :=
    congrArg DeliveryState.deliveryStatus hrow
  let db : Db := { w.journal.db with deliveryState := t, deliveryAttempt := log }
  have hrecorded : db.HasDelivery e s' := ⟨ht.self, hs'.verifies⟩
  obtain ⟨t', hretry, ht'⟩ := updateDeliveryRetry_of_current
    (henv.executes (.updateDeliveryRetry e s'.deliveryRevision next)) hrecorded
    (hstatus ▸ h.unconfirmed)
  let s'' := (s'.retrying next (s'.deliveryRevision + 1) env.nowMs).sealed
  have hs'' : s''.Healthy :=
    retrying_healthy hs' (hstatus ▸ h.unconfirmed) (hstatus ▸ h.unblocked) _ _ _
  have hagain : ∀ fresh : DeliveryService, fresh.shutdown = false →
      fresh.profile = svc.profile → fresh.gate.check v.streamKey v.streamSequence = .allowed →
      fresh.Ready { db with deliveryState := t' } e v s'' routing :=
    fun _ hrunning hprofile hgate =>
      h.of_rescheduled hrow ⟨ht'.self, hs''.verifies⟩ rfl hrunning hprofile hgate
  obtain ⟨k, hk, hdone⟩ := svc'.retryOrBlock_retry e v hfits hnext
  have hexec₁ : w.journal.exec env (.recordDeliveryAttempt attempt) =
      some ({ w.journal with db := db }, .updated) := congrArg w.journal.write hrecord
  have hexec₂ : ({ w.journal with db := db } : LocalJournal).exec env
      (.updateDeliveryRetry e s.deliveryRevision next) =
      some ({ w.journal with db := { db with deliveryState := t' } }, .updated) := by
    rw [hrev]
    exact congrArg ({ w.journal with db := db } : LocalJournal).write hretry
  have hsend : worldLts.step (w.setThread 0 (.running (.attemptDelivery e)
      (svc.sendInFlight e (v.candidate s) routing payload))) (.send 0 _ (.error .timeout))
      (w.setThread 0 (.running (.attemptDelivery e)
        (svc'.recordFailure e (v.candidate s) routing .timeout))) :=
    worldStep_send (w := w) (c := .attemptDelivery e) _
  obtain ⟨k₁, hfailure, hrecorded₁⟩ := svc'.recordFailure_ops e (v.candidate s) routing .timeout
  rw [hfailure] at hsend
  have hclock := worldStep_clock (w := w) (i := 0) (c := .attemptDelivery e) nowMs
    (k := fun nowMs => .op (.journal (.recordDeliveryAttempt
      (svc'.failedAttempt e (v.candidate s) routing .timeout nowMs))) (k₁ nowMs))
  have hjournal₁ := worldStep_journal (w := w) (i := 0) (c := .attemptDelivery e)
    (k := k₁ nowMs) hexec₁
  rw [hrecorded₁ nowMs] at hjournal₁
  rw [hk] at hjournal₁
  have hjournal₂ := worldStep_journal (w := { w with journal := { w.journal with db := db } })
    (i := 0) (c := .attemptDelivery e) (k := k) hexec₂
  rw [hdone] at hjournal₂
  have hcount : s.attemptCount + 1 = s'.attemptCount := congrArg DeliveryState.attemptCount hrow
  exact ⟨_, attempt, _, _, s'', rfl, (((Lts.Run.nil.snoc hsend).snoc hclock).snoc
    hjournal₁).snoc hjournal₂, World.setThread_self _ _ _, hcount.symm, hs'', hagain⟩

/-- The whole delivery, from its call to its return. -/
theorem DeliveryService.Ready.returnsTimeout {w : World} {svc : DeliveryService} {e : String}
    {v : StoredEnvelope} {s : DeliveryStateRecord} {routing : RoutingResolution} {env : CallEnv}
    (h : svc.Ready w.journal.db e v s routing) (hc : w.journal.db.Consistent) (hs : s.Healthy)
    (henv : env.Faultless) {nowMs next : Int}
    (hnext : computeNextRetry (s.attemptCount + 1) nowMs = .retry next)
    (hidle : w.threads 0 = .idle svc) :
    ∃ payload request attempt svc' w' s', request.eventId = e ∧
      successiveLts.Run w (approachTrace 0 env e (v.candidate s) payload ++
        timeoutTrace env e request attempt s.deliveryRevision nowMs next ++
        [.return 0 (.attemptDelivery e) (.retrying next)]) w' ∧
      w'.threads 0 = .idle svc' ∧ s'.attemptCount = s.attemptCount + 1 ∧ s'.Healthy ∧
      ∀ fresh : DeliveryService, fresh.shutdown = false → fresh.profile = svc.profile →
        fresh.gate.check v.streamKey v.streamSequence = .allowed →
        fresh.Ready w'.journal.db e v s' routing := by
  obtain ⟨payload, happroach⟩ := h.approach hc henv hidle
  obtain ⟨request, attempt, svc', w', s', hid, htimeout, hdone, hrest⟩ :=
    h.timesOut hs henv hnext payload
  have hreturn : worldLts.step w' (.return 0 (.attemptDelivery e) (.retrying next))
      (w'.setThread 0 (.idle svc')) := World.Step.return hdone
  refine ⟨payload, request, attempt, svc', _, s', hid,
    successive_of_run ((happroach.append htimeout).snoc hreturn) ?_, w'.setThread_self 0 _, hrest⟩
  simp only [approachTrace, timeoutTrace, List.cons_append, List.nil_append,
    List.forall_mem_cons]
  refine ⟨fun _ => rfl, fun _ => ⟨rfl, henv⟩, fun _ => ⟨rfl, henv⟩, fun _ => rfl, fun _ => rfl,
    fun _ => ⟨rfl, henv⟩, fun _ => ⟨rfl, henv⟩, fun _ => rfl, ?_⟩
  intro ev hev
  cases hev

end CraftRelay
