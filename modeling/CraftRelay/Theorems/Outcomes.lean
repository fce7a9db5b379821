import CraftRelay.Delivery.Succession

/-!
# Outcomes and their rows

What `attempt_delivery` answers when it does not answer that an event is replicated
agrees with what it has left in the journal, and the errors it may meet for one event
are bounded by the count it keeps there, however often the service is restarted between
two calls.
-/

namespace CraftRelay

/-! ## Answers that agree with the journal -/

/-- The one service is asked to deliver an event, and while it does the clients make any
call that leaves delivery rows and lifecycles alone. A retry it answers is the one in
the row, which is one attempt and one revision further; a reason it answers is the one
in the row, and row and lifecycle are blocked; when the gate holds the event back
nothing was sent and only the clients moved the journal; and an error leaves the row as
it was. -/
theorem outcome_agrees_with_journal [Sha256] {config : JournalConfig}
    {profile : Nat → KafkaProductionProfile} {tr₀ tr : List WorldEvent} {w₀ w₁ w₂ w₃ : World}
    {e : String} {out : DeliveryOutcome}
    (hbefore : successiveLts.Run (World.start (LocalJournal.open config) profile) tr₀ w₀)
    (hcall : successiveLts.step w₀ (.call 0 (.attemptDelivery e)) w₁)
    (hrun : successiveLts.Run w₁ tr w₂)
    (hwithin : ∀ c out, WorldEvent.return 0 c out ∉ tr)
    (hreturn : successiveLts.step w₂ (.return 0 (.attemptDelivery e) out) w₃)
    (hlife : ∀ env e rev delivery retention r,
      WorldEvent.client ⟨env, .updateLifecycle e rev delivery retention, r⟩ ∉ tr₀ ++ tr) :
    (Clients.within tr).Reported w₀.journal w₃.journal e out ∧
      (∀ reason, out = .blocked reason → ∃ l, w₃.journal.db.lifecycleState.find? e = some l ∧
        l.deliveryStatus = "DELIVERY_BLOCKED") ∧
      ∀ n, out = .gateHeld n → (∀ request r, WorldEvent.send 0 request r ∉ tr) ∧
        journalLts.Run w₀.journal (tr.filterMap WorldEvent.client?) w₃.journal := by
  obtain ⟨svc, hidle, hat, hjournal⟩ := successive_call hcall
  have hsettled := successive_settled hbefore hidle
  -- the account of this one call begins where the call was made
  have hsafe : (retryTracking (.within tr) (· = w₀.journal)).ThreadSafe w₁.journal
      (sendErrors tr₀) (w₁.threads 0) := by
    rw [hat, hjournal]
    refine DeliveryService.attemptDelivery_answered hsettled ?_
    rintro j₀ rfl
    exact .refl _
  obtain ⟨errors, hsafe⟩ := successive_within (C := .within tr) hrun
    (fun ev h hspares => ⟨h, hspares⟩) hat hwithin hsafe
  obtain ⟨svc', hdone, hjournal'⟩ := successive_return hreturn
  rw [hdone] at hsafe
  have hreported := hsafe.return.2 w₀.journal rfl
  rw [hjournal']
  refine ⟨hreported, ?_, ?_⟩
  · rintro reason rfl
    obtain ⟨d, hd, hblocked, -⟩ := hreported
    have hall := ((hbefore.snoc hcall).append hrun).of_restrict
    refine worldRun_blocksAgree hall (fun env e rev delivery retention r hmem => ?_) e d hd hblocked
    refine hlife env e rev delivery retention r ?_
    simpa using hmem
  · rintro n rfl
    obtain ⟨p, hp, hops⟩ := successive_method hrun hat hwithin
    cases hp.symm.trans hdone
    obtain ⟨r, hlookup⟩ := DeliveryService.attemptDelivery_held hops
    constructor
    · intro request r' hsend
      have hop : (⟨.send request, r'⟩ : (o : Effect) × o.Reply) ∈
          tr.filterMap (·.operation? 0) := List.mem_filterMap.mpr ⟨_, hsend, rfl⟩
      rw [hlookup, List.mem_singleton] at hop
      cases hop
    · rw [← hjournal]
      refine successive_lookups hrun fun o ho => ⟨e, ?_⟩
      rw [hlookup, List.mem_singleton] at ho
      rw [ho]

/-- The first send of the sample event times out and is scheduled again; a new instance
would send it once more. -/
theorem sampleRun_timesOut [Sha256] :
    ∃ (tr₀ tr : List WorldEvent) (w₀ w₁ w₂ w₃ : World) (svc : DeliveryService),
      successiveLts.Run (World.start (LocalJournal.open {}) fun _ => sampleProfile) tr₀ w₀ ∧
      successiveLts.step w₀ (.call 0 (.attemptDelivery "e1")) w₁ ∧
      successiveLts.Run w₁ tr w₂ ∧ (∀ c out, WorldEvent.return 0 c out ∉ tr) ∧
      successiveLts.step w₂ (.return 0 (.attemptDelivery "e1") (.retrying 1040)) w₃ ∧
      w₃.threads 0 = .idle svc ∧
      (∀ env e rev delivery retention r,
        WorldEvent.client ⟨env, .updateLifecycle e rev delivery retention, r⟩ ∉ tr₀ ++ tr) ∧
      sendErrors (tr₀ ++ [.call 0 (.attemptDelivery "e1")] ++ tr) "e1" = [.timeout] ∧
      ∃ v s, s.attemptCount = 1 ∧ s.Healthy ∧
        (DeliveryService.new sampleProfile).Ready w₃.journal.db "e1" v s
          (sampleRouting "ns") := by
  obtain ⟨a, db, v, hclients, hready, -⟩ := sampleStart_ready
  have hreach : Reachable ⟨{}, db, false⟩ := ⟨_, _, hclients⟩
  have hcalm := CallEnv.calm_faultless 30
  have hbefore := successive_of_run
    (worldRun_clients (w := World.start (LocalJournal.open {}) fun _ => sampleProfile)
      hclients) ?_
  · have hnext : computeNextRetry ((sampleRecord 20 "e1" "ns").attemptCount + 1) 40 =
        .retry 1040 := rfl
    obtain ⟨payload, request, attempt, svc, w₃, s, hid, hrun, hidle, hcount, hhealthy, hagain⟩ :=
      hready.returnsTimeout (w := sampleStart db) hreach.consistent
        (hreach.loadsRouted.healthy hready.delivery) hcalm hnext rfl
    obtain ⟨w₂, hrun, hreturn⟩ := hrun.last
    have hsplit : successiveLts.Run _ (((sampleClients a).map .client ++
      [.call 0 (.attemptDelivery "e1")]) ++ _) w₂ := hbefore.append hrun
    obtain ⟨w₁, hpre, hrest⟩ := hsplit.split
    obtain ⟨w₀, hclients, hcall⟩ := hpre.last
    refine ⟨_, _, w₀, w₁, w₂, w₃, svc, hclients, hcall, hrest, ?_, hreturn, hidle, ?_, ?_, v, s,
      hcount, hhealthy, hagain _ rfl rfl hready.gate⟩
    · simp [timeoutTrace]
    · simp [sampleClients, sampleCreate, timeoutTrace]
    · simp [sendErrors, List.filterMap_cons, WorldEvent.sendError?, sampleClients, timeoutTrace,
        hid]
  · simp only [sampleClients, List.map_cons, List.map_nil, List.forall_mem_cons]
    refine ⟨fun _ => trivial, fun _ => trivial, ?_⟩
    intro ev hev
    cases hev

/-- Its row is retrying at the time that was answered. -/
theorem outcome_agrees_with_journal_timeout :
    ∃ (w₃ : World) (d d' : DeliveryState),
      w₃.journal.db.deliveryState.find? "e1" = some d' ∧ d.Rescheduled d' 1040 := by
  obtain ⟨tr₀, tr, w₀, w₁, w₂, w₃, svc, hbefore, hcall, hrun, hwithin, hreturn, -, hlife, -⟩ :=
    @sampleRun_timesOut fipsSha256
  obtain ⟨⟨d, d', -, hd', hnext⟩, -⟩ := @outcome_agrees_with_journal fipsSha256 _ _ _ _ _ _ _ _ _ _
    hbefore hcall hrun hwithin hreturn hlife
  exact ⟨w₃, d, d', hd', hnext⟩

/-! ## Bounded retries -/

/-- One instance after another: for each event the row counts the errors its sends were
answered with, there are never more than 32 of them, an error that cannot be retried and
the 32nd one leave the row blocked, and a blocked row is not sent. -/
theorem retries_bounded_across_restarts [Sha256] {config : JournalConfig}
    {profile : Nat → KafkaProductionProfile} {tr : List WorldEvent} {w : World}
    (hrun : successiveLts.Run (World.start (LocalJournal.open config) profile) tr w)
    (e : String) :
    (sendErrors tr e).length ≤ 32 ∧
      (∀ svc, w.threads 0 = .idle svc →
        (∀ d, w.journal.db.deliveryState.find? e = some d →
          d.attemptCount = (sendErrors tr e).length) ∧
        (w.journal.db.deliveryState.find? e = none → sendErrors tr e = []) ∧
        ((∃ sendErr ∈ sendErrors tr e, sendErr.isRetriable = false) ∨
            (sendErrors tr e).length = 32 →
          ∃ d, w.journal.db.deliveryState.find? e = some d ∧
            d.deliveryStatus = "DELIVERY_BLOCKED")) ∧
      ∀ request r w', request.eventId = e → successiveLts.step w (.send 0 request r) w' →
        ∃ d, w.journal.db.deliveryState.find? e = some d ∧
          d.deliveryStatus ≠ "DELIVERY_BLOCKED" := by
  refine ⟨?_, ?_, ?_⟩
  · have hbound : ((sendErrors tr e).length : Int) ≤ 32 := successive_bounded hrun e
    omega
  · intro svc hidle
    have hsettled := (successive_settled hrun hidle).rows e
    exact ⟨hsettled.counted, hsettled.created, hsettled.blocked⟩
  · rintro request r w' rfl hst
    obtain ⟨-, d, hd, -, hunblocked⟩ := successive_send hrun hst
    exact ⟨d, hd, hunblocked⟩

/-- The sample event times out, the service is replaced, and under the new instance the
event times out again. -/
theorem sampleRun_timesOutTwice [Sha256] :
    ∃ (tr tr' : List WorldEvent) (w : World) (svc : DeliveryService) (d : DeliveryState),
      successiveLts.Run (World.start (LocalJournal.open {}) fun _ => sampleProfile)
        (tr ++ [.install 0 sampleProfile] ++ tr') w ∧
      w.threads 0 = .idle svc ∧ sendErrors tr "e1" = [.timeout] ∧
      sendErrors tr' "e1" = [.timeout] ∧ w.journal.db.deliveryState.find? "e1" = some d := by
  obtain ⟨tr₀, tr, w₀, w₁, w₂, w₃, svc, hbefore, hcall, hrun, -, hreturn, hidle, -, herrors, v, s,
    hcount, hhealthy, hready⟩ := sampleRun_timesOut
  have hfirst := ((hbefore.snoc hcall).append hrun).snoc hreturn
  have hinstall : successiveLts.step w₃ (.install 0 sampleProfile)
      (w₃.setThread 0 (.idle (.new sampleProfile))) := ⟨World.Step.install, rfl, svc, hidle⟩
  have hnext : computeNextRetry (s.attemptCount + 1) 2000 = .retry 4000 := by
    rw [hcount]
    rfl
  -- the journal outlives the instance, so what the second one finds is consistent
  obtain ⟨jtr, hjournal⟩ := worldRun_journal hfirst.of_restrict
  have hreach : Reachable w₃.journal := ⟨{}, jtr, hjournal⟩
  obtain ⟨payload, request, attempt, svc', w, s', hid, hsecond, hidle', -, -, hready'⟩ :=
    hready.returnsTimeout (w := w₃.setThread 0 (.idle (.new sampleProfile))) hreach.consistent
      hhealthy (CallEnv.calm_faultless 1990) hnext (w₃.setThread_self 0 _)
  refine ⟨_, _, w, svc', _, (hfirst.snoc hinstall).append hsecond, hidle', ?_, ?_,
    (hready' (.new sampleProfile) rfl rfl hready.gate).delivery.row⟩
  · rw [sendErrors_snoc]
    exact herrors
  · simp [sendErrors, List.filterMap_cons, WorldEvent.sendError?, approachTrace, timeoutTrace,
      hid]

/-- The row counts the errors of both instances. -/
theorem retries_bounded_across_restarts_timeout :
    ∃ (tr tr' : List WorldEvent) (w : World) (d : DeliveryState),
      (@successiveLts fipsSha256).Run
        (World.start (LocalJournal.open {}) fun _ => sampleProfile)
        (tr ++ [.install 0 sampleProfile] ++ tr') w ∧
      sendErrors tr "e1" = [.timeout] ∧ sendErrors tr' "e1" = [.timeout] ∧
      w.journal.db.deliveryState.find? "e1" = some d ∧ d.attemptCount = 2 := by
  obtain ⟨tr, tr', w, svc, d, hrun, hidle, hfirst, hsecond, hd⟩ :=
    @sampleRun_timesOutTwice fipsSha256
  have hcount := ((@retries_bounded_across_restarts fipsSha256 _ _ _ _ hrun "e1").2.1 svc
    hidle).1 d hd
  rw [sendErrors_append, sendErrors_append, hfirst, hsecond] at hcount
  exact ⟨tr, tr', w, d, hrun, hfirst, hsecond, hd, hcount⟩

end CraftRelay
