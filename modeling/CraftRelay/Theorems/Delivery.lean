import CraftRelay.Delivery.SendGuard

/-!
# Delivery

A replicated outcome is a persisted acknowledgement in every interleaving. A call
sends at most once, and only what passes every check on the stored rows. Sends
are in the order of their stream as long as no raw stream key serves two
streams, and after a restart as long as no accepted event without a delivery row
comes before the rows recovery sees.
-/

namespace CraftRelay

/-! ## Acknowledgements -/

/-- When `attempt_delivery` returns `Replicated`, the event's row has these
coordinates, and no later call changes its confirmation. -/
theorem replicated_outcome_persisted [Sha256] {w₀ w w' : World} {tr : List WorldEvent}
    (hidle : ∀ i, ∃ svc, w₀.threads i = .idle svc) (hrun : worldLts.Run w₀ tr w) {i : Nat}
    {e : String} {p o : Int}
    (hret : worldLts.step w (.return i (.attemptDelivery e) (.replicated p o)) w') :
    ∃ d, w'.journal.db.deliveryState.find? e = some d ∧ d.deliveryStatus = "REPLICATED" ∧
      d.kafkaPartition = some p ∧ d.kafkaOffset = some o ∧
      ∀ tr' j', journalLts.Run w'.journal tr' j' →
        ∃ d', j'.db.deliveryState.find? e = some d' ∧ d'.ack = d.ack := by
  have hpost := (worldRun_ackSafe hrun hidle).return hret
  have hjournal : w'.journal = w.journal := by
    cases hret
    rfl
  obtain ⟨d, hd, hrep, hp, ho⟩ := hpost p o rfl
  rw [hjournal]
  exact ⟨d, hd, hrep, hp, ho, fun tr' j' hrun' => journalRun_keepsAck hrun' hd hrep⟩

/-- The sample event, sent and confirmed at offset 42. -/
theorem replicated_outcome_persisted_sample :
    ∃ db tr w w', (@worldLts fipsSha256).Run (sampleStart db) tr w ∧
      (@worldLts fipsSha256).step w (.return 0 (.attemptDelivery "e1") (.replicated 0 42)) w' ∧
      ∃ d, w'.journal.db.deliveryState.find? "e1" = some d ∧
        d.deliveryStatus = "REPLICATED" ∧ d.kafkaOffset = some 42 := by
  obtain ⟨db, tr, w, w', hrun, hret, -⟩ := @sampleStart_delivers fipsSha256
  obtain ⟨d, hd, hrep, -, ho, -⟩ := @replicated_outcome_persisted fipsSha256 _ _ _ _
    (fun i => ⟨_, rfl⟩) hrun _ _ _ _ hret
  exact ⟨db, tr, w, w', hrun, hret, d, hd, hrep, ho⟩

/-! ## Sends -/

/-- Whatever the database holds, a call sends at most once, and what it sends has
passed every check. -/
theorem send_guarded [Sha256] {svc : DeliveryService} {e : String} {j j' : LocalJournal}
    {tr : List ((o : Effect) × o.Reply)} {p : ServiceProg DeliveryOutcome}
    (hrun : Prog.Run EffectStep (svc.attemptDelivery e) j tr p j') :
    tr.countP (fun o => o.1.IsSend) ≤ 1 ∧
      ∀ q k, p = .op (.send q) k →
        j' = j ∧ ∃ s v b routing, svc.Cleared j.db e q s v b routing := by
  constructor
  · obtain ⟨m, -, hle⟩ := (svc.attemptDelivery_oneSend e).run hrun
    omega
  · rintro q k rfl
    exact DeliveryService.attemptDelivery_send hrun

/-- The sample event comes to its send, and its topic is that of its row. -/
theorem send_guarded_sample :
    ∃ (db : Db) (tr : List ((o : Effect) × o.Reply)) (q : SendRequest)
      (k : Except SendError SendSuccess → ServiceProg DeliveryOutcome),
      Prog.Run (@EffectStep fipsSha256)
        (@DeliveryService.attemptDelivery fipsSha256 (.new sampleProfile) "e1") ⟨{}, db, false⟩
        tr (.op (.send q) k) ⟨{}, db, false⟩ ∧
      ∃ d, db.deliveryState.find? "e1" = some d ∧ d.kafkaTopic = some q.topic := by
  obtain ⟨a, db, v, hrun, hready, -⟩ := @sampleStart_ready fipsSha256
  have hreach : @Reachable fipsSha256 ⟨{}, db, false⟩ := ⟨_, _, hrun⟩
  obtain ⟨tr, payload, hsend⟩ := @DeliveryService.Ready.sends fipsSha256 _ _ ⟨{}, db, false⟩ _ _
    _ _ hready (@Reachable.consistent fipsSha256 _ hreach) (CallEnv.calm_faultless 30)
  obtain ⟨-, s, v', b, routing, hclear⟩ := (@send_guarded fipsSha256 _ _ _ _ _ _ hsend).2 _ _ rfl
  have htopic := (@DeliveryService.Cleared.request fipsSha256 _ _ _ _ _ _ _ _ hclear).2.1
  refine ⟨db, tr, _, _, hsend, _, @DeliveryService.Cleared.row fipsSha256 _ _ _ _ _ _ _ _ hclear,
    ?_⟩
  rw [htopic]
  exact @DeliveryService.Cleared.topic fipsSha256 _ _ _ _ _ _ _ _ hclear

/-! ## Order -/

/-- New services send in order while no two attempted events have one raw stream
key in two streams. -/
theorem sends_in_order [Sha256] {config : JournalConfig}
    {profile : Nat → KafkaProductionProfile} {tr : List WorldEvent} {w w' : World}
    (hrun : worldLts.Run (World.start (LocalJournal.open config) profile) tr w)
    (hnew : ∀ i, .call i .recover ∉ tr) (hkeys : OneStreamPerKey tr w.journal.db) {i : Nat}
    {request : SendRequest} {r : Except SendError SendSuccess}
    (hsend : worldLts.step w (.send i request r) w') : w.journal.db.InOrder request.eventId := by
  obtain ⟨G, hsafe⟩ := worldRun_new hrun hnew hkeys
  exact (hsafe.send hsend).2 request rfl

/-- The sample event, sent by a new service. -/
theorem sends_in_order_first :
    ∃ tr w w' request, (@worldLts fipsSha256).Run (sampleStart .empty) tr w ∧
      (@worldLts fipsSha256).step w (.send 0 request (.error .timeout)) w' ∧
      request.eventId = "e1" ∧ w.journal.db.InOrder "e1" := by
  obtain ⟨a, db, v, hrun, hready, -⟩ := @sampleStart_ready fipsSha256
  have hreach : @Reachable fipsSha256 ⟨{}, db, false⟩ := ⟨_, _, hrun⟩
  have hc := @Reachable.consistent fipsSha256 _ hreach
  obtain ⟨payload, happroach⟩ := @DeliveryService.Ready.approach fipsSha256 (sampleStart db) 0 _
    _ _ _ _ _ hready hc (CallEnv.calm_faultless 30) rfl
  have hclients := @worldRun_clients fipsSha256 (sampleStart .empty) _ _ hrun
  have hall := hclients.append happroach
  obtain ⟨request, w', hid, hsend⟩ := @worldStep_sendInFlight fipsSha256 _ _ _ _ _ _ _
    (.error .timeout)
  refine ⟨_, _, w', request, hall, hsend, hid, hid ▸ @sends_in_order fipsSha256 _ _ _ _ _ hall
    ?_ ?_ _ _ _ hsend⟩
  · intro i
    simp [sampleClients, approachTrace]
  · intro i₁ i₂ e₁ e₂ v₁ v₂ h₁ h₂ hv₁ hv₂ _
    simp only [sampleClients, approachTrace, List.map_cons, List.map_nil, List.mem_append,
      List.mem_cons, List.not_mem_nil, or_false, false_or, WorldEvent.call.injEq,
      ServiceCall.attemptDelivery.injEq, reduceCtorEq] at h₁ h₂
    rw [h₁.2] at hv₁
    rw [h₂.2] at hv₂
    cases hv₁.symm.trans hv₂
    rfl

/-- Events of one service that attempts deliveries. -/
def WorldEvent.Attempts : WorldEvent → Prop
  | .client _ => False
  | .install .. => False
  | .call i c => i = 0 ∧ ∃ e, c = .attemptDelivery e
  | _ => True

/-- Besides, clients accept events and create their rows with the routing of the
event. -/
def WorldEvent.Plain [Sha256] (db : Db) : WorldEvent → Prop
  | .client ⟨_, .accept _, _⟩ => True
  | .client ⟨_, .createDeliveryPending e fingerprint _ _ topic, _⟩ =>
      ∃ v routing, db.storedEnvelope.find? e = some v ∧
        resolveRouting v.routingInput = .ok routing ∧
        fingerprint = routing.routingChecksum ∧ topic = routing.topic
  | ev => ev.Attempts

theorem WorldEvent.Attempts.plain [Sha256] {db : Db} {ev : WorldEvent} (h : ev.Attempts) :
    ev.Plain db := by
  cases ev with
  | client => exact h.elim
  | _ => exact h

theorem approachTrace_attempts {env : CallEnv} {e : String} {c : DeliveryCandidate}
    {payload : Bytes} {ev : WorldEvent} (h : ev ∈ approachTrace 0 env e c payload) :
    ev.Attempts := by
  simp only [approachTrace, List.mem_cons, List.not_mem_nil, or_false] at h
  rcases h with rfl | rfl | rfl
  · exact ⟨rfl, e, rfl⟩
  · trivial
  · trivial

theorem confirmTrace_attempts {i : Nat} {env : CallEnv} {e : String} {request : SendRequest}
    {rev : Int} {k : ReplicatedDeliveryConfirmation} {ev : WorldEvent}
    (h : ev ∈ confirmTrace i env e request rev k) : ev.Attempts := by
  simp only [confirmTrace, List.mem_cons, List.not_mem_nil, or_false] at h
  rcases h with rfl | rfl | rfl <;> trivial

/-- The calls that accept three events of two streams with one raw key and create
the rows of the first event of one and the second of the other. -/
def sharedKeyClients [Sha256] (a₁ a₂ a₃ : AcceptedEvent) : List JournalEvent :=
  [ ⟨.calm 10, .accept (sampleRequest "a1" "A" 1), .accepted a₁⟩,
    ⟨.calm 20, .accept (sampleRequest "b1" "B" 2), .accepted a₂⟩,
    ⟨.calm 30, .accept (sampleRequest "b2" "B" 3), .accepted a₃⟩,
    ⟨.calm 40, sampleCreate "a1" "A", .updated⟩,
    ⟨.calm 50, sampleCreate "b2" "B", .updated⟩ ]

/-- What these calls leave: the first event of one stream and the second of the
other have rows. -/
structure SharedKey [Sha256] (db : Db) (va vb₁ vb₂ : StoredEnvelope) : Prop where
  a1 : db.storedEnvelope.find? "a1" = some va ∧ va.routingInput = sampleInput "A" ∧
    va.streamSequence = 1
  b1 : db.storedEnvelope.find? "b1" = some vb₁ ∧ vb₁.routingInput = sampleInput "B" ∧
    vb₁.streamSequence = 1
  b2 : db.storedEnvelope.find? "b2" = some vb₂ ∧ vb₂.routingInput = sampleInput "B" ∧
    vb₂.streamSequence = 2
  rowA1 : db.deliveryState.find? "a1" = some (sampleRecord 40 "a1" "A").toRow
  rowB2 : db.deliveryState.find? "b2" = some (sampleRecord 50 "b2" "B").toRow
  noRowB1 : db.deliveryState.find? "b1" = none

theorem sharedKey_journal [Sha256] :
    ∃ a₁ a₂ a₃ db va vb₁ vb₂, journalLts.Run (LocalJournal.open {})
        (sharedKeyClients a₁ a₂ a₃) ⟨{}, db, false⟩ ∧ SharedKey db va vb₁ vb₂ := by
  have hab₁ : "a1" ≠ "b1" := by decide
  have hab₂ : "a1" ≠ "b2" := by decide
  have hb : "b1" ≠ "b2" := by decide
  obtain ⟨db₁, a₁, hrun₁, hstep₁, hseq₁⟩ := sampleAccept (.nil : journalLts.Run _ [] _)
    (by decide : "a1" ≠ "") rfl (fun _ _ h => by cases h) "A" 10
  obtain ⟨db₂, a₂, hrun₂, hstep₂, hseq₂⟩ := sampleAccept hrun₁ (by decide : "b1" ≠ "")
    (hstep₁.putsEnvelope.other hab₁) hseq₁ "B" 20
  obtain ⟨db₃, a₃, hrun₃, hstep₃, -⟩ := sampleAccept hrun₂ (by decide : "b2" ≠ "")
    ((hstep₂.putsEnvelope.other hb).trans (hstep₁.putsEnvelope.other hab₂)) hseq₂ "B" 30
  have hva := (hstep₃.putsEnvelope.other hab₂.symm).trans
    ((hstep₂.putsEnvelope.other hab₁.symm).trans hstep₁.putsEnvelope.self)
  have hvb₁ := (hstep₃.putsEnvelope.other hb.symm).trans hstep₂.putsEnvelope.self
  have hvb₂ := hstep₃.putsEnvelope.self
  have hnone : ∀ e, db₃.deliveryState.find? e = none := by
    intro e
    rw [hstep₃.deliveryState, hstep₂.deliveryState, hstep₁.deliveryState]
    rfl
  obtain ⟨t₁, hrun₄, ht₁⟩ := sampleCreated hrun₃ hva (hnone "a1") "A" 40
  obtain ⟨t₂, hrun₅, ht₂⟩ := sampleCreated hrun₄ hvb₂
    ((ht₁.other hab₂).trans (hnone "b2")) "B" 50
  -- the second stream counts from 1 again
  have hkeys : (sampleRequest "a1" "A" 1).formattedStreamKey ≠
      (sampleRequest "b1" "B" 2).formattedStreamKey := by decide
  have hseqB : db₁.nextStreamSequence (sampleRequest "b1" "B" 2).formattedStreamKey = 1 := by
    rw [hstep₁.nextStreamSequence, if_neg hkeys]
    rfl
  have hseqB₂ : db₂.nextStreamSequence (sampleRequest "b2" "B" 3).formattedStreamKey = 2 :=
    calc db₂.nextStreamSequence (sampleRequest "b2" "B" 3).formattedStreamKey
        = db₁.nextStreamSequence (sampleRequest "b1" "B" 2).formattedStreamKey + 1 :=
          (hstep₂.nextStreamSequence _).trans (if_pos rfl)
      _ = 2 := by
          rw [hseqB]
          rfl
  refine ⟨a₁, a₂, a₃, _, _, _, _, hrun₅, ⟨hva, rfl, rfl⟩, ⟨hvb₁, rfl, hseqB⟩,
    ⟨hvb₂, rfl, hseqB₂⟩, ?_, ht₂.self, ?_⟩
  · exact (ht₂.other hab₂.symm).trans ht₁.self
  · exact (ht₂.other hb.symm).trans ((ht₁.other hab₁).trans (hnone "b1"))

theorem SharedKey.clients_plain [Sha256] {db db' : Db} {va vb₁ vb₂ : StoredEnvelope}
    (h : SharedKey db va vb₁ vb₂) (hdb : db'.storedEnvelope = db.storedEnvelope)
    {a₁ a₂ a₃ : AcceptedEvent} {ev : JournalEvent} (hev : ev ∈ sharedKeyClients a₁ a₂ a₃) :
    (WorldEvent.client ev).Plain db' := by
  simp only [sharedKeyClients, List.mem_cons, List.not_mem_nil, or_false] at hev
  rcases hev with rfl | rfl | rfl | rfl | rfl
  · trivial
  · trivial
  · trivial
  · refine ⟨va, sampleRouting "A", ?_, ?_, rfl, rfl⟩
    · rw [hdb]
      exact h.a1.1
    · rw [h.a1.2.1]
      exact resolveRouting_sample (by decide)
  · refine ⟨vb₂, sampleRouting "B", ?_, ?_, rfl, rfl⟩
    · rw [hdb]
      exact h.b2.1
    · rw [h.b2.2.1]
      exact resolveRouting_sample (by decide)

/-- With two streams under one raw key, the gate opened by one lets the other
skip an event. -/
theorem shared_key_breaks_order :
    ¬ ∃ h : Sha256, ∀ config profile tr w i request r w',
      (@worldLts h).Run (World.start (LocalJournal.open config) profile) tr w →
      (∀ ev ∈ tr, @WorldEvent.Plain h w.journal.db ev) →
      (@worldLts h).step w (.send i request r) w' → w.journal.db.InOrder request.eventId := by
  rintro ⟨h, hall⟩
  obtain ⟨a₁, a₂, a₃, db, va, vb₁, vb₂, hrun, hsh⟩ := @sharedKey_journal h
  have hreach : Reachable ⟨{}, db, false⟩ := ⟨_, _, hrun⟩
  have hcalm := CallEnv.calm_faultless 60
  have hclients := worldRun_clients (w := sampleStart .empty) hrun
  -- the first event of the one stream is delivered
  have hready₁ : (DeliveryService.new sampleProfile).Ready db "a1" va
      (sampleRecord 40 "a1" "A") (sampleRouting "A") := by
    refine sampleReady rfl rfl hsh.rowA1 hsh.a1.1 hsh.a1.2.1 (by decide) ?_
    rw [hsh.a1.2.2]
    rfl
  obtain ⟨payload₁, happroach₁⟩ := hready₁.approach (w := sampleStart db) (i := 0)
    hreach.consistent hcalm rfl
  obtain ⟨request₁, t, t', hdeliver, ht⟩ := hready₁.deliver (w := sampleStart db) (i := 0)
    hreach.consistent hcalm payload₁ 0 7
  have hbefore := (hclients.append happroach₁).append hdeliver
  obtain ⟨tr', hjournal⟩ := worldRun_journal hbefore
  have hreach₂ := Reachable.run ⟨{}, [], .nil⟩ hjournal
  -- the gate is at 2 now, and so is the second event of the other stream
  have hready₂ : ((DeliveryService.new sampleProfile).withGate
      ((OrderingGate.new.markInFlight va.streamKey va.streamSequence).markCompleted
        va.streamKey va.streamSequence)).Ready
      { db with deliveryState := t, lifecycleState := t' } "b2" vb₂
      (sampleRecord 50 "b2" "B") (sampleRouting "B") := by
    refine sampleReady rfl rfl ((ht.other (by decide)).trans hsh.rowB2) hsh.b2.1 hsh.b2.2.1
      (by decide) ?_
    rw [hsh.b2.2.2, hsh.a1.2.2, StoredEnvelope.streamKey_of_input hsh.a1.2.1,
      StoredEnvelope.streamKey_of_input hsh.b2.2.1]
    show OrderingGate.check _ "orders" 2 = _
    decide
  obtain ⟨payload₂, happroach₂⟩ := hready₂.approach (i := 0) hreach₂.consistent hcalm
    (World.setThread_self _ _ _)
  obtain ⟨request₂, w', hid, hsend⟩ := worldStep_sendInFlight (.error .timeout)
  have horder := hall _ _ _ _ _ _ _ _ (hbefore.append happroach₂) ?_ hsend
  · -- the first event of the other stream has no row
    rw [hid] at horder
    obtain ⟨v, hv, hclear⟩ := horder
    cases hsh.b2.1.symm.trans hv
    obtain ⟨d, hd, -⟩ := hclear vb₁ (KeyedTable.mem_of_find? hsh.b1.1)
      ((StoredEnvelope.logicalStream_of_input hsh.b1.2.1).trans
        (StoredEnvelope.logicalStream_of_input hsh.b2.2.1).symm)
      (by rw [hsh.b1.2.2, hsh.b2.2.2]; decide)
    have hnone := (ht.other (show "a1" ≠ "b1" by decide)).trans hsh.noRowB1
    rw [show vb₁.eventId = "b1" from KeyedTable.key_of_find? hsh.b1.1] at hd
    cases hnone.symm.trans hd
  · intro ev hev
    rcases List.mem_append.mp hev with hev | hev
    · rcases List.mem_append.mp hev with hev | hev
      · rcases List.mem_append.mp hev with hev | hev
        · obtain ⟨jev, hjev, rfl⟩ := List.mem_map.mp hev
          exact hsh.clients_plain rfl hjev
        · exact (approachTrace_attempts hev).plain
      · exact (confirmTrace_attempts hev).plain
    · exact (approachTrace_attempts hev).plain

/-- On a journal in which no two streams have one raw key, restarted services
send in order, while clients add no events and rows and, when a gate is rebuilt,
no accepted event without a row precedes the first open row of its stream, unless
one does past the rows the scan looks at. -/
theorem sends_in_order_after_recovery [Sha256] {j : LocalJournal}
    {profile : Nat → KafkaProductionProfile} {tr : List WorldEvent} {w w' : World}
    (hreach : Reachable j) (hkeys : j.db.KeysApart)
    (hrun : worldLts.Run (World.start j profile) tr w)
    (hclients : ∀ ev, .client ev ∈ tr → ev.call.AddsNothing)
    (hscans : ScansInFull (World.start j profile) tr) {i : Nat} {request : SendRequest}
    {r : Except SendError SendSuccess} (hsend : worldLts.step w (.send i request r) w') :
    w.journal.db.InOrder request.eventId := by
  obtain ⟨G, hsafe⟩ := worldRun_recovered hreach hkeys hrun hclients hscans
  exact (hsafe.send hsend).2 request rfl

/-- The sample event, sent by a service that recovered. -/
theorem sends_in_order_after_recovery_first :
    ∃ db tr w w' request, (@worldLts fipsSha256).Run (sampleStart db) tr w ∧
      .call 0 .recover ∈ tr ∧
      (@worldLts fipsSha256).step w (.send 0 request (.error .timeout)) w' ∧
      request.eventId = "e1" ∧ w.journal.db.InOrder "e1" := by
  obtain ⟨a, db, v, hrun, hrows, hev, hinput, -, hdelivery⟩ := @sampleJournal fipsSha256
  have hreach : @Reachable fipsSha256 ⟨{}, db, false⟩ := ⟨_, _, hrun⟩
  have hv : db.storedEnvelope.find? v.eventId = some v :=
    KeyedTable.find?_of_mem (by rw [hrows]; simp)
  rw [hev] at hv
  obtain ⟨out, payload, svc, hworld⟩ := @sampleRecovered fipsSha256 db "e1" "ns" v 20
    (@Reachable.consistent fipsSha256 _ hreach) hdelivery hv hinput (by decide)
  obtain ⟨request, w', hid, hsend⟩ := @worldStep_sendInFlight fipsSha256 _ _ _ _ _ _ _
    (.error .timeout)
  have hnoclient : ∀ ev, .client ev ∉ recoverTrace 0 (.calm 60) out ++
      approachTrace 0 (.calm 60) "e1" (v.candidate (@sampleRecord fipsSha256 20 "e1" "ns"))
        payload := by
    intro ev
    simp [recoverTrace, approachTrace]
  refine ⟨db, _, _, w', request, hworld, by simp [recoverTrace], hsend, hid,
    hid ▸ @sends_in_order_after_recovery fipsSha256 _ _ _ _ _ hreach ?_ hworld
      (fun ev hev => absurd hev (hnoclient ev)) ?_ _ _ _ hsend⟩
  · intro u hu u' hu' _
    rw [hrows, List.mem_singleton] at hu hu'
    rw [hu, hu']
  · -- there is one event only, so nothing precedes it
    intro tr₁ tr₂ i env limit r w₁ htr hrun₁ b hfirst u hu _ hlt _
    have hsame := @worldRun_sameEnvelopes fipsSha256 _ _ _ hrun₁ (fun i => ⟨_, rfl⟩)
      fun ev hev => absurd (htr ▸ List.mem_append_left _ hev) (hnoclient ev)
    have honly : ∀ x ∈ w₁.journal.db.storedEnvelope.rows, x = v := by
      intro x hx
      rw [hsame] at hx
      have hx : x ∈ db.storedEnvelope.rows := hx
      rw [hrows] at hx
      exact List.mem_singleton.mp hx
    rw [honly u hu, honly b hfirst.stored] at hlt
    exact absurd hlt (Int.lt_irrefl _)

/-- The calls a journal of the delivery path sees. -/
def JournalCall.OfDelivery : JournalCall → Prop
  | .accept _ => True
  | .createDeliveryPending .. => True
  | .recordDeliveryAttempt _ => True
  | .confirmReplicatedDelivery .. => True
  | .blockDelivery .. => True
  | .updateDeliveryRetry .. => True
  | _ => False

/-- The calls that accept two events of a stream and create the row of the
second. -/
def hiddenEventClients [Sha256] (a₁ a₂ : AcceptedEvent) : List JournalEvent :=
  [ ⟨.calm 10, .accept (sampleRequest "e1" "ns" 1), .accepted a₁⟩,
    ⟨.calm 20, .accept (sampleRequest "e2" "ns" 2), .accepted a₂⟩,
    ⟨.calm 30, sampleCreate "e2" "ns", .updated⟩ ]

/-- What these calls leave: the only row is the one of the second event. -/
structure HiddenEvent [Sha256] (db : Db) (v₁ v₂ : StoredEnvelope) : Prop where
  e1 : db.storedEnvelope.find? "e1" = some v₁
  e2 : db.storedEnvelope.find? "e2" = some v₂
  input : v₂.routingInput = sampleInput "ns"
  stream : ∀ v ∈ db.storedEnvelope.rows, v.logicalStream = ("inst", "ns", "t", "orders")
  before : v₁.streamSequence < v₂.streamSequence
  rows : db.deliveryState.rows = [(sampleRecord 30 "e2" "ns").toRow]
  noRow : db.deliveryState.find? "e1" = none

theorem hiddenEvent_journal [Sha256] :
    ∃ a₁ a₂ db v₁ v₂, journalLts.Run (LocalJournal.open {}) (hiddenEventClients a₁ a₂)
      ⟨{}, db, false⟩ ∧ HiddenEvent db v₁ v₂ := by
  have hne : "e1" ≠ "e2" := by decide
  obtain ⟨db₁, a₁, hrun₁, hstep₁, hseq₁⟩ := sampleAccept (.nil : journalLts.Run _ [] _)
    (by decide : "e1" ≠ "") rfl (fun _ _ h => by cases h) "ns" 10
  obtain ⟨db₂, a₂, hrun₂, hstep₂, -⟩ := sampleAccept hrun₁ (by decide : "e2" ≠ "")
    (hstep₁.putsEnvelope.other hne) hseq₁ "ns" 20
  have hv₁ := (hstep₂.putsEnvelope.other hne.symm).trans hstep₁.putsEnvelope.self
  have hv₂ := hstep₂.putsEnvelope.self
  have hnone : ∀ e, db₂.deliveryState.find? e = none := by
    intro e
    rw [hstep₂.deliveryState, hstep₁.deliveryState]
    rfl
  obtain ⟨t, hrun₃, ht⟩ := sampleCreated hrun₂ hv₂ (hnone "e2") "ns" 30
  have hnext : db₁.nextStreamSequence (sampleRequest "e2" "ns" 2).formattedStreamKey = 2 :=
    (hstep₁.nextStreamSequence _).trans (if_pos rfl)
  refine ⟨a₁, a₂, _, _, _, hrun₃, hv₁, hv₂, rfl, ?_, ?_, ht.rows_eq fun e _ => hnone e,
    (ht.other hne.symm).trans (hnone "e1")⟩
  · intro v hv
    have hv : v ∈ db₂.storedEnvelope.rows := hv
    rw [hstep₂.storedEnvelope, hstep₁.storedEnvelope] at hv
    simp only [List.mem_append, List.mem_singleton] at hv
    rcases hv with (hv | rfl) | rfl
    · cases hv
    · rfl
    · rfl
  · show Db.empty.nextStreamSequence (sampleRequest "e1" "ns" 1).formattedStreamKey <
      db₁.nextStreamSequence (sampleRequest "e2" "ns" 2).formattedStreamKey
    rw [hnext]
    decide

/-- An event without a row that precedes the first open row is skipped by the gate
a recovery builds. -/
theorem recovery_skips_event :
    ¬ ∃ h : Sha256, ∀ config tr₀ j profile env out tr w i request r w',
      (@journalLts h).Run (LocalJournal.open config) tr₀ j →
      (∀ ev ∈ tr₀, ev.call.OfDelivery) → j.db.KeysApart →
      (@worldLts h).Run (World.start j profile) (recoverTrace 0 env out ++ tr) w →
      (∀ ev ∈ tr, ev.Attempts) → (@worldLts h).step w (.send i request r) w' →
      w.journal.db.InOrder request.eventId := by
  rintro ⟨h, hall⟩
  obtain ⟨a₁, a₂, db, v₁, v₂, hrun, hhid⟩ := @hiddenEvent_journal h
  have hreach : Reachable ⟨{}, db, false⟩ := ⟨_, _, hrun⟩
  obtain ⟨out, payload, svc, hworld⟩ := sampleRecovered hreach.consistent hhid.rows hhid.e2
    hhid.input (by decide)
  obtain ⟨request, w', hid, hsend⟩ := worldStep_sendInFlight (.error .timeout)
  have horder := hall _ _ _ _ _ _ _ _ _ _ _ _ hrun ?_ ?_ hworld
    (fun ev hev => approachTrace_attempts hev) hsend
  · -- the first event has no row, and yet the second one is sent
    rw [hid] at horder
    obtain ⟨v, hv, hclear⟩ := horder
    cases hhid.e2.symm.trans hv
    have hmem₁ := KeyedTable.mem_of_find? hhid.e1
    have hmem₂ := KeyedTable.mem_of_find? hhid.e2
    obtain ⟨d, hd, -⟩ := hclear v₁ hmem₁
      ((hhid.stream v₁ hmem₁).trans (hhid.stream v₂ hmem₂).symm) hhid.before
    rw [show v₁.eventId = "e1" from KeyedTable.key_of_find? hhid.e1] at hd
    cases hhid.noRow.symm.trans hd
  · intro ev hev
    simp only [hiddenEventClients, List.mem_cons, List.not_mem_nil, or_false] at hev
    rcases hev with rfl | rfl | rfl <;> trivial
  · intro u hu v hv _
    exact (hhid.stream u hu).trans (hhid.stream v hv).symm

end CraftRelay
