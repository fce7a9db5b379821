import CraftRelay.Delivery.Drain
import CraftRelay.Delivery.Progress

/-!
# Acknowledgements

What a `REPLICATED` row says about the broker and about the event that was accepted, and
what the broker acknowledges of a stream.
-/

namespace CraftRelay

/-- Any number of services and clients on a journal that was empty at first, with any
failing statements, restarts and answers of the producer, where clients confirm nothing:
a replicated row has the topic, partition and offset of an answer of the producer to a
send for its event, which carried the payload that had been accepted for it and was
routed as the accepted request asks. -/
theorem replicated_rows_acknowledged [Sha256] {config : JournalConfig}
    {profile : Nat → KafkaProductionProfile} {tr : List WorldEvent} {w : World}
    (hrun : worldLts.Run (World.start (LocalJournal.open config) profile) tr w)
    (hclients : ∀ ev, .client ev ∈ tr → ¬ ev.call.Confirms) {e : String} {d : DeliveryState}
    (hd : w.journal.db.deliveryState.find? e = some d)
    (hrep : d.deliveryStatus = "REPLICATED") :
    ∃ tr₁ i request success tr₂ req routing,
      tr = tr₁ ++ .send i request (.ok success) :: tr₂ ∧ AcceptedIn tr₁ req ∧
      request.eventId = e ∧ req.eventId = e ∧ request.payload = req.payload ∧
      resolveRouting req.routingInput = .ok routing ∧ request.topic = routing.topic ∧
      request.partitionKey = routing.partitionKey ∧ d.kafkaTopic = some success.topic ∧
      d.kafkaPartition = some success.partition ∧ d.kafkaOffset = some success.offset := by
  obtain ⟨topic, partition, offset, ht, hp, ho, request, success, hanswer, hid, rfl, rfl, rfl⟩ :=
    (worldRun_genuine hrun hclients).replicated e d hd hrep
  obtain ⟨tr₁, i, tr₂, rfl⟩ := exists_send_of_performed hanswer
  -- the world in which the answered request was sent
  obtain ⟨w₁, w₂, hrun₁, hst, -⟩ := hrun.step_at
  have hgenuine := worldRun_genuine hrun₁ fun ev hev =>
    hclients ev (List.mem_append_left _ hev)
  obtain ⟨req, routing, hreq, hreqid, hpayload, hrouted, htopic, hkey⟩ :=
    worldStep_send_genuine hgenuine (worldRun_grounded hrun₁ fun k => ⟨_, rfl⟩) hst
  exact ⟨tr₁, i, request, success, tr₂, req, routing, rfl, hreq, hid, hreqid.trans hid, hpayload,
    hrouted, htopic, hkey, ht, hp, ho⟩

/-- The clients' calls on a new journal, and the delivery of the sample event at offset
42. -/
theorem sampleStart_replicates [Sha256] :
    ∃ (a : AcceptedEvent) (candidate : DeliveryCandidate) (payload : Bytes)
      (request : SendRequest) (rev : Int) (k : ReplicatedDeliveryConfirmation) (w : World)
      (svc : DeliveryService) (d : DeliveryState),
      worldLts.Run (sampleStart .empty) ((sampleClients a).map .client ++
        approachTrace 0 (.calm 30) "e1" candidate payload ++
        confirmTrace 0 (.calm 30) "e1" request rev k) w ∧
      k.kafkaTopic = request.topic ∧ k.kafkaPartition = 0 ∧ k.kafkaOffset = 42 ∧
      w.threads 0 = .idle svc ∧ w.journal.db.deliveryState.find? "e1" = some d ∧
      d.deliveryStatus = "REPLICATED" ∧ d.kafkaOffset = some 42 ∧ w.journal.db.KeysApart := by
  obtain ⟨a, db, v, hrun, hready, hrows, -⟩ := sampleStart_ready
  have hreach : Reachable ⟨{}, db, false⟩ := ⟨_, _, hrun⟩
  have hc := hreach.consistent
  have hcalm := CallEnv.calm_faultless 30
  have hclients := worldRun_clients (w := sampleStart .empty) hrun
  obtain ⟨payload, happroach⟩ := hready.approach (w := sampleStart db) (i := 0) hc hcalm rfl
  obtain ⟨t, t', hdeliver, ht⟩ :=
    hready.deliverRequest (w := sampleStart db) (i := 0) hc hcalm payload 0 42
  have hkeys : db.KeysApart := by
    unfold Db.KeysApart
    rw [hrows]
    simp
  exact ⟨a, _, payload, _, _, _, _, _, _, (hclients.append happroach).append hdeliver, rfl,
    rfl, rfl, World.setThread_self _ _ _, ht.self, rfl, rfl, hkeys⟩

/-- The sample event, accepted, sent and confirmed at offset 42. -/
theorem replicated_rows_acknowledged_sample :
    ∃ tr w tr₁ i request success tr₂ req, (@worldLts fipsSha256).Run (sampleStart .empty) tr w ∧
      tr = tr₁ ++ .send i request (.ok success) :: tr₂ ∧ AcceptedIn tr₁ req ∧
      req.eventId = "e1" ∧ request.payload = req.payload ∧ success.offset = 42 := by
  let _ : Sha256 := fipsSha256
  obtain ⟨a, candidate, payload, request, rev, k, w, svc, d, hrun, -, -, -, -, hd, hrep, hoffset,
    -⟩ := sampleStart_replicates
  have hclients : ∀ ev, WorldEvent.client ev ∈ (sampleClients a).map .client ++
      approachTrace 0 (.calm 30) "e1" candidate payload ++
      confirmTrace 0 (.calm 30) "e1" request rev k → ¬ ev.call.Confirms := by
    intro ev hev
    simp only [sampleClients, approachTrace, confirmTrace, List.map_cons, List.map_nil,
      List.mem_append, List.mem_cons, List.not_mem_nil, or_false, WorldEvent.client.injEq,
      reduceCtorEq] at hev
    rcases hev with rfl | rfl
    · exact id
    · exact id
  obtain ⟨tr₁, i, request, success, tr₂, req, routing, htr, hreq, -, hid, hpayload, -, -, -, -, -,
    ho⟩ := replicated_rows_acknowledged hrun hclients hd hrep
  exact ⟨_, w, tr₁, i, request, success, tr₂, req, hrun, htr, hreq, hid, hpayload,
    Option.some.inj (ho.symm.trans hoffset)⟩

/-- One service on a journal that was empty at first, with one stream for each key, no
failing statements, clients that accept events and create rows, and a producer that
answers under the topic it was asked for: what was acknowledged of a stream is a prefix
of what was accepted into it, with the same payloads, so that each event is acknowledged
at most once and after all events before it; nothing else is acknowledged; and whenever
the service is at rest, the acknowledged events are the replicated ones. -/
theorem streams_acknowledged_in_order_once [Sha256] {config : JournalConfig}
    {profile : Nat → KafkaProductionProfile} {tr : List WorldEvent} {w : World}
    (hrun : worldLts.Run (World.start (LocalJournal.open config) profile) tr w)
    (hone : ∀ ev ∈ tr, ev.OneService) (hecho : ∀ ev ∈ tr, ev.EchoesTopic)
    (hkeys : w.journal.db.KeysApart) :
    (∀ L, acknowledgedTo L tr <+: acceptedTo L tr) ∧
    (∀ L, ((acceptedTo L tr).map Prod.fst).Nodup) ∧
    (∀ request ∈ acknowledged tr, ∃ L, (request.eventId, request.payload) ∈ acceptedTo L tr) ∧
    ∀ svc, w.threads 0 = .idle svc →
      ∀ e, e ∈ (acknowledged tr).map (·.eventId) ↔ w.journal.db.Replicated e := by
  obtain ⟨o, howned⟩ := hkeys.exists_streamOwner
  have hids : ∀ L, w.journal.db.streamIds L = (acceptedTo L tr).map Prod.fst :=
    worldRun_streamIds hrun
  have hpayloads := worldRun_payloads hrun fun ev hev => (hone _ hev).client
  have haccepted : ∀ request ∈ acknowledged tr,
      ∃ L, (request.eventId, request.payload) ∈ acceptedTo L tr := by
    intro request hrequest
    obtain ⟨req, hreq, hid, hpayload⟩ := hpayloads request hrequest
    refine ⟨req.logicalStream, ?_⟩
    rw [← hid, hpayload]
    exact List.mem_map_of_mem (List.mem_filter.mpr ⟨hreq, decide_eq_true rfl⟩)
  have hnodup : ∀ L, ((acceptedTo L tr).map Prod.fst).Nodup := by
    intro L
    rw [← hids]
    exact Db.streamIds_nodup
  refine ⟨fun L => ?_, hnodup, haccepted, fun svc hidle => ?_⟩
  · refine List.isPrefix_of_keys Prod.fst ?_ ?_ (hnodup L)
    · have hqueued := worldRun_queues hrun hone hecho howned L
      rw [hids L] at hqueued
      have hmap : (acknowledgedTo L tr).map Prod.fst =
          ((acknowledged tr).map (·.eventId)).filter (· ∈ (acceptedTo L tr).map Prod.fst) := by
        unfold acknowledgedTo
        rw [List.filter_map, List.map_map, List.filter_map]
        rfl
      rw [hmap]
      exact hqueued
    · intro sent hsent
      obtain ⟨hmem, hstream⟩ := List.mem_filter.mp hsent
      obtain ⟨request, hrequest, rfl⟩ := List.mem_map.mp hmem
      obtain ⟨L', hL'⟩ := haccepted request hrequest
      -- the event is stored in one stream only
      have hin : request.eventId ∈ w.journal.db.streamIds L := by
        rw [hids]
        exact of_decide_eq_true hstream
      have hin' : request.eventId ∈ w.journal.db.streamIds L' := by
        rw [hids]
        exact List.mem_map_of_mem hL'
      obtain ⟨v, hv, rfl⟩ := Db.mem_streamIds.mp hin
      obtain ⟨v', hv', rfl⟩ := Db.mem_streamIds.mp hin'
      cases hv.symm.trans hv'
      exact hL'
  · have hsafe := worldRun_logged hrun hone hecho howned
    rw [hidle] at hsafe
    exact hsafe.2

/-- The sample event, acknowledged once with its payload. -/
theorem streams_acknowledged_in_order_once_sample :
    ∃ tr w L, (@worldLts fipsSha256).Run (sampleStart .empty) tr w ∧
      (acknowledged tr).map (·.eventId) = ["e1"] ∧ acknowledgedTo L tr <+: acceptedTo L tr ∧
      acknowledgedTo L tr ≠ [] := by
  let _ : Sha256 := fipsSha256
  obtain ⟨a, candidate, payload, request, rev, k, w, svc, d, hrun, htopic, hpartition, hoffset,
    hidle, hd, hrep, -, hkeys⟩ := sampleStart_replicates
  have hcalm := CallEnv.calm_faultless 30
  have hone : ∀ ev ∈ (sampleClients a).map .client ++
      approachTrace 0 (.calm 30) "e1" candidate payload ++
      confirmTrace 0 (.calm 30) "e1" request rev k, ev.OneService := by
    intro ev hev
    rcases List.mem_append.mp hev with hev | hev
    · rcases List.mem_append.mp hev with hev | hev
      · exact oneService_sampleClients a ev hev
      · exact oneService_approachTrace hcalm _ _ _ ev hev
    · exact oneService_confirmTrace hcalm _ _ _ (by omega) (by omega) ev hev
  have hecho : ∀ ev ∈ (sampleClients a).map .client ++
      approachTrace 0 (.calm 30) "e1" candidate payload ++
      confirmTrace 0 (.calm 30) "e1" request rev k, ev.EchoesTopic := by
    simp [sampleClients, approachTrace, confirmTrace, WorldEvent.EchoesTopic, htopic]
  obtain ⟨hqueued, -, haccepted, hrest⟩ :=
    streams_acknowledged_in_order_once hrun hone hecho hkeys
  have hacked : acknowledged ((sampleClients a).map .client ++
      approachTrace 0 (.calm 30) "e1" candidate payload ++
      confirmTrace 0 (.calm 30) "e1" request rev k) = [request] := rfl
  rw [hacked] at haccepted hrest
  have he := (hrest svc hidle "e1").mpr ⟨d, hd, hrep⟩
  obtain ⟨L, hL⟩ := haccepted request (by simp)
  have hsent : (request.eventId, request.payload) ∈ acknowledgedTo L ((sampleClients a).map .client ++
      approachTrace 0 (.calm 30) "e1" candidate payload ++
      confirmTrace 0 (.calm 30) "e1" request rev k) :=
    List.mem_filter.mpr ⟨List.mem_map_of_mem (by rw [hacked]; simp),
      decide_eq_true (List.mem_map_of_mem hL)⟩
  refine ⟨_, w, L, hrun, ?_, hqueued L, List.ne_nil_of_mem hsent⟩
  rw [hacked]
  exact congrArg (fun e => [e]) (List.mem_singleton.mp he).symm

/-- Wherever the one service is at rest in such a run, with delivery rows for the first
events of each stream and none of the open ones refused by it or blocked, it can go on by
itself: there are deliveries, all taken by the producer, after which every event with a
row is replicated and was acknowledged. No wait and no restart is needed on the way. -/
theorem backlog_drains [Sha256] {config : JournalConfig}
    {profile : Nat → KafkaProductionProfile} {tr : List WorldEvent} {w : World}
    {svc : DeliveryService}
    (hrun : worldLts.Run (World.start (LocalJournal.open config) profile) tr w)
    (hone : ∀ ev ∈ tr, ev.OneService) (hecho : ∀ ev ∈ tr, ev.EchoesTopic)
    (hkeys : w.journal.db.KeysApart) (hidle : w.threads 0 = .idle svc)
    (hcover : w.journal.db.RowsCoverPrefix) (hserves : svc.Serves w.journal.db) :
    ∃ tr' w', worldLts.Run w tr' w' ∧ (∀ ev ∈ tr', ev.Takes) ∧
      w'.journal.db.storedEnvelope = w.journal.db.storedEnvelope ∧
      ∀ e, (w.journal.db.deliveryState.find? e).isSome →
        w'.journal.db.Replicated e ∧ e ∈ (acknowledged (tr ++ tr')).map (·.eventId) := by
  obtain ⟨o, howned⟩ := hkeys.exists_streamOwner
  have htends := worldRun_tends hrun hone howned hidle
  -- the open rows are among those of the table
  obtain ⟨tr', w', svc', hrun', htakes, hdraining, henv, hrows, hnone⟩ :=
    (World.Draining.mk hidle htends hcover hserves).drain
      (w.journal.db.deliveryState.rows.map (·.eventId)).toFinset (by
        rintro e ⟨d, hd, -⟩
        rw [List.mem_toFinset, List.mem_map]
        exact ⟨d, KeyedTable.mem_of_find? hd, KeyedTable.key_of_find? hd⟩)
  have hone' : ∀ ev ∈ tr ++ tr', ev.OneService := by
    intro ev hev
    exact (List.mem_append.mp hev).elim (hone ev) fun h => (htakes ev h).1
  have hecho' : ∀ ev ∈ tr ++ tr', ev.EchoesTopic := by
    intro ev hev
    exact (List.mem_append.mp hev).elim (hecho ev) fun h => (htakes ev h).2.1
  have hlogs := worldRun_logged (hrun.append hrun') hone' hecho' hdraining.tends.owned
  rw [hdraining.idle] at hlogs
  refine ⟨tr', w', hrun', htakes, henv, fun e he => ?_⟩
  rw [← hrows, Option.isSome_iff_exists] at he
  obtain ⟨d, hd⟩ := he
  have hrep : w'.journal.db.Replicated e := by
    refine ⟨d, hd, ?_⟩
    by_contra hopen
    exact hnone e ⟨d, hd, hopen⟩
  exact ⟨hrep, (hlogs.2 e).mpr hrep⟩

/-- The backlog of the sample event: from its pending row to its acknowledgement. -/
theorem backlog_drains_sample :
    ∃ tr w tr' w', (@worldLts fipsSha256).Run (sampleStart .empty) tr w ∧
      acknowledged tr = [] ∧ (@worldLts fipsSha256).Run w tr' w' ∧
      w'.journal.db.Replicated "e1" ∧ "e1" ∈ (acknowledged (tr ++ tr')).map (·.eventId) := by
  let _ : Sha256 := fipsSha256
  obtain ⟨a, db, v, hrun, hready, hrows, hseq, hdelivery⟩ := sampleStart_ready
  have hclients := worldRun_clients (w := sampleStart .empty) hrun
  have hrow := hready.delivery.row
  have hid : v.eventId = "e1" := KeyedTable.key_of_find? hready.envelope
  -- the one row and the one envelope are those the service is ready for
  have honly : ∀ e s, db.HasDelivery e s → e = "e1" ∧ s = sampleRecord 20 "e1" "ns" := by
    rintro e s ⟨hs, -⟩
    have hmem := KeyedTable.mem_of_find? hs
    rw [hdelivery, List.mem_singleton] at hmem
    obtain rfl := DeliveryStateRecord.toRow_injective hmem
    exact ⟨(KeyedTable.key_of_find? hs).symm, rfl⟩
  have hkeys : db.KeysApart := by
    unfold Db.KeysApart
    rw [hrows]
    simp
  have hcover : db.RowsCoverPrefix := Db.rowsCoverPrefix_single hrows hseq (by rw [hid, hrow]; rfl)
  have hserves : (DeliveryService.new sampleProfile).Serves db := by
    refine ⟨hready.running, hready.profile, fun e s hs => ?_, fun e v' s hv' hs _ => ?_⟩
    · obtain ⟨-, rfl⟩ := honly e s hs
      exact hready.unblocked
    · obtain ⟨rfl, rfl⟩ := honly e s hs
      cases hready.envelope.symm.trans hv'
      exact ⟨_, hready.routed, fun _ _ =>
        ⟨hready.fingerprint, hready.profileId, hready.profileVersion, hready.topic⟩⟩
  obtain ⟨tr', w', hrun', -, -, hdrained⟩ := backlog_drains hclients (oneService_sampleClients a)
    (by simp [sampleClients, WorldEvent.EchoesTopic]) hkeys rfl hcover hserves
  obtain ⟨hrep, hacked⟩ := hdrained "e1" (Option.isSome_iff_exists.mpr ⟨_, hrow⟩)
  exact ⟨_, _, tr', w', hclients, rfl, hrun', hrep, hacked⟩

end CraftRelay
