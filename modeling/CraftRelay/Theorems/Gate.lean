import CraftRelay.Journal.Confirmation
import CraftRelay.Delivery.OneService
import CraftRelay.Delivery.Reattempt
import CraftRelay.Delivery.GateContract

/-!
# The gate between the calls

What the gate of a service is left at when a method returns: `attempt_delivery` leaves
nothing in flight as long as failures are persisted, and `recover` leaves the gate at
the next event of every stream its scan came close enough to. With no more rows than
the scan takes, a restart of the one service makes no difference to the gate.
-/

namespace CraftRelay

/-! ## Nothing in flight -/

/-- When what follows a failed send is persisted, `attempt_delivery` returns with
nothing in flight and never holds an event back for itself. -/
theorem nothing_left_in_flight [Sha256] {journal : LocalJournal}
    {profile : Nat → KafkaProductionProfile} {tr : List WorldEvent} {w w' : World} {i : Nat}
    {e : String} {out : DeliveryOutcome}
    (hrun : worldLts.Run (World.start journal profile) tr w)
    (hfail : FailuresPersisted i (World.start journal profile) tr)
    (hret : worldLts.step w (.return i (.attemptDelivery e) out) w') :
    (∃ svc, w'.threads i = .idle svc ∧ svc.gate.AtRest) ∧
      ∀ n v, out = .gateHeld n → w'.journal.db.storedEnvelope.find? e = some v →
        v.streamSequence ≠ n := by
  have hsafe := worldRun_atRest hrun hfail
  cases hret with
  | «return» h =>
      rw [h] at hsafe
      obtain ⟨hrest, hheld⟩ := hsafe.return
      exact ⟨⟨_, w.setThread_self i _, hrest⟩, hheld⟩

/-- The sample event is sent and confirmed, and nothing is left in flight. -/
theorem nothing_left_in_flight_sample :
    ∃ (db : Db) (tr : List WorldEvent) (w w' : World) (svc : DeliveryService),
      (@worldLts fipsSha256).Run (sampleStart db) tr w ∧
      (@worldLts fipsSha256).step w (.return 0 (.attemptDelivery "e1") (.replicated 0 42)) w' ∧
      w'.threads 0 = .idle svc ∧ svc.gate.AtRest := by
  obtain ⟨db, tr, w, w', hrun, hret, hsent⟩ := @sampleStart_delivers fipsSha256
  obtain ⟨⟨svc, hsvc, hrest⟩, -⟩ := @nothing_left_in_flight fipsSha256 _ _ _ _ _ _ _ _ hrun
    (@FailuresPersisted.of_none_failed fipsSha256 _ _ _ hsent) hret
  exact ⟨db, tr, w, w', svc, hrun, hret, hsvc, hrest⟩

/-- The sample event's send times out, the attempt cannot be recorded, and the next
call for the event is held back for the event itself. -/
theorem unrecorded_failure_stays_in_flight :
    ¬ ∃ h : Sha256, ∀ journal profile tr w w' e out, @Reachable h journal →
      (@worldLts h).Run (World.start journal profile) tr w →
      (@worldLts h).step w (.return 0 (.attemptDelivery e) out) w' →
      (∃ svc, w'.threads 0 = .idle svc ∧ svc.gate.AtRest) ∨
        ∀ n v, out = .gateHeld n → w'.journal.db.storedEnvelope.find? e = some v →
          v.streamSequence ≠ n := by
  rintro ⟨h, hall⟩
  obtain ⟨a, db, v, hrun, hready, -⟩ := @sampleStart_ready h
  have hreach : Reachable ⟨{}, db, false⟩ := ⟨_, _, hrun⟩
  have hcalm := CallEnv.calm_faultless 30
  obtain ⟨tr, hmarked⟩ := hready.leavesMark (w := sampleStart db) (i := 0) hreach.consistent
    hcalm rfl 40
  have hfl : ((OrderingGate.new.markInFlight v.streamKey v.streamSequence).entry
      v.streamKey).inFlight = some v.streamSequence := by
    rw [OrderingGate.markInFlight, OrderingGate.entry_modify, if_pos rfl]
  have hgate : ((DeliveryService.new sampleProfile).withGate
      (OrderingGate.new.markInFlight v.streamKey v.streamSequence)).gate.check v.streamKey
        v.streamSequence = .blocked v.streamSequence := OrderingGate.check_of_inFlight hfl
  obtain ⟨tr', w', hheld, -, hret⟩ := worldRun_gateHeld (w := (sampleStart db).setThread 0 _)
    (World.setThread_self _ _ _) (by rfl) hready.delivery hready.envelope
    (hreach.consistent.envelope _ _ hready.envelope) hcalm hgate
  rcases hall _ _ _ _ _ _ _ hreach (hmarked.append hheld) hret with ⟨svc, hsvc, hrest⟩ | hown
  · rw [World.setThread_self] at hsvc
    cases hsvc
    cases (hrest v.streamKey).symm.trans hfl
  · exact hown _ v rfl hready.envelope rfl

/-! ## Replicated events -/

/-- Whatever the service and the journal went through: an attempt on a replicated event
reports its coordinates, sends nothing and leaves the journal alone, exactly when nothing
of the stream is in flight and the event is the one the gate waits for. -/
theorem reattempt_truthful_iff [Sha256] {j : LocalJournal} (hreach : Reachable j)
    {svc : DeliveryService} (hopen : svc.shutdown = false) {e : String}
    {s : DeliveryStateRecord} (hs : j.db.HasDelivery e s)
    (hrep : s.deliveryStatus = "REPLICATED") {p o : Int} (hp : s.kafkaPartition = some p)
    (ho : s.kafkaOffset = some o) {v : StoredEnvelope}
    (hv : j.db.storedEnvelope.find? e = some v) :
    svc.AnswersReplicated j e p o ↔
      (svc.gate.entry v.streamKey).inFlight = none ∧
        v.streamSequence = (svc.gate.entry v.streamKey).next := by
  have hver := hreach.consistent.envelope _ _ hv
  rw [DeliveryService.answersReplicated_iff hopen hs hv hver hrep hp ho,
    OrderingGate.check_eq_allowed_iff]

/-- The delivery of the sample event by a new service, up to its return. -/
theorem sampleRun_delivered [Sha256] :
    ∃ (a : AcceptedEvent) (tr : List WorldEvent) (db db' : Db) (v : StoredEnvelope)
      (s : DeliveryStateRecord),
      journalLts.Run (LocalJournal.open {}) (sampleClients a) ⟨{}, db, false⟩ ∧
      worldLts.Run (sampleStart db) tr
        (World.setThread ⟨⟨{}, db', false⟩, (sampleStart db).threads⟩ 0
          (.idle ((DeliveryService.new sampleProfile).withGate
            ((OrderingGate.new.markInFlight v.streamKey 1).markCompleted v.streamKey 1)))) ∧
      db'.HasDelivery "e1" s ∧ s.deliveryStatus = "REPLICATED" ∧ s.kafkaPartition = some 0 ∧
      s.kafkaOffset = some 42 ∧ db'.storedEnvelope.find? "e1" = some v ∧
      v.streamSequence = 1 := by
  obtain ⟨a, db, v, hrun, hready, -, hseq, -⟩ := sampleStart_ready
  have hreach : Reachable ⟨{}, db, false⟩ := ⟨_, _, hrun⟩
  have hc := hreach.consistent
  have hcalm := CallEnv.calm_faultless 30
  obtain ⟨payload, happroach⟩ := hready.approach (w := sampleStart db) (i := 0) hc hcalm rfl
  obtain ⟨request, t, t', hdeliver, ht⟩ :=
    hready.deliver (w := sampleStart db) (i := 0) hc hcalm payload 0 42
  have hhealthy := replicated_healthy (hreach.loadsRouted.healthy hready.delivery)
    (k := (DeliveryService.new sampleProfile).confirmation (sampleRouting "ns") 0 42)
    ⟨hready.fingerprint, hready.profileId, hready.profileVersion, hready.topic⟩
    (Int.le_refl 0) (Int.natCast_nonneg 42) ((sampleRecord 20 "e1" "ns").deliveryRevision + 1) 30
  rw [hseq] at hdeliver
  exact ⟨a, _, db, _, v, _, hrun, happroach.append hdeliver, ⟨ht.self, hhealthy.verifies⟩, rfl,
    rfl, rfl, hready.envelope, hseq⟩

/-- A new service on a journal whose one event is replicated is told the coordinates. -/
theorem reattempt_truthful_iff_new :
    ∃ j : LocalJournal, @Reachable fipsSha256 j ∧
      @DeliveryService.AnswersReplicated fipsSha256 (.new sampleProfile) j "e1" 0 42 := by
  obtain ⟨a, tr, db, db', v, s, hrun, hdeliver, hs, hrep, hp, ho, hv, hseq⟩ :=
    @sampleRun_delivered fipsSha256
  have hreach : @Reachable fipsSha256 ⟨{}, db, false⟩ := ⟨_, _, hrun⟩
  obtain ⟨tr', hjournal⟩ := @worldRun_journal fipsSha256 _ _ _ hdeliver
  have hreach' := @Reachable.run fipsSha256 _ _ _ hreach hjournal
  refine ⟨_, hreach', ?_⟩
  exact (@reattempt_truthful_iff fipsSha256 _ hreach' _ rfl _ _ hs hrep _ _ hp ho _ hv).mpr
    ⟨rfl, hseq⟩

/-- The service that delivered the sample event holds a second attempt on it back. -/
theorem reattempt_held_back :
    ¬ ∃ h : Sha256, ∀ journal profile tr w i svc e s p o, @Reachable h journal →
      (@worldLts h).Run (World.start journal profile) tr w → w.threads i = .idle svc →
      svc.shutdown = false → @Db.HasDelivery h w.journal.db e s →
      s.deliveryStatus = "REPLICATED" → s.kafkaPartition = some p → s.kafkaOffset = some o →
      @DeliveryService.AnswersReplicated h svc w.journal e p o := by
  rintro ⟨h, hall⟩
  obtain ⟨a, tr, db, db', v, s, hrun, hdeliver, hs, hrep, hp, ho, hv, hseq⟩ := sampleRun_delivered
  have hreach : Reachable ⟨{}, db, false⟩ := ⟨_, _, hrun⟩
  obtain ⟨tr', hjournal⟩ := worldRun_journal hdeliver
  have hc := (hreach.run hjournal).consistent
  have hanswer := hall _ _ _ _ 0 _ "e1" _ _ _ hreach hdeliver (World.setThread_self _ _ _) rfl hs
    hrep hp ho
  have hgate := (DeliveryService.answersReplicated_iff rfl hs hv (hc.envelope _ _ hv) hrep hp
    ho).mp hanswer
  rw [OrderingGate.check_eq_allowed_iff, hseq] at hgate
  -- after the delivery the gate waits for the second event of the stream
  simp [DeliveryService.withGate, OrderingGate.markCompleted, OrderingGate.markInFlight,
    OrderingGate.entry_modify, StreamGateState.next, DeliveryService.new] at hgate

/-! ## Recovery and its limit -/

/-- After a recovery the first open event of a stream can be attempted exactly when it is
the first of its stream, or it or the event before it in the stream is among the first
10000 events of the journal. -/
theorem recovered_gate_allows_iff [Sha256] {j j' : LocalJournal}
    {profile : KafkaProductionProfile} {tr : List ((o : Effect) × o.Reply)}
    {svc : DeliveryService} (hreach : Reachable j) (hkeys : j.db.KeysApart)
    (htracked : j.db.AllTracked)
    (hrun : Prog.Run EffectStep (DeliveryService.new profile).recover j tr
      (.done (svc, .ok ())) j')
    {v : StoredEnvelope} (hfirst : j.db.FirstOpen v) :
    svc.gate.check v.streamKey v.streamSequence = .allowed ↔
      v.streamSequence = 1 ∨ v.journalSequence ≤ 10000 ∨
        ∃ u ∈ j.db.storedEnvelope.rows, u.logicalStream = v.logicalStream ∧
          u.streamSequence + 1 = v.streamSequence ∧ u.journalSequence ≤ 10000 := by
  obtain ⟨-, env, out, hscan, rfl⟩ := DeliveryService.recover_ok hrun
  have hlisted : ∀ u ∈ j.db.storedEnvelope.rows,
      (j.db.Listed 10000 u ↔ u.journalSequence ≤ 10000) :=
    fun u hu => htracked.listed_iff hreach.consistent hreach.gapless hu
  refine (hfirst.recovered_check_iff hscan hreach.gapless hkeys .new).trans ?_
  rw [hlisted v hfirst.stored]
  refine or_congr_right (or_congr_right (exists_congr fun u => and_congr_right fun hu => ?_))
  rw [hlisted u hu]

/-- The one event of the sample journal can be attempted after a recovery. -/
theorem recovered_gate_allows_iff_sample :
    ∃ (db : Db) (v : StoredEnvelope) (tr : List ((o : Effect) × o.Reply))
      (svc : DeliveryService), @Reachable fipsSha256 ⟨{}, db, false⟩ ∧
      Prog.Run (@EffectStep fipsSha256) (DeliveryService.new sampleProfile).recover
        ⟨{}, db, false⟩ tr (.done (svc, .ok ())) ⟨{}, db, false⟩ ∧
      svc.gate.check v.streamKey v.streamSequence = .allowed := by
  obtain ⟨tr₀, db₀, hrun₀, hlong⟩ := @exists_longStream fipsSha256 0
  obtain ⟨tr₁, db, v, hrun, hext⟩ := @Db.LongStream.extend fipsSha256 _ _ _ hrun₀ hlong
  have hreach : @Reachable fipsSha256 ⟨{}, db, false⟩ := ⟨_, _, hrun⟩
  have hc := @Reachable.consistent fipsSha256 _ hreach
  obtain ⟨tr, svc, hrecover⟩ := @DeliveryService.recover_of_verified fipsSha256 _
    (CallEnv.calm_faultless 30) ⟨{}, db, false⟩
    (@Db.Healthy.scannable fipsSha256 _ (@Db.Extends.healthy fipsSha256 _ _ _ _ hext hlong) hc)
    (.new sampleProfile)
  refine ⟨db, v, tr, svc, hreach, hrecover, ?_⟩
  refine (@recovered_gate_allows_iff fipsSha256 _ _ _ _ _ hreach
    (@Db.Extends.keysApart fipsSha256 _ _ _ _ hext hlong)
    (@Db.Extends.allTracked fipsSha256 _ _ _ _ hext hlong) hrecover _
    (@Db.Extends.firstOpen fipsSha256 _ _ _ _ hext hlong)).mpr (.inr (.inl ?_))
  rw [@Db.Extends.sequence fipsSha256 _ _ _ _ hext, @Db.LongStream.length fipsSha256 _ _ hlong]
  decide

/-- A stream of 10001 replicated events: after a restart its next event is held back. -/
theorem recovery_forgets_long_stream :
    ¬ ∃ h : Sha256, ∀ j profile tr svc v, @Reachable h j → j.db.KeysApart → j.db.AllTracked →
      Prog.Run (@EffectStep h) (DeliveryService.new profile).recover j tr
        (.done (svc, .ok ())) j →
      j.db.FirstOpen v → svc.gate.check v.streamKey v.streamSequence = .allowed := by
  rintro ⟨h, hall⟩
  obtain ⟨tr₀, db₀, hrun₀, hlong⟩ := exists_longStream 10001
  obtain ⟨tr₁, db, v, hrun, hext⟩ := hlong.extend hrun₀
  have hreach : Reachable ⟨{}, db, false⟩ := ⟨_, _, hrun⟩
  obtain ⟨tr, svc, hrecover⟩ := DeliveryService.recover_of_verified (j := ⟨{}, db, false⟩)
    (CallEnv.calm_faultless 30) ((hext.healthy hlong).scannable hreach.consistent)
    (.new sampleProfile)
  have hallowed := hall _ _ _ _ v hreach (hext.keysApart hlong) (hext.allTracked hlong) hrecover
    (hext.firstOpen hlong)
  obtain ⟨-, env, out, hscan, rfl⟩ := DeliveryService.recover_ok hrecover
  exact hext.not_allowed hlong (by omega) hreach.gapless hreach.consistent hscan .new hallowed

/-! ## A restart -/

/-- One service on a journal that was empty at first, whose clients accept events and
create rows for the first ones of each stream, and no more rows than the scan takes:
between two calls the gate and the one a restart would build answer every check alike. -/
theorem recovery_restores_gate [Sha256] {config : JournalConfig}
    {profile : Nat → KafkaProductionProfile} {tr : List WorldEvent} {w : World}
    {svc : DeliveryService}
    (hrun : worldLts.Run (World.start (LocalJournal.open config) profile) tr w)
    (hone : ∀ ev ∈ tr, ev.OneService) (hkeys : w.journal.db.KeysApart)
    (hcover : w.journal.db.RowsCoverPrefix)
    (hcount : w.journal.db.deliveryState.rows.length ≤ 10000)
    (hidle : w.threads 0 = .idle svc) (profile' : KafkaProductionProfile) :
    (∃ tr' svc', Prog.Run EffectStep (DeliveryService.new profile').recover w.journal tr'
      (.done (svc', .ok ())) w.journal) ∧
    ∀ tr' svc' j', Prog.Run EffectStep (DeliveryService.new profile').recover w.journal tr'
      (.done (svc', .ok ())) j' → ∀ k n, svc.gate.check k n = svc'.gate.check k n := by
  obtain ⟨o, howned⟩ := hkeys.exists_streamOwner
  have htends := worldRun_tends hrun hone howned hidle
  refine ⟨DeliveryService.recover_of_verified (CallEnv.calm_faultless 0)
    (htends.healthy.scannable htends.reachable.consistent) _, ?_⟩
  intro tr' svc' j' hrecover k n
  obtain ⟨-, env, out, hscan, rfl⟩ := DeliveryService.recover_ok hrecover
  exact htends.check_eq_recovered hcover hscan (fun _ => Db.listed_of_length_le hcount) .new k n

/-- The sample event is sent and confirmed; the gate of the service and that of a new one
after its recovery wait for the second event of the stream. -/
theorem recovery_restores_gate_sample :
    ∃ (tr : List WorldEvent) (w : World) (svc svc' : DeliveryService)
      (tr' : List ((o : Effect) × o.Reply)) (k : String),
      (@worldLts fipsSha256).Run (sampleStart .empty) tr w ∧ w.threads 0 = .idle svc ∧
      Prog.Run (@EffectStep fipsSha256) (DeliveryService.new sampleProfile).recover w.journal tr'
        (.done (svc', .ok ())) w.journal ∧
      svc'.gate.check k 1 = .blocked 2 ∧ svc'.gate.check k 2 = .allowed := by
  obtain ⟨a, db, v, hrun, hready, hrows, hseq, hdelivery⟩ := @sampleStart_ready fipsSha256
  have hreach : @Reachable fipsSha256 ⟨{}, db, false⟩ := ⟨_, _, hrun⟩
  have hc := @Reachable.consistent fipsSha256 _ hreach
  have hcalm := CallEnv.calm_faultless 30
  have hclients := @worldRun_clients fipsSha256 (sampleStart .empty) _ _ hrun
  obtain ⟨payload, happroach⟩ := @DeliveryService.Ready.approach fipsSha256 (sampleStart db) 0 _
    _ _ _ _ _ hready hc hcalm rfl
  obtain ⟨request, t, t', hdeliver, ht⟩ := @DeliveryService.Ready.deliver fipsSha256
    (sampleStart db) 0 _ _ _ _ _ _ hready hc hcalm payload 0 42
  have hall := (hclients.append happroach).append hdeliver
  have hid : v.eventId = "e1" :=
    KeyedTable.key_of_find? (@DeliveryService.Ready.envelope fipsSha256 _ _ _ _ _ _ hready)
  have hrow : (t.find? v.eventId).isSome := by
    rw [hid, ht.self]
    rfl
  have hcount : t.rows.length ≤ 10000 := by
    rw [ht.rows_eq ?_]
    · simp
    · intro e hne
      rw [KeyedTable.find?_eq_none_iff]
      intro d hd
      have hd : d ∈ db.deliveryState.rows := hd
      rw [hdelivery, List.mem_singleton] at hd
      rw [hd]
      exact hne
  have hkeys : db.KeysApart := by
    intro u hu u' hu' _
    rw [hrows, List.mem_singleton] at hu hu'
    rw [hu, hu']
  obtain ⟨⟨tr', svc', hrecover⟩, hsame⟩ := @recovery_restores_gate fipsSha256 _ _ _ _ _ hall
    (List.forall_mem_append.mpr ⟨List.forall_mem_append.mpr
        ⟨@oneService_sampleClients fipsSha256 a, oneService_approachTrace hcalm "e1" _ payload⟩,
      oneService_confirmTrace hcalm "e1" request _ (Int.le_refl 0) (Int.natCast_nonneg 42)⟩)
    hkeys (Db.rowsCoverPrefix_single hrows hseq hrow) hcount (World.setThread_self _ _ _)
    sampleProfile
  have hentry : ((OrderingGate.new.markInFlight v.streamKey v.streamSequence).markCompleted
      v.streamKey v.streamSequence).entry v.streamKey = ⟨1, none, none⟩ := by
    simp [OrderingGate.markCompleted, OrderingGate.markInFlight, OrderingGate.entry_modify, hseq]
  have hgate := hsame _ _ _ hrecover v.streamKey
  refine ⟨_, _, _, svc', tr', v.streamKey, hall, World.setThread_self _ _ _, hrecover, ?_, ?_⟩
  · rw [← hgate, OrderingGate.check_eq]
    simp only [DeliveryService.withGate, DeliveryService.new, hentry]
    rfl
  · rw [← hgate, OrderingGate.check_eq]
    simp only [DeliveryService.withGate, DeliveryService.new, hentry]
    rfl

/-! ## A disciplined user -/

/-- In every run of a new gate whose user marks only what was granted, each stream has
completed `1` to some `h` in this order: only `h + 1` passes, whatever is held back waits for
`h + 1`, one sequence is in flight at most, and calls for one stream change no answer about
another. -/
theorem gate_contract {tr : List GateCall} {gate : OrderingGate}
    (hrun : gateLts.Run .new tr gate) (hdisc : Disciplined tr) (k : String) :
    ∃ h : Nat, completed k tr = (List.range' 1 h).map Int.ofNat ∧
      (∀ n, gate.check k n = .allowed → n = h + 1) ∧
      (∀ n waiting, gate.check k n = .blocked waiting → waiting = h + 1) ∧
      (∀ n n', MarkedInFlight k n tr → MarkedInFlight k n' tr → n = n') ∧
      ∀ call gate', gateLts.step gate call gate' → call.streamKey ≠ k →
        ∀ n, gate'.check k n = gate.check k n := by
  obtain ⟨h, hc⟩ := GateContract.of_run hrun hdisc k
  refine ⟨h, hc.completed, ?_, ?_, ?_, ?_⟩
  · intro n hallowed
    rcases hc.check_eq n with hblocked | ⟨-, hn⟩
    · rw [hblocked] at hallowed
      cases hallowed
    · exact hn
  · intro n waiting hblocked
    rcases hc.check_eq n with hnext | ⟨hallowed, -⟩
    · rw [hblocked] at hnext
      exact GateDecision.blocked.inj hnext
    · rw [hblocked] at hallowed
      cases hallowed
  · intro n n' hn hn'
    exact Option.some.inj ((hc.marked n hn).symm.trans (hc.marked n' hn'))
  · exact fun call gate' hstep hk n => hstep.check_of_ne hk

/-- From the moment a disciplined user marks a sequence in flight until it marks it as
blocking or completed, every check of the stream is blocked by it. -/
theorem in_flight_holds_back {tr : List GateCall} {gate : OrderingGate}
    (hrun : gateLts.Run .new tr gate) (hdisc : Disciplined tr) {k : String} {n : Int}
    (hmarked : MarkedInFlight k n tr) (m : Int) : gate.check k m = .blocked n := by
  obtain ⟨h, hc⟩ := GateContract.of_run hrun hdisc k
  exact hc.check_of_marked hmarked m

/-- The first sequence of a stream is let through, sent and completed. -/
theorem gate_contract_first :
    ∃ h : Nat, completed "s" [.check "s" 1 .allowed, .markInFlight "s" 1, .markCompleted "s" 1] =
        (List.range' 1 h).map Int.ofNat ∧
      ((OrderingGate.new.markInFlight "s" 1).markCompleted "s" 1).check "s" 2 = .allowed := by
  have hcheck : gateLts.Run .new [.check "s" 1 .allowed] .new :=
    Lts.Run.snoc .nil (GateStep.check .new "s" 1)
  have hrun : gateLts.Run .new
      [.check "s" 1 .allowed, .markInFlight "s" 1, .markCompleted "s" 1]
      ((OrderingGate.new.markInFlight "s" 1).markCompleted "s" 1) :=
    (hcheck.snoc (GateStep.markInFlight ..)).snoc (GateStep.markCompleted ..)
  have hgranted : Granted "s" 1 [.check "s" 1 .allowed] := ⟨[], _, [], rfl, rfl, by simp⟩
  have hdisc : Disciplined
      [.check "s" 1 .allowed, .markInFlight "s" 1, .markCompleted "s" 1] := by
    rw [show [GateCall.check "s" 1 .allowed, .markInFlight "s" 1, .markCompleted "s" 1] =
      (([] ++ [.check "s" 1 .allowed]) ++ [.markInFlight "s" 1]) ++ [.markCompleted "s" 1] from rfl]
    simp only [disciplined_snoc, GateCall.mark?, GateCall.streamKey, Option.some.injEq,
      forall_eq', reduceCtorEq, false_implies, implies_true, and_true]
    exact ⟨⟨disciplined_nil, hgranted⟩, Lts.since_snoc.mpr (.inr ⟨hgranted, fun _ => .inr rfl⟩)⟩
  obtain ⟨h, hcompleted, -⟩ := gate_contract hrun hdisc "s"
  exact ⟨h, hcompleted, by decide⟩

end CraftRelay
