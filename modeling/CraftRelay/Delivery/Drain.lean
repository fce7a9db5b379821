import Mathlib.Data.Finset.Card
import CraftRelay.Delivery.AckLog

/-!
# A backlog that drains

One service at rest, as in `OneService`. Where the rows of each stream are those of its
first events and the service would send every open one (`Serves`), its gate is at an open
row of every stream that has one. So there is always a delivery left to make, and after
finitely many of them, if the broker takes them, no row is open.
-/

namespace CraftRelay

variable [Sha256]

/-- The service runs with a production profile, and every open row was created for it. -/
structure DeliveryService.Serves (svc : DeliveryService) (db : Db) : Prop where
  running : svc.shutdown = false
  profile : isProfileSafeForDelivery svc.profile = .ok ()
  unblocked : ∀ e s, db.HasDelivery e s → s.deliveryStatus ≠ "DELIVERY_BLOCKED"
  routed : ∀ e v s, db.storedEnvelope.find? e = some v → db.HasDelivery e s →
    s.deliveryStatus ≠ "REPLICATED" →
    ∃ routing, resolveRouting v.routingInput = .ok routing ∧
      ∀ partition offset, (svc.confirmation routing partition offset).Matches s

/-- The row of the event is there and not replicated. -/
def Db.OpenRow (db : Db) (e : String) : Prop :=
  ∃ d, db.deliveryState.find? e = some d ∧ d.deliveryStatus ≠ "REPLICATED"

omit [Sha256] in
theorem Db.OpenRow.not_replicated {db : Db} {e : String} (h : db.OpenRow e) :
    ¬ db.Replicated e := by
  obtain ⟨d, hd, hopen⟩ := h
  rintro ⟨d', hd', hrep⟩
  cases hd.symm.trans hd'
  exact hopen hrep

namespace DeliveryService

variable {o : StreamOwner} {j : LocalJournal} {svc : DeliveryService}

/-- Where a row is open, the gate is at an open row of its stream. -/
theorem Tends.exists_at (h : svc.Tends o (fun _ => True) j) (hcover : j.db.RowsCoverPrefix)
    {e : String} (hopen : j.db.OpenRow e) :
    ∃ e' v s, svc.At o (fun _ => True) e' v s j ∧
      svc.gate.check v.streamKey v.streamSequence = .allowed := by
  obtain ⟨d, hd, -⟩ := id hopen
  have hc := h.reachable.consistent
  obtain ⟨u, hu⟩ := Option.isSome_iff_exists.mp (hc.delivery e (by rw [hd]; rfl))
  have hmem := KeyedTable.mem_of_find? hu
  have hid : u.eventId = e := KeyedTable.key_of_find? hu
  -- the number of the stream, at or before the open row
  have hto : j.db.ReplicatedTo (o.owner u.streamKey) (svc.gate.entry u.streamKey).next :=
    h.gate u.streamKey (h.rest u.streamKey)
  rw [h.owned u hmem] at hto
  have hle : (svc.gate.entry u.streamKey).next ≤ u.streamSequence := by
    have hnot := mt (hto.before u hmem rfl).mpr (by rw [hid]; exact hopen.not_replicated)
    omega
  -- so the event at the number has a row too
  obtain ⟨m, hm⟩ := hcover u.logicalStream
  have hum := ((hm u.streamSequence).mp ⟨u, hmem, rfl, rfl, by rw [hid, hd]; rfl⟩).2
  obtain ⟨v, hv, hL, hseq, hrow⟩ := (hm (svc.gate.entry u.streamKey).next).mpr
    ⟨(hto.bounds h.reachable.gapless).1, by omega⟩
  obtain ⟨d', hd'⟩ := Option.isSome_iff_exists.mp hrow
  obtain ⟨s, rfl, hs⟩ := h.healthy _ _ hd'
  have hkey : v.streamKey = u.streamKey := by
    have hkey : v.logicalStream.2.2.2 = u.logicalStream.2.2.2 := by rw [hL]
    exact hkey
  have hgate : svc.gate.check v.streamKey v.streamSequence = .allowed := by
    rw [hkey, hseq, OrderingGate.check_of_idle (h.rest _), if_pos rfl]
  exact ⟨v.eventId, v, s, h.at_of_allowed (KeyedTable.find?_of_mem hv) ⟨hd', hs.verifies⟩ hgate,
    hgate⟩

/-- What the service is at it would send. -/
theorem Serves.ready (h : svc.Serves j.db) {e : String} {v : StoredEnvelope}
    {s : DeliveryStateRecord} (hat : svc.At o (fun _ => True) e v s j)
    (hgate : svc.gate.check v.streamKey v.streamSequence = .allowed) :
    ∃ routing, svc.Ready j.db e v s routing := by
  obtain ⟨routing, hrouted, hmatches⟩ := h.routed e v s hat.envelope hat.delivery hat.unconfirmed
  obtain ⟨hfingerprint, hid, hversion, htopic⟩ := hmatches 0 0
  exact ⟨routing, h.running, hat.delivery, hat.envelope, hat.unconfirmed,
    h.unblocked e s hat.delivery, hgate, hrouted, hfingerprint, hid, hversion, htopic, h.profile⟩

/-- A delivery that replicates the row of its event leaves the others to be sent. -/
theorem Serves.replicates {db db' : Db} {svc' : DeliveryService} (h : svc.Serves db)
    (hrunning : svc'.shutdown = svc.shutdown) (hprofile : svc'.profile = svc.profile)
    {e : String} {s : DeliveryStateRecord}
    (ht : db.deliveryState.Puts e s.toRow db'.deliveryState)
    (hrep : s.deliveryStatus = "REPLICATED") (henv : db'.storedEnvelope = db.storedEnvelope) :
    svc'.Serves db' := by
  have hcases : ∀ {e' s'}, db'.HasDelivery e' s' → s' = s ∨ db.HasDelivery e' s' := by
    rintro e' s' ⟨hrow, hverifies⟩
    by_cases he : e = e'
    · subst he
      exact .inl (DeliveryStateRecord.toRow_injective (Option.some.inj (hrow.symm.trans ht.self)))
    · rw [ht.other he] at hrow
      exact .inr ⟨hrow, hverifies⟩
  refine ⟨hrunning.trans h.running, by rw [hprofile]; exact h.profile, ?_, ?_⟩
  · intro e' s' hs'
    rcases hcases hs' with rfl | hs'
    · rw [hrep]
      decide
    · exact h.unblocked e' s' hs'
  · intro e' v s' hv hs' hopen
    rcases hcases hs' with rfl | hs'
    · exact absurd hrep hopen
    · unfold DeliveryService.confirmation
      rw [hprofile]
      exact h.routed e' v s' (henv ▸ hv) hs' hopen

end DeliveryService

/-! ## Deliveries one after the other -/

/-- The service is at rest in the world, and can go on with its backlog. -/
structure World.Draining (o : StreamOwner) (w : World) (svc : DeliveryService) : Prop where
  idle : w.threads 0 = .idle svc
  tends : svc.Tends o (fun _ => True) w.journal
  cover : w.journal.db.RowsCoverPrefix
  serves : svc.Serves w.journal.db

/-- The events of the service alone, with a producer that takes what it is sent. -/
def WorldEvent.Takes (ev : WorldEvent) : Prop :=
  ev.OneService ∧ ev.EchoesTopic ∧ ev.thread? = some 0 ∧
    ∀ request sendErr, ev ≠ .send 0 request (.error sendErr)

omit [Sha256] in
theorem takes_approachTrace {env : CallEnv} (henv : env.Faultless) (e : String)
    (candidate : DeliveryCandidate) (payload : Bytes) :
    ∀ ev ∈ approachTrace 0 env e candidate payload, ev.Takes := by
  intro ev hev
  refine ⟨oneService_approachTrace henv e candidate payload ev hev, ?_⟩
  simp only [approachTrace, List.mem_cons, List.not_mem_nil, or_false] at hev
  rcases hev with rfl | rfl | rfl
  · exact ⟨trivial, rfl, by simp⟩
  · exact ⟨trivial, rfl, by simp⟩
  · exact ⟨trivial, rfl, by simp⟩

omit [Sha256] in
theorem takes_confirmTrace {env : CallEnv} (henv : env.Faultless) (e : String)
    {request : SendRequest} (rev : Int) {k : ReplicatedDeliveryConfirmation}
    (htopic : k.kafkaTopic = request.topic) (hpartition : 0 ≤ k.kafkaPartition)
    (hoffset : 0 ≤ k.kafkaOffset) : ∀ ev ∈ confirmTrace 0 env e request rev k, ev.Takes := by
  intro ev hev
  refine ⟨oneService_confirmTrace henv e request rev hpartition hoffset ev hev, ?_⟩
  simp only [confirmTrace, List.mem_cons, List.not_mem_nil, or_false] at hev
  rcases hev with rfl | rfl | rfl
  · exact ⟨htopic, rfl, by simp⟩
  · exact ⟨trivial, rfl, by simp⟩
  · exact ⟨trivial, rfl, by simp⟩

/-- A service that is followed from a state of rest to another. -/
theorem DeliveryService.Tends.run {o : StreamOwner} {w w' : World} {tr : List WorldEvent}
    {svc svc' : DeliveryService} (h : svc.Tends o (fun _ => True) w.journal)
    (hidle : w.threads 0 = .idle svc) (hrun : worldLts.Run w tr w')
    (hone : ∀ ev ∈ tr, ev.OneService) (howned : w'.journal.db.OwnedBy o)
    (hidle' : w'.threads 0 = .idle svc') : svc'.Tends o (fun _ => True) w'.journal := by
  have hstart : (serviceTracking o).ThreadSafe w.journal () (w.threads 0) := by
    rw [hidle]
    exact h
  have hsafe : (serviceTracking o).ThreadSafe w'.journal () (w'.threads 0) := by
    refine Tracking.thread_run (serviceTracking_sound o) hrun hstart ?_
    intro tr₁ ev tr₂ w₁ w₂ htr _ _ hrun₂
    exact ⟨hone ev (by rw [htr]; simp), howned.of_run hrun₂⟩
  rw [hidle'] at hsafe
  exact hsafe

/-- One more row is replicated, and the others stay as they are. -/
theorem World.Draining.deliver {o : StreamOwner} {w : World} {svc : DeliveryService}
    (h : w.Draining o svc) {e : String} (hopen : w.journal.db.OpenRow e) :
    ∃ tr w' svc' e', worldLts.Run w tr w' ∧ (∀ ev ∈ tr, ev.Takes) ∧ w'.Draining o svc' ∧
      w'.journal.db.storedEnvelope = w.journal.db.storedEnvelope ∧
      (∀ x, (w'.journal.db.deliveryState.find? x).isSome =
        (w.journal.db.deliveryState.find? x).isSome) ∧
      w.journal.db.OpenRow e' ∧ ∀ x, w'.journal.db.OpenRow x → w.journal.db.OpenRow x ∧ x ≠ e' := by
  obtain ⟨e', v, s, hat, hgate⟩ := h.tends.exists_at h.cover hopen
  obtain ⟨routing, hready⟩ := h.serves.ready hat hgate
  have hc := h.tends.reachable.consistent
  have hcalm := CallEnv.calm_faultless 0
  obtain ⟨payload, happroach⟩ := hready.approach hc hcalm h.idle
  obtain ⟨t, t', hdeliver, ht⟩ :=
    hready.deliverRequest (w := w) (i := 0) hc hcalm payload 0 0
  have hrun := happroach.append hdeliver
  have htakes : ∀ ev ∈ approachTrace 0 (.calm 0) e' (v.candidate s) payload ++
      confirmTrace 0 (.calm 0) e' (svc.sendRequest e' routing payload) s.deliveryRevision
        (svc.confirmation routing 0 0), ev.Takes := by
    intro ev hev
    rcases List.mem_append.mp hev with hev | hev
    · exact takes_approachTrace hcalm e' _ payload ev hev
    · exact takes_confirmTrace hcalm e' _ rfl (le_refl 0) (le_refl 0) ev hev
  have hidle := World.setThread_self (i := 0) { w with journal := { w.journal with
    db := { w.journal.db with deliveryState := t, lifecycleState := t' } } } (.idle (svc.withGate
      ((svc.gate.markInFlight v.streamKey v.streamSequence).markCompleted v.streamKey
        v.streamSequence)))
  have hrows : ∀ x, (t.find? x).isSome = (w.journal.db.deliveryState.find? x).isSome := by
    intro x
    by_cases hx : e' = x
    · subst hx
      rw [ht.self, hat.delivery.row]
      rfl
    · rw [ht.other hx]
  refine ⟨_, _, _, e', hrun, htakes, ⟨hidle, ?_, ?_, ?_⟩, rfl, hrows,
    ⟨_, hat.delivery.row, hat.unconfirmed⟩, ?_⟩
  · exact h.tends.run h.idle hrun (fun ev hev => (htakes ev hev).1) h.tends.owned hidle
  · intro L
    obtain ⟨m, hm⟩ := h.cover L
    refine ⟨m, fun n => ?_⟩
    rw [← hm n]
    show (∃ u ∈ w.journal.db.storedEnvelope.rows, _ ∧ _ ∧ (t.find? u.eventId).isSome) ↔ _
    simp only [hrows]
  · exact h.serves.replicates rfl rfl (s := (s.replicated _ _ _).sealed) ht rfl rfl
  · rintro x ⟨d, hd, hopen⟩
    have hd : t.find? x = some d := hd
    by_cases hx : e' = x
    · subst hx
      rw [ht.self] at hd
      cases hd
      exact absurd rfl hopen
    · rw [ht.other hx] at hd
      exact ⟨⟨d, hd, hopen⟩, Ne.symm hx⟩

/-- Some deliveries later no row of a finite set that holds all open ones is open. -/
theorem World.Draining.drain {o : StreamOwner} (S : Finset String) {w : World}
    {svc : DeliveryService} (h : w.Draining o svc)
    (hopen : ∀ e, w.journal.db.OpenRow e → e ∈ S) :
    ∃ tr w' svc', worldLts.Run w tr w' ∧ (∀ ev ∈ tr, ev.Takes) ∧ w'.Draining o svc' ∧
      w'.journal.db.storedEnvelope = w.journal.db.storedEnvelope ∧
      (∀ x, (w'.journal.db.deliveryState.find? x).isSome =
        (w.journal.db.deliveryState.find? x).isSome) ∧
      ∀ e, ¬ w'.journal.db.OpenRow e := by
  induction S using Finset.strongInduction generalizing w svc with
  | H S ih =>
      by_cases hsome : ∃ e, w.journal.db.OpenRow e
      · obtain ⟨e, he⟩ := hsome
        obtain ⟨tr, w₁, svc₁, e', hrun, htakes, hdraining, henv, hrows, he', hrest⟩ := h.deliver he
        have hsub : S.erase e' ⊂ S := Finset.erase_ssubset (hopen e' he')
        obtain ⟨tr', w', svc', hrun', htakes', hdraining', henv', hrows', hnone⟩ :=
          ih (S.erase e') hsub hdraining fun x hx =>
            Finset.mem_erase.mpr ⟨(hrest x hx).2, hopen x (hrest x hx).1⟩
        refine ⟨tr ++ tr', w', svc', hrun.append hrun', ?_, hdraining', henv'.trans henv,
          fun x => (hrows' x).trans (hrows x), hnone⟩
        intro ev hev
        exact (List.mem_append.mp hev).elim (htakes ev) (htakes' ev)
      · exact ⟨[], w, svc, .nil, by simp, h, rfl, fun _ => rfl, fun e he => hsome ⟨e, he⟩⟩

end CraftRelay
