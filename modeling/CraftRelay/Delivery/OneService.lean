import CraftRelay.Delivery.InFlight
import CraftRelay.Delivery.ScanLimit

/-!
# One service and its restart

A single service on a journal whose clients only accept events and create delivery
rows. As long as its statements are executed, a number per stream says everything
about it: the events before the number are the replicated ones (`ReplicatedTo`). The
gate of the service is at that number whenever it is at rest, and a gate rebuilt from
the rows is at it too, so the two answer every check alike.
-/

namespace CraftRelay

/-- The replicated events of the stream are those before the sequence, the one right
before it among them. -/
structure Db.ReplicatedTo (db : Db) (L : LogicalStream) (n : Int) : Prop where
  last : n = 1 ∨ ∃ u ∈ db.storedEnvelope.rows, u.logicalStream = L ∧
    u.streamSequence + 1 = n ∧ db.Replicated u.eventId
  before : ∀ u ∈ db.storedEnvelope.rows, u.logicalStream = L →
    (db.Replicated u.eventId ↔ u.streamSequence < n)

/-- Deliveries that are neither replicated nor blocked have retries left. -/
def Db.RetriesLeft (db : Db) (p : String → Prop) : Prop :=
  ∀ e d, p e → db.deliveryState.find? e = some d → d.deliveryStatus ≠ "REPLICATED" →
    d.deliveryStatus ≠ "DELIVERY_BLOCKED" → d.attemptCount < maxRetryAttempts

/-- One row is written; the written event may be accounted for from now on. -/
theorem Db.RetriesLeft.puts {db db' : Db} {e : String} {d : DeliveryState}
    {p p' : String → Prop} (h : db.RetriesLeft p)
    (ht : db.deliveryState.Puts e d db'.deliveryState) (hp : ∀ e', e' ≠ e → p' e' → p e')
    (hd : p' e → d.deliveryStatus ≠ "REPLICATED" → d.deliveryStatus ≠ "DELIVERY_BLOCKED" →
      d.attemptCount < maxRetryAttempts) : db'.RetriesLeft p' := by
  intro e' d' hp' hd'
  by_cases he : e = e'
  · subst he
    rw [ht.self] at hd'
    cases hd'
    exact hd hp'
  · rw [ht.other he] at hd'
    exact h e' d' (hp e' (Ne.symm he) hp') hd'

/-- The calls of the clients: events are accepted and their rows created. -/
def JournalCall.Feeds : JournalCall → Prop
  | .accept _ => True
  | .createDeliveryPending _ _ profileId profileVersion topic =>
      topic ≠ "" ∧ profileId ≠ "" ∧ 0 < profileVersion
  | _ => False

theorem JournalCall.Feeds.sparesRows {c : JournalCall} (h : c.Feeds) : c.SparesRows := by
  cases c with
  | accept => trivial
  | createDeliveryPending => trivial
  | _ => exact absurd h id

/-- The sequence is positive and at most one past the events of the stream. -/
theorem Db.ReplicatedTo.bounds {db : Db} {L : LogicalStream} {n : Int}
    (h : db.ReplicatedTo L n) (hg : db.Gapless) :
    1 ≤ n ∧ n ≤ (db.streamEnvelopes L.formattedKey).length + 1 := by
  rcases h.last with rfl | ⟨u, hu, hL, hn, -⟩
  · omega
  · have := hg.sequence_le hu hL
    omega

/-- It is about envelopes and replicated events only. -/
theorem Db.ReplicatedTo.congr {db db' : Db} {L : LogicalStream} {n : Int}
    (h : db.ReplicatedTo L n) (henv : db'.storedEnvelope = db.storedEnvelope)
    (hrep : ∀ e, db'.Replicated e ↔ db.Replicated e) : db'.ReplicatedTo L n := by
  refine ⟨?_, ?_⟩
  · rw [henv]
    simp only [hrep]
    exact h.last
  · rw [henv]
    simp only [hrep]
    exact h.before

/-- The event of a stream's number is confirmed. -/
theorem Db.ReplicatedTo.advance {db db' : Db} {v : StoredEnvelope}
    (h : db.ReplicatedTo v.logicalStream v.streamSequence) (hg : db.Gapless)
    (hv : v ∈ db.storedEnvelope.rows) (henv : db'.storedEnvelope = db.storedEnvelope)
    (hrep : ∀ e, db'.Replicated e ↔ v.eventId = e ∨ db.Replicated e) :
    db'.ReplicatedTo v.logicalStream (v.streamSequence + 1) := by
  refine ⟨.inr ⟨v, henv ▸ hv, rfl, rfl, (hrep _).mpr (.inl rfl)⟩, ?_⟩
  rw [henv]
  intro u hu hL
  rw [hrep, h.before u hu hL]
  constructor
  · rintro (heq | hlt)
    · obtain rfl : v = u := KeyedTable.eq_of_key_eq hv hu heq
      omega
    · omega
  · intro hlt
    by_cases heq : u.streamSequence = v.streamSequence
    · obtain rfl := hg.eq_of_sequence hu hv hL heq
      exact .inl rfl
    · right
      omega

/-- The number of another stream does not move. -/
theorem Db.ReplicatedTo.other {db db' : Db} {v : StoredEnvelope} {L : LogicalStream} {n : Int}
    (h : db.ReplicatedTo L n) (hv : v ∈ db.storedEnvelope.rows) (hL : v.logicalStream ≠ L)
    (henv : db'.storedEnvelope = db.storedEnvelope)
    (hrep : ∀ e, db'.Replicated e ↔ v.eventId = e ∨ db.Replicated e) :
    db'.ReplicatedTo L n := by
  refine ⟨?_, ?_⟩
  · rw [henv]
    rcases h.last with h1 | ⟨u, hu, hLu, hn, hur⟩
    · exact .inl h1
    · exact .inr ⟨u, hu, hLu, hn, (hrep _).mpr (.inr hur)⟩
  · rw [henv]
    intro u hu hLu
    rw [hrep, ← h.before u hu hLu]
    refine or_iff_right ?_
    intro heq
    obtain rfl : v = u := KeyedTable.eq_of_key_eq hv hu heq
    exact hL hLu

variable [Sha256]

section Feeding

variable {env : CallEnv} {db db' : Db} {c : JournalCall} {r : c.Reply}

/-- A client leaves every delivery row as it is; a new one is pending. -/
theorem DbStep.feeds_rows (h : DbStep env db c r db') (hc : c.Feeds) :
    (∀ e d, db.deliveryState.find? e = some d → db'.deliveryState.find? e = some d) ∧
      ∀ e d, db'.deliveryState.find? e = some d → db.deliveryState.find? e = some d ∨
        ∃ s : DeliveryStateRecord, d = s.toRow ∧ s.Healthy ∧
          s.deliveryStatus = "DELIVERY_PENDING" ∧ s.attemptCount = 0 := by
  obtain ⟨hkeeps, hnew⟩ := h.spares_rows hc.sparesRows
  refine ⟨hkeeps, fun e d hd => ?_⟩
  rcases hnew e d hd with hd | ⟨-, hcreated⟩
  · exact .inl hd
  · obtain ⟨eventId, fingerprint, profileId, profileVersion, topic, rfl, rfl⟩ :=
      JournalEvent.created?_eq_some hcreated
    obtain ⟨htopic, hprofile, hversion⟩ := hc
    exact .inr ⟨_, rfl, pending_healthy htopic hprofile hversion, rfl, rfl⟩

theorem DbStep.feeds_replicated (h : DbStep env db c r db') (hc : c.Feeds) (e : String) :
    db'.Replicated e ↔ db.Replicated e := by
  obtain ⟨hkeeps, hnew⟩ := h.feeds_rows hc
  constructor
  · rintro ⟨d, hd, hrep⟩
    rcases hnew e d hd with hd | ⟨s, rfl, -, hpending, -⟩
    · exact ⟨d, hd, hrep⟩
    · have hrep : s.deliveryStatus = "REPLICATED" := hrep
      rw [hpending] at hrep
      simp at hrep
  · rintro ⟨d, hd, hrep⟩
    exact ⟨d, hkeeps e d hd, hrep⟩

theorem DbStep.feeds_healthy (h : DbStep env db c r db') (hc : c.Feeds) (hh : db.Healthy) :
    db'.Healthy := by
  intro e d hd
  rcases (h.feeds_rows hc).2 e d hd with hd | ⟨s, hs, hhealthy, -⟩
  · exact hh e d hd
  · exact ⟨s, hs, hhealthy⟩

theorem DbStep.feeds_retriesLeft (h : DbStep env db c r db') (hc : c.Feeds) {p : String → Prop}
    (hleft : db.RetriesLeft p) : db'.RetriesLeft p := by
  intro e d hp hd hrep hblocked
  rcases (h.feeds_rows hc).2 e d hd with hd | ⟨s, rfl, -, -, hcount⟩
  · exact hleft e d hp hd hrep hblocked
  · show s.attemptCount < maxRetryAttempts
    rw [hcount]
    decide

/-- A new event takes the next sequence of its stream, which is not before the number,
and is not replicated. -/
theorem DbStep.feeds_replicatedTo (h : DbStep env db c r db') (hc : c.Feeds) (hg : db.Gapless)
    (hcons : db.Consistent) {L : LogicalStream} {n : Int} (hto : db.ReplicatedTo L n) :
    db'.ReplicatedTo L n := by
  have hrep := h.feeds_replicated hc
  rcases h.acceptance with ⟨req, a, hev, hacc⟩ | ⟨-, hsame⟩
  · have hbound := (hto.bounds hg).2
    refine ⟨?_, ?_⟩
    · rcases hto.last with h1 | ⟨u, hu, hL, hn, hu'⟩
      · exact .inl h1
      · refine .inr ⟨u, ?_, hL, hn, (hrep _).mpr hu'⟩
        rw [hacc.storedEnvelope]
        exact List.mem_append_left _ hu
    · intro u hu hL
      rw [hrep]
      rw [hacc.storedEnvelope, List.mem_append, List.mem_singleton] at hu
      rcases hu with hu | rfl
      · exact hto.before u hu hL
      · have henvelope := StoredEnvelope.formattedStreamKey_eq hL
        have hkey : req.formattedStreamKey = L.formattedKey := henvelope
        constructor
        · rintro ⟨d, hd, -⟩
          cases (hacc.noDelivery hcons).symm.trans hd
        · intro hlt
          have hlt : db.nextStreamSequence req.formattedStreamKey < n := hlt
          rw [hg.nextStreamSequence, hkey] at hlt
          omega
  · exact hto.congr hsame.storedEnvelope hrep

end Feeding

/-! ## What the service keeps -/

/-- A stream for each raw key. -/
structure StreamOwner where
  owner : String → LogicalStream
  key : ∀ k, (owner k).2.2.2 = k

/-- The stored events belong to the streams of their keys. -/
def Db.OwnedBy (db : Db) (o : StreamOwner) : Prop :=
  ∀ v ∈ db.storedEnvelope.rows, o.owner v.streamKey = v.logicalStream

omit [Sha256] in
theorem Db.OwnedBy.congr {db db' : Db} {o : StreamOwner} (h : db.OwnedBy o)
    (henv : db'.storedEnvelope = db.storedEnvelope) : db'.OwnedBy o := by
  unfold Db.OwnedBy
  rw [henv]
  exact h

/-- The journal is as the service left it, and its gate at the number of each stream;
`p` are the events whose retries it has accounted for. -/
structure DeliveryService.Tends (o : StreamOwner) (p : String → Prop) (j : LocalJournal)
    (svc : DeliveryService) : Prop where
  reachable : Reachable j
  healthy : j.db.Healthy
  retries : j.db.RetriesLeft p
  owned : j.db.OwnedBy o
  rest : svc.gate.AtRest
  gate : svc.gate.Respects fun k n => j.db.ReplicatedTo (o.owner k) n

/-- Clients lead from one state to the other. -/
def LocalJournal.FedTo (o : StreamOwner) (j j' : LocalJournal) : Prop :=
  (∃ tr, journalLts.Run j tr j' ∧ ∀ ev ∈ tr, ev.call.Feeds) ∧
    (j.db.OwnedBy o → j'.db.OwnedBy o)

namespace LocalJournal.FedTo

variable {o : StreamOwner} {j j' j'' : LocalJournal}

theorem refl (j : LocalJournal) : j.FedTo o j := ⟨⟨[], .nil, by simp⟩, id⟩

theorem trans (h : j.FedTo o j') (h' : j'.FedTo o j'') : j.FedTo o j'' := by
  obtain ⟨⟨tr, hrun, hfeeds⟩, howned⟩ := h
  obtain ⟨⟨tr', hrun', hfeeds'⟩, howned'⟩ := h'
  refine ⟨⟨tr ++ tr', hrun.append hrun', ?_⟩, fun h => howned' (howned h)⟩
  intro ev hev
  rcases List.mem_append.mp hev with hev | hev
  · exact hfeeds ev hev
  · exact hfeeds' ev hev

theorem delivery (h : j.FedTo o j') {e : String} {s : DeliveryStateRecord}
    (hs : j.db.HasDelivery e s) : j'.db.HasDelivery e s := by
  obtain ⟨⟨tr, hrun, hfeeds⟩, -⟩ := h
  refine ⟨?_, hs.verifies⟩
  refine hrun.invariant (P := fun j => j.db.deliveryState.find? e = some s.toRow) hfeeds hs.row ?_
  intro t ev u hev hrow hst
  exact ((journalStep_cases hst).feeds_rows hev).1 e _ hrow

theorem envelope (h : j.FedTo o j') {e : String} {v : StoredEnvelope}
    (hv : j.db.storedEnvelope.find? e = some v) : j'.db.storedEnvelope.find? e = some v := by
  obtain ⟨⟨tr, hrun, -⟩, -⟩ := h
  exact journalRun_keepsEnvelope hrun hv

theorem replicatedTo (h : j.FedTo o j') (hreach : Reachable j) {L : LogicalStream} {n : Int}
    (hto : j.db.ReplicatedTo L n) : j'.db.ReplicatedTo L n := by
  obtain ⟨⟨tr, hrun, hfeeds⟩, -⟩ := h
  have hboth : Reachable j' ∧ j'.db.ReplicatedTo L n := by
    refine hrun.invariant (P := fun j => Reachable j ∧ j.db.ReplicatedTo L n) hfeeds
      ⟨hreach, hto⟩ ?_
    rintro t ev u hev ⟨hreach, hto⟩ hst
    exact ⟨hreach.run (Lts.Run.nil.snoc hst), (journalStep_cases hst).feeds_replicatedTo hev
      hreach.gapless hreach.consistent hto⟩
  exact hboth.2

/-- Clients take nothing from what the service keeps. -/
theorem tends (h : j.FedTo o j') {p : String → Prop} {svc : DeliveryService}
    (ht : svc.Tends o p j) : svc.Tends o p j' := by
  have hto : svc.gate.Respects fun k n => j'.db.ReplicatedTo (o.owner k) n :=
    fun k hfl => h.replicatedTo ht.reachable (ht.gate k hfl)
  obtain ⟨⟨tr, hrun, hfeeds⟩, howned⟩ := h
  have hrows : j'.db.Healthy ∧ j'.db.RetriesLeft p := by
    refine hrun.invariant (P := fun j => j.db.Healthy ∧ j.db.RetriesLeft p) hfeeds
      ⟨ht.healthy, ht.retries⟩ ?_
    rintro t ev u hev ⟨hhealthy, hretries⟩ hst
    have hstep := journalStep_cases hst
    exact ⟨hstep.feeds_healthy hev hhealthy, hstep.feeds_retriesLeft hev hretries⟩
  exact ⟨ht.reachable.run hrun, hrows.1, hrows.2, howned ht.owned, ht.rest, hto⟩

end LocalJournal.FedTo

/-- The service is at an event whose delivery is open: it is the next of its stream. -/
structure DeliveryService.At (o : StreamOwner) (p : String → Prop) (e : String)
    (v : StoredEnvelope) (s : DeliveryStateRecord) (j : LocalJournal)
    (svc : DeliveryService) : Prop where
  tends : svc.Tends o p j
  envelope : j.db.storedEnvelope.find? e = some v
  delivery : j.db.HasDelivery e s
  unconfirmed : s.deliveryStatus ≠ "REPLICATED"
  here : j.db.ReplicatedTo v.logicalStream v.streamSequence

namespace DeliveryService.At

variable {o : StreamOwner} {p : String → Prop} {e : String} {v : StoredEnvelope}
  {s s' : DeliveryStateRecord} {j j' : LocalJournal} {svc svc' : DeliveryService}

theorem fed (h : svc.At o p e v s j) (hfed : j.FedTo o j') : svc.At o p e v s j' :=
  ⟨hfed.tends h.tends, hfed.envelope h.envelope, hfed.delivery h.delivery, h.unconfirmed,
    hfed.replicatedTo h.tends.reachable h.here⟩

theorem owner_eq (h : svc.At o p e v s j) : o.owner v.streamKey = v.logicalStream :=
  h.tends.owned v (KeyedTable.mem_of_find? h.envelope)

/-- The service writes the row of its event and leaves the delivery open. -/
theorem put (h : svc.At o p e v s j) (p' : String → Prop) {ev : JournalEvent}
    (hst : journalLts.step j ev j') (henv : j'.db.storedEnvelope = j.db.storedEnvelope)
    (ht : j.db.deliveryState.Puts e s'.toRow j'.db.deliveryState) (hs' : s'.Healthy)
    (hopen : s'.deliveryStatus ≠ "REPLICATED")
    (hp : ∀ e', e' ≠ e → p' e' → p e')
    (hleft : p' e → s'.deliveryStatus ≠ "DELIVERY_BLOCKED" →
      s'.attemptCount < maxRetryAttempts) : svc.At o p' e v s' j' := by
  have hrep : ∀ e', j'.db.Replicated e' ↔ j.db.Replicated e' := by
    intro e'
    unfold Db.Replicated
    rw [ht.exists_iff]
    split
    · rename_i he
      subst he
      constructor
      · exact fun hrep => absurd hrep hopen
      · rintro ⟨d, hd, hrep⟩
        cases h.delivery.row.symm.trans hd
        exact absurd hrep h.unconfirmed
    · exact Iff.rfl
  have hto : ∀ {L n}, j.db.ReplicatedTo L n → j'.db.ReplicatedTo L n :=
    fun hto => hto.congr henv hrep
  refine ⟨⟨h.tends.reachable.run (Lts.Run.nil.snoc hst),
    h.tends.healthy.puts ht ⟨s', rfl, hs'⟩, h.tends.retries.puts ht hp fun hp' _ => hleft hp',
    h.tends.owned.congr henv, h.tends.rest, fun k hfl => hto (h.tends.gate k hfl)⟩, ?_,
    ⟨ht.self, hs'.verifies⟩, hopen, hto h.here⟩
  rw [henv]
  exact h.envelope

/-- A call that wrote no envelope and no delivery row. -/
theorem same (h : svc.At o p e v s j) {ev : JournalEvent} (hst : journalLts.step j ev j')
    (henv : j'.db.storedEnvelope = j.db.storedEnvelope)
    (hrows : j'.db.deliveryState = j.db.deliveryState) : svc.At o p e v s j' := by
  refine h.put p hst henv ?_ (h.tends.healthy.record h.delivery) h.unconfirmed (fun _ _ h => h)
    fun hp => h.tends.retries e _ hp h.delivery.row h.unconfirmed
  intro e'
  rw [hrows]
  split
  · rename_i he
    rw [← he]
    exact h.delivery.row
  · rfl

/-- Whether the event was in flight or not, the service may be left blocked at it. -/
theorem blocking (h : svc.At o (fun _ => True) e v s j)
    (hsvc : svc' = svc ∨
      svc' = svc.withGate (svc.gate.markInFlight v.streamKey v.streamSequence)) :
    (svc'.withGate (svc'.gate.markBlocking v.streamKey v.streamSequence)).Tends o
      (fun _ => True) j := by
  have hhere : j.db.ReplicatedTo (o.owner v.streamKey) v.streamSequence := by
    rw [h.owner_eq]
    exact h.here
  refine ⟨h.tends.reachable, h.tends.healthy, h.tends.retries, h.tends.owned, ?_, ?_⟩
  · rcases hsvc with rfl | rfl
    · exact h.tends.rest.markBlocking
    · exact h.tends.rest.failed
  · rcases hsvc with rfl | rfl
    · exact h.tends.gate.markBlocking hhere
    · exact h.tends.gate.markInFlight.markBlocking hhere

/-- The event is confirmed: its stream is one further and no other one moved. -/
theorem confirmed (h : svc.At o (fun _ => True) e v s j) {ev : JournalEvent}
    (hst : journalLts.step j ev j') (henv : j'.db.storedEnvelope = j.db.storedEnvelope)
    (ht : j.db.deliveryState.Puts e s'.toRow j'.db.deliveryState) (hs' : s'.Healthy)
    (hrep : s'.deliveryStatus = "REPLICATED") :
    (svc.withGate ((svc.gate.markInFlight v.streamKey v.streamSequence).markCompleted
      v.streamKey v.streamSequence)).Tends o (fun _ => True) j' := by
  have hv := KeyedTable.mem_of_find? h.envelope
  obtain rfl : v.eventId = e := KeyedTable.key_of_find? h.envelope
  have hiff : ∀ e', j'.db.Replicated e' ↔ v.eventId = e' ∨ j.db.Replicated e' := by
    intro e'
    unfold Db.Replicated
    rw [ht.exists_iff]
    split
    · rename_i he
      subst he
      exact ⟨fun _ => .inl rfl, fun _ => hrep⟩
    · rename_i he
      simp [he]
  refine ⟨h.tends.reachable.run (Lts.Run.nil.snoc hst),
    h.tends.healthy.puts ht ⟨s', rfl, hs'⟩,
    h.tends.retries.puts ht (fun _ _ _ => trivial) fun _ hne => absurd hrep hne,
    h.tends.owned.congr henv, h.tends.rest.sent, h.tends.gate.sent ?_ ?_⟩
  · intro k' m hk hto
    refine hto.other hv ?_ henv hiff
    -- the stream of another key is another one
    intro hL
    have hkey : v.streamKey = k' := by
      rw [← o.key k', ← hL]
      rfl
    exact hk hkey.symm
  · rw [h.owner_eq]
    exact h.here.advance h.tends.reachable.gapless hv henv hiff

end DeliveryService.At

/-! ## The walk through the method -/

/-- The steps of one service that is never restarted and is only called for attempts, not
to recover or to shut down, with its statements executed and on a producer that answers with
coordinates that are not negative. Clients only feed the journal: they accept events and
create rows with a topic, a profile and a positive version of it. -/
def WorldEvent.OneService : WorldEvent → Prop
  | .client ev => ev.call.Feeds
  | .install _ _ => False
  | .call i c => i = 0 ∧ ∃ e, c = .attemptDelivery e
  | .journal i ev => i = 0 ∧ ev.env.Faultless
  | .send i _ r => i = 0 ∧ ∀ success, r = .ok success → 0 ≤ success.partition ∧ 0 ≤ success.offset
  | .clock i _ => i = 0
  | .return i _ _ => i = 0

/-- The one service, on events that belong to the streams of their keys. -/
def serviceTracking (o : StreamOwner) : Tracking Unit where
  thread := 0
  next _ _ := ()
  admits _ _ ev j' := ev.OneService ∧ j'.db.OwnedBy o
  rely := LocalJournal.FedTo o
  idle j _ svc := svc.Tends o (fun _ => True) j
  post _ _ _ := True
  refl := LocalJournal.FedTo.refl
  trans _ _ _ := LocalJournal.FedTo.trans
  stable _ _ _ _ h hfed := hfed.tends h

omit [Sha256] in
theorem DeliveryCandidate.Describes.eq_candidate {c : DeliveryCandidate} {v : StoredEnvelope}
    (h : c.Describes v) : c = v.candidate c.deliveryState := by
  obtain ⟨⟩ := c
  obtain ⟨rfl, rfl, rfl, rfl, rfl, rfl, rfl, rfl⟩ := h
  rfl

/-- The service always has a reason to block. -/
theorem DeliveryService.checkBeforeSend_error_ne {svc : DeliveryService}
    {candidate : DeliveryCandidate} {reason : String}
    (h : svc.checkBeforeSend candidate = .error reason) : reason ≠ "" := by
  unfold DeliveryService.checkBeforeSend at h
  rcases Except.bind_eq_error_iff.mp h with h | ⟨routing, -, h⟩
  · obtain ⟨e, rfl⟩ := Except.mapError_eq_error h
    simp
  rcases Except.bind_eq_error_iff.mp h with h | ⟨-, -, h⟩
  · rw [require_eq_error h]
    decide
  rcases Except.bind_eq_error_iff.mp h with h | ⟨-, -, h⟩
  · rw [require_eq_error h]
    split <;> decide
  rcases Except.bind_eq_error_iff.mp h with h | ⟨-, -, h⟩
  · rw [require_eq_error h]
    decide
  rcases Except.bind_eq_error_iff.mp h with h | ⟨-, -, h⟩
  · obtain ⟨e, rfl⟩ := Except.mapError_eq_error h
    simp
  · cases h

/-- A confirmation writes the replicated row, or no row at all. -/
theorem DbStep.confirmed_cases {env : CallEnv} {db db' : Db} {e : String} {rev : Int}
    {k : ReplicatedDeliveryConfirmation} {r : CasResult}
    (h : DbStep env db (.confirmReplicatedDelivery e rev k) r db') :
    (r ≠ .updated ∧ db'.deliveryState = db.deliveryState ∧
      db'.storedEnvelope = db.storedEnvelope) ∨
    (r = .updated ∧ ∃ s, db.HasDelivery e s ∧ k.Matches s ∧
      db.deliveryState.Puts e (s.replicated k (rev + 1) env.nowMs).sealed.toRow
        db'.deliveryState ∧ db'.storedEnvelope = db.storedEnvelope) := by
  cases h with
  | quiet hno => exact .inl ⟨hno, rfl, rfl⟩
  | confirmed hs _ _ _ hk ht _ => exact .inr ⟨rfl, _, hs, hk, ht, rfl⟩

namespace DeliveryService

variable {o : StreamOwner} {p : String → Prop} {e : String} {v : StoredEnvelope}
  {s : DeliveryStateRecord} {j : LocalJournal} {svc svc' : DeliveryService}

theorem Tends.finish (h : svc.Tends o (fun _ => True) j) (out : DeliveryOutcome) :
    (serviceTracking o).SafeProg (.attemptDelivery e) j () (.done (svc, out)) :=
  Tracking.safeProg_done h fun _ _ => trivial

/-- The row is current, so the block is persisted and the gate left at the event. -/
theorem At.blockAndMark (h : svc.At o p e v s j) (hp : ∀ e', e' ≠ e → p e')
    (hsvc : svc' = svc ∨
      svc' = svc.withGate (svc.gate.markInFlight v.streamKey v.streamSequence))
    {rev : Int} (hrev : s.deliveryRevision = rev) {reason : String} (hreason : reason ≠ "") :
    (serviceTracking o).SafeProg (.attemptDelivery e) j ()
      (svc'.blockAndMark e v.streamKey v.streamSequence rev reason) := by
  subst hrev
  refine Tracking.safeProg_journal ?_
  rintro j₁ env r j₂ hfed hexec ⟨⟨-, henv⟩, -⟩
  have hat := h.fed hfed
  obtain ⟨rfl, ht, henvelope⟩ := LocalJournal.blocks henv hat.tends.reachable.consistent
    hat.envelope hat.delivery hat.unconfirmed hexec
  have hst : journalLts.step j₁ ⟨env, .blockDelivery e s.deliveryRevision reason, .updated⟩ j₂ :=
    hexec
  have hput := hat.put (fun _ => True) hst henvelope ht
    (blocked_healthy (hat.tends.healthy.record hat.delivery) hat.unconfirmed hreason _ _)
    (by show "DELIVERY_BLOCKED" ≠ "REPLICATED"; decide) (fun e' he _ => hp e' he)
    (fun _ hblocked => absurd rfl hblocked)
  exact (hput.blocking hsvc).finish _

/-- After the attempt is on record: the retry or the block is persisted. -/
theorem At.retryOrBlock {s₀ : DeliveryStateRecord} (h : svc.At o (· ≠ e) e v s j)
    (hsvc : svc' = svc.withGate (svc.gate.markInFlight v.streamKey v.streamSequence))
    (hrev : s.deliveryRevision = s₀.deliveryRevision)
    (hunblocked : s.deliveryStatus ≠ "DELIVERY_BLOCKED")
    (hcount : s.attemptCount = i32Wrap (s₀.attemptCount + 1)) {sendErr : SendError}
    {nowMs : Int} :
    (serviceTracking o).SafeProg (.attemptDelivery e) j ()
      (svc'.retryOrBlock e (v.candidate s₀) sendErr nowMs) := by
  have hblock : ∀ reason, reason ≠ "" → (serviceTracking o).SafeProg (.attemptDelivery e) j ()
      (svc'.blockAndMark e v.streamKey v.streamSequence s₀.deliveryRevision reason) :=
    fun reason hreason => h.blockAndMark (fun _ he => he) (.inr hsvc) hrev hreason
  unfold DeliveryService.retryOrBlock
  simp only
  split
  · rename_i hretry
    split
    · refine Tracking.safeProg_journal ?_
      rintro j₁ env r j₂ hfed hexec ⟨⟨-, henv⟩, -⟩
      rename_i next _
      have hat := h.fed hfed
      have hexec : j₁.exec env (.updateDeliveryRetry e s.deliveryRevision next) =
          some (j₂, r) := by
        rw [hrev]
        exact hexec
      obtain ⟨rfl, ht, henvelope⟩ := LocalJournal.reschedules henv hat.delivery hat.unconfirmed
        hexec
      have hst : journalLts.step j₁ ⟨env, .updateDeliveryRetry e s.deliveryRevision next,
        .updated⟩ j₂ := hexec
      have hput := hat.put (fun _ => True) hst henvelope ht
        (retrying_healthy (hat.tends.healthy.record hat.delivery) hat.unconfirmed hunblocked _ _ _)
        (by show "DELIVERY_RETRYING" ≠ "REPLICATED"; decide) (fun e' he _ => he) ?_
      · exact (hput.blocking (.inr hsvc)).finish _
      · intro _ _
        -- the retry was allowed because some are left
        have hleft : i32Wrap (s₀.attemptCount + 1) < maxRetryAttempts := by
          simp only [shouldRetry, Bool.and_eq_true, decide_eq_true_eq] at hretry
          exact hretry.2
        show s.attemptCount < maxRetryAttempts
        rw [hcount]
        exact hleft
    · exact hblock _ (by decide)
  · exact hblock _ (by simp)

/-- An open delivery of the service can be tried once more. -/
theorem At.countFits (h : svc.At o (fun _ => True) e v s j)
    (hunblocked : s.deliveryStatus ≠ "DELIVERY_BLOCKED") : InI32 (s.attemptCount + 1) := by
  have hleft : s.attemptCount < 32 :=
    h.tends.retries e _ trivial h.delivery.row h.unconfirmed hunblocked
  have hcount := h.delivery.verifies.count
  unfold InI32 at hcount ⊢
  omega

/-- After a failed send: the attempt is put on record. -/
theorem At.recordFailure (h : svc.At o (fun _ => True) e v s j)
    (hsvc : svc' = svc.withGate (svc.gate.markInFlight v.streamKey v.streamSequence))
    (hunblocked : s.deliveryStatus ≠ "DELIVERY_BLOCKED") {routing : RoutingResolution}
    {sendErr : SendError} :
    (serviceTracking o).SafeProg (.attemptDelivery e) j ()
      (svc'.recordFailure e (v.candidate s) routing sendErr) := by
  refine Tracking.safeProg_clock ?_
  rintro j₁ nowMs hfed₁ -
  refine Tracking.safeProg_journal ?_
  rintro j₂ env r j₃ hfed₂ hexec ⟨⟨-, henv⟩, -⟩
  have hat := (h.fed hfed₁).fed hfed₂
  have hfits := hat.countFits hunblocked
  obtain ⟨rfl, henvelope, s', hs', ht, hstatus, hrev, hcount⟩ := LocalJournal.records henv
    hat.envelope hat.delivery (hat.tends.healthy.record hat.delivery) hfits hexec
  have hst : journalLts.step j₂ ⟨env, .recordDeliveryAttempt
    (svc'.failedAttempt e (v.candidate s) routing sendErr nowMs), .updated⟩ j₃ := hexec
  have hput := hat.put (· ≠ e) hst henvelope ht hs' (hstatus.symm ▸ hat.unconfirmed)
    (fun _ _ _ => trivial) (fun hne => absurd rfl hne)
  refine hput.retryOrBlock hsvc hrev (hstatus.symm ▸ hunblocked) ?_
  rw [i32Wrap_of_inI32 hfits]
  exact hcount

/-- After a successful send: the event is confirmed, or the gate left at it. -/
theorem At.confirmSent (h : svc.At o (fun _ => True) e v s j)
    (hsvc : svc' = svc.withGate (svc.gate.markInFlight v.streamKey v.streamSequence))
    {routing : RoutingResolution} {success : SendSuccess}
    (hpartition : 0 ≤ success.partition) (hoffset : 0 ≤ success.offset) :
    (serviceTracking o).SafeProg (.attemptDelivery e) j ()
      (svc'.confirmSent e (v.candidate s) routing success) := by
  subst hsvc
  refine Tracking.safeProg_journal ?_
  rintro j₁ env r j₂ hfed hexec -
  have hat := h.fed hfed
  have hconfirm := LocalJournal.write_eq_some hexec
  have hst : journalLts.step j₁ ⟨env, _, r⟩ j₂ := hexec
  rcases (confirmReplicatedDelivery_step hconfirm).confirmed_cases with
    ⟨hne, hrows, henv⟩ | ⟨rfl, s₁, hs₁, hk, ht, henv⟩
  · have hsame := hat.same hst henv hrows
    cases r with
    | updated => exact absurd rfl hne
    | alreadyConfirmed =>
        -- answered on replicated rows only
        obtain ⟨-, s₁, hs₁, hrep, -⟩ := confirmReplicatedDelivery_alreadyConfirmed hconfirm
        cases DeliveryStateRecord.toRow_injective
          (Option.some.inj (hat.delivery.row.symm.trans hs₁.row))
        exact absurd hrep hat.unconfirmed
    | _ => exact (hsame.blocking (.inr rfl)).finish _
  · cases DeliveryStateRecord.toRow_injective
      (Option.some.inj (hat.delivery.row.symm.trans hs₁.row))
    exact (hat.confirmed hst henv ht (replicated_healthy (hat.tends.healthy.record hat.delivery) hk
      hpartition hoffset _ _) rfl).finish _

theorem At.sendPayload (h : svc.At o (fun _ => True) e v s j)
    (hunblocked : s.deliveryStatus ≠ "DELIVERY_BLOCKED") {routing : RoutingResolution} :
    (serviceTracking o).SafeProg (.attemptDelivery e) j ()
      (svc.sendPayload e (v.candidate s) routing) := by
  refine Tracking.safeProg_journal ?_
  rintro j₁ env r j₂ hfed hexec -
  obtain ⟨rfl, hread⟩ := LocalJournal.read_eq_some hexec
  have hat := h.fed hfed
  cases r with
  | found payload =>
      refine Tracking.safeProg_send ?_
      rintro j₂ r hfed₂ ⟨⟨-, hcoordinates⟩, -⟩
      cases r with
      | ok success =>
          obtain ⟨hpartition, hoffset⟩ := hcoordinates success rfl
          exact (hat.fed hfed₂).confirmSent rfl hpartition hoffset
      | error sendErr => exact (hat.fed hfed₂).recordFailure rfl hunblocked
  | _ => exact (hat.blocking (.inl rfl)).finish _

/-- What the gate lets through is not replicated, so the service is at it. -/
theorem Tends.at_of_allowed (h : svc.Tends o (fun _ => True) j)
    (hv : j.db.storedEnvelope.find? e = some v) (hs : j.db.HasDelivery e s)
    (hgate : svc.gate.check v.streamKey v.streamSequence = .allowed) :
    svc.At o (fun _ => True) e v s j := by
  have hmem := KeyedTable.mem_of_find? hv
  have hid : v.eventId = e := KeyedTable.key_of_find? hv
  have hhere : j.db.ReplicatedTo v.logicalStream v.streamSequence := by
    rw [← h.owned v hmem]
    exact h.gate.allowed hgate
  refine ⟨h, hv, hs, ?_, hhere⟩
  intro hrep
  have hlt := (hhere.before v hmem rfl).mp (hid ▸ ⟨_, hs.row, hrep⟩)
  omega

theorem Tends.deliverCandidate (h : svc.Tends o (fun _ => True) j)
    (hv : j.db.storedEnvelope.find? e = some v) (hs : j.db.HasDelivery e s) :
    (serviceTracking o).SafeProg (.attemptDelivery e) j ()
      (svc.deliverCandidate e (v.candidate s)) := by
  unfold DeliveryService.deliverCandidate
  split
  · exact h.finish _
  rename_i hgate
  have hat := h.at_of_allowed hv hs hgate
  unfold DeliveryService.deliverAllowed
  simp only
  split
  · rename_i hrep
    exact absurd hrep hat.unconfirmed
  split
  · exact (hat.blocking (.inl rfl)).finish _
  rename_i hunblocked
  split
  · rename_i reason hcheck
    exact hat.blockAndMark (fun _ _ => trivial) (.inl rfl) rfl (checkBeforeSend_error_ne hcheck)
  · exact hat.sendPayload hunblocked

theorem Tends.attemptDelivery (h : svc.Tends o (fun _ => True) j) :
    (serviceTracking o).SafeProg (.attemptDelivery e) j () (svc.attemptDelivery e) := by
  unfold DeliveryService.attemptDelivery
  split
  · exact h.finish _
  refine Tracking.safeProg_journal ?_
  rintro j₁ env r j₂ hfed hexec -
  obtain ⟨rfl, hload⟩ := LocalJournal.read_eq_some hexec
  have h := LocalJournal.FedTo.tends hfed h
  cases r with
  | found candidate =>
      obtain ⟨hstate, -, v, hv, -, hdesc⟩ := loadDeliveryCandidate_found_iff.mp hload
      obtain ⟨-, hrow, hver⟩ := loadDeliveryState_found_iff.mp hstate
      show (serviceTracking o).SafeProg (.attemptDelivery e) _ () (svc.deliverCandidate e candidate)
      rw [hdesc.eq_candidate]
      exact h.deliverCandidate hv ⟨hrow, hver⟩
  | _ => exact h.finish _

end DeliveryService

theorem serviceTracking_sound (o : StreamOwner) : (serviceTracking o).Sound where
  others := by
    rintro w s ev w' hev hst ⟨hone, howned⟩
    refine ⟨rfl, ?_⟩
    cases hst with
    | client hj =>
        rename_i jev j'
        refine ⟨⟨[jev], Lts.Run.nil.snoc hj, ?_⟩, fun _ => howned⟩
        intro ev hev
        rw [List.mem_singleton.mp hev]
        exact hone
    | install => exact absurd hone id
    | call => exact absurd (congrArg some hone.1) hev
    | journal => exact absurd (congrArg some hone.1) hev
    | send => exact absurd (congrArg some hone.1) hev
    | clock => exact absurd (congrArg some hone) hev
    | «return» => exact absurd (congrArg some hone) hev
  install _ _ _ h := absurd h.1 id
  call := by
    rintro j s c svc ⟨⟨-, e, rfl⟩, -⟩ hidle
    exact hidle.attemptDelivery

/-- A new service on an empty journal. -/
theorem DeliveryService.tends_new (o : StreamOwner) (config : JournalConfig)
    (profile : KafkaProductionProfile) :
    (DeliveryService.new profile).Tends o (fun _ => True) (LocalJournal.open config) where
  reachable := ⟨config, [], .nil⟩
  healthy := fun e d h => by cases h
  retries := fun e d _ h => by cases h
  owned := fun v hv => by cases hv
  rest := OrderingGate.atRest_new
  gate := fun k _ => ⟨.inl rfl, fun u hu => by cases hu⟩

/-- In a run of one service on an empty journal, with one stream per key, the service
keeps its gate at the number of each stream. -/
theorem worldRun_tends {o : StreamOwner} {config : JournalConfig}
    {profile : Nat → KafkaProductionProfile} {tr : List WorldEvent} {w : World}
    {svc : DeliveryService}
    (hrun : worldLts.Run (World.start (LocalJournal.open config) profile) tr w)
    (hone : ∀ ev ∈ tr, ev.OneService) (howned : w.journal.db.OwnedBy o)
    (hidle : w.threads 0 = .idle svc) : svc.Tends o (fun _ => True) w.journal := by
  have hsafe := Tracking.thread_run (T := serviceTracking o) (s := ()) (serviceTracking_sound o)
    hrun (DeliveryService.tends_new o config (profile 0)) ?_
  · have hthread : (serviceTracking o).ThreadSafe w.journal () (w.threads 0) := hsafe
    rw [hidle] at hthread
    exact hthread
  · intro tr₁ ev tr₂ w₁ w₂ htr _ _ hrun₂
    refine ⟨hone ev (by rw [htr]; simp), ?_⟩
    -- the envelopes of this state are still there at the end
    intro v hv
    obtain ⟨tr', hrest⟩ := worldRun_journal hrun₂
    exact howned v (KeyedTable.mem_of_find?
      (journalRun_keepsEnvelope hrest (KeyedTable.find?_of_mem hv)))

/-! ## The gate a restart builds -/

/-- The delivery rows of each stream are those of its first events. -/
def Db.RowsCoverPrefix (db : Db) : Prop :=
  ∀ L : LogicalStream, ∃ m : Nat, ∀ n : Int,
    (∃ u ∈ db.storedEnvelope.rows, u.logicalStream = L ∧ u.streamSequence = n ∧
      (db.deliveryState.find? u.eventId).isSome) ↔ 1 ≤ n ∧ n ≤ m

omit [Sha256] in
/-- The rows of a journal whose one event has one. -/
theorem Db.rowsCoverPrefix_single {db : Db} {v : StoredEnvelope}
    (hrows : db.storedEnvelope.rows = [v]) (hseq : v.streamSequence = 1)
    (hrow : (db.deliveryState.find? v.eventId).isSome) : db.RowsCoverPrefix := by
  intro L
  by_cases hL : v.logicalStream = L
  · refine ⟨1, fun n => ?_⟩
    constructor
    · rintro ⟨u, hu, -, hn, -⟩
      rw [hrows, List.mem_singleton] at hu
      subst hu
      omega
    · intro hn
      exact ⟨v, by rw [hrows]; simp, hL, by omega, hrow⟩
  · refine ⟨0, fun n => ?_⟩
    constructor
    · rintro ⟨u, hu, hLu, -⟩
      rw [hrows, List.mem_singleton] at hu
      subst hu
      exact absurd hLu hL
    · intro hn
      omega

omit [Sha256] in
/-- A scan that is not cut short looks at every row. -/
theorem Db.listed_of_length_le {db : Db} {limit : Nat} (hlen : db.deliveryState.rows.length ≤ limit)
    {u : StoredEnvelope} (hrow : (db.deliveryState.find? u.eventId).isSome) :
    db.Listed limit u := by
  obtain ⟨d, hd⟩ := Option.isSome_iff_exists.mp hrow
  have hid : d.eventId = u.eventId := KeyedTable.key_of_find? hd
  refine ⟨db.joinScanRow d, ?_, hid⟩
  have hall : (orderBy (·.journalSequence) db.scanRows).length ≤ limit := by
    rw [orderBy, List.length_insertionSort, Db.scanRows, List.length_map]
    exact hlen
  unfold Db.gateRows limitRows
  rw [if_neg (by omega), Int.toNat_natCast, List.take_of_length_le hall, mem_orderBy]
  exact List.mem_map_of_mem (KeyedTable.mem_of_find? hd)

/-- When the rows of each stream are those of its first events and the scan looks at
all of them, the rebuilt gate is at the number of each stream. -/
theorem Db.ReplicatedTo.recovered_next {db : Db} {o : StreamOwner} {k : String} {n : Int}
    (h : db.ReplicatedTo (o.owner k) n) (hg : db.Gapless) (howned : db.OwnedBy o)
    (hcover : db.RowsCoverPrefix) {env : CallEnv} {limit : Int} {out : List PendingDelivery}
    (hscan : scanDeliveryGateStates env db limit = .ok out)
    (hlisted : ∀ u, (db.deliveryState.find? u.eventId).isSome → db.Listed limit u)
    (gate : OrderingGate) :
    ((gate.recoverFromScan (out.map (·.recovered))).entry k).inFlight = none ∧
      ((gate.recoverFromScan (out.map (·.recovered))).entry k).next = n := by
  refine ⟨(gate.recoverFromScan_pending out k).inFlight,
    (recovered_next_iff hscan hg howned (o.key k) ?_ ?_ ?_ gate).mpr ?_⟩
  · intro u hu hL hlt d hd
    obtain ⟨d', hd', hrep⟩ := (h.before u hu hL).mpr hlt
    cases hd.symm.trans hd'
    exact hrep
  · intro u hu hL hus d hd hrep
    have := (h.before u hu hL).mp ⟨d, hd, hrep⟩
    omega
  · -- the rows are those of a prefix, so one beyond `n` comes with that of `n`
    intro u hu hL hlt hrow
    obtain ⟨m, hm⟩ := hcover (o.owner k)
    have hum := ((hm u.streamSequence).mp ⟨u, hu, hL, rfl, hrow⟩).2
    exact (hm n).mpr ⟨(h.bounds hg).1, by omega⟩
  · rcases h.last with h1 | ⟨u, hu, hL, hn, d, hd, -⟩
    · exact .inl h1
    · exact .inr (.inr ⟨u, hu, hL, hn, hlisted u (by rw [hd]; rfl)⟩)

omit [Sha256] in
/-- Every key gets a stream of its own name, stored ones the stream they have. -/
theorem Db.KeysApart.exists_streamOwner {db : Db} (h : db.KeysApart) :
    ∃ o : StreamOwner, db.OwnedBy o := by
  obtain ⟨owner, howner⟩ := h.exists_owner
  refine ⟨⟨fun k => ((owner k).1, (owner k).2.1, (owner k).2.2.1, k), fun _ => rfl⟩, ?_⟩
  intro v hv
  show ((owner v.streamKey).1, (owner v.streamKey).2.1, (owner v.streamKey).2.2.1, v.streamKey) =
    v.logicalStream
  rw [howner v hv]
  rfl

/-- The gate of the service and the one a restart builds answer alike. -/
theorem DeliveryService.Tends.check_eq_recovered {o : StreamOwner} {j : LocalJournal}
    {svc : DeliveryService} (h : svc.Tends o (fun _ => True) j) (hcover : j.db.RowsCoverPrefix)
    {env : CallEnv} {limit : Int} {out : List PendingDelivery}
    (hscan : scanDeliveryGateStates env j.db limit = .ok out)
    (hlisted : ∀ u, (j.db.deliveryState.find? u.eventId).isSome → j.db.Listed limit u)
    (gate : OrderingGate) (k : String) (n : Int) :
    svc.gate.check k n = (gate.recoverFromScan (out.map (·.recovered))).check k n := by
  have hto := h.gate k (h.rest k)
  obtain ⟨hfl, hnext⟩ := hto.recovered_next h.reachable.gapless h.owned hcover hscan hlisted gate
  rw [OrderingGate.check_of_idle (h.rest k), OrderingGate.check_of_idle hfl, hnext]

/-! ## Events of one service -/

theorem oneService_sampleClients (a : AcceptedEvent) :
    ∀ ev ∈ (sampleClients a).map WorldEvent.client, ev.OneService := by
  simp only [sampleClients, List.map_cons, List.map_nil, List.forall_mem_cons]
  refine ⟨trivial, ⟨?_, by decide, by decide⟩, by simp⟩
  show "craftrelay." ++ "inst" ++ "." ++ "ns" ++ ".events" ≠ ""
  simp

omit [Sha256] in
theorem oneService_approachTrace {env : CallEnv} (henv : env.Faultless) (e : String)
    (candidate : DeliveryCandidate) (payload : Bytes) :
    ∀ ev ∈ approachTrace 0 env e candidate payload, ev.OneService := by
  simp only [approachTrace, List.forall_mem_cons]
  exact ⟨⟨rfl, e, rfl⟩, ⟨rfl, henv⟩, ⟨rfl, henv⟩, by simp⟩

omit [Sha256] in
theorem oneService_confirmTrace {env : CallEnv} (henv : env.Faultless) (e : String)
    (request : SendRequest) (rev : Int) {k : ReplicatedDeliveryConfirmation}
    (hpartition : 0 ≤ k.kafkaPartition) (hoffset : 0 ≤ k.kafkaOffset) :
    ∀ ev ∈ confirmTrace 0 env e request rev k, ev.OneService := by
  simp only [confirmTrace, List.forall_mem_cons]
  refine ⟨⟨rfl, ?_⟩, ⟨rfl, henv⟩, rfl, by simp⟩
  rintro success ⟨⟩
  exact ⟨hpartition, hoffset⟩

end CraftRelay
