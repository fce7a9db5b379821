import CraftRelay.Delivery.Attempt

/-!
# Order within a stream

The journal numbers the events of a logical stream; the gate counts them per raw
stream key. `Frontier` says what the number the gate is at must mean for a
stream, and `gateDiscipline` is the discipline of services whose gate keeps it:
for each raw key one stream is the key's `owner`, and as long as only its events
are attempted under the key, whatever is sent is in order.
-/

namespace CraftRelay

/-- The four fields that name a stream: installation, namespace, stream type and
key. -/
abbrev LogicalStream := String × String × String × String

def StoredEnvelope.logicalStream (v : StoredEnvelope) : LogicalStream :=
  (v.installationId, v.namespace, v.logicalStreamType, v.streamKey)

/-- The key under which the journal counts the stream. -/
def LogicalStream.formattedKey (L : LogicalStream) : String :=
  formatStreamKey L.1 L.2.1 L.2.2.1 L.2.2.2

/-- All events of the stream before the sequence are replicated. -/
def Db.Clear (db : Db) (L : LogicalStream) (n : Int) : Prop :=
  ∀ u ∈ db.storedEnvelope.rows, u.logicalStream = L → u.streamSequence < n →
    db.Replicated u.eventId

/-- The event is accepted, and all events before it in its stream are
replicated. -/
def Db.InOrder (db : Db) (eventId : String) : Prop :=
  ∃ v, db.storedEnvelope.find? eventId = some v ∧ db.Clear v.logicalStream v.streamSequence

section Streams

variable {db : Db} {u v : StoredEnvelope} {L : LogicalStream} {eventId : String}

theorem StoredEnvelope.formattedStreamKey_eq (h : v.logicalStream = L) :
    v.formattedStreamKey = L.formattedKey := by
  rw [← h]
  rfl

theorem Db.mem_streamEnvelopes (hu : u ∈ db.storedEnvelope.rows) (h : u.logicalStream = L) :
    u ∈ db.streamEnvelopes L.formattedKey :=
  List.mem_filter.mpr ⟨hu, decide_eq_true (StoredEnvelope.formattedStreamKey_eq h)⟩

theorem Db.Gapless.sequence_le (hg : db.Gapless) (hu : u ∈ db.storedEnvelope.rows)
    (h : u.logicalStream = L) :
    1 ≤ u.streamSequence ∧ u.streamSequence ≤ (db.streamEnvelopes L.formattedKey).length := by
  have hmem : u.streamSequence ∈
      (db.streamEnvelopes L.formattedKey).map (·.streamSequence) :=
    List.mem_map_of_mem (Db.mem_streamEnvelopes hu h)
  rw [hg.stream] at hmem
  exact mem_countUp.mp hmem

/-- A sequence is used once in its stream. -/
theorem Db.Gapless.eq_of_sequence (hg : db.Gapless) (hu : u ∈ db.storedEnvelope.rows)
    (hv : v ∈ db.storedEnvelope.rows) (hstream : u.logicalStream = v.logicalStream)
    (h : u.streamSequence = v.streamSequence) : u = v := by
  have hnodup : ((db.streamEnvelopes v.logicalStream.formattedKey).map
      (·.streamSequence)).Nodup := by
    rw [hg.stream]
    exact (countUp_sorted _).nodup
  exact List.inj_on_of_nodup_map hnodup (Db.mem_streamEnvelopes hu hstream)
    (Db.mem_streamEnvelopes hv rfl) h

/-- Both sequences count a stream in the same order. -/
theorem Db.Gapless.journalSequence_lt (hg : db.Gapless) (hu : u ∈ db.storedEnvelope.rows)
    (hv : v ∈ db.storedEnvelope.rows) (hstream : u.logicalStream = v.logicalStream)
    (h : u.streamSequence < v.streamSequence) : u.journalSequence < v.journalSequence := by
  have hjournal : (db.streamEnvelopes v.logicalStream.formattedKey).Pairwise
      fun a b => a.journalSequence < b.journalSequence := by
    have hrows := countUp_sorted db.storedEnvelope.rows.length
    rw [← hg.journal, List.pairwise_map] at hrows
    exact hrows.filter _
  have hsequence : (db.streamEnvelopes v.logicalStream.formattedKey).Pairwise
      fun a b => a.streamSequence < b.streamSequence := by
    have hrows := countUp_sorted (db.streamEnvelopes v.logicalStream.formattedKey).length
    rwa [← hg.stream, List.pairwise_map] at hrows
  -- of two rows of the list, one is before the other in both orders
  refine List.Pairwise.forall_of_forall_of_flip
    (R := fun a b : StoredEnvelope => a.streamSequence < b.streamSequence →
      a.journalSequence < b.journalSequence) ?_ ?_ ?_
    (Db.mem_streamEnvelopes hu hstream) (Db.mem_streamEnvelopes hv rfl) h
  · intro a _ hlt
    omega
  · refine hjournal.imp ?_
    intro a b hlt _
    exact hlt
  · refine hsequence.imp ?_
    intro a b hlt hlt'
    have hlt' : b.streamSequence < a.streamSequence := hlt'
    omega

theorem Db.Gapless.clear_one (hg : db.Gapless) : db.Clear L 1 := by
  intro u hu hL hlt
  have := (hg.sequence_le hu hL).1
  omega

/-- A stream clear up to a replicated event is clear past it. -/
theorem Db.Clear.next (hg : db.Gapless) (hv : db.storedEnvelope.find? eventId = some v)
    (hrep : db.Replicated eventId) (h : db.Clear v.logicalStream v.streamSequence) :
    db.Clear v.logicalStream (v.streamSequence + 1) := by
  intro u hu hL hlt
  by_cases hbefore : u.streamSequence < v.streamSequence
  · exact h u hu hL hbefore
  · have heq : u = v := hg.eq_of_sequence hu (KeyedTable.mem_of_find? hv) hL (by omega)
    rw [heq, show v.eventId = eventId from KeyedTable.key_of_find? hv]
    exact hrep

end Streams

variable [Sha256]

/-- A stream stays clear up to a sequence that is not above its next one. -/
theorem DbStep.keepsClear {env : CallEnv} {db db' : Db} {c : JournalCall} {r : c.Reply}
    (h : DbStep env db c r db') (hg : db.Gapless) {L : LogicalStream} {n : Int}
    (hn : n ≤ (db.streamEnvelopes L.formattedKey).length + 1) (hclear : db.Clear L n) :
    db'.Clear L n := by
  intro u hu hL hlt
  rcases h.acceptance with ⟨req, a, -, hacc⟩ | ⟨-, hsame⟩
  · rw [hacc.storedEnvelope] at hu
    rcases List.mem_append.mp hu with hu | hu
    · exact h.keepsReplicated (hclear u hu hL hlt)
    · -- the new event takes the next sequence of its stream, which is not below `n`
      rw [List.mem_singleton] at hu
      subst hu
      have henvelope := StoredEnvelope.formattedStreamKey_eq hL
      have hkey : req.formattedStreamKey = L.formattedKey := henvelope
      have hseq : db.nextStreamSequence req.formattedStreamKey < n := hlt
      rw [hg.nextStreamSequence, hkey] at hseq
      omega
  · rw [hsame.storedEnvelope] at hu
    exact h.keepsReplicated (hclear u hu hL hlt)

theorem DbStep.streamEnvelopes_length_le {env : CallEnv} {db db' : Db} {c : JournalCall}
    {r : c.Reply} (h : DbStep env db c r db') (key : String) :
    (db.streamEnvelopes key).length ≤ (db'.streamEnvelopes key).length := by
  rcases h.acceptance with ⟨req, a, -, hacc⟩ | ⟨-, hsame⟩
  · rw [hacc.streamEnvelopes key]
    split
    · simp
    · exact le_refl _
  · unfold Db.streamEnvelopes
    rw [hsame.storedEnvelope]

/-! ## Frontiers -/

/-- What it means for a gate to be at a sequence of a stream, while the journal
moves by `calls`: it means so at 1, it keeps its meaning, whatever is not yet
replicated there is in order, and what is replicated moves it on. -/
structure Frontier (calls : JournalCall → Prop) where
  At : Db → LogicalStream → Int → Prop
  start : ∀ {db L}, db.Gapless → At db L 1
  stable : ∀ {env db c r db' L n}, DbStep env db c r db' → calls c → db.Gapless →
    At db L n → At db' L n
  clear : ∀ {db eventId v d}, db.Gapless → db.storedEnvelope.find? eventId = some v →
    db.deliveryState.find? eventId = some d → d.deliveryStatus ≠ "REPLICATED" →
    At db v.logicalStream v.streamSequence → db.Clear v.logicalStream v.streamSequence
  next : ∀ {db eventId v}, db.Gapless → db.storedEnvelope.find? eventId = some v →
    db.Replicated eventId → At db v.logicalStream v.streamSequence →
    At db v.logicalStream (v.streamSequence + 1)

/-- Everything before the sequence is replicated, and nothing new comes before
it. -/
def clearFrontier : Frontier fun _ => True where
  At db L n := db.Clear L n ∧ n ≤ (db.streamEnvelopes L.formattedKey).length + 1
  start hg := ⟨hg.clear_one, by omega⟩
  stable := by
    intro env db c r db' L n h _ hg hat
    have hlen := h.streamEnvelopes_length_le L.formattedKey
    exact ⟨h.keepsClear hg hat.2 hat.1, by have := hat.2; omega⟩
  clear _ _ _ _ hat := hat.1
  next := by
    intro db eventId v hg hv hrep hat
    have hle := (hg.sequence_le (KeyedTable.mem_of_find? hv) rfl).2
    exact ⟨hat.1.next hg hv hrep, by omega⟩

/-! ## The discipline of the gate -/

/-- How the gates of a world are looked at: the calls clients make, what the gate
numbers mean, the stream that owns each raw key, the events that are attempted,
and what recovery may count on. -/
structure GateView where
  calls : JournalCall → Prop
  byService : ∀ c, c.ByService → calls c
  frontier : Frontier calls
  owner : String → LogicalStream
  attempted : String → Prop
  scannable : Int → Db → Prop

namespace GateView

variable (G : GateView)

/-- Attempted events belong to the streams that own their raw keys. -/
def Owned (db : Db) : Prop :=
  ∀ e v, G.attempted e → db.storedEnvelope.find? e = some v →
    G.owner v.streamKey = v.logicalStream

def Ok (j : LocalJournal) : Prop := j.db.Gapless ∧ G.Owned j.db

/-- Calls of the view lead from one state to the other. -/
def Moves (j j' : LocalJournal) : Prop :=
  ∃ tr, journalLts.Run j tr j' ∧ ∀ ev ∈ tr, G.calls ev.call

/-- The gate is at a frontier of every stream that owns a key. -/
def AtFrontier (j : LocalJournal) (svc : DeliveryService) : Prop :=
  svc.gate.Respects fun k n => G.frontier.At j.db (G.owner k) n

variable {G}

theorem Moves.at {j j' : LocalJournal} (h : G.Moves j j') (hg : j.db.Gapless)
    {L : LogicalStream} {n : Int} (hat : G.frontier.At j.db L n) : G.frontier.At j'.db L n := by
  obtain ⟨tr, hrun, hcalls⟩ := h
  have hboth : j'.db.Gapless ∧ G.frontier.At j'.db L n := by
    refine hrun.invariant (P := fun j => j.db.Gapless ∧ G.frontier.At j.db L n) hcalls
      ⟨hg, hat⟩ ?_
    rintro t ev u hev ⟨hg, hat⟩ hst
    have hstep := journalStep_cases hst
    exact ⟨hstep.gapless hg, G.frontier.stable hstep hev hg hat⟩
  exact hboth.2

/-- What is in order when it is read is in order when it is sent. -/
theorem Moves.inOrder {j j' : LocalJournal} (h : G.Moves j j') (hg : j.db.Gapless)
    {e : String} {v : StoredEnvelope} (hv : j.db.storedEnvelope.find? e = some v)
    (hclear : j.db.Clear v.logicalStream v.streamSequence) : j'.db.InOrder e := by
  obtain ⟨tr, hrun, -⟩ := h
  have hall : j'.db.Gapless ∧ j'.db.storedEnvelope.find? e = some v ∧
      j'.db.Clear v.logicalStream v.streamSequence := by
    refine hrun.invariant (P := fun j => j.db.Gapless ∧ j.db.storedEnvelope.find? e = some v ∧
      j.db.Clear v.logicalStream v.streamSequence) (Q := fun _ => True)
      (fun _ _ => trivial) ⟨hg, hv, hclear⟩ ?_
    rintro t ev u - ⟨hg, hv, hclear⟩ hst
    have hstep := journalStep_cases hst
    have hle := (hg.sequence_le (KeyedTable.mem_of_find? hv) rfl).2
    exact ⟨hstep.gapless hg, hstep.keepsEnvelope hv, hstep.keepsClear hg (by omega) hclear⟩
  exact ⟨v, hall.2⟩

end GateView

/-- Services whose gates are at frontiers send in order. -/
def gateDiscipline (G : GateView) : Discipline where
  Ok := G.Ok
  rely j j' := G.Ok j ∧ G.Moves j j' ∧ G.Ok j'
  guard j e := (∀ call, e = .journal call → call.ByService) ∧
    ∀ request, e = .send request → j.db.InOrder request.eventId
  expects j e := ∀ limit, e = .journal (.scanDeliveryGateStates limit) → G.scannable limit j.db
  idle := G.AtFrontier
  post _ _ _ := True
  refl j hok := ⟨hok, ⟨[], .nil, by simp⟩, hok⟩
  trans := by
    rintro a b c ⟨ha, ⟨tr, hrun, hcalls⟩, -⟩ ⟨-, ⟨tr', hrun', hcalls'⟩, hc⟩
    refine ⟨ha, ⟨tr ++ tr', hrun.append hrun', ?_⟩, hc⟩
    intro ev hev
    rcases List.mem_append.mp hev with hev | hev
    · exact hcalls ev hev
    · exact hcalls' ev hev
  ok _ _ h := h.2.2
  own := by
    intro j env call r j' hguard hok hok' hexec
    refine ⟨hok, ⟨[⟨env, call, r⟩], Lts.Run.snoc .nil hexec, ?_⟩, hok'⟩
    intro ev hev
    rw [List.mem_singleton] at hev
    subst hev
    exact G.byService call (hguard.1 call rfl)
  stable := by
    rintro j j' svc hidle ⟨hok, hmoves, -⟩ k hfl
    exact hmoves.at hok.1 (hidle k hfl)

/-- The discipline has the rule for `attempt_delivery` of an attempted event. -/
theorem gateDiscipline_attemptRule (G : GateView) {e : String} (he : G.attempted e) :
    (gateDiscipline G).AttemptRule e where
  relyRun := fun _ _ ⟨_, ⟨tr, hrun, _⟩, _⟩ => ⟨tr, hrun⟩
  journal := by
    intro j call h
    refine ⟨?_, ?_⟩
    · rintro _ ⟨⟩
      exact h
    · rintro _ ⟨⟩
  clock := by
    intro j
    refine ⟨?_, ?_⟩
    · rintro _ ⟨⟩
    · rintro _ ⟨⟩
  other _ _ _ := trivial
  acked _ _ _ _ := trivial
  completed := by
    intro j env svc candidate hok hidle hfound hgate hrep
    obtain ⟨hload, -, v, hv, -, hdesc⟩ := loadDeliveryCandidate_found_iff.mp hfound
    have hrow := (loadDeliveryState_found_iff.mp hload).2.1
    have hat := OrderingGate.Respects.allowed hidle hgate
    refine OrderingGate.Respects.markCompleted hidle hgate ?_
    rw [hdesc.streamKey, hdesc.streamSequence, hok.2 e v he hv] at *
    exact G.frontier.next hok.1 hv ⟨_, hrow, hrep⟩ hat
  marks := by
    intro j env svc candidate hok hidle hfound hgate hrep
    obtain ⟨hload, -, v, hv, -, hdesc⟩ := loadDeliveryCandidate_found_iff.mp hfound
    have hrow := (loadDeliveryState_found_iff.mp hload).2.1
    have hat := OrderingGate.Respects.allowed hidle hgate
    -- the gate let the event through, so its stream is clear up to it
    have hclear : j.db.Clear v.logicalStream v.streamSequence := by
      rw [hdesc.streamKey, hdesc.streamSequence, hok.2 e v he hv] at hat
      exact G.frontier.clear hok.1 hv hrow hrep hat
    refine ⟨hidle.markBlocking hat, hidle.markInFlight, hidle.markInFlight.markBlocking hat,
      ?_, ?_⟩
    · -- the event is replicated now: its stream is clear one further
      rintro j' p o ⟨-, hmoves, hok'⟩ hack
      have hidle' : G.AtFrontier j' svc := fun k hfl => hmoves.at hok.1 (hidle k hfl)
      have hat' := hmoves.at hok.1 hat
      obtain ⟨tr, hrun, -⟩ := hmoves
      have hv' := journalRun_keepsEnvelope hrun hv
      refine OrderingGate.Respects.sent hidle' (fun _ _ _ h => h) ?_
      rw [hdesc.streamKey, hdesc.streamSequence, hok.2 e v he hv] at *
      exact G.frontier.next hok'.1 hv' hack.replicated hat'
    · rintro j' request ⟨-, hmoves, -⟩ rfl
      refine ⟨?_, ?_⟩
      · rintro _ ⟨⟩
      · rintro _ ⟨⟩
        exact hmoves.inOrder hok.1 hv hclear

/-- A new gate is at the first frontier of every stream. -/
theorem GateView.atFrontier_new (G : GateView) {j : LocalJournal} (hg : j.db.Gapless)
    (profile : KafkaProductionProfile) : G.AtFrontier j (.new profile) :=
  fun _ _ => G.frontier.start hg

/-- What the events of a run owe the discipline, recovery apart. -/
theorem gateDiscipline_admits (G : GateView) {ok : WorldEvent → Prop}
    (hclient : ∀ ev, ok (.client ev) → G.calls ev.call)
    (hattempt : ∀ i e, ok (.call i (.attemptDelivery e)) → G.attempted e)
    (hrecover : ∀ i j svc, ok (.call i .recover) → G.Ok j → G.AtFrontier j svc →
      (gateDiscipline G).SafeProg .recover j svc.recover) :
    (gateDiscipline G).Admits ok where
  client := by
    intro j ev j' hev hok hok' hst
    refine ⟨hok, ⟨[ev], Lts.Run.snoc .nil hst, ?_⟩, hok'⟩
    intro ev' hev'
    rw [List.mem_singleton] at hev'
    rw [hev']
    exact hclient ev hev
  install _ profile _ _ hok := G.atFrontier_new hok.1 profile
  call := by
    intro i c j svc hev hok hidle
    cases c with
    | attemptDelivery e =>
        exact (gateDiscipline_attemptRule G (hattempt i e hev)).attemptDelivery hidle
    | recover => exact hrecover i j svc hev hok hidle
    | shutdown =>
        have hgate : G.AtFrontier j { svc with shutdown := true } := hidle
        exact Discipline.safeProg_done hgate fun _ _ => trivial

/-! ## New services -/

/-- No two attempted events of the run have one raw key in two streams. -/
def OneStreamPerKey (tr : List WorldEvent) (db : Db) : Prop :=
  ∀ i₁ i₂ e₁ e₂ v₁ v₂, .call i₁ (.attemptDelivery e₁) ∈ tr →
    .call i₂ (.attemptDelivery e₂) ∈ tr → db.storedEnvelope.find? e₁ = some v₁ →
    db.storedEnvelope.find? e₂ = some v₂ → v₁.streamKey = v₂.streamKey →
    v₁.logicalStream = v₂.logicalStream

omit [Sha256] in
/-- Each raw key is owned by the stream of the attempted events that have it. -/
theorem OneStreamPerKey.exists_owner {tr : List WorldEvent} {db : Db}
    (h : OneStreamPerKey tr db) : ∃ owner : String → LogicalStream, ∀ i e v,
      .call i (.attemptDelivery e) ∈ tr → db.storedEnvelope.find? e = some v →
      owner v.streamKey = v.logicalStream := by
  have hkey : ∀ k, ∃ owner : LogicalStream, ∀ i e v, .call i (.attemptDelivery e) ∈ tr →
      db.storedEnvelope.find? e = some v → v.streamKey = k → owner = v.logicalStream := by
    intro k
    -- a key no attempted event has may belong to any stream
    by_cases hk : ∃ i e v, .call i (.attemptDelivery e) ∈ tr ∧
        db.storedEnvelope.find? e = some v ∧ v.streamKey = k
    · obtain ⟨i, e, v, hcall, hv, hvk⟩ := hk
      refine ⟨v.logicalStream, ?_⟩
      intro i' e' v' hcall' hv' hvk'
      exact h i i' e e' v v' hcall hcall' hv hv' (hvk.trans hvk'.symm)
    · refine ⟨("", "", "", k), ?_⟩
      intro i e v hcall hv hvk
      exact absurd ⟨i, e, v, hcall, hv, hvk⟩ hk
  choose owner howner using hkey
  exact ⟨owner, fun i e v hcall hv => howner v.streamKey i e v hcall hv rfl⟩

/-- New services that never recover: all calls, and the events of a trace. -/
def newView (owner : String → LogicalStream) (tr : List WorldEvent) : GateView where
  calls _ := True
  byService _ _ := trivial
  frontier := clearFrontier
  owner := owner
  attempted e := ∃ i, .call i (.attemptDelivery e) ∈ tr
  scannable _ _ := True

/-- Without recovery and with one stream per key, every gate stays at its
frontiers. -/
theorem worldRun_new {config : JournalConfig} {profile : Nat → KafkaProductionProfile}
    {tr : List WorldEvent} {w : World}
    (hrun : worldLts.Run (World.start (LocalJournal.open config) profile) tr w)
    (hnew : ∀ i, .call i .recover ∉ tr) (hkeys : OneStreamPerKey tr w.journal.db) :
    ∃ G, (gateDiscipline G).WorldSafe w := by
  obtain ⟨owner, howner⟩ := hkeys.exists_owner
  have hadmits : (gateDiscipline (newView owner tr)).Admits (· ∈ tr) :=
    gateDiscipline_admits _ (fun _ _ => trivial) (fun i e h => ⟨i, h⟩)
      fun i _ _ h => absurd h (hnew i)
  have hempty : (LocalJournal.open config).db.Gapless := Db.gapless_empty
  refine ⟨newView owner tr, Discipline.worldSafe_run hadmits hrun ⟨⟨hempty, ?_⟩, ?_⟩ ?_⟩
  · intro e v _ hv
    cases hv
  · intro i
    exact (newView owner tr).atFrontier_new hempty (profile i)
  · intro tr₁ ev tr₂ w₁ w₂ htr hrun₁ hst hrun₂
    obtain ⟨tr', hjournal⟩ := worldRun_journal (hrun₁.snoc hst)
    obtain ⟨tr'', hrest⟩ := worldRun_journal hrun₂
    have hreach : Reachable w₂.journal := ⟨config, tr', hjournal⟩
    refine ⟨?_, fun _ _ _ _ => trivial, hreach.gapless, ?_⟩
    · rw [htr]
      simp
    · -- the envelopes of this state are still there at the end
      rintro e v ⟨i, hcall⟩ hv
      exact howner i e v hcall (journalRun_keepsEnvelope hrest hv)

end CraftRelay
