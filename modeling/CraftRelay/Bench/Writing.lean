import CraftRelay.Lib.CountUp
import CraftRelay.Lib.EarlyReturn
import CraftRelay.Bench.Types

/-!
# Writing one event

What both candidates do with an event in a transaction: its stream's next number, its
checksum, and its three rows. `Holds` is what a database holds in which every write
succeeded.
-/

namespace CraftRelay.Bench

/-! ## The statements -/

/-- `.ok()` drops the error of the query, whether the stream has no head or the statement
failed. -/
def allocateStreamSequence (env : BatchEnv) (position : Nat) (db : BenchDb)
    (streamKey : String) : BenchDb × Int :=
  let existing : Option Int :=
    match env.run position .selectStreamHead (.ok (db.streamHead.find? streamKey)) with
    | .ok row => row.map BenchStreamHead.headSequence
    | .error _ => none
  let next := existing.getD 0 + 1
  ({ db with streamHead := db.streamHead.upsert ⟨streamKey, next⟩ }, next)

/-- The primary key is checked before the unique column. -/
def BenchDb.insertEnvelope (db : BenchDb) (row : BenchEnvelope) : Except String BenchDb :=
  if row.journalSequence ∈ db.journalSequences then
    .error "UNIQUE constraint failed: bench_envelope.journal_sequence"
  else
    match db.envelope.insert? row with
    | none => .error "UNIQUE constraint failed: bench_envelope.event_id"
    | some t => .ok { db with envelope := t }

def BenchDb.insertPayload (db : BenchDb) (row : BenchPayload) : Except String BenchDb :=
  match db.payload.insert? row with
  | none => .error "UNIQUE constraint failed: bench_payload.event_id"
  | some t => .ok { db with payload := t }

def BenchDb.insertLifecycle (db : BenchDb) (row : BenchLifecycle) : Except String BenchDb :=
  match db.lifecycle.insert? row with
  | none => .error "UNIQUE constraint failed: bench_lifecycle.event_id"
  | some t => .ok { db with lifecycle := t }

/-- An insert that succeeded has appended its row. -/
theorem insertEnvelope_eq_ok {db db' : BenchDb} {row : BenchEnvelope}
    (h : db.insertEnvelope row = .ok db') :
    db'.envelope.rows = db.envelope.rows ++ [row] := by
  unfold BenchDb.insertEnvelope at h
  split at h
  · cases h
  · split at h
    · cases h
    · rename_i hins
      obtain rfl := Except.ok.inj h
      exact (KeyedTable.insert?_eq_some_iff.mp hins).2

/-- The other two inserts leave the envelopes alone. -/
theorem insertPayload_envelope {db db' : BenchDb} {row : BenchPayload}
    (h : db.insertPayload row = .ok db') : db'.envelope = db.envelope := by
  unfold BenchDb.insertPayload at h
  split at h
  · cases h
  · obtain rfl := Except.ok.inj h
    rfl

theorem insertLifecycle_envelope {db db' : BenchDb} {row : BenchLifecycle}
    (h : db.insertLifecycle row = .ok db') : db'.envelope = db.envelope := by
  unfold BenchDb.insertLifecycle at h
  split at h
  · cases h
  · obtain rfl := Except.ok.inj h
    rfl

/-! ## One event -/

section

variable [Sha256]

def computeEnvelopeChecksum (event : SyntheticEvent) (journalSeq streamSeq : Int) : Checksum :=
  Sha256.digest (utf8 event.installationId ++ [0] ++ utf8 event.eventId ++ [0] ++
    beBytes 8 journalSeq ++ beBytes 8 streamSeq ++ event.payloadDigest.val)

end

/-- The row of an event in `bench_envelope`. -/
def SyntheticEvent.envelopeRow (event : SyntheticEvent) (result : WriteResult) (nowMs : Int) :
    BenchEnvelope where
  journalSequence := result.journalSequence
  eventId := event.eventId
  installationId := event.installationId
  producerId := event.producerId
  «namespace» := event.namespace
  logicalStream := event.logicalStream
  streamSequence := result.streamSequence
  schemaVersion := event.schemaVersion
  payloadDigest := event.payloadDigest
  requestFingerprint := event.requestFingerprint
  envelopeChecksum := result.envelopeChecksum
  payloadRefId := event.payloadRefId
  payloadLength := event.payload.length
  receivedAtMs := nowMs

variable [Sha256]

def SyntheticEvent.lifecycleRow (event : SyntheticEvent) (journalSeq nowMs : Int) :
    BenchLifecycle where
  eventId := event.eventId
  revision := 1
  snapshotChecksum :=
    Sha256.digest (utf8 (toString journalSeq ++ "\x00LOCAL_ACCEPTED_SYNTHETIC"))
  deliveryStatus := "LOCAL_ACCEPTED_SYNTHETIC"
  localDurableAtMs := nowMs

/-- The three inserts of an event; the first that fails ends it. -/
def writeThreeRows (env : BatchEnv) (position : Nat) (db : BenchDb) (event : SyntheticEvent)
    (result : WriteResult) : Except String BenchDb := do
  let db ← env.run position .insertEnvelope
    (db.insertEnvelope (event.envelopeRow result env.nowMs))
  let db ← env.run position .insertPayload
    (db.insertPayload ⟨event.eventId, event.payload, event.payloadDigest⟩)
  env.run position .insertLifecycle
    (db.insertLifecycle (event.lifecycleRow result.journalSequence env.nowMs))

def SyntheticEvent.numbered (event : SyntheticEvent) (journalSeq streamSeq : Int) :
    WriteResult :=
  ⟨journalSeq, streamSeq, computeEnvelopeChecksum event journalSeq streamSeq⟩

/-- What follows once the event has its journal sequence. -/
def writeNumbered (env : BatchEnv) (position : Nat) (db : BenchDb) (event : SyntheticEvent)
    (journalSeq : Int) : Except String (BenchDb × WriteResult) :=
  let (db, streamSeq) := allocateStreamSequence env position db event.logicalStream
  let result := event.numbered journalSeq streamSeq
  writeThreeRows env position db event result >>= fun db => .ok (db, result)

/-- A write that succeeded has appended the event's row, under its number. -/
theorem writeNumbered_eq_ok {env : BatchEnv} {position : Nat} {db db' : BenchDb}
    {event : SyntheticEvent} {journalSeq : Int} {result : WriteResult}
    (h : writeNumbered env position db event journalSeq = .ok (db', result)) :
    result.journalSequence = journalSeq ∧
      db'.envelope.rows = db.envelope.rows ++ [event.envelopeRow result env.nowMs] := by
  obtain ⟨written, hrows, hreturn⟩ := Except.bind_eq_ok_iff.mp h
  obtain ⟨rfl, rfl⟩ := Prod.mk.inj (Except.ok.inj hreturn)
  refine ⟨rfl, ?_⟩
  obtain ⟨db₁, henvelope, hrows⟩ := Except.bind_eq_ok_iff.mp hrows
  obtain ⟨db₂, hpayload, hlifecycle⟩ := Except.bind_eq_ok_iff.mp hrows
  rw [insertLifecycle_envelope (BatchEnv.run_eq_ok hlifecycle),
    insertPayload_envelope (BatchEnv.run_eq_ok hpayload),
    insertEnvelope_eq_ok (BatchEnv.run_eq_ok henvelope)]

/-! ## Where every write succeeds -/

/-- The database holds these events, numbered from `base`, and the heads of their streams. -/
structure BenchDb.Holds (db : BenchDb) (base : Int) (events : List SyntheticEvent) : Prop where
  ids : db.envelope.rows.map (·.eventId) = events.map (·.eventId)
  payloadIds : db.payload.rows.map (·.eventId) = events.map (·.eventId)
  lifecycleIds : db.lifecycle.rows.map (·.eventId) = events.map (·.eventId)
  sequences : db.journalSequences = countFrom base events.length
  heads : ∀ streamKey, db.head streamKey = events.countP (·.logicalStream = streamKey)

omit [Sha256] in
theorem BenchDb.holds_empty (base : Int) : BenchDb.empty.Holds base [] where
  ids := rfl
  payloadIds := rfl
  lifecycleIds := rfl
  sequences := rfl
  heads _ := rfl

omit [Sha256] in
/-- A new id has no row in a table of the old ones. -/
theorem find?_eq_none_of_ids {ρ : Type} {key : ρ → String} {t : KeyedTable key} {id : String}
    {ids : List String} (hids : t.rows.map key = ids) (hnew : id ∉ ids) :
    t.find? id = none := by
  apply KeyedTable.find?_eq_none_iff.mpr
  intro row hrow hkey
  exact hnew (hids ▸ hkey ▸ List.mem_map_of_mem hrow)

/-- New rows are not refused, and the stream heads stay. -/
theorem writeThreeRows_of_new {env : BatchEnv} (hfree : env.Faultless) (position : Nat)
    (db : BenchDb) (event : SyntheticEvent) (result : WriteResult)
    (hseq : result.journalSequence ∉ db.journalSequences)
    (henvelope : db.envelope.find? event.eventId = none)
    (hpayload : db.payload.find? event.eventId = none)
    (hlifecycle : db.lifecycle.find? event.eventId = none) :
    ∃ db', writeThreeRows env position db event result = .ok db' ∧
      db'.envelope.rows = db.envelope.rows ++ [event.envelopeRow result env.nowMs] ∧
      db'.payload.rows.map (·.eventId) = db.payload.rows.map (·.eventId) ++ [event.eventId] ∧
      db'.lifecycle.rows.map (·.eventId) =
        db.lifecycle.rows.map (·.eventId) ++ [event.eventId] ∧
      db'.streamHead = db.streamHead := by
  obtain ⟨envelope, he⟩ := KeyedTable.insert?_of_new
    (r := event.envelopeRow result env.nowMs) henvelope
  obtain ⟨payload, hp⟩ := KeyedTable.insert?_of_new
    (r := (⟨event.eventId, event.payload, event.payloadDigest⟩ : BenchPayload)) hpayload
  obtain ⟨lifecycle, hl⟩ := KeyedTable.insert?_of_new
    (r := event.lifecycleRow result.journalSequence env.nowMs) hlifecycle
  refine ⟨⟨envelope, payload, lifecycle, db.streamHead⟩, ?_,
    (KeyedTable.insert?_eq_some_iff.mp he).2, ?_, ?_, rfl⟩
  · unfold writeThreeRows
    -- each table is still without the id when its insert runs
    have hfirst : db.insertEnvelope (event.envelopeRow result env.nowMs) =
        .ok { db with envelope := envelope } := by
      have hrow : (event.envelopeRow result env.nowMs).journalSequence ∉ db.journalSequences :=
        hseq
      unfold BenchDb.insertEnvelope
      rw [if_neg hrow, he]
    have hsecond : BenchDb.insertPayload { db with envelope := envelope }
        ⟨event.eventId, event.payload, event.payloadDigest⟩ =
        .ok { db with envelope := envelope, payload := payload } := by
      unfold BenchDb.insertPayload
      rw [hp]
    have hthird : BenchDb.insertLifecycle { db with envelope := envelope, payload := payload }
        (event.lifecycleRow result.journalSequence env.nowMs) =
        .ok ⟨envelope, payload, lifecycle, db.streamHead⟩ := by
      unfold BenchDb.insertLifecycle
      rw [hl]
    rw [hfree.run, hfirst]
    show (env.run position .insertPayload _ >>= _) = _
    rw [hfree.run, hsecond]
    show env.run position .insertLifecycle _ = _
    rw [hfree.run, hthird]
  · rw [(KeyedTable.insert?_eq_some_iff.mp hp).2, List.map_append]
    rfl
  · rw [(KeyedTable.insert?_eq_some_iff.mp hl).2, List.map_append]
    rfl

omit [Sha256] in
/-- Where the query does not fail, the stream's next number follows its head. -/
theorem allocateStreamSequence_of_faultless {env : BatchEnv} (hfree : env.Faultless)
    (position : Nat) (db : BenchDb) (streamKey : String) :
    (allocateStreamSequence env position db streamKey).2 = db.head streamKey + 1 ∧
      ∀ key, (allocateStreamSequence env position db streamKey).1.head key =
        if streamKey = key then db.head key + 1 else db.head key := by
  unfold allocateStreamSequence
  rw [hfree.run]
  refine ⟨rfl, fun key => ?_⟩
  show (((db.streamHead.upsert ⟨streamKey, db.head streamKey + 1⟩).find? key).map
    BenchStreamHead.headSequence).getD 0 = _
  rw [KeyedTable.find?_upsert]
  by_cases hkey : streamKey = key
  · rw [if_pos hkey, if_pos hkey, hkey]
    rfl
  · rw [if_neg hkey, if_neg hkey]
    rfl

/-- A new event is written under the next number, and its stream counts one more. -/
theorem BenchDb.Holds.write {db : BenchDb} {base : Int} {events : List SyntheticEvent}
    {env : BatchEnv} {event : SyntheticEvent} (h : db.Holds base events)
    (hfree : env.Faultless) (hnew : event.eventId ∉ events.map (·.eventId)) (position : Nat) :
    ∃ db' result, writeNumbered env position db event (base + events.length + 1) =
        .ok (db', result) ∧
      result.journalSequence = base + events.length + 1 ∧
      result.streamSequence = events.countP (·.logicalStream = event.logicalStream) + 1 ∧
      db'.Holds base (events ++ [event]) := by
  obtain ⟨hnext, hheads⟩ :=
    allocateStreamSequence_of_faultless hfree position db event.logicalStream
  -- the journal sequence is above every one in the table
  have hseq : base + events.length + 1 ∉ db.journalSequences := by
    intro hmem
    have hle := le_of_mem_countFrom (h.sequences ▸ hmem)
    omega
  obtain ⟨db', hwrite, henvelope, hpayload, hlifecycle, hstream⟩ :=
    writeThreeRows_of_new hfree position
      (allocateStreamSequence env position db event.logicalStream).1 event
      (event.numbered (base + events.length + 1)
        (allocateStreamSequence env position db event.logicalStream).2) hseq
      (find?_eq_none_of_ids h.ids hnew) (find?_eq_none_of_ids h.payloadIds hnew)
      (find?_eq_none_of_ids h.lifecycleIds hnew)
  refine ⟨db', event.numbered (base + events.length + 1)
    (allocateStreamSequence env position db event.logicalStream).2, ?_, rfl, ?_, ?_⟩
  · exact Except.bind_eq_ok_iff.mpr ⟨db', hwrite, rfl⟩
  · show (allocateStreamSequence env position db event.logicalStream).2 = _
    rw [hnext, h.heads]
  · refine ⟨?_, ?_, ?_, ?_, fun key => ?_⟩
    · rw [henvelope, List.map_append, List.map_append]
      exact congrArg (· ++ [event.eventId]) h.ids
    · rw [hpayload, List.map_append]
      exact congrArg (· ++ [event.eventId]) h.payloadIds
    · rw [hlifecycle, List.map_append]
      exact congrArg (· ++ [event.eventId]) h.lifecycleIds
    · show db'.envelope.rows.map _ = _
      rw [henvelope, List.map_append, List.length_append, List.length_singleton, countFrom_succ]
      exact congrArg (· ++ [base + events.length + 1]) h.sequences
    -- the inserts leave the heads as the allocation set them
    · have hhead : db'.head key =
          (allocateStreamSequence env position db event.logicalStream).1.head key := by
        unfold BenchDb.head
        rw [hstream]
      rw [hhead, hheads, h.heads, List.countP_append]
      by_cases hkey : event.logicalStream = key
      · simp [hkey]
      · simp [hkey]

end CraftRelay.Bench
