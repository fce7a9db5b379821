import CraftRelay.Lib.Lts
import CraftRelay.Bench.Numbering

/-!
# The segmented candidate

`SegmentedCandidate`: a database file for each segment, of which only the last is written.
The journal sequence is the candidate's own counter. A batch never crosses the end of a
segment, and a full segment is rolled before the next batch.
-/

namespace CraftRelay.Bench

/-- The place of a segment in the list gives the path of its file. -/
structure SegmentInfo where
  recordCount : UInt32
  firstJournalSeq : Int
  lastJournalSeq : Int
  deriving DecidableEq

/-- A segment and the contents of its file. -/
structure Segment where
  info : SegmentInfo
  db : BenchDb

/-- A segment that was just pushed, after these many journal sequences. -/
def Segment.new (globalJournalSeq : Int) : Segment :=
  ⟨⟨0, globalJournalSeq + 1, globalJournalSeq⟩, .empty⟩

/-- There is always a last segment, whose connection is the active one. -/
structure SegmentedCandidate where
  config : CandidateConfig
  closed : List Segment
  active : Segment
  globalJournalSeq : Int
  recordsInActive : UInt32

variable [Sha256]

/-- The transaction has the sequence number used last, and the database. -/
def writeSegmentEvent (env : BatchEnv) (position : Nat) (tx : Int × BenchDb)
    (event : SyntheticEvent) : Except String ((Int × BenchDb) × WriteResult) :=
  let journalSeq := tx.1 + 1
  writeNumbered env position tx.2 event journalSeq >>= fun written =>
    .ok ((journalSeq, written.1), written.2)

namespace SegmentedCandidate

section

omit [Sha256]

/-- `open`, in a directory without segments. -/
def «open» (config : CandidateConfig) : SegmentedCandidate :=
  ⟨config, [], Segment.new 0, 0, 0⟩

def segments (c : SegmentedCandidate) : List Segment := c.closed ++ [c.active]

def rollSegment (c : SegmentedCandidate) : SegmentedCandidate :=
  { c with
    closed := c.closed ++ [c.active]
    active := Segment.new c.globalJournalSeq
    recordsInActive := 0 }

def needsRollover (c : SegmentedCandidate) : Bool :=
  match c.config.segmentRolloverRecords with
  | some limit => limit ≤ c.recordsInActive
  | none => false

/-- The candidate at the start of a batch. -/
def ready (c : SegmentedCandidate) : SegmentedCandidate :=
  if c.needsRollover then c.rollSegment else c

def remainingInSegment (rolloverLimit : Option UInt32) (c : SegmentedCandidate)
    (eventsLeft : Nat) : Nat :=
  match rolloverLimit with
  | some limit => (limit - c.recordsInActive).toNat
  | none => eventsLeft

/-- What a commit of `n` events leaves. -/
def commitBatch (c : SegmentedCandidate) (tx : Int × BenchDb) (n : UInt32) :
    SegmentedCandidate :=
  { c with
    active :=
      { info :=
          { c.active.info with
            recordCount := c.active.info.recordCount + n
            lastJournalSeq := tx.1 }
        db := tx.2 }
    globalJournalSeq := tx.1
    recordsInActive := c.recordsInActive + n }

end

/-- How far the next batch may go. -/
def hardEnd (c : SegmentedCandidate) (events : List SyntheticEvent)
    (s : WriteLoop SegmentedCandidate) : Nat :=
  min (s.i + remainingInSegment c.config.segmentRolloverRecords s.candidate.ready
    (events.length - s.i)) events.length

/-- The loop of `write_batch`. -/
def writeLoop (c : SegmentedCandidate) (env : BatchEnv) (events : List SyntheticEvent) :
    While (WriteLoop SegmentedCandidate) where
  cond s := s.i < events.length
  body s := s.iterate c.config events (c.hardEnd events s) s.candidate.ready
    (s.candidate.ready.globalJournalSeq, s.candidate.ready.active.db) (writeSegmentEvent env)
    s.candidate.ready.commitBatch "segment batch rolled back for event "

/-- A call of `write_batch` returns with these variables. -/
def Writes (c : SegmentedCandidate) (env : BatchEnv) (events : List SyntheticEvent)
    (out : WriteLoop SegmentedCandidate) : Prop :=
  (c.writeLoop env events).Returns { candidate := c } out

variable {c : SegmentedCandidate} {env : BatchEnv} {events : List SyntheticEvent}
  {s out : WriteLoop SegmentedCandidate}

theorem body_writeLoop (s : WriteLoop SegmentedCandidate) :
    (c.writeLoop env events).body s =
      s.iterate c.config events (c.hardEnd events s) s.candidate.ready
        (s.candidate.ready.globalJournalSeq, s.candidate.ready.active.db)
        (writeSegmentEvent env) s.candidate.ready.commitBatch
        "segment batch rolled back for event " := rfl

/-! ## Progress -/

omit [Sha256] in
@[simp] theorem config_ready (c : SegmentedCandidate) : c.ready.config = c.config := by
  unfold ready
  split
  · rfl
  · rfl

/-- No iteration changes the configuration. -/
theorem config_body (h : s.candidate.config = c.config) :
    ((c.writeLoop env events).body s).candidate.config = c.config := by
  rw [body_writeLoop]
  cases hwrite : writeEach (writeSegmentEvent env) s.i
      (s.candidate.ready.globalJournalSeq, s.candidate.ready.active.db)
      (s.batch c.config events (c.hardEnd events s)) with
  | ok written =>
      rw [WriteLoop.iterate_of_ok hwrite]
      show s.candidate.ready.config = c.config
      rw [config_ready, h]
  | error e =>
      rw [WriteLoop.iterate_of_error hwrite]
      show s.candidate.ready.config = c.config
      rw [config_ready, h]

omit [Sha256] in
/-- A segment that may hold events has room for one once it is ready. -/
theorem recordsInActive_ready_lt {limit : UInt32}
    (hlimit : c.config.segmentRolloverRecords = some limit) (hpos : limit ≠ 0) :
    c.ready.recordsInActive < limit := by
  unfold ready
  split
  · show (0 : UInt32) < limit
    exact UInt32.pos_iff_ne_zero.mpr hpos
  · rename_i hroom
    unfold needsRollover at hroom
    rw [hlimit] at hroom
    simpa using hroom

omit [Sha256] in
/-- So the batch may take an event. -/
theorem remainingInSegment_pos (hlimit : c.config.segmentRolloverRecords ≠ some 0)
    {eventsLeft : Nat} (hleft : 0 < eventsLeft) :
    0 < remainingInSegment c.config.segmentRolloverRecords c.ready eventsLeft := by
  unfold remainingInSegment
  cases hrollover : c.config.segmentRolloverRecords with
  | none => exact hleft
  | some limit =>
      have hpos : limit ≠ 0 := fun hzero => hlimit (hzero ▸ hrollover)
      have hroom := recordsInActive_ready_lt hrollover hpos
      have hlt := UInt32.lt_iff_toNat_lt.mp hroom
      show 0 < (limit - c.ready.recordsInActive).toNat
      rw [UInt32.toNat_sub_of_le _ _ (UInt32.le_of_lt hroom)]
      omega

/-- Where a segment may hold events, every iteration goes on. -/
theorem i_lt_body (hconfig : s.candidate.config = c.config)
    (hlimit : c.config.segmentRolloverRecords ≠ some 0)
    (hcond : (c.writeLoop env events).cond s = true) :
    s.i < ((c.writeLoop env events).body s).i := by
  have hlt : s.i < events.length := of_decide_eq_true hcond
  rw [body_writeLoop, WriteLoop.i_iterate]
  apply lt_nextBatchEnd _ hlt
  have hroom := remainingInSegment_pos (hconfig ▸ hlimit) (Nat.sub_pos_of_lt hlt)
  unfold hardEnd
  rw [← hconfig]
  omega

/-- Where a segment may hold none, every iteration rolls and takes nothing. -/
theorem i_body_eq (hconfig : s.candidate.config = c.config)
    (hlimit : c.config.segmentRolloverRecords = some 0)
    (hcond : (c.writeLoop env events).cond s = true) :
    ((c.writeLoop env events).body s).i = s.i := by
  have hlt : s.i < events.length := of_decide_eq_true hcond
  -- a limit of zero is reached at once, and after the roll no room is left either
  have hrollover : s.candidate.needsRollover = true := by
    unfold needsRollover
    rw [hconfig, hlimit]
    exact decide_eq_true (UInt32.zero_le)
  have hready : s.candidate.ready.recordsInActive = 0 := by
    unfold ready
    rw [if_pos hrollover]
    rfl
  have hremaining : remainingInSegment c.config.segmentRolloverRecords s.candidate.ready
      (events.length - s.i) = 0 := by
    rw [hlimit]
    show (0 - s.candidate.ready.recordsInActive).toNat = 0
    rw [hready]
    rfl
  have hend : c.hardEnd events s = s.i := by
    unfold hardEnd
    rw [hremaining]
    omega
  rw [body_writeLoop, WriteLoop.i_iterate, hend]
  exact Nat.le_antisymm (nextBatchEnd_le_hardEnd (Nat.le_refl _)) (le_nextBatchEnd _ _ _)

omit [Sha256] in
/-- A batch fits the room of its segment. -/
theorem length_batch_le_room {limit : UInt32}
    (hlimit : c.config.segmentRolloverRecords = some limit)
    (hle : s.candidate.ready.recordsInActive ≤ limit) (hwithin : s.i ≤ events.length) :
    s.candidate.ready.recordsInActive.toNat +
      (s.batch c.config events (c.hardEnd events s)).length ≤ limit.toNat := by
  -- the subtraction of the code does not wrap, as the segment is not over its limit
  have hend : c.hardEnd events s =
      min (s.i + (limit.toNat - s.candidate.ready.recordsInActive.toNat)) events.length := by
    unfold hardEnd
    rw [hlimit]
    show min (s.i + (limit - s.candidate.ready.recordsInActive).toNat) _ = _
    rw [UInt32.toNat_sub_of_le _ _ hle]
  have hbatch : s.batchEnd c.config events (c.hardEnd events s) ≤ c.hardEnd events s := by
    apply nextBatchEnd_le_hardEnd
    rw [hend]
    omega
  have hlength : s.i + (s.batch c.config events (c.hardEnd events s)).length =
      s.batchEnd c.config events (c.hardEnd events s) := WriteLoop.length_batch hwithin
  have hnat := UInt32.le_iff_toNat_le.mp hle
  omega

/-! ## Calls that return -/

/-- Where a segment may hold events, a call returns. -/
theorem exists_writes (hlimit : c.config.segmentRolloverRecords ≠ some 0) (env : BatchEnv)
    (events : List SyntheticEvent) : ∃ out, c.Writes env events out := by
  apply WriteLoop.exists_returns (I := fun s => s.candidate.config = c.config)
    (fun _ => rfl) rfl
  · exact fun s hs => config_body hs
  · exact fun s hs hcond => i_lt_body hs hlimit hcond

/-- Where a segment may hold none, no call with events returns. -/
theorem not_writes (hlimit : c.config.segmentRolloverRecords = some 0) (env : BatchEnv)
    (hne : events ≠ []) (out : WriteLoop SegmentedCandidate) : ¬ c.Writes env events out := by
  have hpos := List.length_pos_iff.mpr hne
  -- no iteration moves the loop from the first event
  have hcond : ∀ s : WriteLoop SegmentedCandidate, s.candidate.config = c.config ∧ s.i = 0 →
      (c.writeLoop env events).cond s = true := fun s hs => decide_eq_true (hs.2.symm ▸ hpos)
  apply While.not_returns
    (I := fun s : WriteLoop SegmentedCandidate => s.candidate.config = c.config ∧ s.i = 0)
    ⟨rfl, rfl⟩ hcond
  exact fun s hs => ⟨config_body hs.1, (i_body_eq hs.1 hlimit (hcond s hs)).trans hs.2⟩

theorem accounted_body (h : s.Accounted "segment batch rolled back for event " events) :
    ((c.writeLoop env events).body s).Accounted "segment batch rolled back for event "
      events := by
  rw [body_writeLoop]
  exact h.iterate

/-- A call that returns has answered and counted all its events. -/
theorem Writes.accounted (h : c.Writes env events out) :
    out.Accounted "segment batch rolled back for event " events ∧ out.i = events.length :=
  WriteLoop.accounted_of_returns (fun _ => rfl) (fun _ hs => accounted_body hs) h

theorem Writes.config (h : c.Writes env events out) : out.candidate.config = c.config := by
  obtain ⟨hconfig, -⟩ := While.Returns.invariant (I := fun s => s.candidate.config = c.config)
    h rfl fun s hs _ => config_body hs
  exact hconfig

/-! ## Where every write succeeds -/

/-- The segments before the active one are full, and the active one has the events since. -/
structure Filled (c : SegmentedCandidate) (limit : UInt32) (events : List SyntheticEvent)
    (i : Nat) : Prop where
  start_le : limit.toNat * c.closed.length ≤ i
  records : c.recordsInActive.toNat = i - limit.toNat * c.closed.length
  bounded : c.recordsInActive ≤ limit
  global : c.globalJournalSeq = i
  holds : c.active.db.Holds (limit.toNat * c.closed.length : Nat)
    (events.extract (limit.toNat * c.closed.length) i)

omit [Sha256] in
/-- A new candidate has no events and no closed segment. -/
theorem filled_open (config : CandidateConfig) (limit : UInt32) :
    (SegmentedCandidate.open config).Filled limit events 0 where
  start_le := Nat.le_refl 0
  records := rfl
  bounded := UInt32.zero_le
  global := rfl
  holds := BenchDb.holds_empty _

omit [Sha256] in
/-- A full segment is rolled, and the next one begins with the next event. -/
theorem Filled.ready {limit : UInt32} {i : Nat} (h : c.Filled limit events i)
    (hlimit : c.config.segmentRolloverRecords = some limit) : c.ready.Filled limit events i := by
  unfold SegmentedCandidate.ready
  split
  · rename_i hrollover
    have hfull : limit ≤ c.recordsInActive := by
      unfold needsRollover at hrollover
      rw [hlimit] at hrollover
      exact of_decide_eq_true hrollover
    -- the counter says that the active segment has exactly `limit` events
    have hstart : limit.toNat * (c.closed ++ [c.active]).length = i := by
      have hrecords := h.records
      have hbounded := UInt32.le_iff_toNat_le.mp h.bounded
      have hnat := UInt32.le_iff_toNat_le.mp hfull
      have hle := h.start_le
      rw [List.length_append, List.length_singleton, Nat.mul_add, Nat.mul_one]
      omega
    refine ⟨hstart.le, ?_, UInt32.zero_le, h.global, ?_⟩
    · show 0 = i - limit.toNat * (c.closed ++ [c.active]).length
      rw [hstart, Nat.sub_self]
    · show BenchDb.empty.Holds _ (events.extract (limit.toNat * (c.closed ++ [c.active]).length) i)
      rw [hstart, List.extract_eq_take_drop, Nat.sub_self, List.take_zero]
      exact BenchDb.holds_empty _
  · exact h

/-- An event is written under its position, and its place in its stream since the start of
its segment. -/
theorem exists_writeSegmentEvent (hfree : env.Faultless)
    (hids : (events.map (·.eventId)).Nodup) {start position : Nat} (hstart : start ≤ position)
    {tx : Int × BenchDb} (hlt : position < events.length) (hlast : tx.1 = position)
    (h : tx.2.Holds start (events.extract start position)) :
    ∃ tx' result, writeSegmentEvent env position tx events[position] = .ok (tx', result) ∧
      result.numbers = numbersAt events start position ∧ tx'.1 = (position + 1 : Nat) ∧
      tx'.2.Holds start (events.extract start (position + 1)) := by
  obtain ⟨db', result, hwrite, hnumbers, hholds⟩ :=
    exists_writeNumbered hfree hids hstart hlt h
  refine ⟨(position + 1, db'), result, ?_, hnumbers, rfl, hholds⟩
  unfold writeSegmentEvent
  rw [hlast]
  exact Except.bind_eq_ok_iff.mpr ⟨_, hwrite, rfl⟩

/-- An event of a later call is written as if the events before it were of the same call. -/
theorem exists_writeSegmentEvent_after {done : List SyntheticEvent} (hfree : env.Faultless)
    (hids : ((done ++ events).map (·.eventId)).Nodup) {start position : Nat}
    (hstart : start ≤ done.length + position) {tx : Int × BenchDb}
    (hlt : position < events.length) (hlast : tx.1 = (done.length + position : Nat))
    (h : tx.2.Holds start ((done ++ events).extract start (done.length + position))) :
    ∃ tx' result, writeSegmentEvent env position tx events[position] = .ok (tx', result) ∧
      result.numbers = numbersAt (done ++ events) start (done.length + position) ∧
      tx'.1 = (done.length + (position + 1) : Nat) ∧
      tx'.2.Holds start ((done ++ events).extract start (done.length + (position + 1))) := by
  have hsame : writeSegmentEvent env position tx events[position] =
      writeSegmentEvent env (done.length + position) tx events[position] := by
    unfold writeSegmentEvent
    simp only [writeNumbered_position hfree position (done.length + position)]
  rw [hsame, ← getElem_after hlt (length_after hlt)]
  exact exists_writeSegmentEvent hfree hids hstart (length_after hlt) hlast h

/-- An iteration fills the segment on, after the events that the segments have, and numbers
its events. -/
theorem filled_body {done : List SyntheticEvent} {limit : UInt32} (hfree : env.Faultless)
    (hids : ((done ++ events).map (·.eventId)).Nodup)
    (hlimit : c.config.segmentRolloverRecords = some limit)
    (hconfig : s.candidate.config = c.config) (hwithin : s.i ≤ events.length)
    (hfilled : s.candidate.Filled limit (done ++ events) (done.length + s.i))
    (hnumbered : s.Numbered fun position => numbersAt (done ++ events)
      (limit.toNat * ((done.length + position) / limit.toNat)) (done.length + position)) :
    ((c.writeLoop env events).body s).candidate.Filled limit (done ++ events)
        (done.length + ((c.writeLoop env events).body s).i) ∧
      ((c.writeLoop env events).body s).Numbered fun position => numbersAt (done ++ events)
        (limit.toNat * ((done.length + position) / limit.toNat)) (done.length + position) := by
  have hready := hfilled.ready (hconfig ▸ hlimit)
  have hroom : s.candidate.ready.recordsInActive.toNat +
      (s.batch c.config events (c.hardEnd events s)).length ≤ limit.toNat :=
    length_batch_le_room hlimit hready.bounded hwithin
  have hlength : s.i + (s.batch c.config events (c.hardEnd events s)).length =
      s.batchEnd c.config events (c.hardEnd events s) := WriteLoop.length_batch hwithin
  have hrecords := hready.records
  have hstart := hready.start_le
  have hbody : (c.writeLoop env events).body s = _ := body_writeLoop s
  obtain ⟨tx, n, hend, hi, hsmall, ⟨hle, hlast, hholds⟩, hcandidate, hnumbered'⟩ :=
    hnumbered.iterate hbody hwithin
      (I := fun position tx =>
        limit.toNat * s.candidate.ready.closed.length ≤ done.length + position ∧
          tx.1 = ((done.length + position : Nat) : Int) ∧
          tx.2.Holds (limit.toNat * s.candidate.ready.closed.length : Nat)
            ((done ++ events).extract (limit.toNat * s.candidate.ready.closed.length)
              (done.length + position)))
      ⟨hstart, hready.global, hready.holds⟩
      fun position tx hlt hstop ⟨hle, hlast, hholds⟩ => by
        -- the position is in the active segment
        have hdiv : (done.length + position) / limit.toNat =
            s.candidate.ready.closed.length := by
          apply Nat.div_eq_of_lt_le
          · rw [Nat.mul_comm]
            exact hle
          · rw [Nat.add_mul, Nat.one_mul, Nat.mul_comm]
            omega
        rw [hdiv]
        obtain ⟨tx', result, hwrite, hnumbers, hlast', hholds'⟩ :=
          exists_writeSegmentEvent_after hfree hids hle hlt hlast hholds
        exact ⟨tx', result, hwrite, hnumbers, Nat.le_succ_of_le hle, hlast', hholds'⟩
  refine ⟨?_, hnumbered'⟩
  have hn : (s.candidate.ready.recordsInActive + .ofNat n).toNat =
      s.candidate.ready.recordsInActive.toNat + n := by
    have hlimitLt := limit.toNat_lt
    rw [UInt32.toNat_add, UInt32.toNat_ofNat_of_lt' hsmall, Nat.mod_eq_of_lt (by omega)]
  rw [hcandidate, hi]
  refine ⟨hle, ?_, ?_, hlast, hholds⟩
  · show (s.candidate.ready.recordsInActive + .ofNat n).toNat = done.length + (s.i + n) -
      limit.toNat * s.candidate.ready.closed.length
    rw [hn, hrecords]
    omega
  · show s.candidate.ready.recordsInActive + .ofNat n ≤ limit
    rw [UInt32.le_iff_toNat_le, hn]
    omega

omit [Sha256] in
/-- Events that are still to come do not change what the segments have. -/
theorem Filled.after {done : List SyntheticEvent} {limit : UInt32}
    (h : c.Filled limit done done.length) (events : List SyntheticEvent) :
    c.Filled limit (done ++ events) done.length where
  start_le := h.start_le
  records := h.records
  bounded := h.bounded
  global := h.global
  holds := by
    rw [extract_after]
    exact h.holds

/-- A call writes every event after those that the segments have, under its position and its
place in the stream since the start of its segment. -/
theorem Writes.filled {done : List SyntheticEvent} {limit : UInt32} (hfree : env.Faultless)
    (hids : ((done ++ events).map (·.eventId)).Nodup)
    (hlimit : c.config.segmentRolloverRecords = some limit)
    (hc : c.Filled limit done done.length) (h : c.Writes env events out) :
    out.candidate.config = c.config ∧
      out.candidate.Filled limit (done ++ events) (done ++ events).length ∧
      out.Numbered fun position => numbersAt (done ++ events)
        (limit.toNat * ((done.length + position) / limit.toNat)) (done.length + position) := by
  obtain ⟨⟨hconfig, -, hfilled, hnumbered⟩, -⟩ := While.Returns.invariant
    (I := fun s => s.candidate.config = c.config ∧
      s.Accounted "segment batch rolled back for event " events ∧
      s.candidate.Filled limit (done ++ events) (done.length + s.i) ∧
      s.Numbered fun position => numbersAt (done ++ events)
        (limit.toNat * ((done.length + position) / limit.toNat)) (done.length + position))
    h ⟨rfl, WriteLoop.accounted_start _ _ events, hc.after events, [], rfl, rfl⟩
    fun s ⟨hconfig, hacc, hfilled, hnumbered⟩ _ => ⟨config_body hconfig, accounted_body hacc,
      filled_body hfree hids hlimit hconfig hacc.within hfilled hnumbered⟩
  rw [h.accounted.2, ← List.length_append] at hfilled
  exact ⟨hconfig, hfilled, hnumbered⟩

/-- The same for the first call of a new candidate. -/
theorem Writes.numbered {config : CandidateConfig} {limit : UInt32} (hfree : env.Faultless)
    (hids : (events.map (·.eventId)).Nodup)
    (hlimit : config.segmentRolloverRecords = some limit)
    (h : (SegmentedCandidate.open config).Writes env events out) :
    out.Numbered fun position =>
      numbersAt events (limit.toNat * (position / limit.toNat)) position := by
  have hids : (([] ++ events : List SyntheticEvent).map (·.eventId)).Nodup := hids
  have hempty : (SegmentedCandidate.open config).Filled limit [] 0 := filled_open config limit
  obtain ⟨-, -, hnumbered⟩ := h.filled hfree hids hlimit hempty
  simpa using hnumbered

end SegmentedCandidate

end CraftRelay.Bench
