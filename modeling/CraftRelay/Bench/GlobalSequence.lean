import Mathlib.Data.List.Chain
import CraftRelay.Bench.Segmented

/-!
# One sequence over all segments

The counters of a segmented candidate stay those of its rows, whatever its calls commit, roll
back and roll over: each segment has the rows of its range, and the ranges abut.
-/

namespace CraftRelay.Bench

/-! ## Consistent counters -/

/-- The rows of a segment are those of its range, and no more than the limit. -/
structure Segment.Consistent (segment : Segment) (limit : UInt32) : Prop where
  sequences : segment.db.journalSequences =
    countFrom (segment.info.firstJournalSeq - 1) segment.info.recordCount.toNat
  last : segment.info.lastJournalSeq =
    segment.info.firstJournalSeq - 1 + segment.info.recordCount.toNat
  bounded : segment.info.recordCount ≤ limit

/-- A new segment has no rows yet. -/
theorem Segment.new_consistent (globalJournalSeq : Int) (limit : UInt32) :
    (Segment.new globalJournalSeq).Consistent limit where
  sequences := rfl
  last := by
    show globalJournalSeq = globalJournalSeq + 1 - 1 + (0 : Nat)
    omega
  bounded := UInt32.zero_le

/-- The range of a segment begins where the one before ends. -/
def Segment.Abuts (a b : Segment) : Prop :=
  b.info.firstJournalSeq = a.info.lastJournalSeq + 1

/-- Abutting segments have one sequence together. -/
theorem sequences_of_abuts {limit : UInt32} {segments : List Segment} (base : Int)
    (hall : ∀ segment ∈ segments, segment.Consistent limit)
    (habut : segments.IsChain Segment.Abuts)
    (hfirst : ∀ segment ∈ segments.head?, segment.info.firstJournalSeq = base + 1) :
    segments.flatMap (·.db.journalSequences) =
      countFrom base (segments.flatMap (·.db.journalSequences)).length := by
  -- each segment counts on from the last number of the one before
  induction segments generalizing base with
  | nil => rfl
  | cons segment segments ih =>
      obtain ⟨hnext, hrest⟩ := List.isChain_cons.mp habut
      have hsegment := hall segment List.mem_cons_self
      have hbase := hfirst segment rfl
      have hseq : segment.db.journalSequences =
          countFrom base segment.info.recordCount.toNat := by
        rw [hsegment.sequences, hbase, Int.add_sub_cancel]
      have htail := ih (base + segment.info.recordCount.toNat)
        (fun x hx => hall x (List.mem_cons_of_mem _ hx)) hrest fun x hx => by
          rw [hnext x hx, hsegment.last, hbase, Int.add_sub_cancel]
      rw [List.flatMap_cons, htail, hseq, List.length_append, length_countFrom,
        length_countFrom, countFrom_append]

namespace SegmentedCandidate

/-- The running counters are those of the rows. -/
structure Consistent (c : SegmentedCandidate) (limit : UInt32) : Prop where
  config : c.config.segmentRolloverRecords = some limit
  segments : ∀ segment ∈ c.segments, segment.Consistent limit
  abut : c.segments.IsChain Segment.Abuts
  first : ∀ segment ∈ c.segments.head?, segment.info.firstJournalSeq = 1
  globalJournalSeq : c.globalJournalSeq = c.active.info.lastJournalSeq
  recordsInActive : c.recordsInActive = c.active.info.recordCount

variable {c : SegmentedCandidate} {limit : UInt32}

/-- `open` begins with one empty segment. -/
theorem consistent_open {config : CandidateConfig}
    (h : config.segmentRolloverRecords = some limit) :
    (SegmentedCandidate.open config).Consistent limit where
  config := h
  segments segment hmem := by
    rw [List.mem_singleton.mp hmem]
    exact Segment.new_consistent 0 limit
  abut := List.isChain_singleton _
  first segment hmem := by
    obtain rfl := Option.some.inj hmem
    rfl
  globalJournalSeq := rfl
  recordsInActive := rfl

/-- The first segment is a closed one, if there is one. -/
theorem head?_segments (c : SegmentedCandidate) :
    c.segments.head? = some (c.closed.head?.getD c.active) := by
  unfold SegmentedCandidate.segments
  cases c.closed with
  | nil => rfl
  | cons => rfl

theorem Consistent.active (h : c.Consistent limit) : c.active.Consistent limit :=
  h.segments _ (List.mem_append_right _ (List.mem_singleton.mpr rfl))

/-- A roll begins an empty range. -/
theorem Consistent.rollSegment (h : c.Consistent limit) : c.rollSegment.Consistent limit where
  config := h.config
  segments segment hmem := by
    rcases List.mem_append.mp hmem with hmem | hmem
    · exact h.segments segment hmem
    · rw [List.mem_singleton.mp hmem]
      exact Segment.new_consistent _ limit
  abut := by
    show ((c.closed ++ [c.active]) ++ [Segment.new c.globalJournalSeq]).IsChain Segment.Abuts
    rw [List.isChain_append]
    refine ⟨h.abut, List.isChain_singleton _, ?_⟩
    -- the last of the old segments is the active one, whose last number is the global one
    intro a ha b hb
    obtain rfl : c.active = a := by simpa using ha
    obtain rfl : Segment.new c.globalJournalSeq = b := by simpa using hb
    show c.globalJournalSeq + 1 = c.active.info.lastJournalSeq + 1
    rw [h.globalJournalSeq]
  first segment hmem := by
    apply h.first segment
    have hhead : c.rollSegment.closed.head? = some (c.closed.head?.getD c.active) :=
      head?_segments c
    rw [head?_segments, hhead] at hmem
    rw [head?_segments]
    exact hmem
  globalJournalSeq := rfl
  recordsInActive := rfl

theorem Consistent.ready (h : c.Consistent limit) : c.ready.Consistent limit := by
  unfold SegmentedCandidate.ready
  split
  · exact h.rollSegment
  · exact h

/-- A commit appends to the range of the active segment. -/
theorem Consistent.active_commitBatch (h : c.Consistent limit) {tx : Int × BenchDb}
    {n : UInt32} (hroom : c.recordsInActive.toNat + n.toNat ≤ limit.toNat)
    (hlast : tx.1 = c.globalJournalSeq + n.toNat)
    (hrows : tx.2.journalSequences =
      c.active.db.journalSequences ++ countFrom c.globalJournalSeq n.toNat) :
    (c.commitBatch tx n).active.Consistent limit := by
  have hactive := h.active
  have hlimit := limit.toNat_lt
  -- the counter does not wrap, as a batch stays in its segment
  have hcount : (c.active.info.recordCount + n).toNat =
      c.active.info.recordCount.toNat + n.toNat := by
    rw [h.recordsInActive] at hroom
    rw [UInt32.toNat_add, Nat.mod_eq_of_lt (by omega)]
  refine ⟨?_, ?_, ?_⟩
  · show tx.2.journalSequences =
      countFrom (c.active.info.firstJournalSeq - 1) (c.active.info.recordCount + n).toNat
    rw [hrows, hcount, hactive.sequences, h.globalJournalSeq, hactive.last, countFrom_append]
  · show tx.1 = c.active.info.firstJournalSeq - 1 + (c.active.info.recordCount + n).toNat
    rw [hcount, hlast, h.globalJournalSeq, hactive.last]
    push_cast
    omega
  · show c.active.info.recordCount + n ≤ limit
    rw [UInt32.le_iff_toNat_le, hcount, ← h.recordsInActive]
    exact hroom

/-- The counters follow, and the first sequence of the active segment stays. -/
theorem Consistent.commitBatch (h : c.Consistent limit) {tx : Int × BenchDb} {n : UInt32}
    (hroom : c.recordsInActive.toNat + n.toNat ≤ limit.toNat)
    (hlast : tx.1 = c.globalJournalSeq + n.toNat)
    (hrows : tx.2.journalSequences =
      c.active.db.journalSequences ++ countFrom c.globalJournalSeq n.toNat) :
    (c.commitBatch tx n).Consistent limit where
  config := h.config
  segments segment hmem := by
    rcases List.mem_append.mp hmem with hmem | hmem
    · exact h.segments segment (List.mem_append_left _ hmem)
    · rw [List.mem_singleton.mp hmem]
      exact h.active_commitBatch hroom hlast hrows
  abut := by
    have habut := List.isChain_append.mp h.abut
    refine List.isChain_append.mpr ⟨habut.1, List.isChain_singleton _, ?_⟩
    intro a ha b hb
    obtain rfl := Option.some.inj hb
    exact habut.2.2 a ha c.active rfl
  first segment hmem := by
    -- only the active segment changed, and its first number did not
    have hfirst := h.first _ (head?_segments c)
    rw [head?_segments] at hmem
    obtain rfl := Option.some.inj hmem
    show (c.closed.head?.getD _).info.firstJournalSeq = 1
    cases hclosed : c.closed.head? with
    | none =>
        rw [hclosed] at hfirst
        exact hfirst
    | some a =>
        rw [hclosed] at hfirst
        exact hfirst
  globalJournalSeq := rfl
  recordsInActive := by
    show c.recordsInActive + n = c.active.info.recordCount + n
    rw [h.recordsInActive]

/-- The committed rows, segment after segment. -/
def rows (c : SegmentedCandidate) : List BenchEnvelope :=
  c.segments.flatMap (·.db.envelope.rows)

/-- The rows of all segments have the numbers from one on, without a gap. -/
theorem Consistent.sequences (h : c.Consistent limit) :
    c.rows.map (·.journalSequence) = countUp c.rows.length := by
  have hmap : c.rows.map (·.journalSequence) =
      c.segments.flatMap (·.db.journalSequences) := List.map_flatMap
  have hseq := sequences_of_abuts 0 h.segments h.abut h.first
  have hlength := congrArg List.length hmap
  rw [List.length_map] at hlength
  rw [hmap, hseq, ← hlength, countFrom_zero_left]

end SegmentedCandidate

/-! ## What a call adds -/

/-- The events of a call that were written, with their answers. -/
def recorded (events : List SyntheticEvent) (results : List (Except String WriteResult)) :
    List (SyntheticEvent × WriteResult) :=
  (events.zip results).filterMap fun answer => answer.2.toOption.map (answer.1, ·)

/-- A row is the one of an event that was written. -/
def BenchEnvelope.Records (row : BenchEnvelope) (answer : SyntheticEvent × WriteResult) : Prop :=
  ∃ nowMs, row = answer.1.envelopeRow answer.2 nowMs

/-- The answers of two parts of a call are those of the call. -/
theorem recorded_append {events events' : List SyntheticEvent}
    {results results' : List (Except String WriteResult)}
    (h : events.length = results.length) :
    recorded (events ++ events') (results ++ results') =
      recorded events results ++ recorded events' results' := by
  unfold recorded
  rw [List.zip_append h, List.filterMap_append]

theorem recorded_ok (events : List SyntheticEvent) (results : List WriteResult) :
    recorded events (results.map .ok) = events.zip results := by
  unfold recorded
  rw [List.zip_map_right, List.filterMap_map]
  exact List.filterMap_some

/-- An event that was rolled back leaves no record. -/
theorem recorded_error (events : List SyntheticEvent) (message : SyntheticEvent → String) :
    recorded events (events.map fun event => .error (message event)) = [] := by
  unfold recorded
  rw [List.filterMap_eq_nil_iff]
  intro answer hanswer
  obtain ⟨event, -, herror⟩ := List.mem_map.mp (List.of_mem_zip hanswer).2
  rw [← herror]
  rfl

section

variable [Sha256]

/-- A batch that is written appends its rows, under the next numbers. -/
theorem writeEach_writeSegmentEvent {env : BatchEnv} {position : Nat} {tx tx' : Int × BenchDb}
    {batch : List SyntheticEvent} {results : List WriteResult}
    (h : writeEach (writeSegmentEvent env) position tx batch = .ok (tx', results)) :
    tx'.1 = tx.1 + batch.length ∧
      tx'.2.journalSequences = tx.2.journalSequences ++ countFrom tx.1 batch.length ∧
      ∃ rows, tx'.2.envelope.rows = tx.2.envelope.rows ++ rows ∧
        List.Forall₂ BenchEnvelope.Records rows (batch.zip results) := by
  induction batch generalizing position tx results with
  | nil =>
      obtain ⟨rfl, rfl⟩ := Prod.mk.inj (Except.ok.inj h)
      exact ⟨by simp, by simp [countFrom], [], by simp, List.Forall₂.nil⟩
  | cons event batch ih =>
      obtain ⟨first, hfirst, h⟩ := Except.bind_eq_ok_iff.mp h
      obtain ⟨rest, hrest, h⟩ := Except.bind_eq_ok_iff.mp h
      obtain ⟨rfl, rfl⟩ := Prod.mk.inj (Except.ok.inj h)
      obtain ⟨written, hwritten, hfirst⟩ := Except.bind_eq_ok_iff.mp hfirst
      obtain rfl := Except.ok.inj hfirst
      obtain ⟨hseq, hrow⟩ := writeNumbered_eq_ok hwritten
      obtain ⟨hlast, hsequences, rows, hrows, hrecords⟩ := ih hrest
      have hjournal : written.1.journalSequences = tx.2.journalSequences ++ [tx.1 + 1] := by
        unfold BenchDb.journalSequences
        rw [hrow, List.map_append, ← hseq]
        rfl
      refine ⟨?_, ?_, event.envelopeRow written.2 env.nowMs :: rows, ?_, ?_⟩
      · rw [hlast, List.length_cons]
        push_cast
        omega
      · rw [hsequences, hjournal, List.append_assoc, List.length_cons, countFrom_cons]
        rfl
      · rw [hrows, hrow, List.append_assoc]
        rfl
      · exact List.Forall₂.cons ⟨env.nowMs, rfl⟩ hrecords

namespace SegmentedCandidate

variable {c : SegmentedCandidate} {env : BatchEnv} {events : List SyntheticEvent}
  {s out : WriteLoop SegmentedCandidate} {limit : UInt32}
  {history : List (SyntheticEvent × WriteResult)}

omit [Sha256] in
/-- A roll adds a segment without rows. -/
theorem rows_ready (c : SegmentedCandidate) : c.ready.rows = c.rows := by
  unfold ready
  split
  · show (c.segments ++ [Segment.new c.globalJournalSeq]).flatMap _ = c.rows
    rw [List.flatMap_append]
    exact List.append_nil _
  · rfl

omit [Sha256] in
theorem rows_eq (c : SegmentedCandidate) :
    c.rows = c.closed.flatMap (·.db.envelope.rows) ++ c.active.db.envelope.rows := by
  show (c.closed ++ [c.active]).flatMap _ = _
  rw [List.flatMap_append, List.flatMap_singleton]

/-- An iteration keeps the counters consistent, and adds to the rows what it writes. -/
theorem consistent_body (h : s.candidate.Consistent limit)
    (hconfig : s.candidate.config = c.config)
    (hacc : s.Accounted "segment batch rolled back for event " events)
    (hrows : List.Forall₂ BenchEnvelope.Records s.candidate.rows
      (history ++ recorded (events.take s.i) s.results)) :
    ((c.writeLoop env events).body s).candidate.Consistent limit ∧
      List.Forall₂ BenchEnvelope.Records ((c.writeLoop env events).body s).candidate.rows
        (history ++ recorded (events.take ((c.writeLoop env events).body s).i)
          ((c.writeLoop env events).body s).results) := by
  have htake : events.take (s.batchEnd c.config events (c.hardEnd events s)) =
      events.take s.i ++ s.batch c.config events (c.hardEnd events s) := WriteLoop.take_batchEnd
  have hready := h.ready
  have hlengths := hacc.answers.length_eq
  rw [body_writeLoop, WriteLoop.i_iterate, htake]
  cases hwrite : writeEach (writeSegmentEvent env) s.i
      (s.candidate.ready.globalJournalSeq, s.candidate.ready.active.db)
      (s.batch c.config events (c.hardEnd events s)) with
  | error e =>
      -- the transaction is dropped, and its sequence numbers with it
      rw [WriteLoop.iterate_of_error hwrite]
      refine ⟨hready, ?_⟩
      show List.Forall₂ _ s.candidate.ready.rows
        (history ++ recorded _ (s.results ++ _))
      rw [rows_ready, recorded_append hlengths, recorded_error, List.append_nil]
      exact hrows
  | ok written =>
      obtain ⟨tx, results⟩ := written
      obtain ⟨hlast, hsequences, rows, hwritten, hrecords⟩ := writeEach_writeSegmentEvent hwrite
      have hcount := length_writeEach hwrite
      have hsmall : (UInt32.ofNat results.length).toNat =
          (s.batch c.config events (c.hardEnd events s)).length := by
        rw [hcount]
        exact UInt32.toNat_ofNat_of_lt' WriteLoop.length_batch_lt
      have hle : s.candidate.ready.recordsInActive ≤ limit := by
        rw [hready.recordsInActive]
        exact hready.active.bounded
      have hroom : s.candidate.ready.recordsInActive.toNat +
          (s.batch c.config events (c.hardEnd events s)).length ≤ limit.toNat :=
        length_batch_le_room (hconfig ▸ h.config) hle hacc.within
      -- the batch was cut at the room of the segment, so its rows stay in the range
      rw [← hsmall] at hroom hlast hsequences
      rw [WriteLoop.iterate_of_ok hwrite]
      refine ⟨hready.commitBatch hroom hlast hsequences, ?_⟩
      show List.Forall₂ _ (s.candidate.ready.commitBatch tx _).rows
        (history ++ recorded _ (s.results ++ results.map .ok))
      rw [recorded_append hlengths, recorded_ok, ← List.append_assoc, rows_eq]
      show List.Forall₂ _ (s.candidate.ready.closed.flatMap (·.db.envelope.rows) ++
        tx.2.envelope.rows) _
      rw [hwritten, ← List.append_assoc, ← rows_eq, rows_ready]
      exact List.rel_append hrows hrecords

/-- A call keeps the counters consistent, and adds to the rows what it returns. -/
theorem Writes.consistent (h : c.Writes env events out) (hc : c.Consistent limit)
    (hrows : List.Forall₂ BenchEnvelope.Records c.rows history) :
    out.candidate.Consistent limit ∧
      List.Forall₂ BenchEnvelope.Records out.candidate.rows
        (history ++ recorded events out.results) := by
  have hdone := h.accounted.2
  obtain ⟨⟨-, -, hcons, hout⟩, -⟩ := While.Returns.invariant
    (I := fun s => s.candidate.config = c.config ∧
      s.Accounted "segment batch rolled back for event " events ∧
      s.candidate.Consistent limit ∧
      List.Forall₂ BenchEnvelope.Records s.candidate.rows
        (history ++ recorded (events.take s.i) s.results))
    h ⟨rfl, WriteLoop.accounted_start c _ events, hc, by simpa [recorded] using hrows⟩
    fun s ⟨hconfig, hacc, hs, hrows⟩ _ =>
      ⟨config_body hconfig, accounted_body hacc, consistent_body hs hconfig hacc hrows⟩
  rw [hdone, List.take_length] at hout
  exact ⟨hcons, hout⟩

/-- A call of `write_batch`, with what it was given and what it returned. -/
structure Call where
  env : BatchEnv
  events : List SyntheticEvent
  results : List (Except String WriteResult)
  metrics : WriteBatchMetrics

omit [Sha256] in
def Call.recorded (call : Call) : List (SyntheticEvent × WriteResult) :=
  Bench.recorded call.events call.results

/-- One answer for each event, in order, and each counted once. -/
structure Call.Answered (call : Call) : Prop where
  answers : List.Forall₂ (Answers "segment batch rolled back for event ") call.events
    call.results
  written : call.metrics.writtenRecords = (Bench.written call.results).length
  records : call.metrics.writtenRecords + call.metrics.failedRecords = call.events.length

/-- Calls one after another, each of which returned. -/
def calls : Lts SegmentedCandidate Call where
  step c call c' := ∃ out, c.Writes call.env call.events out ∧ out.candidate = c' ∧
    out.results = call.results ∧ out.metrics = call.metrics

/-- Over any calls, the counters stay consistent, the rows are those of the events that
were written, in order, and every event has its answer. -/
theorem calls_consistent {trace : List Call} {c₀ c : SegmentedCandidate}
    (hrun : calls.Run c₀ trace c) (h : c₀.Consistent limit) (hempty : c₀.rows = []) :
    c.Consistent limit ∧
      List.Forall₂ BenchEnvelope.Records c.rows (trace.flatMap Call.recorded) ∧
      ∀ call ∈ trace, call.Answered := by
  induction hrun with
  | nil => exact ⟨h, by rw [hempty]; exact List.Forall₂.nil, by simp⟩
  | snoc _ hstep ih =>
      obtain ⟨hcons, hrows, hanswered⟩ := ih
      obtain ⟨out, hwrites, rfl, hresults, hmetrics⟩ := hstep
      obtain ⟨hcons', hrows'⟩ := hwrites.consistent hcons hrows
      obtain ⟨hacc, hdone⟩ := hwrites.accounted
      refine ⟨hcons', ?_, ?_⟩
      · rw [List.flatMap_append, List.flatMap_singleton]
        unfold Call.recorded
        rw [← hresults]
        exact hrows'
      · intro call hcall
        rcases List.mem_append.mp hcall with hcall | hcall
        · exact hanswered call hcall
        -- the newest call has gone through all its events when it returns
        · obtain rfl := List.mem_singleton.mp hcall
          have hanswers := hacc.answers
          have hrecords := hacc.records
          rw [hdone, List.take_length] at hanswers
          rw [hdone] at hrecords
          refine ⟨hresults ▸ hanswers, ?_, hmetrics ▸ hrecords⟩
          rw [← hmetrics, ← hresults]
          exact hacc.writtenRecords

end SegmentedCandidate

end

end CraftRelay.Bench
