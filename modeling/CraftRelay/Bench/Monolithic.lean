import CraftRelay.Bench.Numbering

/-!
# The monolithic candidate

`MonolithicCandidate`: one database for all events. Its loop ends, and its batches are those
of the greedy cut of the whole list.
-/

namespace CraftRelay.Bench

variable [Sha256]

structure MonolithicCandidate where
  config : CandidateConfig
  db : BenchDb

/-- `write_event_in_tx`: the journal sequence comes from the table. -/
def writeEventInTx (env : BatchEnv) (position : Nat) (db : BenchDb) (event : SyntheticEvent) :
    Except String (BenchDb × WriteResult) := do
  let journalSequence ← env.run position .selectMaxJournalSequence
    (.ok (db.journalSequences.max?.getD 0 + 1))
  writeNumbered env position db event journalSequence

namespace MonolithicCandidate

omit [Sha256] in
/-- `open` and `open_in_memory`. -/
def «open» (config : CandidateConfig) : MonolithicCandidate := ⟨config, .empty⟩

/-- The loop of `write_batch`. -/
def writeLoop (c : MonolithicCandidate) (env : BatchEnv) (events : List SyntheticEvent) :
    While (WriteLoop MonolithicCandidate) where
  cond s := s.i < events.length
  body s := s.iterate c.config events events.length s.candidate s.candidate.db
    (writeEventInTx env) (fun db _ => { s.candidate with db := db })
    "batch rolled back for event "

/-- A call of `write_batch` returns with these variables. -/
def Writes (c : MonolithicCandidate) (env : BatchEnv) (events : List SyntheticEvent)
    (out : WriteLoop MonolithicCandidate) : Prop :=
  (c.writeLoop env events).Returns { candidate := c } out

variable {c : MonolithicCandidate} {env : BatchEnv} {events : List SyntheticEvent}
  {out : WriteLoop MonolithicCandidate}

theorem body_writeLoop (s : WriteLoop MonolithicCandidate) :
    (c.writeLoop env events).body s =
      s.iterate c.config events events.length s.candidate s.candidate.db
        (writeEventInTx env) (fun db _ => { s.candidate with db := db })
        "batch rolled back for event " := rfl

theorem accounted_body {s : WriteLoop MonolithicCandidate}
    (h : s.Accounted "batch rolled back for event " events) :
    ((c.writeLoop env events).body s).Accounted "batch rolled back for event " events := by
  rw [body_writeLoop]
  exact h.iterate

/-- Every iteration goes on. -/
theorem i_lt_body {s : WriteLoop MonolithicCandidate}
    (hcond : (c.writeLoop env events).cond s = true) :
    s.i < ((c.writeLoop env events).body s).i := by
  have hlt : s.i < events.length := of_decide_eq_true hcond
  rw [body_writeLoop, WriteLoop.i_iterate]
  exact lt_nextBatchEnd hlt hlt

/-- A call returns: each iteration takes an event. -/
theorem exists_writes (c : MonolithicCandidate) (env : BatchEnv)
    (events : List SyntheticEvent) : ∃ out, c.Writes env events out := by
  apply WriteLoop.exists_returns (I := fun _ => True) (fun _ => rfl) trivial
  · exact fun _ _ => trivial
  · exact fun s _ hcond => i_lt_body hcond

/-- A call that returns has answered and counted all its events. -/
theorem Writes.accounted (h : c.Writes env events out) :
    out.Accounted "batch rolled back for event " events ∧ out.i = events.length :=
  WriteLoop.accounted_of_returns (fun _ => rfl) (fun _ hs => accounted_body hs) h

/-- The batches of the loop are those of the greedy cut. -/
theorem Writes.batches (h : c.Writes env events out) :
    out.batches =
      GreedyCut.batches (Fits c.config.maxRecordsPerTx.toNat c.config.maxBytesPerTx) events := by
  -- the batches so far, and those that a greedy cut of the rest gives
  obtain ⟨hcut, hcond⟩ := While.Returns.invariant
    (I := fun s => s.batches ++ GreedyCut.batches
        (Fits c.config.maxRecordsPerTx.toNat c.config.maxBytesPerTx) (events.drop s.i) =
      GreedyCut.batches (Fits c.config.maxRecordsPerTx.toNat c.config.maxBytesPerTx) events)
    h (by simp) fun s hs hcond => by
      have hlt : s.i < events.length := of_decide_eq_true hcond
      have hne : events.drop s.i ≠ [] := by
        rw [← List.length_pos_iff, List.length_drop]
        omega
      have hrest : events.extract s.i events.length = events.drop s.i := by
        rw [List.extract_eq_take_drop, List.take_of_length_le]
        rw [List.length_drop]
      have hbatch : s.batch c.config events events.length = _ :=
        extract_nextBatchEnd events s.i events.length
      have hend : s.batchEnd c.config events events.length = _ :=
        nextBatchEnd_eq events s.i events.length
      rw [hrest] at hbatch hend
      rw [body_writeLoop, WriteLoop.batches_iterate, WriteLoop.i_iterate, hbatch, hend, ← hs,
        GreedyCut.batches_of_ne_nil hne, List.drop_drop, List.append_assoc]
      rfl
  have hge : ¬ out.i < events.length := of_decide_eq_false hcond
  rw [List.drop_eq_nil_of_le (Nat.not_lt.mp hge), GreedyCut.batches_nil,
    List.append_nil] at hcut
  exact hcut

/-! ## Where every write succeeds -/

/-- Where no statement fails, the event at a position is written under its number: the
table has one row for each event before it. -/
theorem exists_writeEventInTx (hfree : env.Faultless) (hids : (events.map (·.eventId)).Nodup)
    (position : Nat) (db : BenchDb) (hlt : position < events.length)
    (h : db.Holds 0 (events.extract 0 position)) :
    ∃ db' result, writeEventInTx env position db events[position] = .ok (db', result) ∧
      result.numbers = numbersAt events 0 position ∧
      db'.Holds 0 (events.extract 0 (position + 1)) := by
  have hmax : db.journalSequences.max?.getD 0 + 1 = (position : Int) + 1 := by
    rw [h.sequences, countFrom_zero_left, max_countUp, length_extract]
    omega
  have hselect : env.run position .selectMaxJournalSequence
      (.ok (db.journalSequences.max?.getD 0 + 1)) = .ok ((position : Int) + 1) := by
    rw [hfree.run, hmax]
  obtain ⟨db', result, hwrite, hrest⟩ :=
    exists_writeNumbered hfree hids (Nat.zero_le position) hlt h
  exact ⟨db', result, Except.bind_eq_ok_iff.mpr ⟨_, hselect, hwrite⟩, hrest⟩

/-- An event of a later call is written as if the events before it were of the same call. -/
theorem exists_writeEventInTx_after {done : List SyntheticEvent} (hfree : env.Faultless)
    (hids : ((done ++ events).map (·.eventId)).Nodup) (position : Nat) (db : BenchDb)
    (hlt : position < events.length)
    (h : db.Holds 0 ((done ++ events).extract 0 (done.length + position))) :
    ∃ db' result, writeEventInTx env position db events[position] = .ok (db', result) ∧
      result.numbers = numbersAt (done ++ events) 0 (done.length + position) ∧
      db'.Holds 0 ((done ++ events).extract 0 (done.length + (position + 1))) := by
  have hsame : writeEventInTx env position db events[position] =
      writeEventInTx env (done.length + position) db events[position] := by
    unfold writeEventInTx
    simp only [hfree.run]
    exact bind_congr fun _ => writeNumbered_position hfree _ _ _ _ _
  rw [hsame, ← getElem_after hlt (length_after hlt)]
  exact exists_writeEventInTx hfree hids (done.length + position) db (length_after hlt) h

/-- A call writes every event after those that the table has, under the numbers it would
have in one call of all. -/
theorem Writes.holds {done : List SyntheticEvent} (hfree : env.Faultless)
    (hids : ((done ++ events).map (·.eventId)).Nodup)
    (hc : c.db.Holds 0 done) (h : c.Writes env events out) :
    out.candidate.db.Holds 0 (done ++ events) ∧
      out.Numbered fun position => numbersAt (done ++ events) 0 (done.length + position) := by
  have hstart : c.db.Holds 0 ((done ++ events).extract 0 (done.length + 0)) := by
    rw [Nat.add_zero, extract_after, List.extract_eq_take_drop, List.drop_zero, Nat.sub_zero,
      List.take_length]
    exact hc
  obtain ⟨⟨-, hholds, hnumbered⟩, -⟩ := While.Returns.invariant
    (I := fun s => s.Accounted "batch rolled back for event " events ∧
      s.candidate.db.Holds 0 ((done ++ events).extract 0 (done.length + s.i)) ∧
      s.Numbered fun position => numbersAt (done ++ events) 0 (done.length + position))
    -- the positions of this call come after those of the calls before
    h ⟨WriteLoop.accounted_start _ _ events, hstart, [], rfl, rfl⟩
    fun s ⟨hacc, hholds, hnumbered⟩ _ => by
      obtain ⟨db', n, -, hi, -, hholds', hcandidate, hnumbered'⟩ := hnumbered.iterate
        (I := fun position db => db.Holds 0 ((done ++ events).extract 0 (done.length + position)))
        (body_writeLoop s) hacc.within hholds
        fun position db hlt _ hdb => exists_writeEventInTx_after hfree hids position db hlt hdb
      refine ⟨accounted_body hacc, ?_, hnumbered'⟩
      rw [hcandidate, hi]
      exact hholds'
  rw [h.accounted.2, ← List.length_append, List.extract_eq_take_drop, List.drop_zero,
    Nat.sub_zero, List.take_length] at hholds
  exact ⟨hholds, hnumbered⟩

/-- A new candidate writes every event, under its position and its place in the stream. -/
theorem Writes.numbered {config : CandidateConfig} (hfree : env.Faultless)
    (hids : (events.map (·.eventId)).Nodup)
    (h : (MonolithicCandidate.open config).Writes env events out) :
    out.Numbered (numbersAt events 0) := by
  have hids : (([] ++ events : List SyntheticEvent).map (·.eventId)).Nodup := hids
  have hempty : (MonolithicCandidate.open config).db.Holds 0 [] := BenchDb.holds_empty 0
  obtain ⟨-, hnumbered⟩ := h.holds hfree hids hempty
  simpa using hnumbered

end MonolithicCandidate

end CraftRelay.Bench
