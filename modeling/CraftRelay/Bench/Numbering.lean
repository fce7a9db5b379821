import CraftRelay.Bench.Batching

/-!
# Numbers where every write succeeds

The sequence numbers that a loop gives whose statements succeed and whose events have
distinct ids, whatever its batches: the position in the call, and the place among the events
of the stream that the database has. A call after others gives the numbers that one call of
all the events would give.
-/

namespace CraftRelay.Bench

def WriteResult.numbers (result : WriteResult) : Int × Int :=
  (result.journalSequence, result.streamSequence)

/-- The numbers of an event in a database that has the events since `start`: its position
in the call, and its place among those of its stream. -/
def numbersAt (events : List SyntheticEvent) (start position : Nat) : Int × Int :=
  (position + 1, ((events.extract start position).countP fun event =>
    some event.logicalStream = events[position]?.map (·.logicalStream)) + 1)

/-- A batch each of whose events is written is written, with the numbers of its events. -/
theorem exists_writeEach {σ : Type} {events : List SyntheticEvent}
    {write : Nat → σ → SyntheticEvent → Except String (σ × WriteResult)}
    {I : Nat → σ → Prop} {numbers : Nat → Int × Int} {stop : Nat}
    (hwrite : ∀ position tx (h : position < events.length), position < stop → I position tx →
      ∃ tx' result, write position tx events[position] = .ok (tx', result) ∧
        result.numbers = numbers position ∧ I (position + 1) tx')
    {position n : Nat} {tx : σ} (hwithin : position + n ≤ events.length)
    (hstop : position + n ≤ stop) (hI : I position tx) :
    ∃ tx' results, writeEach write position tx (events.extract position (position + n)) =
        .ok (tx', results) ∧
      results.map (·.numbers) = (List.range' position n).map numbers ∧
      I (position + n) tx' := by
  -- `I` carries what the database holds from one event of the batch to the next
  induction n generalizing position tx with
  | zero =>
      refine ⟨tx, [], ?_, rfl, hI⟩
      rw [List.extract_eq_take_drop, Nat.add_zero, Nat.sub_self, List.take_zero]
      rfl
  | succ n ih =>
      have hlt : position < events.length := by omega
      obtain ⟨tx₁, result, hfirst, hnumbers, hI₁⟩ := hwrite position tx hlt (by omega) hI
      obtain ⟨tx₂, results, hrest, hnumbers₂, hI₂⟩ := ih (by omega) (by omega) hI₁
      have hcons : events.extract position (position + (n + 1)) =
          events[position] :: events.extract (position + 1) (position + 1 + n) := by
        rw [List.extract_eq_take_drop, List.extract_eq_take_drop,
          List.drop_eq_getElem_cons hlt, Nat.add_sub_cancel_left, Nat.add_sub_cancel_left,
          List.take_succ_cons]
      refine ⟨tx₂, result :: results, ?_, ?_, ?_⟩
      · rw [hcons]
        exact Except.bind_eq_ok_iff.mpr ⟨_, hfirst, Except.bind_eq_ok_iff.mpr ⟨_, hrest, rfl⟩⟩
      · rw [List.map_cons, hnumbers, hnumbers₂, List.range'_succ]
        rfl
      · rw [Nat.add_comm n 1, ← Nat.add_assoc]
        exact hI₂

/-- One event further, the events since `start` have one more. -/
theorem extract_succ {events : List SyntheticEvent} {start position : Nat}
    (hstart : start ≤ position) (h : position < events.length) :
    events.extract start (position + 1) = events.extract start position ++ [events[position]] := by
  rw [List.extract_eq_take_drop, List.extract_eq_take_drop, Nat.sub_add_comm hstart,
    List.take_add_one, List.getElem?_drop, Nat.add_sub_cancel' hstart,
    List.getElem?_eq_getElem h]
  rfl

/-- The events before `start` add nothing to an event's numbers when none of them is of its
stream. -/
theorem numbersAt_zero_eq_iff {events : List SyntheticEvent} {start position : Nat}
    (hstart : start ≤ position) (hlt : position < events.length) :
    numbersAt events 0 position = numbersAt events start position ↔
      ∀ i (hi : i < start), events[i].logicalStream ≠ events[position].logicalStream := by
  have hsplit : events.extract 0 position = events.take start ++ events.extract start position := by
    rw [List.extract_eq_take_drop, List.extract_eq_take_drop, List.drop_zero, Nat.sub_zero,
      ← List.take_add, Nat.add_sub_cancel' hstart]
  have hstream : events[position]?.map (·.logicalStream) = some events[position].logicalStream := by
    rw [List.getElem?_eq_getElem hlt]
    rfl
  unfold numbersAt
  -- the positions agree, so the two differ by the events of the stream before `start`
  rw [Prod.mk.injEq, hsplit, List.countP_append, hstream]
  have hcount : (events.take start).countP
      (fun event => some event.logicalStream = some events[position].logicalStream) = 0 ↔
      ∀ i (hi : i < start), events[i].logicalStream ≠ events[position].logicalStream := by
    rw [List.countP_eq_zero]
    refine ⟨fun h i hi heq => ?_, fun h event hmem => ?_⟩
    · have hmem : events[i] ∈ events.take start :=
        List.mem_take_iff_getElem.mpr ⟨i, by omega, rfl⟩
      exact h _ hmem (by simp [heq])
    · obtain ⟨i, hi, rfl⟩ := List.mem_take_iff_getElem.mp hmem
      have hne := h i (by omega)
      simpa using hne
  rw [← hcount]
  push_cast
  omega

/-- With distinct ids, an event's is not among those before it. -/
theorem eventId_not_mem_extract {events : List SyntheticEvent}
    (hids : (events.map (·.eventId)).Nodup) {position : Nat} (h : position < events.length)
    (start : Nat) :
    events[position].eventId ∉ (events.extract start position).map (·.eventId) := by
  intro hmem
  obtain ⟨event, hevent, hid⟩ := List.mem_map.mp hmem
  have hbefore : event ∈ events.take position := by
    rw [List.extract_eq_take_drop, ← List.drop_take] at hevent
    exact List.mem_of_mem_drop hevent
  have hsplit : events = events.take position ++ events[position] :: events.drop (position + 1) := by
    rw [← List.drop_eq_getElem_cons h, List.take_append_drop]
  rw [hsplit, List.map_append, List.nodup_append] at hids
  exact hids.2.2 _ (List.mem_map_of_mem hbefore) _ (List.mem_map_of_mem List.mem_cons_self) hid

/-- An event is written under the number of its position, in a database of those before
it. -/
theorem exists_writeNumbered [Sha256] {events : List SyntheticEvent} {env : BatchEnv}
    (hfree : env.Faultless) (hids : (events.map (·.eventId)).Nodup) {start position : Nat}
    (hstart : start ≤ position) (hlt : position < events.length) {db : BenchDb}
    (h : db.Holds start (events.extract start position)) :
    ∃ db' result, writeNumbered env position db events[position] (position + 1) =
        .ok (db', result) ∧
      result.numbers = numbersAt events start position ∧
      db'.Holds start (events.extract start (position + 1)) := by
  have hseq : (start : Int) + (events.extract start position).length + 1 = position + 1 := by
    rw [length_extract]
    omega
  obtain ⟨db', result, hwrite, hjournal, hstream, hholds⟩ :=
    h.write hfree (eventId_not_mem_extract hids hlt start) position
  rw [hseq] at hwrite hjournal
  refine ⟨db', result, hwrite, ?_, ?_⟩
  · unfold WriteResult.numbers numbersAt
    rw [hjournal, hstream, List.getElem?_eq_getElem hlt]
    simp
  · rw [extract_succ hstart hlt]
    exact hholds

/-- Every event so far was written, with its numbers. -/
def WriteLoop.Numbered {C : Type} (s : WriteLoop C) (numbers : Nat → Int × Int) : Prop :=
  ∃ good : List WriteResult, s.results = good.map .ok ∧
    good.map (·.numbers) = (List.range s.i).map numbers

/-- A committed batch numbers its events on from those before it. -/
theorem WriteLoop.Numbered.committed {C : Type} {s : WriteLoop C} {numbers : Nat → Int × Int}
    (h : s.Numbered numbers) {candidate : C} {batch : List SyntheticEvent}
    {results : List WriteResult} {n : Nat}
    (hresults : results.map (·.numbers) = (List.range' s.i n).map numbers) :
    (s.committed candidate batch results (s.i + n)).Numbered numbers := by
  obtain ⟨good, hgood, hnumbers⟩ := h
  refine ⟨good ++ results, ?_, ?_⟩
  · show s.results ++ results.map .ok = _
    rw [hgood, List.map_append]
  · show _ = (List.range (s.i + n)).map numbers
    have hrange : List.range s.i ++ List.range' s.i n = List.range (s.i + n) := by
      rw [List.range_eq_range', List.range_eq_range']
      simpa using List.range'_append_1 (s := 0)
    rw [List.map_append, hnumbers, hresults, ← List.map_append, hrange]

/-- An iteration whose events are all written keeps the numbering, and leaves a database
in `I` at its end. -/
theorem WriteLoop.Numbered.iterate {C σ : Type} {s s' : WriteLoop C} {config : CandidateConfig}
    {events : List SyntheticEvent} {hardEnd : Nat} {candidate : C} {tx : σ}
    {write : Nat → σ → SyntheticEvent → Except String (σ × WriteResult)}
    {keep : σ → UInt32 → C} {message : String} {numbers : Nat → Int × Int}
    {I : Nat → σ → Prop} (h : s.Numbered numbers)
    (hs' : s' = s.iterate config events hardEnd candidate tx write keep message)
    (hwithin : s.i ≤ events.length) (hI : I s.i tx)
    (hwrite : ∀ position tx (h : position < events.length),
      position < s.batchEnd config events hardEnd → I position tx →
      ∃ tx' result, write position tx events[position] = .ok (tx', result) ∧
        result.numbers = numbers position ∧ I (position + 1) tx') :
    ∃ tx' n, s.batchEnd config events hardEnd = s.i + n ∧ s'.i = s.i + n ∧ n < UInt32.size ∧
      I (s.i + n) tx' ∧ s'.candidate = keep tx' (.ofNat n) ∧ s'.Numbered numbers := by
  have hend : s.batchEnd config events hardEnd ≤ events.length := nextBatchEnd_le hwithin _
  have hlength : s.i + (s.batch config events hardEnd).length =
      s.batchEnd config events hardEnd := length_batch hwithin
  obtain ⟨tx', results, hbatch, hnumbers, hI'⟩ := exists_writeEach hwrite
    (n := (s.batch config events hardEnd).length) (by omega) hlength.le hI
  rw [hlength] at hbatch
  have hcount : results.length = (s.batch config events hardEnd).length := by
    simpa using congrArg List.length hnumbers
  -- every event was written, so the iteration commits
  subst hs'
  refine ⟨tx', _, hlength.symm, ?_, length_batch_lt, hI', ?_, ?_⟩
  · rw [i_iterate, hlength]
  · rw [iterate_of_ok hbatch, ← hcount]
    rfl
  · rw [iterate_of_ok hbatch, ← hlength]
    exact h.committed hnumbers

/-! ## A call after others -/

section

variable [Sha256] {env : BatchEnv} {done events : List SyntheticEvent} {position : Nat}

/-- Where no statement fails, nothing depends on the position in the call. -/
theorem writeNumbered_position (hfree : env.Faultless) (position position' : Nat)
    (db : BenchDb) (event : SyntheticEvent) (journalSeq : Int) :
    writeNumbered env position db event journalSeq =
      writeNumbered env position' db event journalSeq := by
  unfold writeNumbered allocateStreamSequence writeThreeRows
  simp only [hfree.run]

omit [Sha256] in
theorem length_after (hlt : position < events.length) :
    done.length + position < (done ++ events).length := by
  rw [List.length_append]
  omega

omit [Sha256] in
theorem getElem_after (hlt : position < events.length)
    (h : done.length + position < (done ++ events).length) :
    (done ++ events)[done.length + position] = events[position] := by
  rw [List.getElem_append_right (Nat.le_add_right _ _)]
  simp

omit [Sha256] in
theorem extract_after (start : Nat) :
    (done ++ events).extract start done.length = done.extract start done.length := by
  rw [List.extract_eq_take_drop, List.extract_eq_take_drop, ← List.drop_take, ← List.drop_take,
    List.take_left, List.take_length]

end

end CraftRelay.Bench
