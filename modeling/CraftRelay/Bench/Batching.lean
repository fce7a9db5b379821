import CraftRelay.Lib.GreedyCut
import CraftRelay.Lib.While
import CraftRelay.Bench.Writing

/-!
# Group commit

The loop of `write_batch`, which both candidates have in common: cut the next batch at the
record limit, the byte limit or a hard end, write it in a transaction, and answer its events.
A candidate says how far a batch may go, how it writes an event, and what a commit leaves.
-/

namespace CraftRelay.Bench

/-! ## Cutting a batch -/

def perEventOverheadBytes : UInt64 := 512

def estimatedTransactionBytes (event : SyntheticEvent) : UInt64 :=
  .ofNat event.payload.length + perEventOverheadBytes

/-- How many of the events before the hard end the batch takes, after `count` events of
`bytes` estimated bytes. -/
def batchLength (maxRecords : Nat) (maxBytes : UInt64) :
    List SyntheticEvent → Nat → UInt64 → Nat
  | [], _, _ => 0
  | event :: events, count, bytes =>
    let eventBytes := estimatedTransactionBytes event
    if 0 < count ∧ (maxRecords ≤ count ∨ maxBytes < bytes + eventBytes) then 0
    else batchLength maxRecords maxBytes events (count + 1) (bytes + eventBytes) + 1

def nextBatchEnd (events : List SyntheticEvent) (start maxRecords : Nat) (maxBytes : UInt64)
    (hardEnd : Nat) : Nat :=
  start + batchLength maxRecords maxBytes (events.extract start hardEnd) 0 0

/-- The estimated size of a batch, as the code sums it. -/
def batchBytes (batch : List SyntheticEvent) : UInt64 :=
  batch.foldl (fun bytes event => bytes + estimatedTransactionBytes event) 0

/-- The size it estimates, in numbers that do not wrap. -/
def totalBytes (batch : List SyntheticEvent) : Nat :=
  (batch.map fun event => event.payload.length + 512).sum

/-- A batch may take the event too. -/
def Fits (maxRecords : Nat) (maxBytes : UInt64) (batch : List SyntheticEvent)
    (event : SyntheticEvent) : Prop :=
  batch.length < maxRecords ∧ batchBytes batch + estimatedTransactionBytes event ≤ maxBytes

instance (maxRecords : Nat) (maxBytes : UInt64) (batch : List SyntheticEvent)
    (event : SyntheticEvent) : Decidable (Fits maxRecords maxBytes batch event) :=
  inferInstanceAs (Decidable (_ ∧ _))

section

variable {maxRecords : Nat} {maxBytes : UInt64}

theorem batchBytes_snoc (batch : List SyntheticEvent) (event : SyntheticEvent) :
    batchBytes (batch ++ [event]) = batchBytes batch + estimatedTransactionBytes event := by
  simp [batchBytes]

theorem totalBytes_append (batch batch' : List SyntheticEvent) :
    totalBytes (batch ++ batch') = totalBytes batch + totalBytes batch' := by
  simp [totalBytes]

/-- A sum that fits in 64 bits is exact. -/
theorem toNat_batchBytes {batch : List SyntheticEvent} (h : totalBytes batch < 2 ^ 64) :
    (batchBytes batch).toNat = totalBytes batch := by
  induction batch using List.reverseRecOn with
  | nil => rfl
  | append_singleton batch event ih =>
      have hone : totalBytes [event] = event.payload.length + 512 := by simp [totalBytes]
      rw [totalBytes_append, hone] at h
      have hevent : (estimatedTransactionBytes event).toNat = event.payload.length + 512 := by
        unfold estimatedTransactionBytes perEventOverheadBytes
        have hsum : event.payload.length + 512 < 2 ^ 64 :=
          Nat.lt_of_le_of_lt (Nat.le_add_left _ _) h
        have hlength : event.payload.length < UInt64.size :=
          Nat.lt_of_le_of_lt (Nat.le_add_right _ _) hsum
        rw [UInt64.toNat_add, UInt64.toNat_ofNat_of_lt' hlength]
        show (event.payload.length + 512) % 2 ^ 64 = _
        exact Nat.mod_eq_of_lt hsum
      rw [batchBytes_snoc, totalBytes_append, hone, UInt64.toNat_add, hevent,
        ih (Nat.lt_of_le_of_lt (Nat.le_add_right _ _) h)]
      exact Nat.mod_eq_of_lt h

/-- The two running counters are those of a greedy cut. -/
theorem batchLength_eq (batch events : List SyntheticEvent) :
    batchLength maxRecords maxBytes events batch.length (batchBytes batch) =
      GreedyCut.takenAfter (Fits maxRecords maxBytes) batch events := by
  induction events generalizing batch with
  | nil => rfl
  | cons event events ih =>
      have hcond : (0 < batch.length ∧ (maxRecords ≤ batch.length ∨
          maxBytes < batchBytes batch + estimatedTransactionBytes event)) ↔
          (batch ≠ [] ∧ ¬ Fits maxRecords maxBytes batch event) := by
        unfold Fits
        rw [List.length_pos_iff, not_and_or, Nat.not_lt, UInt64.not_le]
      have hbytes : batchBytes batch + estimatedTransactionBytes event =
          batchBytes (batch ++ [event]) := (batchBytes_snoc batch event).symm
      have hlength : batch.length + 1 = (batch ++ [event]).length := by simp
      show (if _ then 0 else _) = if _ then 0 else _
      rw [hbytes, hlength, ih]
      simp only [← hbytes, hcond]

theorem nextBatchEnd_eq (events : List SyntheticEvent) (start hardEnd : Nat) :
    nextBatchEnd events start maxRecords maxBytes hardEnd =
      start + GreedyCut.taken (Fits maxRecords maxBytes) (events.extract start hardEnd) :=
  congrArg (start + ·) (batchLength_eq [] _)

theorem le_nextBatchEnd (events : List SyntheticEvent) (start hardEnd : Nat) :
    start ≤ nextBatchEnd events start maxRecords maxBytes hardEnd := Nat.le_add_right _ _

theorem length_extract (events : List SyntheticEvent) (start stop : Nat) :
    (events.extract start stop).length = min (stop - start) (events.length - start) := by
  rw [List.extract_eq_take_drop, List.length_take, List.length_drop]

variable (maxRecords maxBytes) in
/-- A batch takes no more events than there are before the hard end. -/
theorem taken_extract_le (events : List SyntheticEvent) (start hardEnd : Nat) :
    GreedyCut.taken (Fits maxRecords maxBytes) (events.extract start hardEnd) ≤
      min (hardEnd - start) (events.length - start) := by
  rw [← length_extract]
  exact GreedyCut.takenAfter_le _ [] _

/-- A batch ends with the events at the latest. -/
theorem nextBatchEnd_le {events : List SyntheticEvent} {start : Nat}
    (hstart : start ≤ events.length) (hardEnd : Nat) :
    nextBatchEnd events start maxRecords maxBytes hardEnd ≤ events.length := by
  have hle := taken_extract_le maxRecords maxBytes events start hardEnd
  rw [nextBatchEnd_eq]
  omega

/-- A batch stays before its hard end. -/
theorem nextBatchEnd_le_hardEnd {events : List SyntheticEvent} {start hardEnd : Nat}
    (h : start ≤ hardEnd) :
    nextBatchEnd events start maxRecords maxBytes hardEnd ≤ hardEnd := by
  have hle := taken_extract_le maxRecords maxBytes events start hardEnd
  rw [nextBatchEnd_eq]
  omega

/-- With room before the hard end, a batch takes an event. -/
theorem lt_nextBatchEnd {events : List SyntheticEvent} {start hardEnd : Nat}
    (hroom : start < hardEnd) (hstart : start < events.length) :
    start < nextBatchEnd events start maxRecords maxBytes hardEnd := by
  have hne : events.extract start hardEnd ≠ [] := by
    rw [← List.length_pos_iff, length_extract]
    omega
  have hpos := GreedyCut.taken_pos (Fits maxRecords maxBytes) hne
  rw [nextBatchEnd_eq]
  omega

/-- The events of a batch are those that a greedy cut takes first. -/
theorem extract_nextBatchEnd (events : List SyntheticEvent) (start hardEnd : Nat) :
    events.extract start (nextBatchEnd events start maxRecords maxBytes hardEnd) =
      (events.extract start hardEnd).take
        (GreedyCut.taken (Fits maxRecords maxBytes) (events.extract start hardEnd)) := by
  have hle := taken_extract_le maxRecords maxBytes events start hardEnd
  rw [nextBatchEnd_eq, List.extract_eq_take_drop, List.extract_eq_take_drop, List.take_take,
    Nat.add_sub_cancel_left]
  congr 1
  rw [List.extract_eq_take_drop] at hle
  omega

/-- Every event of a batch but the first fits what was taken before it. -/
theorem fitting_nextBatch (events : List SyntheticEvent) (start hardEnd : Nat) :
    GreedyCut.Fitting (Fits maxRecords maxBytes)
      (events.extract start (nextBatchEnd events start maxRecords maxBytes hardEnd)) := by
  have hempty : GreedyCut.Fitting (Fits maxRecords maxBytes) [] := by simp [GreedyCut.Fitting]
  rw [extract_nextBatchEnd]
  exact GreedyCut.fitting_takenAfter hempty _

/-- A batch has no more events than its limit, which lets one pass. -/
theorem length_le_of_fitting {batch : List SyntheticEvent}
    (h : GreedyCut.Fitting (Fits maxRecords maxBytes) batch) :
    batch.length ≤ max 1 maxRecords := by
  -- the newest event fits those before it, or is the only one, which always passes
  cases batch using List.reverseRecOn with
  | nil => exact Nat.zero_le _
  | append_singleton before event =>
      rw [List.length_append, List.length_singleton]
      by_cases hne : before = []
      · rw [hne]
        exact Nat.le_max_left _ _
      · have hfits := h before event [] rfl hne
        exact (Nat.succ_le_of_lt hfits.1).trans (Nat.le_max_right _ _)

/-- A batch of more than one event keeps the byte limit. -/
theorem batchBytes_le_of_fitting {batch : List SyntheticEvent}
    (h : GreedyCut.Fitting (Fits maxRecords maxBytes) batch) (hmany : 1 < batch.length) :
    batchBytes batch ≤ maxBytes := by
  cases batch using List.reverseRecOn with
  | nil => simp at hmany
  | append_singleton before event =>
      have hne : before ≠ [] := by
        rintro rfl
        simp at hmany
      rw [batchBytes_snoc]
      exact (h before event [] rfl hne).2

/-- An event that does not fit breaks one of the two limits. -/
theorem breaks_of_not_fits {batch : List SyntheticEvent} {event : SyntheticEvent}
    (h : ¬ Fits maxRecords maxBytes batch event) (hne : batch ≠ []) :
    max 1 maxRecords < (batch ++ [event]).length ∨ maxBytes < batchBytes (batch ++ [event]) := by
  unfold Fits at h
  rw [not_and_or, Nat.not_lt, UInt64.not_le, ← batchBytes_snoc] at h
  have hpos := List.length_pos_iff.mpr hne
  rw [List.length_append, List.length_singleton]
  exact h.imp_left fun hfull => by omega

end

/-! ## The loop -/

namespace WriteBatchMetrics

/-- After a commit of `n` events, a `u32` in the code. -/
def commit (metrics : WriteBatchMetrics) (n : UInt32) : WriteBatchMetrics :=
  { metrics with
    committedTransactions := metrics.committedTransactions + 1
    writtenRecords := metrics.writtenRecords + n.toNat
    totalBatchRecords := metrics.totalBatchRecords + n.toNat
    maxObservedBatchSize :=
      if metrics.maxObservedBatchSize < n then n else metrics.maxObservedBatchSize }

def rollBack (metrics : WriteBatchMetrics) (batchLength : Nat) : WriteBatchMetrics :=
  { metrics with
    failedTransactions := metrics.failedTransactions + 1
    failedRecords := metrics.failedRecords + batchLength }

end WriteBatchMetrics

/-- The variables of `write_batch` at the head of its loop, and the batches it has cut. -/
structure WriteLoop (C : Type) where
  candidate : C
  i : Nat := 0
  results : List (Except String WriteResult) := []
  metrics : WriteBatchMetrics := {}
  batches : List (List SyntheticEvent) := []

/-- The events of a batch, one after another, up to the first that fails. -/
def writeEach {σ : Type} (write : Nat → σ → SyntheticEvent → Except String (σ × WriteResult)) :
    Nat → σ → List SyntheticEvent → Except String (σ × List WriteResult)
  | _, tx, [] => .ok (tx, [])
  | position, tx, event :: events => do
    let (tx, result) ← write position tx event
    let (tx, results) ← writeEach write (position + 1) tx events
    return (tx, result :: results)

namespace WriteLoop

variable {C σ : Type}

/-- A batch that was written: one result each, in order. -/
def committed (s : WriteLoop C) (candidate : C) (batch : List SyntheticEvent)
    (batchResults : List WriteResult) (batchEnd : Nat) : WriteLoop C where
  candidate := candidate
  i := batchEnd
  results := s.results ++ batchResults.map .ok
  metrics := s.metrics.commit (.ofNat batchResults.length)
  batches := s.batches ++ [batch]

/-- A batch that failed: each of its events gets the message. -/
def rolledBack (s : WriteLoop C) (candidate : C) (batch : List SyntheticEvent)
    (message : String) (batchEnd : Nat) : WriteLoop C where
  candidate := candidate
  i := batchEnd
  results := s.results ++ batch.map fun event => .error (message ++ event.eventId)
  metrics := s.metrics.rollBack batch.length
  batches := s.batches ++ [batch]

/-- Where the next batch ends, and its events. -/
def batchEnd (s : WriteLoop C) (config : CandidateConfig) (events : List SyntheticEvent)
    (hardEnd : Nat) : Nat :=
  nextBatchEnd events s.i config.maxRecordsPerTx.toNat config.maxBytesPerTx hardEnd

def batch (s : WriteLoop C) (config : CandidateConfig) (events : List SyntheticEvent)
    (hardEnd : Nat) : List SyntheticEvent :=
  events.extract s.i (s.batchEnd config events hardEnd)

/-- An iteration, once the candidate is ready for the batch and has its hard end. A batch
that fails drops the transaction, and with it what its first events did. -/
def iterate (s : WriteLoop C) (config : CandidateConfig) (events : List SyntheticEvent)
    (hardEnd : Nat) (candidate : C) (tx : σ)
    (write : Nat → σ → SyntheticEvent → Except String (σ × WriteResult))
    (keep : σ → UInt32 → C) (message : String) : WriteLoop C :=
  match writeEach write s.i tx (s.batch config events hardEnd) with
  | .ok (tx, batchResults) =>
      s.committed (keep tx (.ofNat batchResults.length)) (s.batch config events hardEnd)
        batchResults (s.batchEnd config events hardEnd)
  | .error _ =>
      s.rolledBack candidate (s.batch config events hardEnd) message
        (s.batchEnd config events hardEnd)

end WriteLoop

/-! ## What an iteration does -/

theorem length_writeEach {σ : Type}
    {write : Nat → σ → SyntheticEvent → Except String (σ × WriteResult)} {position : Nat}
    {tx tx' : σ} {batch : List SyntheticEvent} {results : List WriteResult}
    (h : writeEach write position tx batch = .ok (tx', results)) :
    results.length = batch.length := by
  induction batch generalizing position tx results with
  | nil =>
      obtain ⟨rfl, rfl⟩ := Prod.mk.inj (Except.ok.inj h)
      rfl
  | cons event batch ih =>
      obtain ⟨first, -, h⟩ := Except.bind_eq_ok_iff.mp h
      obtain ⟨rest, hrest, h⟩ := Except.bind_eq_ok_iff.mp h
      obtain ⟨rfl, rfl⟩ := Prod.mk.inj (Except.ok.inj h)
      exact congrArg (· + 1) (ih hrest)

/-- The answer to an event: that it was written, or that its batch was rolled back. -/
def Answers (message : String) (event : SyntheticEvent) :
    Except String WriteResult → Prop
  | .ok _ => True
  | .error e => e = message ++ event.eventId

theorem answers_ok (message : String) {events : List SyntheticEvent}
    {results : List WriteResult} (h : results.length = events.length) :
    List.Forall₂ (Answers message) events (results.map .ok) := by
  rw [List.forall₂_map_right_iff, List.forall₂_iff_get]
  exact ⟨h.symm, fun _ _ _ => trivial⟩

theorem answers_error (message : String) (events : List SyntheticEvent) :
    List.Forall₂ (Answers message) events
      (events.map fun event => .error (message ++ event.eventId)) := by
  rw [List.forall₂_map_right_iff, List.forall₂_same]
  exact fun _ _ => rfl

/-- The results that are sequence numbers. -/
def written (results : List (Except String WriteResult)) : List WriteResult :=
  results.filterMap Except.toOption

theorem written_append (results results' : List (Except String WriteResult)) :
    written (results ++ results') = written results ++ written results' :=
  List.filterMap_append

theorem written_ok (results : List WriteResult) : written (results.map .ok) = results := by
  unfold written
  rw [List.filterMap_map]
  exact List.filterMap_some

theorem written_error (events : List SyntheticEvent) (message : String) :
    written (events.map fun event => .error (message ++ event.eventId)) = [] := by
  unfold written
  rw [List.filterMap_map, List.filterMap_eq_nil_iff]
  exact fun _ _ => rfl

namespace WriteLoop

variable {C σ : Type}

/-- The loop has cut and answered the events before `i`, one answer each, and counted them. -/
structure Accounted (s : WriteLoop C) (message : String) (events : List SyntheticEvent) :
    Prop where
  within : s.i ≤ events.length
  cut : s.batches.flatten = events.take s.i
  answers : List.Forall₂ (Answers message) (events.take s.i) s.results
  writtenRecords : s.metrics.writtenRecords = (written s.results).length
  records : s.metrics.writtenRecords + s.metrics.failedRecords = s.i

/-- Before the first iteration nothing is cut. -/
theorem accounted_start (candidate : C) (message : String) (events : List SyntheticEvent) :
    Accounted { candidate := candidate } message events where
  within := Nat.zero_le _
  cut := rfl
  answers := List.Forall₂.nil
  writtenRecords := rfl
  records := rfl

variable {s : WriteLoop C} {config : CandidateConfig} {events : List SyntheticEvent}
  {hardEnd : Nat} {candidate : C} {tx tx' : σ}
  {write : Nat → σ → SyntheticEvent → Except String (σ × WriteResult)}
  {keep : σ → UInt32 → C} {message : String}

theorem iterate_of_ok {batchResults : List WriteResult}
    (h : writeEach write s.i tx (s.batch config events hardEnd) = .ok (tx', batchResults)) :
    s.iterate config events hardEnd candidate tx write keep message =
      s.committed (keep tx' (.ofNat batchResults.length)) (s.batch config events hardEnd)
        batchResults (s.batchEnd config events hardEnd) := by
  unfold iterate
  rw [h]

theorem iterate_of_error {e : String}
    (h : writeEach write s.i tx (s.batch config events hardEnd) = .error e) :
    s.iterate config events hardEnd candidate tx write keep message =
      s.rolledBack candidate (s.batch config events hardEnd) message
        (s.batchEnd config events hardEnd) := by
  unfold iterate
  rw [h]

/-- Either way the loop goes on where the batch ends. -/
theorem i_iterate : (s.iterate config events hardEnd candidate tx write keep message).i =
    s.batchEnd config events hardEnd := by
  cases hwrite : writeEach write s.i tx (s.batch config events hardEnd) with
  | ok written =>
      rw [iterate_of_ok hwrite]
      rfl
  | error e =>
      rw [iterate_of_error hwrite]
      rfl

theorem batches_iterate :
    (s.iterate config events hardEnd candidate tx write keep message).batches =
      s.batches ++ [s.batch config events hardEnd] := by
  cases hwrite : writeEach write s.i tx (s.batch config events hardEnd) with
  | ok written =>
      rw [iterate_of_ok hwrite]
      rfl
  | error e =>
      rw [iterate_of_error hwrite]
      rfl

/-- The events before the end of the batch are those before it and its own. -/
theorem take_batchEnd :
    events.take (s.batchEnd config events hardEnd) =
      events.take s.i ++ s.batch config events hardEnd := by
  have hle : s.i ≤ s.batchEnd config events hardEnd := le_nextBatchEnd _ _ _
  unfold batch
  rw [List.extract_eq_take_drop, ← List.take_add, Nat.add_sub_cancel' hle]

/-- The index moves by the length of the batch. -/
theorem length_batch (hwithin : s.i ≤ events.length) :
    s.i + (s.batch config events hardEnd).length = s.batchEnd config events hardEnd := by
  have hle : s.i ≤ s.batchEnd config events hardEnd := le_nextBatchEnd _ _ _
  have hend : s.batchEnd config events hardEnd ≤ events.length := nextBatchEnd_le hwithin _
  unfold batch
  rw [length_extract]
  omega

/-- The length of a batch fits the counter. -/
theorem length_batch_lt : (s.batch config events hardEnd).length < UInt32.size := by
  have hle : (s.batch config events hardEnd).length ≤ max 1 config.maxRecordsPerTx.toNat :=
    length_le_of_fitting (fitting_nextBatch events s.i hardEnd)
  have hlt := config.maxRecordsPerTx.toNat_lt
  show _ < 4294967296
  omega

/-- An iteration accounts for its batch, whether it is committed or rolled back. -/
theorem Accounted.iterate (h : s.Accounted message events) :
    (s.iterate config events hardEnd candidate tx write keep message).Accounted message
      events := by
  have hend : s.batchEnd config events hardEnd ≤ events.length := nextBatchEnd_le h.within _
  have htake : events.take (s.batchEnd config events hardEnd) =
      events.take s.i ++ s.batch config events hardEnd := take_batchEnd
  have hlength : s.i + (s.batch config events hardEnd).length =
      s.batchEnd config events hardEnd := length_batch h.within
  have hcut : (s.batches ++ [s.batch config events hardEnd]).flatten =
      events.take (s.batchEnd config events hardEnd) := by
    rw [htake, List.flatten_append, h.cut]
    simp
  have hwritten := h.writtenRecords
  have hrecords := h.records
  cases hwrite : writeEach write s.i tx (s.batch config events hardEnd) with
  | ok outcome =>
      -- the counter of the batch does not wrap, as a batch has at most `maxRecordsPerTx` events
      have hcount := length_writeEach hwrite
      have hsmall : (UInt32.ofNat outcome.2.length).toNat = outcome.2.length :=
        UInt32.toNat_ofNat_of_lt' (hcount ▸ length_batch_lt)
      rw [iterate_of_ok hwrite]
      refine ⟨hend, hcut, ?_, ?_, ?_⟩
      · show List.Forall₂ _ (events.take (s.batchEnd config events hardEnd)) _
        rw [htake]
        exact List.rel_append h.answers (answers_ok message hcount)
      · show s.metrics.writtenRecords + _ = (written (s.results ++ outcome.2.map .ok)).length
        rw [written_append, written_ok, List.length_append, hsmall, hwritten]
      · show s.metrics.writtenRecords + _ + s.metrics.failedRecords = _
        rw [hsmall]
        show _ = s.batchEnd config events hardEnd
        omega
  | error e =>
      rw [iterate_of_error hwrite]
      refine ⟨hend, hcut, ?_, ?_, ?_⟩
      · show List.Forall₂ _ (events.take (s.batchEnd config events hardEnd)) _
        rw [htake]
        exact List.rel_append h.answers (answers_error message _)
      · show s.metrics.writtenRecords = (written (s.results ++ _)).length
        rw [written_append, written_error, List.append_nil, hwritten]
      · show s.metrics.writtenRecords + (s.metrics.failedRecords + _) =
          s.batchEnd config events hardEnd
        omega

/-- A loop over the events whose body keeps the account has answered and counted all of
them when it returns. -/
theorem accounted_of_returns {loop : While (WriteLoop C)} {out : WriteLoop C}
    (hcond : ∀ s, loop.cond s = decide (s.i < events.length))
    (hbody : ∀ s, s.Accounted message events → (loop.body s).Accounted message events)
    (h : loop.Returns { candidate := candidate } out) :
    out.Accounted message events ∧ out.i = events.length := by
  obtain ⟨hacc, hend⟩ := h.invariant (accounted_start candidate message events)
    fun s hs _ => hbody s hs
  rw [hcond] at hend
  have hge : ¬ out.i < events.length := of_decide_eq_false hend
  have hwithin := hacc.within
  exact ⟨hacc, by omega⟩

/-- A loop over the events whose body goes on, where its invariant holds, returns. -/
theorem exists_returns {loop : While (WriteLoop C)} {I : WriteLoop C → Prop}
    (hcond : ∀ s, loop.cond s = decide (s.i < events.length)) (hinit : I s)
    (hbody : ∀ s, I s → I (loop.body s))
    (hprogress : ∀ s, I s → loop.cond s = true → s.i < (loop.body s).i) :
    ∃ out, loop.Returns s out := by
  apply While.exists_returns (fun s : WriteLoop C => events.length - s.i) hinit
  · exact fun s hs _ => hbody s hs
  · intro s hs hgoes
    have hlt := hprogress s hs hgoes
    rw [hcond] at hgoes
    have hi : s.i < events.length := of_decide_eq_true hgoes
    omega

end WriteLoop

end CraftRelay.Bench
