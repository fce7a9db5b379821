import CraftRelay.Bench.GlobalSequence
import CraftRelay.Bench.Pipeline

/-!
# What a pipeline writes and reports

Whatever statements fail, the journal of the runner has the rows of the events that were
written, numbered without a gap, and the pipeline reports the others: a batch that fails
takes no number and leaves no row.
-/

namespace CraftRelay.Bench

/-! ## A call of the monolithic candidate -/

section

variable [Sha256]

/-- A batch that is written appends its rows, under the next numbers. -/
theorem writeEach_writeEventInTx {env : BatchEnv} {position n : Nat} {db db' : BenchDb}
    {batch : List SyntheticEvent} {results : List WriteResult}
    (h : writeEach (writeEventInTx env) position db batch = .ok (db', results))
    (hdb : db.journalSequences = countUp n) :
    db'.journalSequences = countUp (n + batch.length) ∧
      ∃ rows, db'.envelope.rows = db.envelope.rows ++ rows ∧
        List.Forall₂ BenchEnvelope.Records rows (batch.zip results) := by
  induction batch generalizing position n db results with
  | nil =>
      obtain ⟨rfl, rfl⟩ := Prod.mk.inj (Except.ok.inj h)
      exact ⟨hdb, [], (List.append_nil _).symm, List.Forall₂.nil⟩
  | cons event batch ih =>
      obtain ⟨first, hfirst, h⟩ := Except.bind_eq_ok_iff.mp h
      obtain ⟨rest, hrest, h⟩ := Except.bind_eq_ok_iff.mp h
      obtain ⟨rfl, rfl⟩ := Prod.mk.inj (Except.ok.inj h)
      obtain ⟨journalSeq, hselect, hwritten⟩ := Except.bind_eq_ok_iff.mp hfirst
      obtain ⟨hseq, hrow⟩ := writeNumbered_eq_ok hwritten
      -- the next number is the one after the last in the table
      obtain rfl : db.journalSequences.max?.getD 0 + 1 = journalSeq :=
        Except.ok.inj (BatchEnv.run_eq_ok hselect)
      rw [hdb, max_countUp] at hseq
      have hjournal : first.1.journalSequences = countUp (n + 1) := by
        show first.1.envelope.rows.map _ = _
        rw [hrow, List.map_append, countUp_succ, ← hseq, ← hdb]
        rfl
      obtain ⟨hsequences, rows, hrows, hrecords⟩ := ih hrest hjournal
      refine ⟨?_, event.envelopeRow first.2 env.nowMs :: rows, ?_, ?_⟩
      · rw [hsequences, List.length_cons]
        congr 1
        omega
      · rw [hrows, hrow, List.append_assoc]
        rfl
      · exact List.Forall₂.cons ⟨env.nowMs, rfl⟩ hrecords

namespace MonolithicCandidate

/-- The numbers in the table have no gap. -/
def Gapless (c : MonolithicCandidate) : Prop :=
  c.db.journalSequences = countUp c.db.envelope.rows.length

variable {c : MonolithicCandidate} {env : BatchEnv} {events : List SyntheticEvent}
  {s out : WriteLoop MonolithicCandidate} {history : List (SyntheticEvent × WriteResult)}

/-- An iteration keeps the numbers without a gap, and adds to the rows what it writes. -/
theorem gapless_body (h : s.candidate.Gapless)
    (hacc : s.Accounted "batch rolled back for event " events)
    (hrows : List.Forall₂ BenchEnvelope.Records s.candidate.db.envelope.rows
      (history ++ recorded (events.take s.i) s.results)) :
    ((c.writeLoop env events).body s).candidate.Gapless ∧
      List.Forall₂ BenchEnvelope.Records
        ((c.writeLoop env events).body s).candidate.db.envelope.rows
        (history ++ recorded (events.take ((c.writeLoop env events).body s).i)
          ((c.writeLoop env events).body s).results) := by
  have htake : events.take (s.batchEnd c.config events events.length) =
      events.take s.i ++ s.batch c.config events events.length := WriteLoop.take_batchEnd
  have hlengths := hacc.answers.length_eq
  rw [body_writeLoop, WriteLoop.i_iterate, htake]
  cases hwrite : writeEach (writeEventInTx env) s.i s.candidate.db
      (s.batch c.config events events.length) with
  | error e =>
      -- the transaction is dropped
      rw [WriteLoop.iterate_of_error hwrite]
      refine ⟨h, ?_⟩
      show List.Forall₂ _ s.candidate.db.envelope.rows (history ++ recorded _ (s.results ++ _))
      rw [recorded_append hlengths, recorded_error, List.append_nil]
      exact hrows
  | ok written =>
      obtain ⟨db, results⟩ := written
      obtain ⟨hsequences, rows, hwritten, hrecords⟩ := writeEach_writeEventInTx hwrite h
      have hcount := length_writeEach hwrite
      have hlength : rows.length = (s.batch c.config events events.length).length := by
        rw [hrecords.length_eq, List.length_zip, hcount, Nat.min_self]
      rw [WriteLoop.iterate_of_ok hwrite]
      refine ⟨?_, ?_⟩
      · show db.journalSequences = countUp db.envelope.rows.length
        rw [hsequences, hwritten, List.length_append, hlength]
      · show List.Forall₂ _ db.envelope.rows
          (history ++ recorded _ (s.results ++ results.map .ok))
        rw [recorded_append hlengths, recorded_ok, ← List.append_assoc, hwritten]
        exact List.rel_append hrows hrecords

/-- A call keeps the numbers without a gap, and adds to the rows what it returns. -/
theorem Writes.gapless (h : c.Writes env events out) (hc : c.Gapless)
    (hrows : List.Forall₂ BenchEnvelope.Records c.db.envelope.rows history) :
    out.candidate.Gapless ∧
      List.Forall₂ BenchEnvelope.Records out.candidate.db.envelope.rows
        (history ++ recorded events out.results) := by
  have hdone := h.accounted.2
  obtain ⟨⟨-, hgapless, hout⟩, -⟩ := While.Returns.invariant
    (I := fun s => s.Accounted "batch rolled back for event " events ∧
      s.candidate.Gapless ∧
      List.Forall₂ BenchEnvelope.Records s.candidate.db.envelope.rows
        (history ++ recorded (events.take s.i) s.results))
    h ⟨WriteLoop.accounted_start c _ events, hc, by simpa [recorded] using hrows⟩
    fun s ⟨hacc, hs, hrows⟩ _ => ⟨accounted_body hacc, gapless_body hs hacc hrows⟩
  rw [hdone, List.take_length] at hout
  exact ⟨hgapless, hout⟩

end MonolithicCandidate

end

/-! ## A call of either -/

namespace CandidateRunner

/-- The committed rows. -/
def rows : CandidateRunner → List BenchEnvelope
  | .monolithic c => c.db.envelope.rows
  | .segmented c => c.rows

/-- What the error of an event begins with. -/
def message : CandidateRunner → String
  | .monolithic _ => "batch rolled back for event "
  | .segmented _ => "segment batch rolled back for event "

/-- The next number is the one after the last row's. -/
def Consistent : CandidateRunner → Prop
  | .monolithic c => c.Gapless
  | .segmented c => ∃ limit, c.Consistent limit

/-- A runner that was just opened. One with segments has a limit for them. -/
inductive New : CandidateRunner → Prop
  | monolithic (config : CandidateConfig) : New (.monolithic (.open config))
  | segmented {config : CandidateConfig} {limit : UInt32} :
      config.segmentRolloverRecords = some limit → New (.segmented (.open config))

theorem New.consistent {runner : CandidateRunner} (h : runner.New) : runner.Consistent := by
  cases h with
  | monolithic config => rfl
  | segmented hlimit => exact ⟨_, SegmentedCandidate.consistent_open hlimit⟩

theorem New.rows {runner : CandidateRunner} (h : runner.New) : runner.rows = [] := by
  cases h with
  | monolithic config => rfl
  | segmented hlimit => rfl

/-- Either way the rows are numbered from one on. -/
theorem Consistent.sequences {runner : CandidateRunner} (h : runner.Consistent) :
    runner.rows.map (·.journalSequence) = countUp runner.rows.length := by
  cases runner with
  | monolithic c => exact h
  | segmented c =>
      obtain ⟨limit, hlimit⟩ := h
      exact hlimit.sequences

variable [Sha256] {env : BatchEnv} {events : List SyntheticEvent}
  {runner runner' : CandidateRunner} {run : RunResult}
  {history : List (SyntheticEvent × WriteResult)}

/-- What a call of `run` does, whatever statements of it fail. -/
structure Ran (runner : CandidateRunner) (events : List SyntheticEvent) (run : RunResult)
    (runner' : CandidateRunner) : Prop where
  saying : runner'.message = runner.message
  answers : List.Forall₂ (Answers runner.message) events run.results
  written : run.metrics.writtenRecords = (written run.results).length

/-- A call answers every event it was given, in order, and counts those it wrote. -/
theorem Runs.ran (h : runner.Runs env events run runner') : runner.Ran events run runner' := by
  cases h with
  | monolithic hwrites =>
      obtain ⟨hacc, hdone⟩ := hwrites.accounted
      have hanswers := hacc.answers
      rw [hdone, List.take_length] at hanswers
      exact ⟨rfl, hanswers, hacc.writtenRecords⟩
  | segmented hwrites =>
      obtain ⟨hacc, hdone⟩ := hwrites.accounted
      have hanswers := hacc.answers
      rw [hdone, List.take_length] at hanswers
      exact ⟨rfl, hanswers, hacc.writtenRecords⟩

/-- A call keeps the numbers, and adds the rows of the events it wrote. -/
theorem Runs.consistent (h : runner.Runs env events run runner') (hc : runner.Consistent)
    (hrows : List.Forall₂ BenchEnvelope.Records runner.rows history) :
    runner'.Consistent ∧ List.Forall₂ BenchEnvelope.Records runner'.rows
      (history ++ recorded events run.results) := by
  cases h with
  | monolithic hwrites => exact hwrites.gapless hc hrows
  | segmented hwrites =>
      obtain ⟨limit, hlimit⟩ := hc
      obtain ⟨hconsistent, hout⟩ := hwrites.consistent hlimit hrows
      exact ⟨⟨limit, hconsistent⟩, hout⟩

end CandidateRunner

/-! ## The bounded errors -/

/-- The errors among the answers. -/
def failures (results : List (Except String WriteResult)) : List String :=
  results.filterMap fun
    | .ok _ => none
    | .error e => some e

theorem failures_append (results results' : List (Except String WriteResult)) :
    failures (results ++ results') = failures results ++ failures results' :=
  List.filterMap_append

/-- The first errors are kept, up to the bound. -/
theorem collectErrors_take (results : List (Except String WriteResult)) (errors : List String) :
    collectErrors results (errors.take maxBoundedErrors) =
      (errors ++ failures results).take maxBoundedErrors := by
  induction results generalizing errors with
  | nil => simp [collectErrors, failures]
  | cons result results ih =>
      cases result with
      | ok written => exact ih errors
      | error e =>
          have hfirst : failures (.error e :: results) = e :: failures results := rfl
          have hnext := ih (errors ++ [e])
          rw [List.append_assoc, List.singleton_append] at hnext
          rw [hfirst, ← hnext]
          show collectErrors results (if (errors.take maxBoundedErrors).length <
            maxBoundedErrors then errors.take maxBoundedErrors ++ [e]
            else errors.take maxBoundedErrors) = _
          congr 1
          -- an error is kept while there is room, and is cut off by the `take` when there is none
          by_cases hroom : errors.length < maxBoundedErrors
          · have htake : errors.take maxBoundedErrors = errors :=
              List.take_of_length_le hroom.le
            rw [htake, if_pos hroom, List.take_of_length_le]
            rw [List.length_append, List.length_singleton]
            exact hroom
          · have hlength : (errors.take maxBoundedErrors).length = maxBoundedErrors := by
              rw [List.length_take]
              omega
            rw [hlength, if_neg (lt_irrefl _), List.take_append_of_le_length (by omega)]

/-! ## Outcomes -/

/-- There is a record for each answer that is a number. -/
theorem length_recorded {events : List SyntheticEvent}
    {results : List (Except String WriteResult)} (h : events.length = results.length) :
    (recorded events results).length = (written results).length := by
  induction events generalizing results with
  | nil =>
      obtain rfl := List.length_eq_zero_iff.mp h.symm
      rfl
  | cons event events ih =>
      cases results with
      | nil => cases h
      | cons result results =>
          have hrest := ih (Nat.succ.inj h)
          cases result with
          | ok answer => exact congrArg (· + 1) hrest
          | error e => exact hrest

theorem length_written_le (results : List (Except String WriteResult)) :
    (written results).length ≤ results.length :=
  List.length_filterMap_le _ _

/-- Where as many were written as there are, all were. -/
theorem eq_map_ok {results : List (Except String WriteResult)}
    (h : (written results).length = results.length) : results = (written results).map .ok := by
  induction results with
  | nil => rfl
  | cons result results ih =>
      cases result with
      | ok answer => exact congrArg (Except.ok answer :: ·) (ih (Nat.succ.inj h))
      | error e =>
          have hle := length_written_le results
          have hskip : written (.error e :: results) = written results := rfl
          rw [hskip, List.length_cons] at h
          omega

theorem failures_ok (answers : List WriteResult) : failures (answers.map .ok) = [] := by
  unfold failures
  rw [List.filterMap_map, List.filterMap_eq_nil_iff]
  exact fun _ _ => rfl

/-! ## The pipeline -/

variable [Sha256] {config : IngressConfig} {runner : CandidateRunner} {s t : Pipeline}
  {action : Action} {trace : List Action}

/-- The outcome of every event handed to the runner: what it wrote is in its rows, and what
it did not is among the errors. -/
structure Pipeline.Recorded (s : Pipeline) (message : String) (handed : List SyntheticEvent)
    (outcomes : List (Except String WriteResult)) : Prop where
  saying : s.runner.message = message
  consistent : s.runner.Consistent
  answers : List.Forall₂ (Answers message) handed outcomes
  rows : List.Forall₂ BenchEnvelope.Records s.runner.rows (recorded handed outcomes)
  written : s.allMetrics.writtenRecords = (Bench.written outcomes).length
  errors : s.errors = (failures outcomes).take maxBoundedErrors

omit [Sha256] in
/-- Before the first batch there is no outcome. -/
theorem recorded_start (h : runner.New) :
    (Pipeline.start runner).Recorded runner.message [] [] where
  saying := rfl
  consistent := h.consistent
  answers := List.Forall₂.nil
  rows := by
    show List.Forall₂ _ runner.rows _
    rw [h.rows]
    exact List.Forall₂.nil
  written := rfl
  errors := rfl

omit [Sha256] in
/-- The rows are numbered from one, one for each event that was written. -/
theorem Pipeline.Recorded.sequences {message : String} {handed : List SyntheticEvent}
    {outcomes : List (Except String WriteResult)} (h : s.Recorded message handed outcomes) :
    s.runner.rows.map (·.journalSequence) = countUp s.allMetrics.writtenRecords := by
  rw [h.consistent.sequences, h.rows.length_eq, length_recorded h.answers.length_eq, h.written]

/-- A batch that runs adds its outcomes. -/
theorem Pipeline.Recorded.afterRun {message : String} {handed events : List SyntheticEvent}
    {outcomes : List (Except String WriteResult)} {env : BatchEnv} {run : RunResult}
    {runner' : CandidateRunner} (h : s.Recorded message handed outcomes)
    (hruns : s.runner.Runs env events run runner') :
    (s.afterRun run runner').Recorded message (handed ++ events) (outcomes ++ run.results) := by
  have hran := hruns.ran
  obtain ⟨hconsistent, hrows⟩ := hruns.consistent h.consistent h.rows
  refine ⟨hran.saying.trans h.saying, hconsistent, ?_, ?_, ?_, ?_⟩
  · exact List.rel_append h.answers (h.saying ▸ hran.answers)
  · rw [recorded_append h.answers.length_eq]
    exact hrows
  · show s.allMetrics.writtenRecords + run.metrics.writtenRecords = _
    rw [written_append, List.length_append, h.written, hran.written]
  · show collectErrors run.results s.errors = _
    rw [h.errors, collectErrors_take, failures_append]

/-- So every event that was handed over has its outcome, whatever statements failed. -/
theorem recorded_run (hnew : runner.New)
    (hrun : (pipeline config).Run (.start runner) trace s) :
    ∃ outcomes, s.Recorded runner.message (trace.flatMap Action.handedEvents) outcomes := by
  induction hrun with
  | nil => exact ⟨[], recorded_start hnew⟩
  | @snoc trace s action t _ hstep ih =>
      obtain ⟨outcomes, h⟩ := ih
      rw [List.flatMap_append, List.flatMap_singleton]
      cases hstep with
      | run hwriter hruns | runLeftover hwriter hruns =>
          have hafter := h.afterRun hruns
          have hhanded : (Action.handed s.batch).handedEvents = s.batch :=
            List.flatten_singleton
          rw [hhanded]
          exact ⟨_, hafter.saying, hafter.consistent, hafter.answers, hafter.rows,
            hafter.written, hafter.errors⟩
      -- no other step hands anything over
      | _ =>
          show ∃ outcomes, Pipeline.Recorded _ _ (_ ++ []) outcomes
          rw [List.append_nil]
          exact ⟨outcomes, h.saying, h.consistent, h.answers, h.rows, h.written, h.errors⟩

end CraftRelay.Bench
