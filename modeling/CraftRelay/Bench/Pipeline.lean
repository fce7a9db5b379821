import CraftRelay.Lib.Buffered
import CraftRelay.Bench.Monolithic
import CraftRelay.Bench.Segmented

/-!
# The bounded ingress pipeline

`run_pipeline`: a producer thread sends its events into a bounded channel, and the writer
receives them into batches for the runner. Each step of the system is one operation of one
of the two threads, so a run is an interleaving of them.

* The channel is the standard library's `sync_channel`: a first-in, first-out buffer. Sending
  fails when it is full. A channel of capacity zero passes an event only to a receiver that
  waits for it.
* Receiving fails when the channel is empty, and waits there as long as there is a sender.
-/

namespace CraftRelay.Bench

/-! ## The runner -/

inductive CandidateRunner where
  | monolithic (c : MonolithicCandidate)
  | segmented (c : SegmentedCandidate)

def CandidateRunner.config : CandidateRunner → CandidateConfig
  | .monolithic c => c.config
  | .segmented c => c.config

structure RunResult where
  results : List (Except String WriteResult)
  metrics : WriteBatchMetrics

/-- `run`, when the call returns. -/
inductive CandidateRunner.Runs [Sha256] (env : BatchEnv) (events : List SyntheticEvent) :
    CandidateRunner → RunResult → CandidateRunner → Prop
  | monolithic {c : MonolithicCandidate} {out : WriteLoop MonolithicCandidate} :
      c.Writes env events out →
      Runs env events (.monolithic c) ⟨out.results, out.metrics⟩ (.monolithic out.candidate)
  | segmented {c : SegmentedCandidate} {out : WriteLoop SegmentedCandidate} :
      c.Writes env events out →
      Runs env events (.segmented c) ⟨out.results, out.metrics⟩ (.segmented out.candidate)

/-- Either candidate counts every event of the batch once. -/
theorem CandidateRunner.Runs.records [Sha256] {env : BatchEnv} {events : List SyntheticEvent}
    {runner runner' : CandidateRunner} {run : RunResult}
    (h : runner.Runs env events run runner') :
    run.metrics.writtenRecords + run.metrics.failedRecords = events.length := by
  cases h with
  | monolithic hwrites =>
      obtain ⟨hacc, hdone⟩ := hwrites.accounted
      exact hacc.records.trans hdone
  | segmented hwrites =>
      obtain ⟨hacc, hdone⟩ := hwrites.accounted
      exact hacc.records.trans hdone

/-- A segment may hold an event. -/
def CandidateRunner.RollsAfterOne : CandidateRunner → Prop
  | .monolithic _ => True
  | .segmented c => c.config.segmentRolloverRecords ≠ some 0

/-- Then every call of `run` returns. -/
theorem CandidateRunner.RollsAfterOne.exists_runs [Sha256] {runner : CandidateRunner}
    (h : runner.RollsAfterOne) (env : BatchEnv) (events : List SyntheticEvent) :
    ∃ run runner', runner.Runs env events run runner' := by
  cases runner with
  | monolithic c =>
      obtain ⟨out, hout⟩ := c.exists_writes env events
      exact ⟨_, _, .monolithic hout⟩
  | segmented c =>
      obtain ⟨out, hout⟩ := SegmentedCandidate.exists_writes h env events
      exact ⟨_, _, .segmented hout⟩

/-- A call leaves the configuration as it is. -/
theorem CandidateRunner.Runs.rollsAfterOne [Sha256] {env : BatchEnv}
    {events : List SyntheticEvent} {runner runner' : CandidateRunner} {run : RunResult}
    (h : runner.Runs env events run runner') (hrolls : runner.RollsAfterOne) :
    runner'.RollsAfterOne := by
  cases h with
  | monolithic hwrites => trivial
  | @segmented c out hwrites =>
      show out.candidate.config.segmentRolloverRecords ≠ some 0
      rw [hwrites.config]
      exact hrolls

/-! ## The variables of the pipeline -/

structure IngressConfig where
  channelCapacity : Nat
  totalRecords : UInt64
  installationId : String
  producerId : String
  «namespace» : String
  payloadBytes : Nat

def IngressConfig.event [Sha256] (config : IngressConfig) (i : Nat) : SyntheticEvent :=
  .generate (.ofNat i) config.installationId config.producerId config.namespace
    config.payloadBytes

def generateEvents [Sha256] (config : IngressConfig) : List SyntheticEvent :=
  (List.range config.totalRecords.toNat).map config.event

/-- What `run_pipeline` counted, and the first errors. -/
structure PipelineResult where
  submitted : Nat
  accepted : Nat
  rejectedCapacity : Nat
  writeMetrics : WriteBatchMetrics
  errors : List String

def mergeMetrics (acc batch : WriteBatchMetrics) : WriteBatchMetrics where
  committedTransactions := acc.committedTransactions + batch.committedTransactions
  failedTransactions := acc.failedTransactions + batch.failedTransactions
  writtenRecords := acc.writtenRecords + batch.writtenRecords
  failedRecords := acc.failedRecords + batch.failedRecords
  totalBatchRecords := acc.totalBatchRecords + batch.totalBatchRecords
  maxObservedBatchSize :=
    if acc.maxObservedBatchSize < batch.maxObservedBatchSize then batch.maxObservedBatchSize
    else acc.maxObservedBatchSize

def maxBoundedErrors : Nat := 64

/-- The first errors only: later ones are dropped once the list is full. -/
def collectErrors (results : List (Except String WriteResult)) (errors : List String) :
    List String :=
  results.foldl (fun errors result =>
    match result with
    | .ok _ => errors
    | .error e => if errors.length < maxBoundedErrors then errors ++ [e] else errors) errors

/-- Where the writer thread is. -/
inductive Writer where
  /-- At `rx.recv()`. -/
  | receiving
  /-- At the head of the loop that fills the batch. -/
  | filling
  | running
  /-- After the last `recv`, with a batch left. -/
  | leftover
  | joining
  | returned (result : PipelineResult)

/-- The channel, the variables of the producer and those of the writer thread. -/
structure Pipeline where
  queue : List SyntheticEvent := []
  senderDropped : Bool := false
  /-- The index of the producer's loop. -/
  i : Nat := 0
  submitted : Nat := 0
  rejected : Nat := 0
  writer : Writer := .receiving
  maxRecords : Nat
  batch : List SyntheticEvent := []
  runner : CandidateRunner
  allMetrics : WriteBatchMetrics := {}
  errors : List String := []

def Pipeline.start (runner : CandidateRunner) : Pipeline where
  maxRecords := runner.config.maxRecordsPerTx.toNat
  runner := runner

/-- What `run_pipeline` returns. -/
def Pipeline.result (s : Pipeline) : PipelineResult where
  submitted := s.submitted
  accepted := s.submitted - s.rejected
  rejectedCapacity := s.rejected
  writeMetrics := s.allMetrics
  errors := s.errors

/-- What a batch leaves, once it has run. -/
def Pipeline.afterRun (s : Pipeline) (run : RunResult) (runner : CandidateRunner) : Pipeline :=
  { s with
    runner := runner
    allMetrics := mergeMetrics s.allMetrics run.metrics
    errors := collectErrors run.results s.errors
    batch := [] }

/-- `try_send` finds room. -/
def Pipeline.HasRoom (s : Pipeline) (capacity : Nat) : Prop :=
  s.queue.length < capacity ∨ (capacity = 0 ∧ s.queue = [] ∧ s.writer = .receiving)

/-! ## Its steps -/

/-- What a step shows of itself. -/
inductive Action where
  | accepted (event : SyntheticEvent)
  | rejected (event : SyntheticEvent)
  | senderDropped
  | received (event : SyntheticEvent)
  | closed
  | filled
  | handed (batch : List SyntheticEvent)
  | returned

/-- The steps of the producer, and those of the writer. -/
inductive Step [Sha256] (config : IngressConfig) : Pipeline → Action → Pipeline → Prop
  | trySend {s : Pipeline} : s.i < config.totalRecords.toNat →
      s.HasRoom config.channelCapacity →
      Step config s (.accepted (config.event s.i))
        { s with
          queue := s.queue ++ [config.event s.i]
          i := s.i + 1
          submitted := s.submitted + 1 }
  | trySendFull {s : Pipeline} : s.i < config.totalRecords.toNat →
      config.channelCapacity ≤ s.queue.length →
      Step config s (.rejected (config.event s.i))
        { s with
          i := s.i + 1
          submitted := s.submitted + 1
          rejected := s.rejected + 1 }
  | dropSender {s : Pipeline} : s.i = config.totalRecords.toNat → s.senderDropped = false →
      Step config s .senderDropped { s with senderDropped := true }
  | recv {s : Pipeline} {event : SyntheticEvent} {queue : List SyntheticEvent} :
      s.writer = .receiving → s.queue = event :: queue →
      Step config s (.received event)
        { s with queue := queue, batch := s.batch ++ [event], writer := .filling }
  | recvClosed {s : Pipeline} :
      s.writer = .receiving → s.queue = [] → s.senderDropped = true →
      Step config s .closed { s with writer := if s.batch = [] then .joining else .leftover }
  | tryRecv {s : Pipeline} {event : SyntheticEvent} {queue : List SyntheticEvent} :
      s.writer = .filling → s.batch.length < s.maxRecords → s.queue = event :: queue →
      Step config s (.received event) { s with queue := queue, batch := s.batch ++ [event] }
  | tryRecvEmpty {s : Pipeline} :
      s.writer = .filling → s.batch.length < s.maxRecords → s.queue = [] →
      Step config s .filled { s with writer := .running }
  | batchFull {s : Pipeline} :
      s.writer = .filling → s.maxRecords ≤ s.batch.length →
      Step config s .filled { s with writer := .running }
  | run {s : Pipeline} {env : BatchEnv} {run : RunResult} {runner : CandidateRunner} :
      s.writer = .running → s.runner.Runs env s.batch run runner →
      Step config s (.handed s.batch) { s.afterRun run runner with writer := .receiving }
  | runLeftover {s : Pipeline} {env : BatchEnv} {run : RunResult} {runner : CandidateRunner} :
      s.writer = .leftover → s.runner.Runs env s.batch run runner →
      Step config s (.handed s.batch) { s.afterRun run runner with writer := .joining }
  | join {s : Pipeline} : s.writer = .joining → s.senderDropped = true →
      Step config s .returned { s with writer := .returned s.result }

def pipeline [Sha256] (config : IngressConfig) : Lts Pipeline Action := ⟨Step config⟩

/-! ## What happened on the way -/

namespace Action

/-- The events whose `try_send` succeeded. -/
def acceptedEvents : Action → List SyntheticEvent
  | .accepted event => [event]
  | _ => []

def receivedEvents : Action → List SyntheticEvent
  | .received event => [event]
  | _ => []

/-- The batches handed to the runner. -/
def handedBatches : Action → List (List SyntheticEvent)
  | .handed batch => [batch]
  | _ => []

def handedEvents (action : Action) : List SyntheticEvent := action.handedBatches.flatten

end Action

/-- The handed batches, one after another. -/
theorem flatten_handedBatches (trace : List Action) :
    (trace.flatMap Action.handedBatches).flatten = trace.flatMap Action.handedEvents := by
  induction trace with
  | nil => rfl
  | cons action trace ih =>
      rw [List.flatMap_cons, List.flatten_append, ih, List.flatMap_cons]
      rfl

variable [Sha256] {config : IngressConfig} {s t : Pipeline} {action : Action}
  {trace : List Action}

/-- The channel is a buffer between the two threads. -/
theorem buffers_queue (config : IngressConfig) :
    (pipeline config).Buffers Pipeline.queue Action.acceptedEvents Action.receivedEvents := by
  intro s action t hstep
  cases hstep with
  | recv hwriter hqueue | tryRecv hwriter hroom hqueue =>
      simp [hqueue, Action.acceptedEvents, Action.receivedEvents]
  | trySend => rfl
  | _ => simp [Action.acceptedEvents, Action.receivedEvents, Pipeline.afterRun]

/-- The batch is a buffer between the channel and the runner. -/
theorem buffers_batch (config : IngressConfig) :
    (pipeline config).Buffers Pipeline.batch Action.receivedEvents Action.handedEvents := by
  intro s action t hstep
  cases hstep with
  | recv | tryRecv => rfl
  | _ => simp [Action.receivedEvents, Action.handedEvents, Action.handedBatches,
      Pipeline.afterRun]

/-- What was accepted was handed to the runner, or is in the batch or the channel. -/
theorem accepted_eq (runner : CandidateRunner)
    (hrun : (pipeline config).Run (.start runner) trace s) :
    trace.flatMap Action.acceptedEvents =
      trace.flatMap Action.handedEvents ++ (s.batch ++ s.queue) := by
  have hbuffers := ((buffers_queue config).comp (buffers_batch config)).run hrun
  exact hbuffers

/-! ## The counters -/

/-- The producer has accepted or rejected each event up to its index, in order. -/
structure Pipeline.Submitted (config : IngressConfig) (accepted : List SyntheticEvent)
    (s : Pipeline) : Prop where
  within : s.i ≤ config.totalRecords.toNat
  submitted : s.submitted = s.i
  rejected : s.rejected + accepted.length = s.submitted
  inOrder : accepted.Sublist ((List.range s.i).map config.event)
  dropped : s.senderDropped = true → s.i = config.totalRecords.toNat

/-- At the start nothing was submitted. -/
theorem submitted_start (runner : CandidateRunner) :
    (Pipeline.start runner).Submitted config [] where
  within := Nat.zero_le _
  submitted := rfl
  rejected := rfl
  inOrder := List.nil_sublist _
  dropped h := by cases h

/-- A step of the producer moves its index by one event; the writer's leave it. -/
theorem submitted_step {accepted : List SyntheticEvent} (h : s.Submitted config accepted)
    (hstep : Step config s action t) :
    t.Submitted config (accepted ++ action.acceptedEvents) := by
  have hnext : (List.range (s.i + 1)).map config.event =
      (List.range s.i).map config.event ++ [config.event s.i] := by
    rw [List.range_succ, List.map_append]
    rfl
  cases hstep with
  | trySend hlt hroom =>
      refine ⟨hlt, congrArg (· + 1) h.submitted, ?_, ?_, fun hdropped => ?_⟩
      · have hrejected := h.rejected
        show s.rejected + (accepted ++ [config.event s.i]).length = s.submitted + 1
        rw [List.length_append, List.length_singleton]
        omega
      · show (accepted ++ [config.event s.i]).Sublist ((List.range (s.i + 1)).map config.event)
        rw [hnext]
        exact h.inOrder.append (List.Sublist.refl _)
      -- an open index means that the sender is not dropped yet
      · exact absurd (h.dropped hdropped) (Nat.ne_of_lt hlt)
  | trySendFull hlt hfull =>
      refine ⟨hlt, congrArg (· + 1) h.submitted, ?_, ?_, fun hdropped => ?_⟩
      · have hrejected := h.rejected
        show s.rejected + 1 + (accepted ++ []).length = s.submitted + 1
        rw [List.append_nil]
        omega
      · show (accepted ++ []).Sublist ((List.range (s.i + 1)).map config.event)
        -- the rejected event is left out
        rw [hnext, List.append_nil]
        exact h.inOrder.trans (List.sublist_append_left _ _)
      · exact absurd (h.dropped hdropped) (Nat.ne_of_lt hlt)
  | dropSender hdone hopen =>
      show Pipeline.Submitted config (accepted ++ []) _
      rw [List.append_nil]
      exact ⟨h.within, h.submitted, h.rejected, h.inOrder, fun _ => hdone⟩
  | recv | recvClosed | tryRecv | tryRecvEmpty | batchFull | run | runLeftover | join =>
      show Pipeline.Submitted config (accepted ++ []) _
      rw [List.append_nil]
      exact ⟨h.within, h.submitted, h.rejected, h.inOrder, h.dropped⟩

/-- So in every run the accepted events are a part of the generated ones, in order. -/
theorem submitted_run (runner : CandidateRunner)
    (hrun : (pipeline config).Run (.start runner) trace s) :
    s.Submitted config (trace.flatMap Action.acceptedEvents) := by
  induction hrun with
  | nil => exact submitted_start runner
  | snoc _ hstep ih =>
      rw [List.flatMap_append, List.flatMap_singleton]
      exact submitted_step ih hstep

/-- The metrics count the events of the batches that ran. -/
theorem records_run (runner : CandidateRunner)
    (hrun : (pipeline config).Run (.start runner) trace s) :
    s.allMetrics.writtenRecords + s.allMetrics.failedRecords =
      (trace.flatMap Action.handedEvents).length := by
  induction hrun with
  | nil => rfl
  | snoc _ hstep ih =>
      rw [List.flatMap_append, List.flatMap_singleton, List.length_append, ← ih]
      cases hstep with
      | run hwriter hruns | runLeftover hwriter hruns =>
          have hrecords := hruns.records
          simp only [Pipeline.afterRun, mergeMetrics, Action.handedEvents,
            Action.handedBatches, List.flatten_singleton]
          omega
      | _ => rfl

/-! ## The end -/

/-- The writer waits with an empty batch, and ends when the channel is empty for good. -/
structure Pipeline.Phased (s : Pipeline) : Prop where
  receiving : s.writer = .receiving → s.batch = []
  noLeftover : s.writer ≠ .leftover
  ended : s.writer = .joining ∨ (∃ result, s.writer = .returned result) →
    s.queue = [] ∧ s.batch = [] ∧ s.senderDropped = true
  result : ∀ result, s.writer = .returned result → result = s.result

omit [Sha256] in
/-- The writer begins by waiting. -/
theorem phased_start (runner : CandidateRunner) : (Pipeline.start runner).Phased where
  receiving _ := rfl
  noLeftover h := by cases h
  ended h := by
    rcases h with h | ⟨result, h⟩
    · cases h
    · cases h
  result result h := by cases h

omit [Sha256] in
/-- A step of the producer leaves the writer where it is, and once the sender is dropped
there is none. -/
theorem phased_of_sending (h : s.Phased) (hwriter : t.writer = s.writer)
    (hbatch : t.batch = s.batch) (hopen : s.senderDropped = false) : t.Phased := by
  have hnotEnded : ¬ (s.writer = .joining ∨ ∃ result, s.writer = .returned result) := by
    intro hended
    have hdropped := (h.ended hended).2.2
    rw [hopen] at hdropped
    cases hdropped
  refine ⟨fun hreceiving => ?_, ?_, fun hended => ?_, fun result hreturned => ?_⟩
  · rw [hbatch]
    exact h.receiving (hwriter ▸ hreceiving)
  · rw [hwriter]
    exact h.noLeftover
  · exact absurd (hwriter ▸ hended) hnotEnded
  · exact absurd (.inr ⟨result, hwriter ▸ hreturned⟩) hnotEnded

omit [Sha256] in
/-- A step of the writer to where it goes on with the batch. -/
theorem phased_of_busy (h : t.writer = .filling ∨ t.writer = .running) : t.Phased := by
  have hother : t.writer ≠ .receiving ∧ t.writer ≠ .leftover ∧ t.writer ≠ .joining ∧
      ∀ result, t.writer ≠ .returned result := by
    rcases h with h | h
    · simp [h]
    · simp [h]
  obtain ⟨hreceiving, hleftover, hjoining, hreturned⟩ := hother
  refine ⟨fun hw => absurd hw hreceiving, hleftover, fun hended => ?_, fun result hw =>
    absurd hw (hreturned result)⟩
  rcases hended with hw | ⟨result, hw⟩
  · exact absurd hw hjoining
  · exact absurd hw (hreturned result)

/-- A step keeps the phases, given that the sender is dropped at the end only. -/
theorem phased_step (h : s.Phased)
    (hdone : s.senderDropped = true → s.i = config.totalRecords.toNat)
    (hstep : Step config s action t) : t.Phased := by
  have hopen : s.i < config.totalRecords.toNat → s.senderDropped = false := by
    intro hlt
    cases hdropped : s.senderDropped with
    | false => rfl
    | true => exact absurd (hdone hdropped) (Nat.ne_of_lt hlt)
  cases hstep with
  | trySend hlt hroom => exact phased_of_sending h rfl rfl (hopen hlt)
  | trySendFull hlt hfull => exact phased_of_sending h rfl rfl (hopen hlt)
  | dropSender hend hsender => exact phased_of_sending h rfl rfl hsender
  | recv hwriter hqueue => exact phased_of_busy (.inl rfl)
  | tryRecv hwriter hroom hqueue => exact phased_of_busy (.inl hwriter)
  | tryRecvEmpty hwriter hroom hqueue => exact phased_of_busy (.inr rfl)
  | batchFull hwriter hfull => exact phased_of_busy (.inr rfl)
  | run hwriter hruns =>
      refine ⟨fun _ => rfl, fun hleftover => ?_, fun hended => ?_, fun result hreturned => ?_⟩
      · cases hleftover
      · simp at hended
      · cases hreturned
  -- the branch after the loop finds no batch left
  | runLeftover hwriter hruns => exact absurd hwriter h.noLeftover
  | recvClosed hwriter hqueue hsender =>
      -- the writer only waits with an empty batch, so it goes on to the join
      have hempty := h.receiving hwriter
      rw [if_pos hempty]
      refine ⟨fun _ => hempty, fun hleftover => ?_, fun _ => ⟨hqueue, hempty, hsender⟩,
        fun result hreturned => ?_⟩
      · cases hleftover
      · cases hreturned
  | join hwriter hsender =>
      obtain ⟨hqueue, hempty, -⟩ := h.ended (.inl hwriter)
      refine ⟨fun _ => hempty, fun hleftover => ?_, fun _ => ⟨hqueue, hempty, hsender⟩,
        fun result hreturned => ?_⟩
      · cases hleftover
      · cases hreturned
        rfl

theorem phased_run (runner : CandidateRunner)
    (hrun : (pipeline config).Run (.start runner) trace s) : s.Phased := by
  induction hrun with
  | nil => exact phased_start runner
  | snoc hrun hstep ih => exact phased_step ih (submitted_run runner hrun).dropped hstep

/-! ## How long it takes -/

/-- How far the writer is from its end, with nothing more to receive. -/
def Writer.stepsLeft : Writer → Nat
  | .filling => 5
  | .running => 4
  | .receiving => 3
  | .leftover => 2
  | .joining => 1
  | .returned _ => 0

/-- The steps left: an event is sent, received, and handed over in a batch of its own. -/
def Pipeline.stepsLeft (config : IngressConfig) (s : Pipeline) : Nat :=
  4 * (config.totalRecords.toNat - s.i) + 3 * s.queue.length + s.writer.stepsLeft +
    if s.senderDropped then 0 else 1

/-- Every step of either thread leaves fewer. -/
theorem stepsLeft_lt (hstep : Step config s action t) :
    t.stepsLeft config < s.stepsLeft config := by
  cases hstep with
  | trySend hlt hroom =>
      simp only [Pipeline.stepsLeft, List.length_append, List.length_singleton]
      omega
  | trySendFull hlt hfull =>
      simp only [Pipeline.stepsLeft]
      omega
  | dropSender hdone hopen =>
      simp only [Pipeline.stepsLeft, hopen]
      simp
  | recv hwriter hqueue | tryRecv hwriter hroom hqueue =>
      -- an event less in the channel outweighs the writer that has a batch to fill
      simp only [Pipeline.stepsLeft, hwriter, hqueue, List.length_cons, Writer.stepsLeft]
      omega
  | recvClosed hwriter hqueue hsender =>
      simp only [Pipeline.stepsLeft, hwriter]
      split
      · simp only [Writer.stepsLeft]
        omega
      · simp only [Writer.stepsLeft]
        omega
  | tryRecvEmpty hwriter hroom hqueue =>
      simp only [Pipeline.stepsLeft, hwriter, Writer.stepsLeft]
      omega
  | batchFull hwriter hfull =>
      simp only [Pipeline.stepsLeft, hwriter, Writer.stepsLeft]
      omega
  | run hwriter hruns | runLeftover hwriter hruns =>
      simp only [Pipeline.stepsLeft, Pipeline.afterRun, hwriter, Writer.stepsLeft]
      omega
  | join hwriter hsender =>
      simp only [Pipeline.stepsLeft, hwriter, Writer.stepsLeft]
      omega

/-- However the threads interleave, they take no more steps than this. -/
theorem length_run_le (runner : CandidateRunner)
    (hrun : (pipeline config).Run (.start runner) trace s) :
    trace.length ≤ 4 * config.totalRecords.toNat + 4 := by
  have hlength := hrun.length_le (Pipeline.stepsLeft config) fun _ _ _ => stepsLeft_lt
  have hstart : (Pipeline.start runner).stepsLeft config =
      4 * config.totalRecords.toNat + 4 := rfl
  omega

/-- No call changes how a runner rolls. -/
theorem rollsAfterOne_run {runner : CandidateRunner} (hrolls : runner.RollsAfterOne)
    (hrun : (pipeline config).Run (.start runner) trace s) : s.runner.RollsAfterOne := by
  induction hrun with
  | nil => exact hrolls
  | snoc _ hstep ih =>
      cases hstep with
      | run hwriter hruns | runLeftover hwriter hruns => exact hruns.rollsAfterOne ih
      | _ => exact ih

end CraftRelay.Bench
