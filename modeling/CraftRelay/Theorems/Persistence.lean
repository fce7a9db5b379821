import CraftRelay.Bench.Persisting
import CraftRelay.Theorems.Pipeline

/-!
# The pipeline and its journal

What the result of the pipeline says is what its journal has: every accepted event was
written or is reported, whatever fails, and nothing is left out where nothing fails.
-/

namespace CraftRelay.Bench

/-- In every run of the pipeline with a new runner, whatever statements fail and however the
threads interleave, there is one outcome for each event handed to the runner. The journal
has the rows of those that were written, in order, numbered from one without a gap. Once the
pipeline has returned, there is an outcome for every accepted event, the counters are those
of the journal, and the errors are the first of the others, each naming its event. -/
theorem pipeline_reports_its_journal [Sha256] (config : IngressConfig) {runner : CandidateRunner}
    (hnew : runner.New) {trace : List Action} {s : Pipeline}
    (hrun : (pipeline config).Run (.start runner) trace s) :
    ∃ outcomes : List (Except String WriteResult),
      List.Forall₂ (Answers runner.message) (trace.flatMap Action.handedBatches).flatten
        outcomes ∧
      List.Forall₂ BenchEnvelope.Records s.runner.rows
        (recorded (trace.flatMap Action.handedBatches).flatten outcomes) ∧
      s.runner.rows.map (·.journalSequence) = countUp (written outcomes).length ∧
      ∀ result, s.writer = .returned result →
        outcomes.length = (trace.flatMap Action.acceptedEvents).length ∧
        result.writeMetrics.writtenRecords = s.runner.rows.length ∧
        result.writeMetrics.failedRecords =
          (trace.flatMap Action.acceptedEvents).length - s.runner.rows.length ∧
        result.errors = (failures outcomes).take maxBoundedErrors := by
  obtain ⟨outcomes, h⟩ := recorded_run hnew hrun
  have hphased := phased_run runner hrun
  have hsequences := h.sequences
  rw [flatten_handedBatches]
  refine ⟨outcomes, h.answers, h.rows, h.written ▸ hsequences, fun result hreturned => ?_⟩
  obtain ⟨hqueue, hbatch, -⟩ := hphased.ended (.inr ⟨result, hreturned⟩)
  obtain rfl := hphased.result result hreturned
  have hflow := accepted_eq runner hrun
  rw [hbatch, hqueue, List.append_nil, List.append_nil] at hflow
  have hrecords := records_run runner hrun
  have hrows : s.runner.rows.length = s.allMetrics.writtenRecords := by
    simpa using congrArg List.length hsequences
  rw [hflow]
  refine ⟨h.answers.length_eq.symm, hrows.symm, ?_, h.errors⟩
  show s.allMetrics.failedRecords = _
  omega

/-- Every statement that looks up the last number fails. -/
def BatchEnv.broken : BatchEnv :=
  ⟨0, fun _ stmt => if stmt = .selectMaxJournalSequence then some "disk I/O error" else none⟩

/-- The one event of a batch is not written, and reported. -/
theorem pipeline_reports_its_journal_sample :
    ∃ trace s result,
      (@pipeline fipsSha256 { sampleIngress with totalRecords := 1 }).Run
        (.start (.monolithic (.open .monolithic))) trace s ∧
      s.writer = .returned result ∧ result.writeMetrics.writtenRecords = 0 ∧
      s.runner.rows = [] ∧ result.errors.length = 1 := by
  let _ : Sha256 := fipsSha256
  let config : IngressConfig := { sampleIngress with totalRecords := 1 }
  let out := ((MonolithicCandidate.open .monolithic).writeLoop .broken [config.event 0]).body
    { candidate := .open .monolithic }
  have hout : (MonolithicCandidate.open .monolithic).Writes .broken [config.event 0] out :=
    While.returns_of_body rfl (While.returns_of_cond_false (by decide +kernel))
  have hnil := Lts.Run.nil (T := pipeline config)
    (s := .start (.monolithic (.open .monolithic)))
  have hsent := hnil.snoc (.trySend (by decide) (.inl (by decide)))
  have hdropped := hsent.snoc (.dropSender rfl rfl)
  have hreceived := hdropped.snoc (.recv rfl rfl)
  have hfilled := hreceived.snoc (.tryRecvEmpty rfl (by decide) rfl)
  have hhanded := hfilled.snoc (.run rfl (.monolithic hout))
  have hclosed := hhanded.snoc (.recvClosed rfl rfl rfl)
  have hreturned := hclosed.snoc (.join rfl rfl)
  obtain ⟨outcomes, -, -, -, hresult⟩ :=
    pipeline_reports_its_journal config (.monolithic .monolithic) hreturned
  obtain ⟨-, hwritten, -, -⟩ := hresult _ rfl
  have hnone : (mergeMetrics {} out.metrics).writtenRecords = 0 := by decide +kernel
  have herrors : (collectErrors out.results []).length = 1 := by decide +kernel
  exact ⟨_, _, _, hreturned, rfl, hnone, List.length_eq_zero_iff.mp (hwritten ▸ hnone), herrors⟩

/-- The pipeline with a new runner, where no statement fails, a segment may hold an event
and there are no more events than the last group of an id can number: it returns, however
the threads interleave. A run has a bounded number of steps, every call of the runner
returns, and only a pipeline that has returned has no step. Every accepted event is then in
the journal: its rows are those of the accepted events, in order, numbered from one, and
there is no error. -/
theorem pipeline_persists_what_it_accepted [Sha256] (config : IngressConfig)
    {runner : CandidateRunner} (hnew : runner.New) (hrolls : runner.RollsAfterOne)
    (hfits : config.totalRecords.toNat ≤ 2 ^ 48) {trace : List Action} {s : Pipeline}
    (hrun : (calmPipeline config).Run (.start runner) trace s) :
    trace.length ≤ 4 * config.totalRecords.toNat + 4 ∧
      (∀ env events, ∃ run runner', s.runner.Runs env events run runner') ∧
      ((∀ action t, ¬ (calmPipeline config).step s action t) →
        ∃ result, s.writer = .returned result) ∧
      ∀ result, s.writer = .returned result →
        (∃ answers : List WriteResult,
          answers.length = (trace.flatMap Action.acceptedEvents).length ∧
          List.Forall₂ BenchEnvelope.Records s.runner.rows
            ((trace.flatMap Action.acceptedEvents).zip answers)) ∧
        s.runner.rows.map (·.journalSequence) = countUp result.accepted ∧
        result.writeMetrics.writtenRecords = result.accepted ∧
        result.writeMetrics.failedRecords = 0 ∧ result.errors = [] := by
  have hpipeline := run_of_calm hrun
  obtain ⟨hlength, hends⟩ := calm_returns hrolls hrun
  refine ⟨hlength, (rollsAfterOne_run hrolls hpipeline).exists_runs, hends,
    fun result hreturned => ?_⟩
  obtain ⟨outcomes, h⟩ := recorded_run hnew hpipeline
  have hfailed := (holds_run hnew hfits hrun).2
  have hsubmitted := submitted_run runner hpipeline
  have hphased := phased_run runner hpipeline
  obtain ⟨hqueue, hbatch, -⟩ := hphased.ended (.inr ⟨result, hreturned⟩)
  obtain rfl := hphased.result result hreturned
  have hflow := accepted_eq runner hpipeline
  rw [hbatch, hqueue, List.append_nil, List.append_nil] at hflow
  have hrecords := records_run runner hpipeline
  have hwritten := h.written
  have hlength := h.answers.length_eq
  have haccepted : s.submitted - s.rejected = (trace.flatMap Action.acceptedEvents).length := by
    have hcount := hsubmitted.rejected
    omega
  -- none is counted as failed, so every outcome is a written one
  have hall : outcomes = (written outcomes).map .ok := eq_map_ok (by omega)
  have hcount : s.allMetrics.writtenRecords = s.submitted - s.rejected := by
    rw [haccepted, hflow]
    omega
  refine ⟨⟨written outcomes, ?_, ?_⟩, ?_, hcount, hfailed, ?_⟩
  · rw [hflow, ← hrecords]
    omega
  · have hrows := h.rows
    rw [hall, recorded_ok] at hrows
    rw [hflow]
    exact hrows
  · rw [h.sequences, hcount]
    rfl
  · show s.errors = []
    rw [h.errors, hall, failures_ok]
    rfl

/-- The second event is sent while the first one's batch runs, and written in a batch of its
own. -/
theorem pipeline_persists_what_it_accepted_sample :
    ∃ trace s result,
      (@calmPipeline fipsSha256 sampleIngress).Run (.start (.monolithic (.open .monolithic)))
        trace s ∧
      s.writer = .returned result ∧ result.accepted = 2 ∧
      s.runner.rows.map (·.journalSequence) = [1, 2] ∧ result.errors = [] := by
  let _ : Sha256 := fipsSha256
  have hroom : 1 < CandidateConfig.monolithic.maxRecordsPerTx.toNat := by decide
  have hcalm : BatchEnv.Faultless ⟨0, fun _ _ => none⟩ := fun _ _ => rfl
  obtain ⟨first, hfirst⟩ := MonolithicCandidate.exists_writes (.open .monolithic)
    ⟨0, fun _ _ => none⟩ [sampleIngress.event 0]
  obtain ⟨second, hsecond⟩ := first.candidate.exists_writes
    ⟨0, fun _ _ => none⟩ [sampleIngress.event 1]
  have hnil := Lts.Run.nil (T := calmPipeline sampleIngress)
    (s := .start (.monolithic (.open .monolithic)))
  have hsent := hnil.snoc (.quiet (.trySend (by decide) (.inl (by decide))) rfl)
  have hreceived := hsent.snoc (.quiet (.recv rfl rfl) rfl)
  have hfilled := hreceived.snoc (.quiet (.tryRecvEmpty rfl hroom rfl) rfl)
  have hsent := hfilled.snoc (.quiet (.trySend (by decide) (.inl (by decide))) rfl)
  have hhanded := hsent.snoc (.run hcalm rfl (.monolithic hfirst))
  have hreceived := hhanded.snoc (.quiet (.recv rfl rfl) rfl)
  have hfilled := hreceived.snoc (.quiet (.tryRecvEmpty rfl hroom rfl) rfl)
  have hhanded := hfilled.snoc (.run hcalm rfl (.monolithic hsecond))
  have hdropped := hhanded.snoc (.quiet (.dropSender rfl rfl) rfl)
  have hclosed := hdropped.snoc (.quiet (.recvClosed rfl rfl rfl) rfl)
  have hreturned := hclosed.snoc (.quiet (.join rfl rfl) rfl)
  obtain ⟨-, -, -, hpersisted⟩ := pipeline_persists_what_it_accepted sampleIngress
    (.monolithic .monolithic) trivial (by decide) hreturned
  obtain ⟨-, hsequences, -, -, herrors⟩ := hpersisted _ rfl
  exact ⟨_, _, _, hreturned, rfl, rfl, hsequences, herrors⟩

end CraftRelay.Bench
