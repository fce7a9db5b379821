import CraftRelay.Bench.Pipeline

/-!
# The pipeline loses nothing

Whatever the interleaving of the producer and the writer, the runner is handed exactly the
events that the channel accepted.
-/

namespace CraftRelay.Bench

/-- In every run of the pipeline, the accepted events, in the order in which they were
generated, are those of the batches handed to the runner, then those of the batch that is
being filled, then those in the channel. Once the pipeline has returned, nothing is left in
the last two, and its counters say so. -/
theorem pipeline_loses_nothing [Sha256] (config : IngressConfig) (runner : CandidateRunner)
    {trace : List Action} {s : Pipeline} (hrun : (pipeline config).Run (.start runner) trace s) :
    trace.flatMap Action.acceptedEvents =
        (trace.flatMap Action.handedBatches).flatten ++ (s.batch ++ s.queue) ∧
      (trace.flatMap Action.acceptedEvents).Sublist (generateEvents config) ∧
      ∀ result, s.writer = .returned result →
        (trace.flatMap Action.handedBatches).flatten = trace.flatMap Action.acceptedEvents ∧
        result.submitted = config.totalRecords.toNat ∧
        result.accepted = (trace.flatMap Action.acceptedEvents).length ∧
        result.accepted = result.submitted - result.rejectedCapacity ∧
        result.writeMetrics.writtenRecords + result.writeMetrics.failedRecords =
          result.accepted := by
  have hflow := accepted_eq runner hrun
  have hsubmitted := submitted_run runner hrun
  have hphased := phased_run runner hrun
  rw [flatten_handedBatches]
  refine ⟨hflow, ?_, fun result hreturned => ?_⟩
  · exact hsubmitted.inOrder.trans ((List.range_sublist.mpr hsubmitted.within).map _)
  · obtain ⟨hqueue, hbatch, hdropped⟩ := hphased.ended (.inr ⟨result, hreturned⟩)
    obtain rfl := hphased.result result hreturned
    have hrecords := records_run runner hrun
    have hcount := hsubmitted.rejected
    rw [hbatch, hqueue, List.append_nil, List.append_nil] at hflow
    have haccepted : s.submitted - s.rejected =
        (trace.flatMap Action.acceptedEvents).length := by omega
    refine ⟨hflow.symm, ?_, haccepted, rfl, ?_⟩
    · exact hsubmitted.submitted.trans (hsubmitted.dropped hdropped)
    · show s.allMetrics.writtenRecords + s.allMetrics.failedRecords = s.submitted - s.rejected
      rw [haccepted, hrecords, hflow]

/-- Two events for a channel with one place. -/
def sampleIngress : IngressConfig :=
  ⟨1, 2, "bench-installation", "bench-producer", "bench", 128⟩

/-- The producer sends both events before the writer receives the first. -/
theorem pipeline_loses_nothing_sample :
    ∃ trace s result,
      (@pipeline fipsSha256 sampleIngress).Run (.start (.monolithic (.open .monolithic))) trace
        s ∧
      s.writer = .returned result ∧ result.submitted = 2 ∧ result.rejectedCapacity = 1 ∧
      (trace.flatMap Action.handedBatches).flatten =
        [@IngressConfig.event fipsSha256 sampleIngress 0] ∧
      result.writeMetrics.writtenRecords + result.writeMetrics.failedRecords = 1 := by
  let _ : Sha256 := fipsSha256
  obtain ⟨out, hout⟩ := MonolithicCandidate.exists_writes (.open .monolithic)
    ⟨0, fun _ _ => none⟩ [sampleIngress.event 0]
  have hnil := Lts.Run.nil (T := pipeline sampleIngress)
    (s := .start (.monolithic (.open .monolithic)))
  have hsent := hnil.snoc (.trySend (by decide) (.inl (by decide)))
  have hrejected := hsent.snoc (.trySendFull (by decide) (by decide))
  have hdropped := hrejected.snoc (.dropSender rfl rfl)
  have hreceived := hdropped.snoc (.recv rfl rfl)
  have hfilled := hreceived.snoc (.tryRecvEmpty rfl (by decide) rfl)
  have hhanded := hfilled.snoc (.run rfl (.monolithic hout))
  have hclosed := hhanded.snoc (.recvClosed rfl rfl rfl)
  have hreturned := hclosed.snoc (.join rfl rfl)
  obtain ⟨-, -, hresult⟩ := pipeline_loses_nothing _ _ hreturned
  obtain ⟨-, hsubmitted, -, -, hrecords⟩ := hresult _ rfl
  exact ⟨_, _, _, hreturned, rfl, hsubmitted, rfl, rfl, hrecords⟩

end CraftRelay.Bench
