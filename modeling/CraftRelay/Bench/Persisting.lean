import CraftRelay.Bench.Recording

/-!
# A pipeline whose statements succeed

The ids of the generated events are distinct as long as the index fits the last group of the
id. A call then writes all its events after those that the journal has, so a pipeline leaves
nothing out.
-/

namespace CraftRelay.Bench

/-! ## The ids of generated events -/

theorem digitChar_inj : ∀ a < 16, ∀ b < 16, a.digitChar = b.digitChar → a = b := by decide

/-- Numbers with the same digits are the same, within the width. -/
theorem lowerHex_inj {width n k : Nat} (hn : n < 16 ^ width) (hk : k < 16 ^ width)
    (h : lowerHex width n = lowerHex width k) : n = k := by
  apply Positional.digits_inj hn hk
  have hchars := String.ofList_injective h
  clear hn hk h
  induction width with
  | zero => rfl
  | succ width ih =>
      obtain ⟨hfirst, hrest⟩ := List.cons.inj hchars
      have hdigit := digitChar_inj _ (Nat.mod_lt _ (by decide)) _ (Nat.mod_lt _ (by decide))
        hfirst
      show n / 16 ^ width % 16 :: Positional.digits 16 width n =
        k / 16 ^ width % 16 :: Positional.digits 16 width k
      rw [hdigit, ih hrest]

theorem length_lowerHex (width n : Nat) : (lowerHex width n).toList.length = width := by
  unfold lowerHex
  rw [String.toList_ofList, List.length_map, Positional.length_digits]

variable [Sha256]

/-- The last group of the id is the index. -/
theorem generate_eventId_inj {i j : Nat} {installationId producerId «namespace» : String}
    {payloadBytes : Nat} (hi : i < 2 ^ 48) (hj : j < 2 ^ 48)
    (h : (SyntheticEvent.generate (.ofNat i) installationId producerId «namespace»
        payloadBytes).eventId =
      (SyntheticEvent.generate (.ofNat j) installationId producerId «namespace»
        payloadBytes).eventId) : i = j := by
  -- the mask of the last group keeps an index that fits it
  have hlow : ∀ n < 2 ^ 48, (UInt64.ofNat n &&& 0xFFFFFFFFFFFF).toNat = n := by
    intro n hn
    rw [UInt64.toNat_and, UInt64.toNat_ofNat_of_lt' (show n < UInt64.size by
      exact hn.trans (by decide))]
    exact (Nat.and_two_pow_sub_one_eq_mod n 48).trans (Nat.mod_eq_of_lt hn)
  have hchars := congrArg String.toList h
  unfold SyntheticEvent.generate at hchars
  simp only [String.toList_append, hlow i hi, hlow j hj] at hchars
  have hgroup := List.append_inj_right' hchars (by simp only [length_lowerHex])
  exact lowerHex_inj hi hj (String.toList_injective hgroup)

/-- The generated events have distinct ids. -/
theorem generateEvents_ids {config : IngressConfig}
    (hfits : config.totalRecords.toNat ≤ 2 ^ 48) :
    ((generateEvents config).map (·.eventId)).Nodup := by
  unfold generateEvents
  rw [List.map_map]
  apply List.Nodup.map_on _ List.nodup_range
  intro i hi j hj hids
  exact generate_eventId_inj ((List.mem_range.mp hi).trans_le hfits)
    ((List.mem_range.mp hj).trans_le hfits) hids

/-! ## A call of either -/

namespace CandidateRunner

variable {env : BatchEnv} {done events : List SyntheticEvent} {runner runner' : CandidateRunner}
  {run : RunResult}

/-- The runner has these events. -/
def Holds (done : List SyntheticEvent) : CandidateRunner → Prop
  | .monolithic c => c.db.Holds 0 done
  | .segmented c => ∃ limit, c.config.segmentRolloverRecords = some limit ∧
      c.Filled limit done done.length

omit [Sha256] in
theorem New.holds (h : runner.New) : runner.Holds [] := by
  cases h with
  | monolithic config => exact BenchDb.holds_empty 0
  | segmented hlimit => exact ⟨_, hlimit, SegmentedCandidate.filled_open _ _⟩

/-- A call in which no statement fails writes new events, and counts none as failed. -/
theorem Runs.holds (hfree : env.Faultless) (hids : ((done ++ events).map (·.eventId)).Nodup)
    (hc : runner.Holds done) (h : runner.Runs env events run runner') :
    runner'.Holds (done ++ events) ∧ run.metrics.failedRecords = 0 := by
  have hrecords := h.records
  have hran := h.ran
  -- with a number for each event there is none left to have failed
  have hnone : ∀ good : List WriteResult, run.results = good.map .ok →
      run.metrics.failedRecords = 0 := by
    intro good hgood
    have hwritten := hran.written
    have hlength := hran.answers.length_eq
    rw [hgood, written_ok] at hwritten
    rw [hgood, List.length_map] at hlength
    omega
  cases h with
  | monolithic hwrites =>
      obtain ⟨hholds, good, hgood, -⟩ := hwrites.holds hfree hids hc
      exact ⟨hholds, hnone good hgood⟩
  | segmented hwrites =>
      obtain ⟨limit, hlimit, hfilled⟩ := hc
      obtain ⟨hconfig, hfilled', good, hgood, -⟩ := hwrites.filled hfree hids hlimit hfilled
      exact ⟨⟨limit, hconfig ▸ hlimit, hfilled'⟩, hnone good hgood⟩

end CandidateRunner

/-! ## The pipeline -/

/-- A step in which no statement of a batch fails. -/
inductive CalmStep (config : IngressConfig) : Pipeline → Action → Pipeline → Prop
  | quiet {s t : Pipeline} {action : Action} : Step config s action t →
      action.handedBatches = [] → CalmStep config s action t
  | run {s : Pipeline} {env : BatchEnv} {run : RunResult} {runner : CandidateRunner} :
      env.Faultless → s.writer = .running → s.runner.Runs env s.batch run runner →
      CalmStep config s (.handed s.batch) { s.afterRun run runner with writer := .receiving }
  | runLeftover {s : Pipeline} {env : BatchEnv} {run : RunResult} {runner : CandidateRunner} :
      env.Faultless → s.writer = .leftover → s.runner.Runs env s.batch run runner →
      CalmStep config s (.handed s.batch) { s.afterRun run runner with writer := .joining }

def calmPipeline (config : IngressConfig) : Lts Pipeline Action := ⟨CalmStep config⟩

variable {config : IngressConfig} {runner : CandidateRunner} {s t : Pipeline} {action : Action}
  {trace : List Action}

theorem CalmStep.step (h : CalmStep config s action t) : Step config s action t := by
  cases h with
  | quiet hstep hhanded => exact hstep
  | run hfree hwriter hruns => exact .run hwriter hruns
  | runLeftover hfree hwriter hruns => exact .runLeftover hwriter hruns

theorem run_of_calm (hrun : (calmPipeline config).Run s trace t) :
    (pipeline config).Run s trace t :=
  hrun.mono (Q := fun _ => True) (fun _ _ => trivial) fun _ _ _ _ hstep =>
    CalmStep.step hstep

/-- The events handed over and those of the next batch have distinct ids. -/
theorem handed_ids (hfits : config.totalRecords.toNat ≤ 2 ^ 48)
    (hrun : (pipeline config).Run (.start runner) trace s) :
    ((trace.flatMap Action.handedEvents ++ s.batch).map (·.eventId)).Nodup := by
  have hsubmitted := submitted_run runner hrun
  have hgenerated : (trace.flatMap Action.acceptedEvents).Sublist (generateEvents config) :=
    hsubmitted.inOrder.trans ((List.range_sublist.mpr hsubmitted.within).map _)
  rw [accepted_eq runner hrun, ← List.append_assoc] at hgenerated
  exact (generateEvents_ids hfits).sublist
    (((List.sublist_append_left _ _).trans hgenerated).map _)

/-- Where no statement fails, the runner has every event it was handed. -/
theorem holds_run (hnew : runner.New) (hfits : config.totalRecords.toNat ≤ 2 ^ 48)
    (hrun : (calmPipeline config).Run (.start runner) trace s) :
    s.runner.Holds (trace.flatMap Action.handedEvents) ∧ s.allMetrics.failedRecords = 0 := by
  induction hrun with
  | nil => exact ⟨hnew.holds, rfl⟩
  | @snoc trace s action t hrun hstep ih =>
      obtain ⟨hholds, hfailed⟩ := ih
      have hids := handed_ids hfits (run_of_calm hrun)
      rw [List.flatMap_append, List.flatMap_singleton]
      cases hstep with
      -- only a run of the runner hands a batch over
      | quiet hstep hhanded =>
          have hnone : action.handedEvents = [] := by
            unfold Action.handedEvents
            rw [hhanded]
            rfl
          rw [hnone, List.append_nil]
          cases hstep with
          | run | runLeftover => cases hhanded
          | _ => exact ⟨hholds, hfailed⟩
      | run hfree hwriter hruns | runLeftover hfree hwriter hruns =>
          obtain ⟨hafter, hnone⟩ := hruns.holds hfree hids hholds
          have hhanded : (Action.handed s.batch).handedEvents = s.batch :=
            List.flatten_singleton
          rw [hhanded]
          refine ⟨hafter, ?_⟩
          show s.allMetrics.failedRecords + _ = 0
          rw [hfailed, hnone]

/-- While the sender is open, the producer has a step: it never waits for the writer. -/
theorem exists_sending_step (hwithin : s.i ≤ config.totalRecords.toNat)
    (hopen : s.senderDropped = false) : ∃ action t, CalmStep config s action t := by
  rcases Nat.lt_or_eq_of_le hwithin with hlt | hdone
  · by_cases hfull : config.channelCapacity ≤ s.queue.length
    · exact ⟨_, _, .quiet (.trySendFull hlt hfull) rfl⟩
    · exact ⟨_, _, .quiet (.trySend hlt (.inl (Nat.lt_of_not_le hfull))) rfl⟩
  · exact ⟨_, _, .quiet (.dropSender hdone hopen) rfl⟩

/-- One of the threads has a step until the pipeline has returned. -/
theorem exists_step (hphased : s.Phased) (hwithin : s.i ≤ config.totalRecords.toNat)
    (hrolls : s.runner.RollsAfterOne) :
    (∃ result, s.writer = .returned result) ∨ ∃ action t, CalmStep config s action t := by
  have hcalm : BatchEnv.Faultless ⟨0, fun _ _ => none⟩ := fun _ _ => rfl
  obtain ⟨run, runner', hruns⟩ := hrolls.exists_runs ⟨0, fun _ _ => none⟩ s.batch
  cases hwriter : s.writer with
  | receiving =>
      cases hqueue : s.queue with
      | cons event queue => exact .inr ⟨_, _, .quiet (.recv hwriter hqueue) rfl⟩
      | nil =>
          -- the writer waits, for the producer or for the end of the channel
          cases hsender : s.senderDropped with
          | false => exact .inr (exists_sending_step hwithin hsender)
          | true => exact .inr ⟨_, _, .quiet (.recvClosed hwriter hqueue hsender) rfl⟩
  | filling =>
      by_cases hfull : s.maxRecords ≤ s.batch.length
      · exact .inr ⟨_, _, .quiet (.batchFull hwriter hfull) rfl⟩
      · have hroom := Nat.lt_of_not_le hfull
        cases hqueue : s.queue with
        | nil => exact .inr ⟨_, _, .quiet (.tryRecvEmpty hwriter hroom hqueue) rfl⟩
        | cons event queue => exact .inr ⟨_, _, .quiet (.tryRecv hwriter hroom hqueue) rfl⟩
  | running => exact .inr ⟨_, _, .run hcalm hwriter hruns⟩
  | leftover => exact .inr ⟨_, _, .runLeftover hcalm hwriter hruns⟩
  | joining =>
      have hsender := (hphased.ended (.inl hwriter)).2.2
      exact .inr ⟨_, _, .quiet (.join hwriter hsender) rfl⟩
  | returned result => exact .inl ⟨result, rfl⟩

/-- Where every call of the runner returns, the pipeline does not run on without end, and
ends only where it has returned. -/
theorem calm_returns (hrolls : runner.RollsAfterOne)
    (hrun : (calmPipeline config).Run (.start runner) trace s) :
    trace.length ≤ 4 * config.totalRecords.toNat + 4 ∧
      ((∀ action t, ¬ (calmPipeline config).step s action t) →
        ∃ result, s.writer = .returned result) := by
  have hpipeline := run_of_calm hrun
  refine ⟨length_run_le runner hpipeline, fun hstuck => ?_⟩
  rcases exists_step (phased_run runner hpipeline) (submitted_run runner hpipeline).within
    (rollsAfterOne_run hrolls hpipeline) with hreturned | ⟨action, t, hstep⟩
  · exact hreturned
  · exact absurd hstep (hstuck action t)

end CraftRelay.Bench
