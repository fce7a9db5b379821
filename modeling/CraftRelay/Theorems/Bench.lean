import CraftRelay.Lib.Fips180
import CraftRelay.Bench.GlobalSequence
import CraftRelay.Bench.Monolithic

/-!
# The journal benchmark's candidates

How the two candidates cut their batches, when their loops end, and which numbers they give.
-/

namespace CraftRelay.Bench

/-- An event of a benchmark run. -/
def sampleEvent (index : UInt64) : SyntheticEvent :=
  @SyntheticEvent.generate fipsSha256 index "bench-installation" "bench-producer" "bench" 128

/-- A call in which no statement fails. -/
def BatchEnv.calm : BatchEnv := ⟨0, fun _ _ => none⟩

theorem BatchEnv.calm_faultless : BatchEnv.calm.Faultless := fun _ _ => rfl

/-! ## Group commit -/

/-- Every call returns. Its batches are the events again, in batches that are not empty and
keep the limits, of which each could not take the next event. The sums of their sizes are
exact when all the events together fit in 64 bits. -/
theorem group_commit_cuts_batches [Sha256] (c : MonolithicCandidate) (env : BatchEnv)
    (events : List SyntheticEvent) :
    (∃ out, c.Writes env events out) ∧
      (∀ out, c.Writes env events out → out.batches.flatten = events ∧
        ∀ before batch after, out.batches = before ++ batch :: after →
          batch ≠ [] ∧ batch.length ≤ max 1 c.config.maxRecordsPerTx.toNat ∧
          (1 < batch.length → batchBytes batch ≤ c.config.maxBytesPerTx) ∧
          ∀ next, after.flatten.head? = some next →
            max 1 c.config.maxRecordsPerTx.toNat < (batch ++ [next]).length ∨
              c.config.maxBytesPerTx < batchBytes (batch ++ [next])) ∧
      (totalBytes events < 2 ^ 64 → ∀ before block after, events = before ++ block ++ after →
        (batchBytes block).toNat = totalBytes block) := by
  refine ⟨c.exists_writes env events, fun out hwrites => ?_, ?_⟩
  · have hbatches := hwrites.batches
    refine ⟨?_, fun before batch after hsplit => ?_⟩
    · rw [hbatches, GreedyCut.flatten_batches]
    · rw [hbatches] at hsplit
      obtain ⟨hne, hfit, hmax⟩ := GreedyCut.batch_spec hsplit
      exact ⟨hne, length_le_of_fitting hfit, batchBytes_le_of_fitting hfit,
        fun next hnext => breaks_of_not_fits (hmax next hnext) hne⟩
  · rintro hfits before block after rfl
    apply toNat_batchBytes
    rw [totalBytes_append, totalBytes_append] at hfits
    omega

/-- Two events of a stream, whose sizes are far from 64 bits. -/
theorem group_commit_cuts_batches_sample :
    ∃ out, @MonolithicCandidate.Writes fipsSha256 (.open .monolithic) .calm
        [sampleEvent 0, sampleEvent 8] out ∧
      out.batches.flatten = [sampleEvent 0, sampleEvent 8] ∧
      (batchBytes [sampleEvent 0, sampleEvent 8]).toNat =
        totalBytes [sampleEvent 0, sampleEvent 8] := by
  obtain ⟨⟨out, hwrites⟩, hcut, hexact⟩ := @group_commit_cuts_batches fipsSha256
    (.open .monolithic) .calm [sampleEvent 0, sampleEvent 8]
  have hfits : totalBytes [sampleEvent 0, sampleEvent 8] < 2 ^ 64 := by decide +kernel
  exact ⟨out, hwrites, (hcut out hwrites).1, hexact hfits [] _ [] rfl⟩

/-! ## Progress of the segmented candidate -/

/-- The loop of the call ends, and each of its iterations consumes an event. -/
def SegmentedCandidate.EndsProgressing [Sha256] (c : SegmentedCandidate) (env : BatchEnv)
    (events : List SyntheticEvent) : Prop :=
  (∃ out, c.Writes env events out) ∧
    ∀ s, (c.writeLoop env events).Reaches { candidate := c } s →
      (c.writeLoop env events).cond s = true → s.i < ((c.writeLoop env events).body s).i

/-- The loop ends, an event or more at a time, exactly when a segment may hold an event or
there is none to write. -/
theorem segmented_batching_ends_iff [Sha256] (c : SegmentedCandidate) (env : BatchEnv)
    (events : List SyntheticEvent) :
    c.EndsProgressing env events ↔
      c.config.segmentRolloverRecords ≠ some 0 ∨ events = [] := by
  refine ⟨fun ⟨⟨out, hout⟩, _⟩ => ?_, fun hor => ?_⟩
  · by_contra hnot
    obtain ⟨hzero, hne⟩ := not_or.mp hnot
    exact SegmentedCandidate.not_writes (not_not.mp hzero) env hne out hout
  · rcases hor with hlimit | rfl
    · refine ⟨SegmentedCandidate.exists_writes hlimit env events, fun s hreach hcond => ?_⟩
      have hconfig := hreach.invariant (I := fun s => s.candidate.config = c.config) rfl
        fun s hs _ => SegmentedCandidate.config_body hs
      exact SegmentedCandidate.i_lt_body hconfig hlimit hcond
    · refine ⟨⟨_, While.returns_of_cond_false rfl⟩, fun s _ hcond => ?_⟩
      have hlt : s.i < ([] : List SyntheticEvent).length := of_decide_eq_true hcond
      exact absurd hlt (Nat.not_lt_zero _)

/-- With a rollover at zero records, the first event keeps its call from returning. -/
theorem segmented_batching_hangs :
    ¬ @SegmentedCandidate.EndsProgressing fipsSha256
      (.open { CandidateConfig.segmented with segmentRolloverRecords := some 0 }) .calm
      [sampleEvent 0] := by
  rintro ⟨⟨out, hout⟩, -⟩
  exact @SegmentedCandidate.not_writes fipsSha256 _ _ rfl .calm (List.cons_ne_nil _ _) out hout

/-! ## One sequence over all segments -/

/-- Over any calls of a new candidate whose segments may hold events, the rows are those of
the written events in order, numbered from one, the segments have the rows of their ranges,
which abut and keep the limit, and every event is answered and counted once. And the next
call returns. -/
theorem segmented_sequence_global [Sha256] {config : CandidateConfig} {limit : UInt32}
    (hlimit : config.segmentRolloverRecords = some limit) (hpos : 1 ≤ limit.toNat)
    {trace : List SegmentedCandidate.Call} {c : SegmentedCandidate}
    (hrun : SegmentedCandidate.calls.Run (.open config) trace c) :
    c.rows.map (·.journalSequence) =
        countUp (trace.flatMap SegmentedCandidate.Call.recorded).length ∧
      List.Forall₂ BenchEnvelope.Records c.rows
        (trace.flatMap SegmentedCandidate.Call.recorded) ∧
      (∀ segment ∈ c.segments,
        segment.db.journalSequences =
          countFrom (segment.info.firstJournalSeq - 1) segment.info.recordCount.toNat ∧
        segment.info.lastJournalSeq =
          segment.info.firstJournalSeq - 1 + segment.info.recordCount.toNat ∧
        segment.info.recordCount ≤ limit) ∧
      c.segments.IsChain (fun a b => b.info.firstJournalSeq = a.info.lastJournalSeq + 1) ∧
      (∀ call ∈ trace, call.Answered) ∧
      ∀ env events, ∃ out, c.Writes env events out := by
  have hrows : (SegmentedCandidate.open config).rows = [] := rfl
  obtain ⟨hcons, hrecords, hanswered⟩ := SegmentedCandidate.calls_consistent hrun
    (SegmentedCandidate.consistent_open hlimit) hrows
  have hne : c.config.segmentRolloverRecords ≠ some 0 := by
    rw [hcons.config]
    intro hzero
    rw [Option.some.inj hzero] at hpos
    exact absurd hpos (by decide)
  refine ⟨?_, hrecords, fun segment hmem => ?_, hcons.abut, hanswered, fun env events =>
    SegmentedCandidate.exists_writes hne env events⟩
  · rw [hcons.sequences, hrecords.length_eq]
  · have hsegment := hcons.segments segment hmem
    exact ⟨hsegment.sequences, hsegment.last, hsegment.bounded⟩

/-- Three events of a stream, with a rollover after the second. -/
theorem segmented_sequence_global_sample :
    ∃ call c, (@SegmentedCandidate.calls fipsSha256).Run
        (.open { CandidateConfig.segmented with segmentRolloverRecords := some 2 }) [call] c ∧
      call.events = [sampleEvent 0, sampleEvent 8, sampleEvent 16] ∧
      c.rows.map (·.journalSequence) = [1, 2, 3] := by
  obtain ⟨out, hout⟩ := @SegmentedCandidate.exists_writes fipsSha256
    (.open { CandidateConfig.segmented with segmentRolloverRecords := some 2 }) (by decide) .calm
    [sampleEvent 0, sampleEvent 8, sampleEvent 16]
  obtain ⟨good, hgood, hnumbers⟩ := @SegmentedCandidate.Writes.numbered fipsSha256 _ _ _ _ 2
    BatchEnv.calm_faultless (by decide +kernel) rfl hout
  have hlength : good.length = 3 := by
    rw [(@SegmentedCandidate.Writes.accounted fipsSha256 _ _ _ _ hout).2] at hnumbers
    simpa using congrArg List.length hnumbers
  have hrun := Lts.Run.nil.snoc (T := @SegmentedCandidate.calls fipsSha256)
    (a := ⟨.calm, [sampleEvent 0, sampleEvent 8, sampleEvent 16], out.results, out.metrics⟩)
    ⟨out, hout, rfl, rfl, rfl⟩
  refine ⟨_, _, hrun, rfl, ?_⟩
  have hsequences := (@segmented_sequence_global fipsSha256 _ 2 rfl (by decide) _ _ hrun).1
  have hrecorded : (SegmentedCandidate.Call.recorded
      ⟨.calm, [sampleEvent 0, sampleEvent 8, sampleEvent 16], out.results, out.metrics⟩).length =
      3 := by
    unfold SegmentedCandidate.Call.recorded
    rw [hgood, recorded_ok, List.length_zip, hlength]
    rfl
  rw [List.nil_append, List.flatMap_singleton, hrecorded] at hsequences
  exact hsequences

/-! ## The two candidates side by side -/

/-- New candidates with the same limits both write every event, under the same numbers. -/
def Interchangeable [Sha256] (config : CandidateConfig) (limit : UInt32) (env env' : BatchEnv)
    (events : List SyntheticEvent) : Prop :=
  ∃ out out' : List WriteResult,
    (∃ s, (MonolithicCandidate.open config).Writes env events s ∧ s.results = out.map .ok) ∧
    (∃ s, (SegmentedCandidate.open { config with segmentRolloverRecords := some limit }).Writes
      env' events s ∧ s.results = out'.map .ok) ∧
    out.length = events.length ∧ out.map (·.numbers) = out'.map (·.numbers)

theorem good_unique {results : List (Except String WriteResult)} {out out' : List WriteResult}
    (h : results = out.map .ok) (h' : results = out'.map .ok) : out = out' := by
  rw [h] at h'
  exact List.map_injective_iff.mpr (fun _ _ => Except.ok.inj) h'

/-- Both return, so it is their numbers that decide. -/
theorem interchangeable_iff_numbers [Sha256] {config : CandidateConfig} {limit : UInt32}
    (hpos : 1 ≤ limit.toNat) {env env' : BatchEnv} (hfree : env.Faultless)
    (hfree' : env'.Faultless) {events : List SyntheticEvent}
    (hids : (events.map (·.eventId)).Nodup) :
    Interchangeable config limit env env' events ↔
      ∀ j < events.length,
        numbersAt events 0 j = numbersAt events (limit.toNat * (j / limit.toNat)) j := by
  have hmono : ∀ s : WriteLoop MonolithicCandidate,
      (MonolithicCandidate.open config).Writes env events s →
      ∃ out : List WriteResult, s.results = out.map .ok ∧
        out.map (·.numbers) = (List.range events.length).map (numbersAt events 0) := by
    intro s hs
    obtain ⟨out, hout, hnumbers⟩ := hs.numbered hfree hids
    rw [hs.accounted.2] at hnumbers
    exact ⟨out, hout, hnumbers⟩
  have hseg : ∀ s : WriteLoop SegmentedCandidate,
      (SegmentedCandidate.open { config with segmentRolloverRecords := some limit }).Writes
        env' events s →
      ∃ out : List WriteResult, s.results = out.map .ok ∧
        out.map (·.numbers) = (List.range events.length).map fun j =>
          numbersAt events (limit.toNat * (j / limit.toNat)) j := by
    intro s hs
    obtain ⟨out, hout, hnumbers⟩ := hs.numbered hfree' hids rfl
    rw [hs.accounted.2] at hnumbers
    exact ⟨out, hout, hnumbers⟩
  refine ⟨fun ⟨out, out', ⟨s, hs, hout⟩, ⟨s', hs', hout'⟩, _, heq⟩ j hj => ?_, fun h => ?_⟩
  · obtain ⟨good, hgood, hnumbers⟩ := hmono s hs
    obtain ⟨good', hgood', hnumbers'⟩ := hseg s' hs'
    obtain rfl := good_unique hout hgood
    obtain rfl := good_unique hout' hgood'
    rw [hnumbers, hnumbers'] at heq
    exact List.map_inj_left.mp heq j (List.mem_range.mpr hj)
  · have hne : some limit ≠ some 0 := by
      intro hzero
      rw [Option.some.inj hzero] at hpos
      exact absurd hpos (by decide)
    obtain ⟨s, hs⟩ := (MonolithicCandidate.open config).exists_writes env events
    obtain ⟨s', hs'⟩ := SegmentedCandidate.exists_writes
      (c := .open { config with segmentRolloverRecords := some limit }) hne env' events
    obtain ⟨out, hout, hnumbers⟩ := hmono s hs
    obtain ⟨out', hout', hnumbers'⟩ := hseg s' hs'
    refine ⟨out, out', ⟨s, hs, hout⟩, ⟨s', hs', hout'⟩, ?_, ?_⟩
    · simpa using congrArg List.length hnumbers
    · rw [hnumbers, hnumbers']
      exact List.map_inj_left.mpr fun j hj => h j (List.mem_range.mp hj)

/-- The candidates are interchangeable exactly when no two events of a stream are in
different segments. -/
theorem candidates_interchangeable_iff [Sha256] (config : CandidateConfig) {limit : UInt32}
    (hpos : 1 ≤ limit.toNat) {env env' : BatchEnv} (hfree : env.Faultless)
    (hfree' : env'.Faultless) {events : List SyntheticEvent}
    (hids : (events.map (·.eventId)).Nodup) :
    Interchangeable config limit env env' events ↔
      ∀ i j (hi : i < j) (hj : j < events.length),
        events[i].logicalStream = events[j].logicalStream →
          i / limit.toNat = j / limit.toNat := by
  rw [interchangeable_iff_numbers hpos hfree hfree' hids]
  have hearlier : ∀ i j : Nat, i < limit.toNat * (j / limit.toNat) ↔
      i / limit.toNat < j / limit.toNat := by
    intro i j
    rw [Nat.div_lt_iff_lt_mul hpos, Nat.mul_comm]
  refine ⟨fun h i j hi hj hstream => ?_, fun h j hj => ?_⟩
  · by_contra hne
    have hlt : i / limit.toNat < j / limit.toNat :=
      lt_of_le_of_ne (Nat.div_le_div_right hi.le) hne
    exact (numbersAt_zero_eq_iff (Nat.mul_div_le j _) hj).mp (h j hj) i
      ((hearlier i j).mpr hlt) hstream
  · apply (numbersAt_zero_eq_iff (Nat.mul_div_le j _) hj).mpr
    intro i hi hstream
    have hij : i < j := lt_of_lt_of_le hi (Nat.mul_div_le j _)
    exact absurd (h i j hij hj hstream) (Nat.ne_of_lt ((hearlier i j).mp hi))

/-- Two events of a stream in one segment. -/
theorem candidates_interchangeable_sample :
    @Interchangeable fipsSha256 .monolithic 2 .calm .calm [sampleEvent 0, sampleEvent 8] := by
  have hids : ([sampleEvent 0, sampleEvent 8].map (·.eventId)).Nodup := by decide +kernel
  apply (@candidates_interchangeable_iff fipsSha256 .monolithic 2 (by decide) _ _
    BatchEnv.calm_faultless BatchEnv.calm_faultless _ hids).mpr
  intro i j hi hj _
  have hj' : j < 2 := hj
  show i / 2 = j / 2
  omega

/-- Two events of a stream in two segments: the second is the stream's second in one
candidate and its first in the other. -/
theorem candidates_differ_after_rollover :
    ¬ @Interchangeable fipsSha256 .monolithic 1 .calm .calm [sampleEvent 0, sampleEvent 8] := by
  intro h
  have hids : ([sampleEvent 0, sampleEvent 8].map (·.eventId)).Nodup := by decide +kernel
  have hnumbers := (@interchangeable_iff_numbers fipsSha256 .monolithic 1 (by decide) _ _
    BatchEnv.calm_faultless BatchEnv.calm_faultless _ hids).mp h 1 (by decide)
  have hstream : (sampleEvent 0).logicalStream = (sampleEvent 8).logicalStream := by
    decide +kernel
  exact (numbersAt_zero_eq_iff (Nat.le_refl 1) (by decide)).mp hnumbers 0 (by decide) hstream

end CraftRelay.Bench
