import CraftRelay.Journal.Attempts
import CraftRelay.Journal.Progress

/-!
# Acceptance is exactly once and gapless

The results about `accept` over whole runs of the journal, with any other calls
in between and with any statements failing on the way.
-/

namespace CraftRelay

/-- The envelopes are the accepted events in the order of their answers, which
report the stored sequences; journal sequences are `1, …, N`; under every
formatted stream key the stream sequences are `1, …, m` with `m` in
`stream_head`; and only an accepted request writes one of the four tables. -/
theorem sequences_gapless [Sha256] {config : JournalConfig} {tr : List JournalEvent}
    {j : LocalJournal} (hrun : journalLts.Run (LocalJournal.open config) tr j) :
    j.db.storedEnvelope.rows.map (fun v => (v.eventId, v.journalSequence, v.streamSequence)) =
        (acceptedEvents tr).map (fun a => (a.eventId, a.journalSequence, a.streamSequence)) ∧
      j.db.storedEnvelope.rows.map (·.journalSequence) =
        countUp j.db.storedEnvelope.rows.length ∧
      (∀ key, (j.db.streamEnvelopes key).map (·.streamSequence) =
          countUp (j.db.streamEnvelopes key).length ∧
        j.db.streamHead.find? key =
          if j.db.streamEnvelopes key = [] then none
          else some ⟨key, (j.db.streamEnvelopes key).length⟩) ∧
      ∀ j₁ ev j₂, journalLts.step j₁ ev j₂ → ev.accepted? = none →
        j₂.db.storedEnvelope = j₁.db.storedEnvelope ∧ j₂.db.payloadBlob = j₁.db.payloadBlob ∧
          j₂.db.dedupFingerprint = j₁.db.dedupFingerprint ∧
          j₂.db.streamHead = j₁.db.streamHead := by
  have hreach : Reachable j := ⟨config, tr, hrun⟩
  refine ⟨?_, hreach.gapless.journal, ?_, ?_⟩
  · have hrec := congrArg (List.map fun r : String × Int × Int × Bytes => (r.1, r.2.1, r.2.2.1))
      (journalRun_records hrun)
    rw [List.map_map, List.map_map] at hrec
    exact hrec
  · intro key
    exact ⟨hreach.gapless.stream key, hreach.gapless.head key⟩
  · intro j₁ ev j₂ hst hnone
    rcases (journalStep_cases hst).acceptance with ⟨req, a, hev, -⟩ | ⟨-, hsame⟩
    · have hev : ev = ⟨ev.env, .accept req, .accepted a⟩ := hev
      rw [hev] at hnone
      cases hnone
    · exact ⟨hsame.storedEnvelope, hsame.payloadBlob, hsame.dedupFingerprint, hsame.streamHead⟩

/-- Two accepted events of one stream have the journal sequences 1 and 2. -/
theorem sequences_gapless_two :
    ∃ tr db, (@journalLts fipsSha256).Run (LocalJournal.open {}) tr ⟨{}, db, false⟩ ∧
      db.storedEnvelope.rows.map (·.journalSequence) = [1, 2] := by
  obtain ⟨db, a₁, a₂, hrun⟩ := @sampleRun fipsSha256
  obtain ⟨hrec, hjs, -⟩ := @sequences_gapless fipsSha256 _ _ _ hrun
  have hlen : db.storedEnvelope.rows.length = 2 := by
    have := congrArg List.length hrec
    rw [List.length_map, List.length_map] at this
    exact this
  refine ⟨_, db, hrun, ?_⟩
  have hjs : db.storedEnvelope.rows.map (·.journalSequence) =
    countUp db.storedEnvelope.rows.length := hjs
  rw [hjs, hlen]
  rfl

/-- In every reachable journal the operation sequences of a producer increase in
journal order and `producer_sequence` holds the last of them; an accepted
request is above all of them, whatever the exemption of `check_producer_sequence`
lets through. -/
theorem producer_sequences_increase [Sha256] {j : LocalJournal} (h : Reachable j)
    (key : String) :
    ((j.db.producerEnvelopes key).map (·.producerOpSeq)).Pairwise (· < ·) ∧
      j.db.producerSequence.find? key = (j.db.producerEnvelopes key).getLast?.map
        (fun v => ⟨key, v.producerOpSeq, v.eventId⟩) ∧
      ∀ env req a j', journalLts.step j ⟨env, .accept req, .accepted a⟩ j' →
        ∀ v ∈ j.db.producerEnvelopes req.formattedProducerKey,
          v.producerOpSeq < req.producerOperationSequence := by
  have hinc := h.producersIncrease
  refine ⟨hinc.increasing key, hinc.last key, ?_⟩
  intro env req a j' hst v hv
  obtain ⟨config, tr, hrun⟩ := h
  rcases (journalStep_cases hst).acceptance with ⟨req', a', hev, hacc⟩ | ⟨hev, -⟩
  · cases hev
    -- the sequences increase in the journal after the step, where the request comes last
    have hreach : Reachable j' := ⟨config, _, hrun.snoc hst⟩
    have hnext := hreach.producersIncrease.increasing req.formattedProducerKey
    rw [hacc.producerEnvelopes, if_pos rfl, List.map_append, List.pairwise_append] at hnext
    exact hnext.2.2 _ (List.mem_map_of_mem hv) _ (List.mem_singleton.mpr rfl)
  · cases hev

/-- Two accepted events of one producer. -/
theorem producer_sequences_increase_two :
    ∃ j : LocalJournal, @Reachable fipsSha256 j ∧ j.db.storedEnvelope.rows ≠ [] ∧
      ((j.db.producerEnvelopes (formatProducerKey "inst" "prod" "p1")).map
        (·.producerOpSeq)).Pairwise (· < ·) := by
  obtain ⟨db, a₁, a₂, hrun⟩ := @sampleRun fipsSha256
  have hreach : @Reachable fipsSha256 ⟨{}, db, false⟩ := ⟨_, _, hrun⟩
  obtain ⟨hinc, -, -⟩ := @producer_sequences_increase fipsSha256 _ hreach
    (formatProducerKey "inst" "prod" "p1")
  refine ⟨_, hreach, ?_, hinc⟩
  intro hnil
  have hrec := @journalRun_records fipsSha256 _ _ _ hrun
  rw [hnil] at hrec
  cases hrec

/-- A request for an event that was accepted before is answered from the
original acceptance when the fingerprint is the original one and refused
otherwise. Either way only the audit log changes, and no event has two
envelopes. -/
theorem acceptance_exactly_once [Sha256] {config : JournalConfig} {tr : List JournalEvent}
    {j : LocalJournal} (hrun : journalLts.Run (LocalJournal.open config) tr j)
    {env₀ : CallEnv} {req₀ : AcceptRequest} {a₀ : AcceptedEvent}
    (haccepted : (⟨env₀, .accept req₀, .accepted a₀⟩ : JournalEvent) ∈ tr)
    {env : CallEnv} {req : AcceptRequest} (henv : env.Faultless) (hadm : req.Admissible j env)
    (hid : req.eventId = req₀.eventId) :
    (∃ log r, j.exec env (.accept req) =
        some ({ j with db := { j.db with writeAttempt := log } }, r) ∧
      (req.requestFingerprint = req₀.requestFingerprint →
        ∃ a, r = .existingDuplicate a ∧ a.journalSequence = a₀.journalSequence ∧
          a.streamSequence = a₀.streamSequence ∧ a.envelopeChecksum = a₀.envelopeChecksum) ∧
      (req.requestFingerprint ≠ req₀.requestFingerprint →
        r = .fingerprintConflict req.eventId)) ∧
    ∀ e, (j.db.storedEnvelope.rows.filter fun v => v.eventId = e).length ≤ 1 := by
  have hreach : Reachable j := ⟨config, tr, hrun⟩
  obtain ⟨v, hv, hreport, hfp⟩ := journalRun_accepted hrun haccepted
  rw [← hid] at hv
  obtain ⟨log, r, htx, hsame, hother⟩ := acceptTransaction_of_stored hreach.consistent henv hv
  refine ⟨⟨log, r, ?_, ?_, ?_⟩, ?_⟩
  · show j.accept env req = _
    rw [hadm.accept_eq, htx]
    rfl
  · intro heq
    obtain ⟨a, ha, hrep⟩ := hsame (by rw [hfp, heq])
    have hall := hrep.trans hreport
    injection hall with _ hall
    injection hall with hjs hall
    injection hall with hss hcs
    exact ⟨a, ha, hjs, hss, Subtype.ext hcs⟩
  · intro hne
    apply hother
    intro heq
    rw [hfp] at heq
    exact hne (Subtype.ext heq).symm
  · intro e
    have hcount : (j.db.storedEnvelope.rows.filter fun v => v.eventId = e).length =
        (j.db.storedEnvelope.rows.map (·.eventId)).count e := by
      rw [List.count, List.countP_map, List.countP_eq_length_filter]
      rfl
    rw [hcount]
    exact List.nodup_iff_count_le_one.mp j.db.storedEnvelope.nodup e

/-- An accepted event, sent again for another namespace and producer sequence. -/
theorem acceptance_exactly_once_again :
    ∃ db a₀ log a, ((@journalLts fipsSha256).Run (LocalJournal.open {}) [
        ⟨.calm 10, .accept (sampleRequest "e1" "ns" 1), .accepted a₀⟩ ] ⟨{}, db, false⟩) ∧
      @LocalJournal.exec fipsSha256 ⟨{}, db, false⟩ (.calm 20)
        (.accept (sampleRequest "e1" "other" 9)) =
          some (⟨{}, { db with writeAttempt := log }, false⟩, .existingDuplicate a) ∧
      a.journalSequence = a₀.journalSequence := by
  have hnil : (@journalLts fipsSha256).Run (LocalJournal.open {}) [] ⟨{}, .empty, false⟩ := .nil
  obtain ⟨db, a₀, hrun, -⟩ := @journalRun_accept fipsSha256 _ _ _ _ _ hnil
    (CallEnv.calm_faultless 10) (sampleRequest_admissible (by decide : "e1" ≠ "") "ns" 1 10 .empty)
    rfl (fun row h => by cases h)
  obtain ⟨⟨log, r, hexec, hsame, -⟩, -⟩ := @acceptance_exactly_once fipsSha256 _ _ _ hrun _ _ _
    (List.mem_singleton.mpr rfl) _ _ (CallEnv.calm_faultless 20)
    (sampleRequest_admissible (by decide : "e1" ≠ "") "other" 9 20 db) rfl
  obtain ⟨a, rfl, hjs, -, -⟩ := hsame rfl
  exact ⟨db, a₀, log, a, hrun, hexec, hjs⟩

/-- Whichever statements fail, an answer other than `Accepted` leaves every table
but the audit log as it was, and `Accepted` leaves the delivery tables and has
written all rows of the event, each of which agrees with the others and with the
answer. -/
theorem accept_all_or_nothing [Sha256] {j j' : LocalJournal} {env : CallEnv}
    {req : AcceptRequest} {r : AcceptResult}
    (h : j.exec env (.accept req) = some (j', r)) :
    ((∀ a, r ≠ .accepted a) → ∃ log, j'.db = { j.db with writeAttempt := log }) ∧
    ∀ a, r = .accepted a →
      a.eventId = req.eventId ∧ a.lifecycleRevision = 1 ∧ a.deliveryStatus = .localAccepted ∧
      j'.db.deliveryState = j.db.deliveryState ∧
      j'.db.deliveryAttempt = j.db.deliveryAttempt ∧
      ∃ v b l, j'.db.HoldsAccepted env.nowMs req a v b l := by
  have hstep : DbStep env j.db (.accept req) r j'.db := LocalJournal.accept_step h
  constructor
  · intro hno
    generalize j'.db = db' at hstep
    cases hstep with
    | quiet => exact ⟨_, rfl⟩
    | accepted hacc => exact absurd rfl (hno _)
  · intro a ha
    subst ha
    rcases hstep.acceptance with ⟨req', a', hev, hacc⟩ | ⟨hev, -⟩
    · cases hev
      refine ⟨?_, ?_, ?_, hacc.deliveryState, hacc.deliveryAttempt, hacc.holds⟩
      · rw [hacc.event]
      · rw [hacc.event]
      · rw [hacc.event]
    · cases hev

/-- The first event of a new file has all its rows. -/
theorem accept_all_or_nothing_first :
    ∃ j' a, @LocalJournal.exec fipsSha256 (LocalJournal.open {}) (.calm 10)
        (.accept (sampleRequest "e1" "ns" 1)) = some (j', .accepted a) ∧
      ∃ v b l, @Db.HoldsAccepted fipsSha256 j'.db 10 (sampleRequest "e1" "ns" 1) a v b l := by
  obtain ⟨db, a, hexec, -⟩ := @accept_of_new fipsSha256 (LocalJournal.open {}) _ _
    Db.gapless_empty (@Db.consistent_empty fipsSha256) (CallEnv.calm_faultless 10)
    (sampleRequest_admissible (by decide : "e1" ≠ "") "ns" 1 10 .empty) rfl
    (fun row h => by cases h)
  obtain ⟨-, -, -, -, -, hrows⟩ := (@accept_all_or_nothing fipsSha256 _ _ _ _ _ hexec).2 a rfl
  exact ⟨_, a, hexec, hrows⟩

/-! ## Attempt histories -/

/-- Where every statement succeeds, the attempts that are kept of an event are the newest
sixteen of those that were recorded, in order, and its delivery row counts all of them; what
is recorded for other events removes none of its rows. -/
theorem attempt_histories_newest [Sha256] {config : JournalConfig} {tr : List JournalEvent}
    {j : LocalJournal} (hrun : journalLts.Run (LocalJournal.open config) tr j)
    (hok : ∀ ev ∈ tr, ev.env.Faultless) (e : String) :
    j.db.writeAttempt.select (fun a => a.eventId = e) = (writeAttempts e tr).rtake 16 ∧
      j.db.deliveryAttempt.select (fun a => a.eventId = e) = (deliveryAttempts e tr).rtake 16 ∧
      (∀ d, j.db.deliveryState.find? e = some d →
        d.attemptCount = (deliveryAttempts e tr).length) ∧
      (j.db.deliveryState.find? e = none → deliveryAttempts e tr = []) ∧
      ∀ ev j', journalLts.step j ev j' → ev.env.Faultless →
        ((∀ a ∈ ev.writeAttempt?, a.eventId ≠ e) →
          j'.db.writeAttempt.rows.filter (fun a => a.2.eventId = e) =
            j.db.writeAttempt.rows.filter fun a => a.2.eventId = e) ∧
        ((∀ a ∈ ev.deliveryAttempt?, a.eventId ≠ e) →
          j'.db.deliveryAttempt.rows.filter (fun a => a.2.eventId = e) =
            j.db.deliveryAttempt.rows.filter fun a => a.2.eventId = e) := by
  have hremembers := journalRun_remembers hrun hok e
  refine ⟨hremembers.writeAttempt, hremembers.deliveryAttempt, hremembers.counts.counted,
    fun hnone => List.length_eq_zero_iff.mp (hremembers.counts.created hnone), ?_⟩
  intro ev j' hst henv
  constructor
  · intro hother
    rw [journalStep_writeAttempt hst henv]
    exact filter_keepNewest_of_ne hother
  · intro hother
    rw [journalStep_deliveryAttempt hst]
    exact filter_keepNewest_of_ne hother

/-- A failed attempt on the sample event. -/
def sampleAttempt (n : Nat) : DeliveryAttemptRecord :=
  ⟨"e1", n + 1, "TRANSIENT_FAILURE", some "Timeout", some "topic", none, none, some "p0", some 1,
    30 + n⟩

/-- What is audited of the sample request when it is sent again. -/
def sampleRepetition (n : Nat) : WriteAttempt := ⟨"e1", "EXISTING_DUPLICATE", none, 30 + n⟩

/-- Two events are accepted, and then the first is attempted and sent again `n` times. -/
theorem sampleRun_repeated [Sha256] (n : Nat) (hn : (n : Int) ≤ 2147483647) :
    ∃ tr db, journalLts.Run (LocalJournal.open {}) tr ⟨{}, db, false⟩ ∧
      (∀ ev ∈ tr, ev.env.Faultless) ∧
      (∃ a, (⟨.calm 10, .accept (sampleRequest "e1" "ns" 1), .accepted a⟩ : JournalEvent) ∈ tr) ∧
      writeAttempts "e1" tr = ⟨"e1", "NEWLY_ACCEPTED", none, 10⟩ ::
        (List.range n).map sampleRepetition ∧
      writeAttempts "e2" tr = [⟨"e2", "NEWLY_ACCEPTED", none, 15⟩] ∧
      deliveryAttempts "e1" tr = (List.range n).map sampleAttempt ∧
      ∃ s, db.HasDelivery "e1" s ∧ s.Healthy ∧ s.attemptCount = n := by
  induction n with
  | zero =>
      obtain ⟨db₁, a₁, hrun₁, hstep₁, hseq₁⟩ := @sampleAccept _ [] .empty "e1" 1 .nil (by decide)
        rfl (fun _ _ h => by cases h) "ns" 10
      have hne : "e1" ≠ "e2" := by decide
      obtain ⟨db₂, a₂, hrun₂, hstep₂, -⟩ := sampleAccept hrun₁ (by decide : "e2" ≠ "")
        (hstep₁.putsEnvelope.other hne) hseq₁ "ns" 15
      have hnone : db₂.deliveryState.find? "e1" = none := by
        rw [hstep₂.deliveryState, hstep₁.deliveryState]
        rfl
      have hv : db₂.storedEnvelope.find? "e1" = some _ :=
        (hstep₂.putsEnvelope.other hne.symm).trans hstep₁.putsEnvelope.self
      obtain ⟨t, hcreate, ht⟩ := createDeliveryPending_of_new (CallEnv.calm_faultless 20) hv hnone
        sampleFingerprint "p0" 1 "topic"
      have hst : journalLts.step ⟨{}, db₂, false⟩
          ⟨.calm 20, .createDeliveryPending "e1" sampleFingerprint "p0" 1 "topic", .updated⟩
          ⟨{}, { db₂ with deliveryState := t }, false⟩ :=
        congrArg (LocalJournal.write ⟨{}, db₂, false⟩) hcreate
      have hhealthy : (samplePending 20 "e1").Healthy :=
        pending_healthy (by decide) (by decide) (by decide)
      refine ⟨_, _, hrun₂.snoc hst, ?_, ⟨a₁, by simp⟩, rfl, rfl, rfl, samplePending 20 "e1",
        ⟨ht.self, hhealthy.verifies⟩, hhealthy, rfl⟩
      simp [CallEnv.calm_faultless]
  | succ n ih =>
      push_cast at hn
      obtain ⟨tr, db, hrun, hok, ⟨a, hmem⟩, hwrites, hother, hattempts, s, hs, hhealthy, hcount⟩ :=
        ih (by omega)
      have hcalm := CallEnv.calm_faultless (30 + n)
      have hreach : Reachable ⟨{}, db, false⟩ := ⟨_, _, hrun⟩
      have hattempted : db.HasDelivery (sampleAttempt n).eventId s := hs
      obtain ⟨t, log, hrecord, ht⟩ := recordDeliveryAttempt_of_found (hcalm.executes _) hattempted
        (hreach.consistent.envelope_of_delivery hs)
      have hfits : InI32 (s.attemptCount + 1) := by
        rw [hcount]
        exact ⟨by omega, by omega⟩
      obtain ⟨s', hrow, hhealthy'⟩ :=
        attempted_healthy hhealthy (some "Timeout") (30 + (n : Int)) hfits
      have hst : journalLts.step ⟨{}, db, false⟩
          ⟨.calm (30 + n), .recordDeliveryAttempt (sampleAttempt n), .updated⟩
          ⟨{}, { db with deliveryState := t, deliveryAttempt := log }, false⟩ :=
        congrArg (LocalJournal.write ⟨{}, db, false⟩) hrecord
      have hrun' := hrun.snoc hst
      obtain ⟨log', a', hdup⟩ :=
        sampleRun_duplicate hrun' (List.mem_append_left _ hmem) (30 + n)
      have hst' : journalLts.step _ ⟨.calm (30 + n), .accept (sampleRequest "e1" "ns" 1),
        .existingDuplicate a'⟩ _ := hdup
      have hall := hrun'.snoc hst'
      refine ⟨_, _, hall, ?_, ⟨a, by simp [hmem]⟩, ?_, ?_, ?_, s', ⟨?_, hhealthy'.verifies⟩,
        hhealthy', ?_⟩
      · simp only [List.mem_append, List.mem_singleton]
        rintro ev ((hev | rfl) | rfl)
        · exact hok ev hev
        · exact hcalm
        · exact hcalm
      · rw [writeAttempts_snoc, writeAttempts_snoc, hwrites, List.range_succ, List.map_append,
          List.append_assoc]
        rfl
      · rw [writeAttempts_snoc, writeAttempts_snoc, hother]
        rfl
      · rw [deliveryAttempts_snoc, deliveryAttempts_snoc, hattempts, List.range_succ,
          List.map_append, List.append_assoc]
        rfl
      · show t.find? "e1" = _
        rw [← hrow]
        exact ht.self
      · have hcounts : s.attemptCount + 1 = s'.attemptCount :=
          congrArg DeliveryState.attemptCount hrow
        push_cast
        omega

/-- Seventeen attempts on an event and seventeen repetitions of its request, of which the
newest sixteen are kept, while the row counts them all; another event keeps its own. -/
theorem attempt_histories_newest_sample :
    ∃ (tr : List JournalEvent) (db : Db),
      (@journalLts fipsSha256).Run (LocalJournal.open {}) tr ⟨{}, db, false⟩ ∧
      ((writeAttempts "e1" tr).length = 18 ∧ (deliveryAttempts "e1" tr).length = 17) ∧
      db.writeAttempt.select (fun a => a.eventId = "e1") =
        (List.range' 1 16).map sampleRepetition ∧
      db.writeAttempt.select (fun a => a.eventId = "e2") =
        [⟨"e2", "NEWLY_ACCEPTED", none, 15⟩] ∧
      db.deliveryAttempt.select (fun a => a.eventId = "e1") =
        (List.range' 1 16).map sampleAttempt ∧
      ∃ d, db.deliveryState.find? "e1" = some d ∧ d.attemptCount = 17 := by
  obtain ⟨tr, db, hrun, hok, -, hwrites, hother, hattempts, s, hs, -⟩ :=
    @sampleRun_repeated fipsSha256 17 (by decide)
  obtain ⟨hwrite, hdelivery, hcount, -⟩ := @attempt_histories_newest fipsSha256 _ _ _ hrun hok "e1"
  have hwrite' := (@attempt_histories_newest fipsSha256 _ _ _ hrun hok "e2").1
  have hrow := @Db.HasDelivery.row fipsSha256 _ _ _ hs
  refine ⟨tr, db, hrun, ⟨?_, ?_⟩, hwrite.trans ?_, hwrite'.trans ?_, hdelivery.trans ?_, _, hrow,
    ?_⟩
  · rw [hwrites]
    rfl
  · rw [hattempts]
    rfl
  · rw [hwrites]
    decide
  · rw [hother]
    decide
  · rw [hattempts]
    decide
  · rw [hcount _ hrow, hattempts]
    rfl

end CraftRelay
