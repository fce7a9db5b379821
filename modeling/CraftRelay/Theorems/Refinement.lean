import CraftRelay.Journal.Refinement

/-!
# The journal implements the event log

Every run of the journal is a run of the log its tables store, whatever statements fail on
the way; and what was accepted once is what every later call tells of the event, or the
call says that it was not carried out.
-/

namespace CraftRelay

/-- The calls and answers of a run of the journal are a run of the event log, whose entries
are the rows of the envelope and payload tables, in order; where no statement fails, a call
that passes the admission checks is not refused. -/
theorem journal_refines_event_log [Sha256] {config : JournalConfig} {tr : List JournalEvent}
    {j : LocalJournal} (hrun : journalLts.Run (LocalJournal.open config) tr j) :
    (∃ log : EventLog, eventLogLts.Run .empty tr log ∧
      j.db.storedEnvelope.rows = log.entries.map LogEntry.envelope ∧
      j.db.payloadBlob.rows = log.entries.map LogEntry.blob ∧
      ∀ ev j', journalLts.step j ev j' → ∃ log', eventLogLts.step log ev log' ∧
        j'.db.Stores log') ∧
    ∀ ev j', journalLts.step j ev j' → ev.env.Faultless → ev.Admitted j →
      ¬ ev.call.Refuses ev.reply := by
  have hreach : Reachable j := ⟨config, tr, hrun⟩
  constructor
  · obtain ⟨log, hlog, hs⟩ := journalRun_refines hrun
    exact ⟨log, hlog, hs.storedEnvelope, hs.payloadBlob,
      fun ev j' hst => journalStep_refines hst hreach hs⟩
  · intro ev j' hst henv hadm
    exact journalStep_ne_refused hst hreach henv hadm

/-- The run that accepts two requests is one of a log with two entries, which its tables
store. -/
theorem journal_refines_event_log_two :
    ∃ (tr : List JournalEvent) (db : Db) (log : EventLog),
      (@journalLts fipsSha256).Run (LocalJournal.open {}) tr ⟨{}, db, false⟩ ∧
      (@eventLogLts fipsSha256).Run .empty tr log ∧ tr.length = 2 ∧
      db.storedEnvelope.rows.length = 2 ∧ log.entries.length = 2 ∧
      db.storedEnvelope.rows = log.entries.map (@LogEntry.envelope fipsSha256) := by
  obtain ⟨db, a₁, a₂, hrun⟩ := @sampleRun fipsSha256
  obtain ⟨⟨log, hlog, hrows, -⟩, -⟩ := @journal_refines_event_log fipsSha256 _ _ _ hrun
  have hlen : db.storedEnvelope.rows.length = 2 := by
    have hrecords := congrArg List.length (@journalRun_records fipsSha256 _ _ _ hrun)
    rw [List.length_map, List.length_map] at hrecords
    exact hrecords
  have hrows : db.storedEnvelope.rows = log.entries.map (@LogEntry.envelope fipsSha256) := hrows
  have hentries : log.entries.length = 2 := by
    rw [hrows, List.length_map] at hlen
    exact hlen
  exact ⟨_, db, log, hrun, hlog, rfl, hlen, hentries, hrows⟩

/-- A status with the numbers and the checksum of an acceptance, and the digest of the
payload. -/
structure PersistedStatus.Tells [Sha256] (st : PersistedStatus) (req : AcceptRequest)
    (a : AcceptedEvent) : Prop where
  eventId : st.eventId = req.eventId
  journalSequence : st.journalSequence = a.journalSequence
  streamSequence : st.streamSequence = a.streamSequence
  envelopeChecksum : st.envelopeChecksum = a.envelopeChecksum
  payloadDigest : st.payloadDigest = computeSha256 req.payload

/-- Once a request was accepted, every later call about its event, whatever statements
fail, is refused or tells of that request: its numbers and checksum by event id and by
journal sequence, its payload, and on another request for the event that it is a duplicate
or a conflict. -/
theorem accepted_request_is_told [Sha256] {config : JournalConfig} {tr : List JournalEvent}
    {j : LocalJournal} (hrun : journalLts.Run (LocalJournal.open config) tr j)
    {env₀ : CallEnv} {req₀ : AcceptRequest} {a₀ : AcceptedEvent}
    (haccepted : (⟨env₀, .accept req₀, .accepted a₀⟩ : JournalEvent) ∈ tr) (env : CallEnv)
    (j' : LocalJournal) :
    (∀ r, j.exec env (.getStatus req₀.eventId) = some (j', r) →
      JournalCall.Refuses (.getStatus req₀.eventId) r ∨
        ∃ st, r = .found st ∧ st.Tells req₀ a₀) ∧
    (∀ r, j.exec env (.getStatusByJournalSeq a₀.journalSequence) = some (j', r) →
      JournalCall.Refuses (.getStatusByJournalSeq a₀.journalSequence) r ∨
        ∃ st, r = .found st ∧ st.Tells req₀ a₀) ∧
    (∀ r, j.exec env (.verifyPayload req₀.eventId) = some (j', r) →
      JournalCall.Refuses (.verifyPayload req₀.eventId) r ∨ r = .ok) ∧
    (∀ r, j.exec env (.readVerifiedPayload req₀.eventId) = some (j', r) →
      JournalCall.Refuses (.readVerifiedPayload req₀.eventId) r ∨ r = .found req₀.payload) ∧
    ∀ req r, req.eventId = req₀.eventId → j.exec env (.accept req) = some (j', r) →
      JournalCall.Refuses (.accept req) r ∨
      (req₀.requestFingerprint = req.requestFingerprint ∧ ∃ a, r = .existingDuplicate a ∧
        a.journalSequence = a₀.journalSequence ∧ a.streamSequence = a₀.streamSequence ∧
        a.envelopeChecksum = a₀.envelopeChecksum) ∨
      (req₀.requestFingerprint ≠ req.requestFingerprint ∧
        r = .fingerprintConflict req.eventId) := by
  have hreach : Reachable j := ⟨config, tr, hrun⟩
  obtain ⟨log, hlog, hs⟩ := journalRun_refines hrun
  obtain ⟨e, he, rfl, hrep⟩ := eventLogRun_accepted hlog haccepted
  -- every later call is a step of the log, which has the entry
  have hstep : ∀ {c : JournalCall} {r : c.Reply}, j.exec env c = some (j', r) →
      ∃ log', log.Step ⟨env, c, r⟩ log' := by
    intro c r hexec
    have hst : journalLts.step j ⟨env, c, r⟩ j' := hexec
    obtain ⟨log', hlogstep, -⟩ := journalStep_refines hst hreach hs
    exact ⟨log', hlogstep⟩
  have htells : ∀ {st : PersistedStatus}, e.Described st → st.Tells e.request a₀ := by
    intro st hdesc
    exact ⟨hdesc.eventId, hdesc.journalSequence.trans hrep.journalSequence.symm,
      hdesc.streamSequence.trans hrep.streamSequence.symm,
      hdesc.envelopeChecksum.trans hrep.envelopeChecksum.symm, hdesc.payloadDigest⟩
  refine ⟨?_, ?_, ?_, ?_, ?_⟩
  · intro r hexec
    obtain ⟨log', hlogstep⟩ := hstep hexec
    rcases he.status hlogstep with href | ⟨st, hr, hdesc⟩
    · exact .inl href
    · exact .inr ⟨st, hr, htells hdesc⟩
  · intro r hexec
    obtain ⟨log', hlogstep⟩ := hstep hexec
    rw [hrep.journalSequence] at hlogstep ⊢
    rcases he.statusByJournalSeq hlogstep with href | ⟨st, hr, hdesc⟩
    · exact .inl href
    · exact .inr ⟨st, hr, htells hdesc⟩
  · intro r hexec
    obtain ⟨log', hlogstep⟩ := hstep hexec
    exact he.verified hlogstep
  · intro r hexec
    obtain ⟨log', hlogstep⟩ := hstep hexec
    exact he.payload hlogstep
  · intro req r hid hexec
    obtain ⟨log', hlogstep⟩ := hstep hexec
    have he' : log.Has req.eventId e := ⟨he.mem, hid.symm⟩
    rcases he'.accept hlogstep with href | ⟨hfp, a, hr, hrep'⟩ | hconflict
    · exact .inl href
    · exact .inr (.inl ⟨hfp, a, hr, hrep'.journalSequence.trans hrep.journalSequence.symm,
        hrep'.streamSequence.trans hrep.streamSequence.symm,
        hrep'.envelopeChecksum.trans hrep.envelopeChecksum.symm⟩)
    · exact .inr (.inr hconflict)

/-- The first event of a new file, read back. -/
theorem accepted_request_is_told_first :
    ∃ (db : Db) (a₀ : AcceptedEvent), (@journalLts fipsSha256).Run (LocalJournal.open {})
        [⟨.calm 10, .accept (sampleRequest "e1" "ns" 1), .accepted a₀⟩] ⟨{}, db, false⟩ ∧
      @readVerifiedPayload fipsSha256 (.calm 20) db "e1" = .found [1, 2, 3] := by
  have hnil : (@journalLts fipsSha256).Run (LocalJournal.open {}) [] ⟨{}, .empty, false⟩ := .nil
  obtain ⟨db, a₀, hrun, -⟩ := @journalRun_accept fipsSha256 _ _ _ _ _ hnil
    (CallEnv.calm_faultless 10) (sampleRequest_admissible (by decide : "e1" ≠ "") "ns" 1 10 .empty)
    rfl (fun row h => by cases h)
  obtain ⟨-, -, -, hread, -⟩ := @accepted_request_is_told fipsSha256 _ _ _ hrun _ _ _
    (List.mem_singleton.mpr rfl) (.calm 20) ⟨{}, db, false⟩
  refine ⟨db, a₀, hrun, ?_⟩
  rcases hread _ rfl with href | hfound
  · exact absurd href (@readVerifiedPayload_ne_refused fipsSha256 _ _
      (@Reachable.consistent fipsSha256 _ ⟨_, _, hrun⟩) (CallEnv.calm_faultless 20) _)
  · exact hfound

/-- Where no statement fails, a request that passes the admission checks is answered, and
what becomes of it is a function of the requests that were accepted before: the journal's
other contents, and every call that was refused, lost or about something else, do not
matter. -/
theorem accept_is_function_of_history [Sha256] {config : JournalConfig}
    {tr : List JournalEvent} {j : LocalJournal}
    (hrun : journalLts.Run (LocalJournal.open config) tr j) {env : CallEnv}
    {req : AcceptRequest} (henv : env.Faultless) (hadm : req.Admissible j env) :
    ∃ j' r, j.exec env (.accept req) = some (j', r) ∧
      r.verdict? = some (acceptVerdict (acceptHistory tr) req) := by
  have hreach : Reachable j := ⟨config, tr, hrun⟩
  obtain ⟨log, hlog, hs⟩ := journalRun_refines hrun
  obtain ⟨j', r, hexec, hr⟩ := LocalJournal.accept_of_faultless hreach henv hadm
  have hst : journalLts.step j ⟨env, .accept req, r⟩ j' := hexec
  obtain ⟨log', hstep, -⟩ := journalStep_refines hst hreach hs
  refine ⟨j', r, hexec, ?_⟩
  rw [← eventLogRun_requests hlog]
  exact EventLog.Step.verdict hstep hr

/-- An accepted event, sent again for another namespace: a duplicate. -/
theorem accept_is_function_of_history_again :
    ∃ (db : Db) (j' : LocalJournal) (r : AcceptResult),
      @LocalJournal.exec fipsSha256 ⟨{}, db, false⟩ (.calm 20)
        (.accept (sampleRequest "e1" "other" 9)) = some (j', r) ∧
      r.verdict? = some .duplicate := by
  have hnil : (@journalLts fipsSha256).Run (LocalJournal.open {}) [] ⟨{}, .empty, false⟩ := .nil
  obtain ⟨db, a₀, hrun, -⟩ := @journalRun_accept fipsSha256 _ _ _ _ _ hnil
    (CallEnv.calm_faultless 10) (sampleRequest_admissible (by decide : "e1" ≠ "") "ns" 1 10 .empty)
    rfl (fun row h => by cases h)
  obtain ⟨j', r, hexec, hverdict⟩ := @accept_is_function_of_history fipsSha256 _ _ _ hrun _ _
    (CallEnv.calm_faultless 20) (sampleRequest_admissible (by decide : "e1" ≠ "") "other" 9 20 db)
  exact ⟨db, j', r, hexec, hverdict⟩

end CraftRelay
