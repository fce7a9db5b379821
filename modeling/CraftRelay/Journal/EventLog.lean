import CraftRelay.Lib.Appended
import CraftRelay.Journal.Calls

/-!
# The journal as its clients see it

What the acceptance side of the journal is for: a log of requests in the order in which
they were accepted, each under its position in the log and its position in its stream.
An event is in the log once, and the operation sequences of a producer increase. A client
may ask for an entry by event or by position, and sending a request again tells whether
the log has it. Nothing here knows of tables, checksummed rows or transactions.

Every call either is answered as the log says, or says itself that it was not carried out
(`Refuses`). How far the delivery of an event has come is not the log's: of the calls that
ask for it or advance it the log says only that they are about entries.
-/

namespace CraftRelay

/-- An accepted request, with its time and its two numbers. -/
structure LogEntry where
  request : AcceptRequest
  acceptedAtMs : Int
  journalSequence : Int
  streamSequence : Int

/-- The entries of a producer. -/
def producerEntries (entries : List LogEntry) (key : String) : List LogEntry :=
  entries.filter fun e => e.request.formattedProducerKey = key

/-- The entries of a stream. -/
def streamEntries (entries : List LogEntry) (key : String) : List LogEntry :=
  entries.filter fun e => e.request.formattedStreamKey = key

/-- The entry may come next. -/
structure LogEntry.Follows (before : List LogEntry) (e : LogEntry) : Prop where
  fresh : ∀ e' ∈ before, e'.request.eventId ≠ e.request.eventId
  journalSequence : e.journalSequence = before.length + 1
  streamSequence : e.streamSequence =
    (streamEntries before e.request.formattedStreamKey).length + 1
  producer : ∀ e' ∈ producerEntries before e.request.formattedProducerKey,
    e'.request.producerOperationSequence < e.request.producerOperationSequence

/-- The accepted requests, oldest first. -/
abbrev EventLog := GuardedLog LogEntry.Follows

/-- The event has no entry. -/
def EventLog.Lacks (log : EventLog) (eventId : String) : Prop :=
  ∀ e ∈ log.entries, e.request.eventId ≠ eventId

/-- The entry of an event. -/
structure EventLog.Has (log : EventLog) (eventId : String) (e : LogEntry) : Prop where
  mem : e ∈ log.entries
  eventId : e.request.eventId = eventId

/-- An event has one entry. -/
theorem EventLog.Has.unique {log : EventLog} {eventId : String} {e e' : LogEntry}
    (h : log.Has eventId e) (h' : log.Has eventId e') : e = e' := by
  have hdistinct : log.entries.Pairwise fun a b => a.request.eventId ≠ b.request.eventId :=
    log.appended.pairwise fun _ _ he => he.fresh
  have hnodup : (log.entries.map (·.request.eventId)).Nodup := List.pairwise_map.mpr hdistinct
  exact List.inj_on_of_nodup_map hnodup h.mem h'.mem (h.eventId.trans h'.eventId.symm)

theorem EventLog.Has.not_lacks {log : EventLog} {eventId : String} {e : LogEntry}
    (he : log.Has eventId e) : ¬ log.Lacks eventId :=
  fun hlacks => hlacks e he.mem he.eventId

/-- The entries are numbered by their places. -/
theorem EventLog.numbered (log : EventLog) :
    log.entries.map (·.journalSequence) = countUp log.entries.length :=
  log.appended.map_eq_countUp fun _ _ he => he.journalSequence

/-- A number has one entry. -/
theorem EventLog.unique_of_journalSequence {log : EventLog} {e e' : LogEntry}
    (h : e ∈ log.entries) (h' : e' ∈ log.entries)
    (hseq : e.journalSequence = e'.journalSequence) : e = e' := by
  have hnodup : (log.entries.map (·.journalSequence)).Nodup := by
    rw [log.numbered]
    exact (countUp_sorted _).imp fun hlt => hlt.ne
  exact List.inj_on_of_nodup_map hnodup h h' hseq

/-! ## Answers -/

/-- The call says that it was not carried out. -/
def JournalCall.Refuses : (c : JournalCall) → c.Reply → Prop
  | .accept _, r => (∃ eventId detail, r = .corrupted eventId detail) ∨ r = .diskUnsafe ∨
      r = .shuttingDown ∨ ∃ message, r = .error message
  | .getStatus _, r => ∃ eventId detail, r = .corrupted eventId detail
  | .getStatusByJournalSeq _, r => ∃ eventId detail, r = .corrupted eventId detail
  | .verifyPayload _, r => ∃ message, r = .error message
  | .readVerifiedPayload _, r =>
      (∃ eventId detail, r = .corrupted eventId detail) ∨ ∃ message, r = .error message
  | _, _ => False

/-- A candidate has the routing fields of the entry's request. -/
structure LogEntry.Routes (e : LogEntry) (c : DeliveryCandidate) : Prop where
  eventId : c.eventId = e.request.eventId
  installationId : c.installationId = e.request.installationId
  «namespace» : c.namespace = e.request.namespace
  logicalStreamType : c.logicalStreamType = e.request.logicalStreamType
  streamKey : c.streamKey = e.request.streamKey
  streamSequence : c.streamSequence = e.streamSequence
  eventType : c.eventType = e.request.eventType
  routingVersion : c.routingVersion = e.request.routingVersion

/-- A listed delivery has the numbers of the entry. -/
structure LogEntry.Listed (e : LogEntry) (p : PendingDelivery) : Prop where
  journalSequence : p.journalSequence = e.journalSequence
  streamKey : p.streamKey = e.request.streamKey
  streamSequence : p.streamSequence = e.streamSequence

/-- Deliveries are listed of entries. -/
def EventLog.Lists (log : EventLog) (r : DeliveryScanResult) : Prop :=
  ∀ deliveries, r = .ok deliveries → ∀ p ∈ deliveries, ∃ e, log.Has p.eventId e ∧ e.Listed p

/-- Something was changed about an entry. -/
def EventLog.Updates (log : EventLog) (eventId : String) (r : CasResult) : Prop :=
  r = .updated → ∃ e, log.Has eventId e

/-! ## What becomes of a request -/

/-- The answers to a request that is not refused. -/
inductive AcceptVerdict where
  | accepted | duplicate | conflict | sequence
  deriving DecidableEq

/-- The verdict on a request after those that were accepted before. -/
def acceptVerdict (history : List AcceptRequest) (req : AcceptRequest) : AcceptVerdict :=
  match history.find? fun req' => req'.eventId = req.eventId with
  | some req' =>
      if req'.requestFingerprint = req.requestFingerprint then .duplicate else .conflict
  | none =>
      if ∃ req' ∈ history, req'.formattedProducerKey = req.formattedProducerKey ∧
          req.producerOperationSequence ≤ req'.producerOperationSequence then .sequence
      else .accepted

def AcceptResult.verdict? : AcceptResult → Option AcceptVerdict
  | .accepted _ => some .accepted
  | .existingDuplicate _ => some .duplicate
  | .fingerprintConflict _ => some .conflict
  | .sequenceConflict _ => some .sequence
  | _ => none

/-- The request of an `Accepted` answer. -/
def JournalEvent.acceptedRequest? (ev : JournalEvent) : Option AcceptRequest :=
  match ev with
  | ⟨_, .accept req, .accepted _⟩ => some req
  | _ => none

theorem JournalEvent.eq_of_acceptedRequest? {ev : JournalEvent} {req : AcceptRequest}
    (h : ev.acceptedRequest? = some req) : ∃ env a, ev = ⟨env, .accept req, .accepted a⟩ := by
  unfold JournalEvent.acceptedRequest? at h
  split at h
  · rename_i env req' a
    cases h
    exact ⟨env, a, rfl⟩
  · cases h

/-- The accepted requests of a trace, oldest first. -/
def acceptHistory (tr : List JournalEvent) : List AcceptRequest :=
  tr.filterMap JournalEvent.acceptedRequest?

/-- The requests of the entries. -/
def EventLog.requests (log : EventLog) : List AcceptRequest :=
  log.entries.map (·.request)

theorem EventLog.Has.find_request {log : EventLog} {eventId : String} {e : LogEntry}
    (he : log.Has eventId e) :
    (log.requests.find? fun req => req.eventId = eventId) = some e.request := by
  cases hfind : log.requests.find? fun req => req.eventId = eventId with
  | none =>
      have hno := List.find?_eq_none.mp hfind _ (List.mem_map_of_mem he.mem)
      exact absurd (decide_eq_true he.eventId) hno
  | some req =>
      obtain ⟨e', he', rfl⟩ := List.mem_map.mp (List.mem_of_find?_eq_some hfind)
      have hid : e'.request.eventId = eventId := by simpa using List.find?_some hfind
      rw [he.unique ⟨he', hid⟩]

theorem EventLog.Lacks.find_request {log : EventLog} {eventId : String}
    (h : log.Lacks eventId) : (log.requests.find? fun req => req.eventId = eventId) = none := by
  rw [List.find?_eq_none]
  intro req hreq hid
  obtain ⟨e, he, rfl⟩ := List.mem_map.mp hreq
  exact h e he (of_decide_eq_true hid)

variable [Sha256]

/-- An answer to an `accept` has the numbers of the entry. -/
structure LogEntry.Reported (e : LogEntry) (a : AcceptedEvent) : Prop where
  eventId : a.eventId = e.request.eventId
  journalSequence : a.journalSequence = e.journalSequence
  streamSequence : a.streamSequence = e.streamSequence
  envelopeChecksum : a.envelopeChecksum =
    e.request.envelopeChecksum e.journalSequence e.streamSequence

/-- A status has the numbers and the digests of the entry. -/
structure LogEntry.Described (e : LogEntry) (st : PersistedStatus) : Prop where
  eventId : st.eventId = e.request.eventId
  journalSequence : st.journalSequence = e.journalSequence
  streamSequence : st.streamSequence = e.streamSequence
  payloadDigest : st.payloadDigest = computeSha256 e.request.payload
  envelopeChecksum : st.envelopeChecksum =
    e.request.envelopeChecksum e.journalSequence e.streamSequence

/-- What the log answers to a request that it does not take. -/
def EventLog.AnswersAccept (log : EventLog) (req : AcceptRequest) : AcceptResult → Prop
  | .existingDuplicate a => ∃ e, log.Has req.eventId e ∧
      e.request.requestFingerprint = req.requestFingerprint ∧ e.Reported a
  | .fingerprintConflict eventId => eventId = req.eventId ∧ ∃ e, log.Has req.eventId e ∧
      e.request.requestFingerprint ≠ req.requestFingerprint
  | .sequenceConflict detail => log.Lacks req.eventId ∧
      ∃ e, (producerEntries log.entries req.formattedProducerKey).getLast? = some e ∧
        req.producerOperationSequence ≤ e.request.producerOperationSequence ∧
        detail = producerSequenceConflict req.producerOperationSequence
          e.request.producerOperationSequence e.request.eventId
  | _ => False

/-- What the log answers, by the method. -/
def EventLog.Answers (log : EventLog) : (c : JournalCall) → c.Reply → Prop
  | .accept req, r => log.AnswersAccept req r
  | .getStatus eventId, r => (∃ e st, r = .found st ∧ log.Has eventId e ∧ e.Described st) ∨
      r = .notFound ∧ log.Lacks eventId
  | .getStatusByJournalSeq journalSeq, r =>
      (∃ e st, r = .found st ∧ e ∈ log.entries ∧ e.journalSequence = journalSeq ∧
        e.Described st) ∨
      r = .notFound ∧ ∀ e ∈ log.entries, e.journalSequence ≠ journalSeq
  | .verifyPayload eventId, r => (r = .ok ∧ ∃ e, log.Has eventId e) ∨
      r = .notFound ∧ log.Lacks eventId
  | .readVerifiedPayload eventId, r =>
      (∃ e, r = .found e.request.payload ∧ log.Has eventId e) ∨
      r = .notFound ∧ log.Lacks eventId
  | .getDeliveryState eventId, r => ∀ s, r = .found s → ∃ e, log.Has eventId e
  | .getDeliveryCandidate eventId, r =>
      ∀ c, r = .found c → ∃ e, log.Has eventId e ∧ e.Routes c
  | .updateLifecycle eventId .., r => log.Updates eventId r
  | .createDeliveryPending eventId .., r => log.Updates eventId r
  | .recordDeliveryAttempt attempt, r => log.Updates attempt.eventId r
  | .confirmReplicatedDelivery eventId .., r => log.Updates eventId r
  | .blockDelivery eventId .., r => log.Updates eventId r
  | .updateDeliveryRetry eventId .., r => log.Updates eventId r
  | .scanPendingDeliveries _, r => log.Lists r
  | .scanRetryingDeliveries .., r => log.Lists r
  | .scanDeliveryGateStates _, r => log.Lists r
  | .shutdown, _ => True
  | .isShutdown, _ => True

/-- The entry an accepted request becomes. -/
def AcceptRequest.entry (req : AcceptRequest) (nowMs : Int) (a : AcceptedEvent) : LogEntry :=
  ⟨req, nowMs, a.journalSequence, a.streamSequence⟩

/-- One call of a client. -/
inductive EventLog.Step (log : EventLog) : JournalEvent → EventLog → Prop
  | accepted {env req a} (he : (req.entry env.nowMs a).Follows log.entries)
      (ha : (req.entry env.nowMs a).Reported a) :
      Step log ⟨env, .accept req, .accepted a⟩ (log.append _ he)
  | answered {ev} (h : log.Answers ev.call ev.reply) : Step log ev log
  | refused {ev} (h : ev.call.Refuses ev.reply) : Step log ev log

def eventLogLts : Lts EventLog JournalEvent := ⟨EventLog.Step⟩

/-- An entry is never changed or removed. -/
theorem EventLog.Step.keeps {log log' : EventLog} {ev : JournalEvent} (h : log.Step ev log')
    {eventId : String} {e : LogEntry} (he : log.Has eventId e) : log'.Has eventId e := by
  cases h with
  | accepted => exact ⟨List.mem_append_left _ he.mem, he.eventId⟩
  | answered => exact he
  | refused => exact he

theorem eventLogRun_keeps {log log' : EventLog} {tr : List JournalEvent}
    (hrun : eventLogLts.Run log tr log') {eventId : String} {e : LogEntry}
    (he : log.Has eventId e) : log'.Has eventId e :=
  hrun.invariant (P := fun l => l.Has eventId e) (Q := fun _ => True) (fun _ _ => trivial) he
    fun _ _ _ _ hpre hst => EventLog.Step.keeps hst hpre

/-- An acceptance is neither an answer of the log nor refused. -/
theorem EventLog.not_answers_accepted (log : EventLog) {req : AcceptRequest}
    {a : AcceptedEvent} :
    ¬ (log.Answers (.accept req) (.accepted a) ∨
      JournalCall.Refuses (.accept req) (.accepted a)) := by
  rintro (h | h)
  · exact h
  · simp [JournalCall.Refuses] at h

/-- An accepted request is in the log as its answer says. -/
theorem eventLogRun_accepted {log log' : EventLog} {tr : List JournalEvent}
    (hrun : eventLogLts.Run log tr log') {env : CallEnv} {req : AcceptRequest}
    {a : AcceptedEvent} (hmem : (⟨env, .accept req, .accepted a⟩ : JournalEvent) ∈ tr) :
    ∃ e, log'.Has req.eventId e ∧ e.request = req ∧ e.Reported a := by
  obtain ⟨before, after, rfl⟩ := List.append_of_mem hmem
  obtain ⟨t, u, -, hst, hrest⟩ := hrun.step_at
  generalize hev : (⟨env, .accept req, .accepted a⟩ : JournalEvent) = ev at hst
  cases hst with
  | accepted he ha =>
      cases hev
      exact ⟨_, eventLogRun_keeps hrest ⟨List.mem_append_right _ (by simp), rfl⟩, rfl, ha⟩
  | answered h =>
      subst hev
      exact absurd (.inl h) t.not_answers_accepted
  | refused h =>
      subst hev
      exact absurd (.inr h) t.not_answers_accepted

/-- A step adds the request that it accepts. -/
theorem EventLog.Step.requests {log log' : EventLog} {ev : JournalEvent}
    (h : log.Step ev log') : log'.requests = log.requests ++ ev.acceptedRequest?.toList := by
  have hsame : log.Answers ev.call ev.reply ∨ ev.call.Refuses ev.reply →
      log.requests = log.requests ++ ev.acceptedRequest?.toList := by
    intro hno
    cases hreq : ev.acceptedRequest? with
    | none => simp
    | some req =>
        obtain ⟨env, a, rfl⟩ := JournalEvent.eq_of_acceptedRequest? hreq
        exact absurd hno log.not_answers_accepted
  cases h with
  | accepted he => exact List.map_append
  | answered h => exact hsame (.inl h)
  | refused h => exact hsame (.inr h)

/-- The entries are the accepted requests, in order. -/
theorem eventLogRun_requests {log : EventLog} {tr : List JournalEvent}
    (hrun : eventLogLts.Run .empty tr log) : log.requests = acceptHistory tr := by
  induction hrun with
  | nil => rfl
  | snoc hrun hst ih =>
      unfold acceptHistory at ih ⊢
      rw [Lts.filterMap_snoc, ← ih]
      exact EventLog.Step.requests hst

/-! ## What is told of an entry -/

section Told

variable {log log' : EventLog} {e : LogEntry} {env : CallEnv} {eventId : String}

theorem EventLog.Has.status (he : log.Has eventId e) {r : StatusResult}
    (h : log.Step ⟨env, .getStatus eventId, r⟩ log') :
    JournalCall.Refuses (.getStatus eventId) r ∨ ∃ st, r = .found st ∧ e.Described st := by
  cases h with
  | answered h =>
      rcases h with ⟨e', st, hr, he', hdesc⟩ | ⟨-, hlacks⟩
      · obtain rfl := he.unique he'
        exact .inr ⟨st, hr, hdesc⟩
      · exact absurd hlacks he.not_lacks
  | refused h => exact .inl h

theorem EventLog.Has.statusByJournalSeq (he : log.Has eventId e) {r : StatusResult}
    (h : log.Step ⟨env, .getStatusByJournalSeq e.journalSequence, r⟩ log') :
    JournalCall.Refuses (.getStatusByJournalSeq e.journalSequence) r ∨
      ∃ st, r = .found st ∧ e.Described st := by
  cases h with
  | answered h =>
      rcases h with ⟨e', st, hr, hmem, hseq, hdesc⟩ | ⟨-, hnone⟩
      · obtain rfl := EventLog.unique_of_journalSequence hmem he.mem hseq
        exact .inr ⟨st, hr, hdesc⟩
      · exact absurd rfl (hnone e he.mem)
  | refused h => exact .inl h

theorem EventLog.Has.verified (he : log.Has eventId e) {r : VerifyResult}
    (h : log.Step ⟨env, .verifyPayload eventId, r⟩ log') :
    JournalCall.Refuses (.verifyPayload eventId) r ∨ r = .ok := by
  cases h with
  | answered h =>
      rcases h with ⟨hr, -⟩ | ⟨-, hlacks⟩
      · exact .inr hr
      · exact absurd hlacks he.not_lacks
  | refused h => exact .inl h

theorem EventLog.Has.payload (he : log.Has eventId e) {r : PayloadReadResult}
    (h : log.Step ⟨env, .readVerifiedPayload eventId, r⟩ log') :
    JournalCall.Refuses (.readVerifiedPayload eventId) r ∨ r = .found e.request.payload := by
  cases h with
  | answered h =>
      rcases h with ⟨e', hr, he'⟩ | ⟨-, hlacks⟩
      · obtain rfl := he.unique he'
        exact .inr hr
      · exact absurd hlacks he.not_lacks
  | refused h => exact .inl h

/-- An event that is in the log is not accepted again. -/
theorem EventLog.Has.accept {req : AcceptRequest} (he : log.Has req.eventId e)
    {r : AcceptResult} (h : log.Step ⟨env, .accept req, r⟩ log') :
    JournalCall.Refuses (.accept req) r ∨
      (e.request.requestFingerprint = req.requestFingerprint ∧
        ∃ a, r = .existingDuplicate a ∧ e.Reported a) ∨
      (e.request.requestFingerprint ≠ req.requestFingerprint ∧
        r = .fingerprintConflict req.eventId) := by
  cases h with
  | accepted hfollows => exact absurd he.eventId (hfollows.fresh e he.mem)
  | answered h =>
      cases r with
      | existingDuplicate a =>
          obtain ⟨e', he', hfp, hrep⟩ := h
          obtain rfl := he.unique he'
          exact .inr (.inl ⟨hfp, a, rfl, hrep⟩)
      | fingerprintConflict id =>
          obtain ⟨rfl, e', he', hfp⟩ := h
          obtain rfl := he.unique he'
          exact .inr (.inr ⟨hfp, rfl⟩)
      | sequenceConflict detail => exact absurd h.1 he.not_lacks
      | _ => exact absurd h id
  | refused h => exact .inl h

/-- The verdict on a request is a function of the requests that the log has. -/
theorem EventLog.Step.verdict {req : AcceptRequest} {r : AcceptResult}
    (h : log.Step ⟨env, .accept req, r⟩ log') (hr : ¬ JournalCall.Refuses (.accept req) r) :
    r.verdict? = some (acceptVerdict log.requests req) := by
  unfold acceptVerdict
  cases h with
  | accepted hfollows =>
      have hlacks : log.Lacks req.eventId := hfollows.fresh
      have hbelow : ¬ ∃ req' ∈ log.requests,
          req'.formattedProducerKey = req.formattedProducerKey ∧
            req.producerOperationSequence ≤ req'.producerOperationSequence := by
        rintro ⟨req', hreq', hkey, hle⟩
        obtain ⟨e, he, rfl⟩ := List.mem_map.mp hreq'
        have hlt := hfollows.producer e (List.mem_filter.mpr ⟨he, decide_eq_true hkey⟩)
        exact absurd hlt (not_lt_of_ge hle)
      rw [hlacks.find_request]
      simp only [if_neg hbelow, AcceptResult.verdict?]
  | answered h =>
      cases r with
      | existingDuplicate a =>
          obtain ⟨e, he, hfp, -⟩ := h
          rw [he.find_request]
          simp only [if_pos hfp, AcceptResult.verdict?]
      | fingerprintConflict id =>
          obtain ⟨-, e, he, hfp⟩ := h
          rw [he.find_request]
          simp only [if_neg hfp, AcceptResult.verdict?]
      | sequenceConflict detail =>
          obtain ⟨hlacks, e, hlast, hle, -⟩ := h
          have hmem := List.mem_filter.mp (List.mem_of_getLast? hlast)
          have hused : ∃ req' ∈ log.requests,
              req'.formattedProducerKey = req.formattedProducerKey ∧
                req.producerOperationSequence ≤ req'.producerOperationSequence :=
            ⟨e.request, List.mem_map_of_mem hmem.1, of_decide_eq_true hmem.2, hle⟩
          rw [hlacks.find_request]
          simp only [if_pos hused, AcceptResult.verdict?]
      | _ => exact absurd h id
  | refused h => exact absurd h hr

end Told

end CraftRelay
