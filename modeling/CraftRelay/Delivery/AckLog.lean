import CraftRelay.Lib.Consumed
import CraftRelay.Delivery.Acknowledged
import CraftRelay.Delivery.OneService

/-!
# The log of acknowledgements

One service on a journal that clients feed, and a producer that answers under the topic
it was asked to send to. Between the answer to a send and the confirmation of its event
nothing else is acknowledged, so at rest the acknowledged events are the replicated ones,
and what is sent is the first event of its stream that is not.
-/

namespace CraftRelay

/-- The request of a send that was acknowledged. -/
def WorldEvent.acknowledged? : WorldEvent → Option SendRequest
  | .send _ request (.ok _) => some request
  | _ => none

/-- The acknowledged sends of a run, oldest first. -/
def acknowledged (tr : List WorldEvent) : List SendRequest :=
  tr.filterMap WorldEvent.acknowledged?

theorem acknowledged_snoc (tr : List WorldEvent) (ev : WorldEvent) :
    acknowledged (tr ++ [ev]) = acknowledged tr ++ ev.acknowledged?.toList :=
  Lts.filterMap_snoc _ _ _

/-- An acknowledgement names the topic of its request. -/
def WorldEvent.EchoesTopic : WorldEvent → Prop
  | .send _ request (.ok success) => success.topic = request.topic
  | _ => True

/-- The logged events are the replicated ones. -/
def Db.Logs (db : Db) (log : List String) : Prop := ∀ e, e ∈ log ↔ db.Replicated e

variable [Sha256]

theorem LocalJournal.FedTo.replicated {o : StreamOwner} {j j' : LocalJournal}
    (h : j.FedTo o j') (e : String) : j'.db.Replicated e ↔ j.db.Replicated e := by
  obtain ⟨⟨tr, hrun, hfeeds⟩, -⟩ := h
  refine hrun.invariant (P := fun j' => j'.db.Replicated e ↔ j.db.Replicated e) hfeeds Iff.rfl ?_
  intro t ev u hev ih hst
  exact ((journalStep_cases hst).feeds_replicated hev e).trans ih

theorem LocalJournal.exec_step {j j' : LocalJournal} {env : CallEnv} {call : JournalCall}
    {r : call.Reply} (h : j.exec env call = some (j', r)) : DbStep env j.db call r j'.db :=
  journalStep_cases (show journalLts.step j ⟨env, call, r⟩ j' from h)

/-- Nothing but a confirmation replicates an event. -/
theorem DbStep.replicated_iff {env : CallEnv} {db db' : Db} {c : JournalCall} {r : c.Reply}
    (h : DbStep env db c r db') (hc : ¬ c.Confirms) (e : String) :
    db'.Replicated e ↔ db.Replicated e := by
  refine ⟨?_, h.keepsReplicated⟩
  rintro ⟨d, hd, hrep⟩
  rcases h.ack_cases hd hrep with ⟨d₀, hd₀, hack⟩ | ⟨rev, k, rfl, -⟩
  · exact ⟨d₀, hd₀, (congrArg Prod.fst hack).trans hrep⟩
  · exact absurd trivial hc

theorem Db.Logs.fed {o : StreamOwner} {j j' : LocalJournal} {log : List String}
    (h : j.db.Logs log) (hfed : j.FedTo o j') : j'.db.Logs log :=
  fun e => (h e).trans (hfed.replicated e).symm

/-- The event of the request is the first of its stream that is not replicated. -/
def Db.NextToSend (db : Db) (request : SendRequest) : Prop :=
  ∃ v, db.storedEnvelope.find? request.eventId = some v ∧
    db.ReplicatedTo v.logicalStream v.streamSequence

/-- The one service, with the events that were acknowledged to it. -/
def logTracking (o : StreamOwner) : Tracking (List String) where
  thread := 0
  next log ev := log ++ (ev.acknowledged?.map (·.eventId)).toList
  admits _ _ ev j' := (ev.OneService ∧ ev.EchoesTopic) ∧ j'.db.OwnedBy o
  rely := LocalJournal.FedTo o
  idle j log svc := svc.Tends o (fun _ => True) j ∧ j.db.Logs log
  post _ _ _ := True
  guard j log e := ∀ request, e = .send request → j.db.Logs log ∧ j.db.NextToSend request
  refl := LocalJournal.FedTo.refl
  trans _ _ _ := LocalJournal.FedTo.trans
  stable := by
    rintro j j' log svc ⟨htends, hlogs⟩ hfed
    exact ⟨hfed.tends htends, hlogs.fed hfed⟩

theorem logTracking_next {o : StreamOwner} {log : List String} {ev : WorldEvent}
    (h : ev.acknowledged? = none) : (logTracking o).next log ev = log := by
  show log ++ (ev.acknowledged?.map (·.eventId)).toList = log
  rw [h]
  exact List.append_nil log

/-! ## Methods that acknowledge nothing -/

/-- The operation is a send or a confirmation. -/
def Effect.Acknowledges : Effect → Prop
  | .send _ => True
  | .journal call => call.Confirms
  | .clock => False

/-- What neither sends nor confirms leaves the log as it is. -/
theorem Tracking.SafeProg.logged {o : StreamOwner} {c : ServiceCall} {j : LocalJournal}
    {log : List String} {p : ServiceProg c.Reply} (h : (serviceTracking o).SafeProg c j () p)
    (hquiet : p.AtMost Effect.Acknowledges 0) (hlogs : j.db.Logs log) :
    (logTracking o).SafeProg c j log p := by
  induction p generalizing j with
  | done a =>
      rintro ⟨j', log'⟩ ⟨hfed, hlog⟩
      cases hlog
      obtain ⟨htends, -⟩ := h (j', ()) ⟨hfed, rfl⟩
      refine ⟨⟨htends, ?_⟩, trivial⟩
      show j'.db.Logs ((logTracking o).next log _)
      rw [logTracking_next rfl]
      exact hlogs.fed hfed
  | op e k ih =>
      rintro ⟨j', log'⟩ ⟨hfed, hlog⟩
      cases hlog
      obtain ⟨-, hnext⟩ := h (j', ()) ⟨hfed, rfl⟩
      have hlogs' : j'.db.Logs log := hlogs.fed hfed
      cases hquiet with
      | other he hk =>
          refine ⟨?_, ?_⟩
          · rintro request rfl
            exact absurd trivial he
          rintro r ⟨j'', log''⟩ ⟨ev, hperf, ⟨⟨hone, -⟩, howned⟩, hlog⟩
          have hsafe := hnext r (j'', ()) ⟨ev, hperf, ⟨hone, howned⟩, rfl⟩
          have hsame : ev.acknowledged? = none ∧ j''.db.Logs log := by
            cases hperf with
            | send => exact absurd trivial he
            | clock => exact ⟨rfl, hlogs'⟩
            | journal hj =>
                have hst := LocalJournal.exec_step hj
                exact ⟨rfl, fun e => (hlogs' e).trans (hst.replicated_iff he e).symm⟩
          have hlog : log'' = (logTracking o).next log ev := hlog
          rw [logTracking_next hsame.1] at hlog
          subst hlog
          exact ih r hsafe (hk r) hsame.2

namespace DeliveryService

section Quiet

omit [Sha256]

variable (svc : DeliveryService) (e : String)

theorem blockAndMark_quiet (streamKey : String) (streamSequence rev : Int) (reason : String) :
    (svc.blockAndMark e streamKey streamSequence rev reason).AtMost Effect.Acknowledges 0 := by
  refine .other id fun r => ?_
  cases r <;> exact .done _ _

theorem retryOrBlock_quiet (candidate : DeliveryCandidate) (sendErr : SendError)
    (nowMs : Int) :
    (svc.retryOrBlock e candidate sendErr nowMs).AtMost Effect.Acknowledges 0 := by
  unfold DeliveryService.retryOrBlock
  simp only
  split
  · split
    · refine .other id fun r => ?_
      cases r <;> exact .done _ _
    · exact svc.blockAndMark_quiet e _ _ _ _
  · exact svc.blockAndMark_quiet e _ _ _ _

theorem recordFailure_quiet (candidate : DeliveryCandidate) (routing : RoutingResolution)
    (sendErr : SendError) :
    (svc.recordFailure e candidate routing sendErr).AtMost Effect.Acknowledges 0 := by
  refine .other id fun nowMs => .other id fun r => ?_
  cases r with
  | updated => exact svc.retryOrBlock_quiet e _ _ _
  | _ => exact .done _ _

end Quiet

/-! ## The walk through the method -/

variable {o : StreamOwner} {e : String} {v : StoredEnvelope} {s : DeliveryStateRecord}
  {j : LocalJournal} {svc svc' : DeliveryService} {log : List String}

theorem Tends.finishLogged (h : svc.Tends o (fun _ => True) j) (hlogs : j.db.Logs log)
    (out : DeliveryOutcome) :
    (logTracking o).SafeProg (.attemptDelivery e) j log (.done (svc, out)) :=
  (h.finish out).logged (.done _ _) hlogs

/-- After an acknowledgement: the confirmation is persisted, so the log is again that of
the replicated events. -/
theorem At.confirmLogged (h : svc.At o (fun _ => True) e v s j) (hlogs : j.db.Logs log)
    (hsvc : svc' = svc.withGate (svc.gate.markInFlight v.streamKey v.streamSequence))
    {routing : RoutingResolution} {partition offset : Int} (hpartition : 0 ≤ partition)
    (hoffset : 0 ≤ offset) (hk : (svc.confirmation routing partition offset).Matches s) :
    (logTracking o).SafeProg (.attemptDelivery e) j (log ++ [e])
      (svc'.confirmSent e (v.candidate s) routing ⟨routing.topic, partition, offset⟩) := by
  subst hsvc
  refine Tracking.safeProg_journal ?_ (fun _ _ request heq => by cases heq)
  rintro j₁ env r j₂ hfed hexec ⟨⟨⟨-, henv⟩, -⟩, -⟩
  have hat := h.fed hfed
  have henv : env.Faultless := henv
  have hexec : j₁.exec env (.confirmReplicatedDelivery e s.deliveryRevision
      (svc.confirmation routing partition offset)) = some (j₂, r) := hexec
  obtain ⟨rfl, ht, henvelope⟩ := LocalJournal.confirms henv hat.tends.reachable.consistent
    hat.envelope hat.delivery hat.unconfirmed hk hexec
  have hst : journalLts.step j₁ ⟨env, .confirmReplicatedDelivery e s.deliveryRevision
    (svc.confirmation routing partition offset), .updated⟩ j₂ := hexec
  have htends := hat.confirmed hst henvelope ht
    (replicated_healthy (hat.tends.healthy.record hat.delivery) hk hpartition hoffset _ _) rfl
  rw [logTracking_next rfl]
  refine htends.finishLogged ?_ _
  -- the written row makes its event replicated, and no other
  intro e'
  unfold Db.Replicated
  rw [ht.exists_iff]
  split
  · rename_i he
    subst he
    exact ⟨fun _ => rfl, fun _ => by simp⟩
  · rename_i he
    rw [List.mem_append, List.mem_singleton, or_iff_left (Ne.symm he)]
    exact hlogs.fed hfed e'

/-- What the checks before a send say about the row. -/
theorem matches_of_checkBeforeSend {routing : RoutingResolution} {partition offset : Int}
    (h : svc.checkBeforeSend (v.candidate s) = .ok routing) :
    (svc.confirmation routing partition offset).Matches s := by
  obtain ⟨-, hfingerprint, ⟨hid, hversion⟩, htopic, -⟩ := checkBeforeSend_eq_ok h
  exact ⟨hfingerprint, hid, hversion, htopic⟩

theorem At.sendLogged (h : svc.At o (fun _ => True) e v s j) (hlogs : j.db.Logs log)
    (hunblocked : s.deliveryStatus ≠ "DELIVERY_BLOCKED") {routing : RoutingResolution}
    (hcheck : svc.checkBeforeSend (v.candidate s) = .ok routing) :
    (logTracking o).SafeProg (.attemptDelivery e) j log
      (svc.sendPayload e (v.candidate s) routing) := by
  refine Tracking.safeProg_journal ?_ (fun _ _ request heq => by cases heq)
  rintro j₁ env r j₂ hfed hexec -
  obtain ⟨rfl, hread⟩ := LocalJournal.read_eq_some hexec
  have hat := h.fed hfed
  have hlogs₁ : j₁.db.Logs log := hlogs.fed hfed
  rw [logTracking_next rfl]
  cases r with
  | found payload =>
      refine Tracking.safeProg_send ?_ ?_
      · rintro j₂ r hfed₂ ⟨⟨⟨-, hcoordinates⟩, htopic⟩, -⟩
        have hat₂ := hat.fed hfed₂
        have hlogs₂ : j₂.db.Logs log := hlogs₁.fed hfed₂
        cases r with
        | ok success =>
            obtain ⟨hpartition, hoffset⟩ := hcoordinates success rfl
            obtain ⟨topic, partition, offset⟩ := success
            have htopic : topic = routing.topic := htopic
            subst htopic
            exact hat₂.confirmLogged hlogs₂ rfl hpartition hoffset (matches_of_checkBeforeSend hcheck)
        | error sendErr =>
            rw [logTracking_next rfl]
            exact (hat₂.recordFailure rfl hunblocked).logged (recordFailure_quiet _ _ _ _ _) hlogs₂
      · rintro j₂ hfed₂ request ⟨⟩
        exact ⟨hlogs₁.fed hfed₂, v, (hat.fed hfed₂).envelope, (hat.fed hfed₂).here⟩
  | _ => exact (hat.blocking (.inl rfl)).finishLogged hlogs₁ _

theorem Tends.deliverLogged (h : svc.Tends o (fun _ => True) j) (hlogs : j.db.Logs log)
    (hv : j.db.storedEnvelope.find? e = some v) (hs : j.db.HasDelivery e s) :
    (logTracking o).SafeProg (.attemptDelivery e) j log
      (svc.deliverCandidate e (v.candidate s)) := by
  unfold DeliveryService.deliverCandidate
  split
  · exact h.finishLogged hlogs _
  rename_i hgate
  have hat := h.at_of_allowed hv hs hgate
  unfold DeliveryService.deliverAllowed
  simp only
  split
  · rename_i hrep
    exact absurd hrep hat.unconfirmed
  split
  · exact (hat.blocking (.inl rfl)).finishLogged hlogs _
  rename_i hunblocked
  split
  · rename_i reason hcheck
    exact (hat.blockAndMark (fun _ _ => trivial) (.inl rfl) rfl
      (checkBeforeSend_error_ne hcheck)).logged (blockAndMark_quiet _ _ _ _ _ _) hlogs
  · rename_i routing hcheck
    exact hat.sendLogged hlogs hunblocked hcheck

theorem Tends.attemptLogged (h : svc.Tends o (fun _ => True) j) (hlogs : j.db.Logs log) :
    (logTracking o).SafeProg (.attemptDelivery e) j log (svc.attemptDelivery e) := by
  unfold DeliveryService.attemptDelivery
  split
  · exact h.finishLogged hlogs _
  refine Tracking.safeProg_journal ?_ (fun _ _ request heq => by cases heq)
  rintro j₁ env r j₂ hfed hexec -
  obtain ⟨rfl, hload⟩ := LocalJournal.read_eq_some hexec
  have h := LocalJournal.FedTo.tends hfed h
  have hlogs₁ : j₁.db.Logs log := hlogs.fed hfed
  rw [logTracking_next rfl]
  cases r with
  | found candidate =>
      obtain ⟨hstate, -, v, hv, -, hdesc⟩ := loadDeliveryCandidate_found_iff.mp hload
      obtain ⟨-, hrow, hver⟩ := loadDeliveryState_found_iff.mp hstate
      show (logTracking o).SafeProg (.attemptDelivery e) _ log (svc.deliverCandidate e candidate)
      rw [hdesc.eq_candidate]
      exact h.deliverLogged hlogs₁ hv ⟨hrow, hver⟩
  | _ => exact h.finishLogged hlogs₁ _

end DeliveryService

/-! ## Runs -/

theorem logTracking_sound (o : StreamOwner) : (logTracking o).Sound where
  others := by
    rintro w log ev w' hev hst ⟨⟨hone, hecho⟩, howned⟩
    obtain ⟨-, hrely⟩ := (serviceTracking_sound o).others w () ev w' hev hst ⟨hone, howned⟩
    refine ⟨logTracking_next ?_, hrely⟩
    cases ev with
    | send i request r => exact absurd (congrArg some hone.1) hev
    | _ => rfl
  install _ _ _ h := absurd h.1.1 id
  call := by
    rintro j log c svc ⟨⟨⟨-, e, rfl⟩, -⟩, -⟩ ⟨htends, hlogs⟩
    rw [logTracking_next rfl]
    exact htends.attemptLogged hlogs

theorem logTracking_foldl (o : StreamOwner) (tr : List WorldEvent) :
    tr.foldl (logTracking o).next [] = (acknowledged tr).map (·.eventId) := by
  induction tr using List.reverseRecOn with
  | nil => rfl
  | append_singleton tr ev ih =>
      rw [List.foldl_append, ih, acknowledged_snoc, List.map_append]
      show _ ++ (ev.acknowledged?.map (·.eventId)).toList = _
      cases ev.acknowledged? <;> rfl

/-- In a run of one service on an empty journal, with one stream per key, the service is
followed with what was acknowledged to it. -/
theorem worldRun_logged {o : StreamOwner} {config : JournalConfig}
    {profile : Nat → KafkaProductionProfile} {tr : List WorldEvent} {w : World}
    (hrun : worldLts.Run (World.start (LocalJournal.open config) profile) tr w)
    (hone : ∀ ev ∈ tr, ev.OneService) (hecho : ∀ ev ∈ tr, ev.EchoesTopic)
    (howned : w.journal.db.OwnedBy o) :
    (logTracking o).ThreadSafe w.journal ((acknowledged tr).map (·.eventId)) (w.threads 0) := by
  rw [← logTracking_foldl o]
  refine Tracking.thread_run (logTracking_sound o) hrun ?_ ?_
  · refine ⟨DeliveryService.tends_new o config (profile 0), fun e => ?_⟩
    constructor
    · intro he
      cases he
    · rintro ⟨d, hd, -⟩
      cases hd
  · intro tr₁ ev tr₂ w₁ w₂ htr _ _ hrun₂
    have hev : ev ∈ tr := by
      rw [htr]
      simp
    refine ⟨⟨hone ev hev, hecho ev hev⟩, ?_⟩
    -- the envelopes of this state are still there at the end
    intro v hv
    obtain ⟨tr', hrest⟩ := worldRun_journal hrun₂
    exact howned v (KeyedTable.mem_of_find?
      (journalRun_keepsEnvelope hrest (KeyedTable.find?_of_mem hv)))

/-! ## Streams as queues -/

/-- The request a client had accepted. -/
def WorldEvent.acceptedRequest? : WorldEvent → Option AcceptRequest
  | .client ⟨_, .accept req, .accepted _⟩ => some req
  | _ => none

/-- The accepted requests of a run, oldest first. -/
def acceptedRequests (tr : List WorldEvent) : List AcceptRequest :=
  tr.filterMap WorldEvent.acceptedRequest?

def AcceptRequest.logicalStream (req : AcceptRequest) : LogicalStream :=
  (req.installationId, req.namespace, req.logicalStreamType, req.streamKey)

/-- The events accepted into a stream with their payloads. -/
def acceptedTo (L : LogicalStream) (tr : List WorldEvent) : List (String × Bytes) :=
  ((acceptedRequests tr).filter (·.logicalStream = L)).map fun req => (req.eventId, req.payload)

/-- The acknowledged events of a stream with the payloads they were sent with. -/
def acknowledgedTo (L : LogicalStream) (tr : List WorldEvent) : List (String × Bytes) :=
  ((acknowledged tr).map fun request => (request.eventId, request.payload)).filter
    fun sent => sent.1 ∈ (acceptedTo L tr).map Prod.fst

/-- The stored events of a stream, in journal order. -/
def Db.streamIds (db : Db) (L : LogicalStream) : List String :=
  (db.storedEnvelope.rows.filter (·.logicalStream = L)).map (·.eventId)

section Queues

omit [Sha256]

theorem acceptedRequests_snoc (tr : List WorldEvent) (ev : WorldEvent) :
    acceptedRequests (tr ++ [ev]) = acceptedRequests tr ++ ev.acceptedRequest?.toList :=
  Lts.filterMap_snoc _ _ _

theorem acceptedIn_iff {tr : List WorldEvent} {req : AcceptRequest} :
    AcceptedIn tr req ↔ req ∈ acceptedRequests tr := by
  unfold AcceptedIn acceptedRequests
  rw [List.mem_filterMap]
  constructor
  · rintro ⟨env, a, hmem⟩
    exact ⟨_, hmem, rfl⟩
  · rintro ⟨ev, hev, hreq⟩
    unfold WorldEvent.acceptedRequest? at hreq
    split at hreq
    · cases hreq
      exact ⟨_, _, hev⟩
    · cases hreq

variable {db : Db} {L : LogicalStream} {e : String}

theorem Db.mem_streamIds : e ∈ db.streamIds L ↔
    ∃ v, db.storedEnvelope.find? e = some v ∧ v.logicalStream = L := by
  unfold Db.streamIds
  rw [List.mem_map]
  constructor
  · rintro ⟨v, hv, rfl⟩
    rw [List.mem_filter, decide_eq_true_iff] at hv
    exact ⟨v, KeyedTable.find?_of_mem hv.1, hv.2⟩
  · rintro ⟨v, hv, hL⟩
    exact ⟨v, List.mem_filter.mpr ⟨KeyedTable.mem_of_find? hv, decide_eq_true hL⟩,
      KeyedTable.key_of_find? hv⟩

theorem Db.streamIds_nodup : (db.streamIds L).Nodup :=
  db.storedEnvelope.nodup.sublist (List.filter_sublist.map _)

/-- The first event stands before the second in their stream. -/
def Db.Precedes (db : Db) (e₁ e₂ : String) : Prop :=
  ∀ u v, db.storedEnvelope.find? e₁ = some u → db.storedEnvelope.find? e₂ = some v →
    u.streamSequence < v.streamSequence

theorem Db.Gapless.streamIds_ordered (hg : db.Gapless) :
    (db.streamIds L).Pairwise db.Precedes := by
  have hstream : (db.streamEnvelopes L.formattedKey).Pairwise
      fun u v => u.streamSequence < v.streamSequence := by
    have hsorted := countUp_sorted (db.streamEnvelopes L.formattedKey).length
    rw [← hg.stream, List.pairwise_map] at hsorted
    exact hsorted
  -- the rows of the stream are among those under its formatted key
  have hrows : db.storedEnvelope.rows.filter (·.logicalStream = L) =
      (db.streamEnvelopes L.formattedKey).filter (·.logicalStream = L) := by
    unfold Db.streamEnvelopes
    rw [List.filter_filter]
    refine List.filter_congr fun v _ => ?_
    by_cases hL : v.logicalStream = L
    · simp [hL, StoredEnvelope.formattedStreamKey_eq hL]
    · simp [hL]
  unfold Db.streamIds
  rw [hrows, List.pairwise_map]
  refine (hstream.filter _).imp_of_mem ?_
  intro u v hu hv hlt u' v' hu' hv'
  have hmem : ∀ {x}, x ∈ (db.streamEnvelopes L.formattedKey).filter (·.logicalStream = L) →
      db.storedEnvelope.find? x.eventId = some x := fun hx =>
    KeyedTable.find?_of_mem (List.mem_of_mem_filter (List.mem_of_mem_filter hx))
  cases (hmem hu).symm.trans hu'
  cases (hmem hv).symm.trans hv'
  exact hlt

/-- The next event to send is the one after those that were logged. -/
theorem Db.NextToSend.snoc [Sha256] {request : SendRequest} {log : List String}
    (h : db.NextToSend request) (hg : db.Gapless) (hlogs : db.Logs log)
    (hqueued : log.filter (· ∈ db.streamIds L) <+: db.streamIds L) :
    (log ++ [request.eventId]).filter (· ∈ db.streamIds L) <+: db.streamIds L := by
  obtain ⟨v, hv, hto⟩ := h
  rw [List.filter_append]
  by_cases hmem : request.eventId ∈ db.streamIds L
  · obtain ⟨v', hv', rfl⟩ := Db.mem_streamIds.mp hmem
    cases hv.symm.trans hv'
    have hv'' := KeyedTable.mem_of_find? hv
    have hid : v.eventId = request.eventId := KeyedTable.key_of_find? hv
    rw [List.filter_singleton, decide_eq_true hmem, cond_true]
    refine hqueued.snoc_of_before hg.streamIds_ordered Db.streamIds_nodup hmem ?_ ?_
    · intro hlogged
      have hrep := (hlogs _).mp (List.mem_of_mem_filter hlogged)
      rw [← hid] at hrep
      have := (hto.before v hv'' rfl).mp hrep
      omega
    · intro e he hbefore
      obtain ⟨u, hu, hL⟩ := Db.mem_streamIds.mp he
      have hlt := hbefore u v hu hv
      have hrep := (hto.before u (KeyedTable.mem_of_find? hu) hL).mpr hlt
      rw [show u.eventId = e from KeyedTable.key_of_find? hu] at hrep
      exact List.mem_filter.mpr ⟨(hlogs e).mpr hrep, decide_eq_true he⟩
  · rw [List.filter_singleton, decide_eq_false hmem, cond_false, List.append_nil]
    exact hqueued

end Queues

theorem AcceptedStep.streamIds {now : Int} {db db' : Db} {req : AcceptRequest}
    {a : AcceptedEvent} (h : AcceptedStep now db req a db') (L : LogicalStream) :
    db'.streamIds L =
      if req.logicalStream = L then db.streamIds L ++ [req.eventId] else db.streamIds L := by
  have hstream : (req.envelope now db.nextJournalSequence
      (db.nextStreamSequence req.formattedStreamKey)).logicalStream = req.logicalStream := rfl
  unfold Db.streamIds
  rw [h.storedEnvelope, List.filter_append, List.filter_singleton, hstream]
  split
  · rename_i hL
    rw [decide_eq_true hL, cond_true, List.map_append]
    rfl
  · rename_i hL
    rw [decide_eq_false hL, cond_false, List.append_nil]

/-- A step of the world accepted a client's request, or left the acceptance tables alone. -/
theorem worldStep_acceptance {w w' : World} {tr : List WorldEvent} {ev : WorldEvent}
    (hst : worldLts.step w ev w') (hat : ∀ k, (w.threads k).Grounded (performed tr)) :
    (∃ req now a, ev.acceptedRequest? = some req ∧
      AcceptedStep now w.journal.db req a w'.journal.db) ∨
    (ev.acceptedRequest? = none ∧ w.journal.db.SameAcceptance w'.journal.db) := by
  have hrefl : w.journal.db.SameAcceptance w.journal.db := ⟨rfl, rfl, rfl, rfl, rfl⟩
  cases hst with
  | client hj =>
      rename_i jev j'
      rcases (journalStep_cases hj).acceptance with ⟨req, a, hev, hacc⟩ | ⟨hev, hsame⟩
      · refine .inl ⟨req, _, a, ?_, hacc⟩
        have hev : jev = ⟨jev.env, .accept req, .accepted a⟩ := hev
        rw [hev]
        rfl
      · refine .inr ⟨?_, hsame⟩
        obtain ⟨env, call, r⟩ := jev
        cases call with
        | accept req =>
            cases r with
            | accepted a => cases hev
            | _ => rfl
        | _ => rfl
  | journal hthread hj =>
      rename_i i c call k env r j'
      have hgrounded := hat i
      rw [hthread] at hgrounded
      rcases (LocalJournal.exec_step hj).acceptance with ⟨req, a, hev, -⟩ | ⟨-, hsame⟩
      · cases hev
        exact absurd hgrounded.op.1 id
      · exact .inr ⟨rfl, hsame⟩
  | install | call | send | clock | «return» => exact .inr ⟨rfl, hrefl⟩

section Runs

variable {config : JournalConfig} {profile : Nat → KafkaProductionProfile}
  {tr : List WorldEvent} {w : World}

/-- The stored events of a stream are the accepted ones. -/
theorem worldRun_streamIds
    (hrun : worldLts.Run (World.start (LocalJournal.open config) profile) tr w)
    (L : LogicalStream) : w.journal.db.streamIds L = (acceptedTo L tr).map Prod.fst := by
  induction hrun with
  | nil => rfl
  | snoc hrun hst ih =>
      rename_i tr w₁ ev w₂
      have hat := worldRun_grounded hrun fun k => ⟨_, rfl⟩
      unfold acceptedTo at ih ⊢
      rw [acceptedRequests_snoc, List.filter_append, List.map_append, List.map_append, ← ih]
      rcases worldStep_acceptance hst hat with ⟨req, now, a, hev, hacc⟩ | ⟨hev, hsame⟩
      · rw [hev, hacc.streamIds L, Option.toList_some, List.filter_singleton]
        split
        · rename_i hL
          rw [decide_eq_true hL]
          rfl
        · rename_i hL
          rw [decide_eq_false hL, cond_false, List.map_nil, List.map_nil, List.append_nil]
      · unfold Db.streamIds
        rw [hev, hsame.storedEnvelope]
        simp

/-- What was acknowledged carried the payload that was accepted. -/
theorem worldRun_payloads
    (hrun : worldLts.Run (World.start (LocalJournal.open config) profile) tr w)
    (hclients : ∀ ev, .client ev ∈ tr → ¬ ev.call.Confirms) :
    ∀ request ∈ acknowledged tr, ∃ req ∈ acceptedRequests tr,
      req.eventId = request.eventId ∧ request.payload = req.payload := by
  induction hrun with
  | nil =>
      intro request h
      cases h
  | snoc hrun hst ih =>
      rename_i tr w₁ ev w₂
      have hpre : ∀ ev, .client ev ∈ tr → ¬ ev.call.Confirms :=
        fun ev hev => hclients ev (List.mem_append_left _ hev)
      intro request hmem
      rw [acknowledged_snoc] at hmem
      rw [acceptedRequests_snoc]
      rcases List.mem_append.mp hmem with hmem | hmem
      · obtain ⟨req, hreq, hrest⟩ := ih hpre request hmem
        exact ⟨req, List.mem_append_left _ hreq, hrest⟩
      · cases ev with
        | send i request' r =>
            cases r with
            | error => cases hmem
            | ok success =>
                obtain rfl : request = request' := List.mem_singleton.mp hmem
                obtain ⟨req, -, hreq, hid, hpayload, -⟩ := worldStep_send_genuine
                  (worldRun_genuine hrun hpre) (worldRun_grounded hrun fun k => ⟨_, rfl⟩) hst
                exact ⟨req, List.mem_append_left _ (acceptedIn_iff.mp hreq), hid, hpayload⟩
        | _ => cases hmem

omit [Sha256] in
theorem WorldEvent.OneService.client {ev : JournalEvent} (h : (WorldEvent.client ev).OneService) :
    ¬ ev.call.Confirms := by
  intro hc
  have h : ev.call.Feeds := h
  obtain ⟨env, call, r⟩ := ev
  cases call with
  | confirmReplicatedDelivery => exact h
  | _ => exact hc

theorem worldRun_stored
    (hrun : worldLts.Run (World.start (LocalJournal.open config) profile) tr w)
    (hone : ∀ ev ∈ tr, ev.OneService) :
    ∀ request ∈ acknowledged tr, ∃ v, w.journal.db.storedEnvelope.find? request.eventId = some v := by
  intro request hrequest
  obtain ⟨req, hreq, hid, -⟩ := worldRun_payloads hrun
    (fun ev hev => (hone _ hev).client) request hrequest
  have hmem : request.eventId ∈ w.journal.db.streamIds req.logicalStream := by
    rw [worldRun_streamIds hrun, List.mem_map]
    exact ⟨(req.eventId, req.payload),
      List.mem_map_of_mem (List.mem_filter.mpr ⟨hreq, decide_eq_true rfl⟩), hid⟩
  obtain ⟨v, hv, -⟩ := Db.mem_streamIds.mp hmem
  exact ⟨v, hv⟩

theorem Db.OwnedBy.of_run {o : StreamOwner} {w w' : World} {tr : List WorldEvent}
    (h : w'.journal.db.OwnedBy o) (hrun : worldLts.Run w tr w') : w.journal.db.OwnedBy o := by
  intro v hv
  obtain ⟨tr', hrest⟩ := worldRun_journal hrun
  exact h v (KeyedTable.mem_of_find?
    (journalRun_keepsEnvelope hrest (KeyedTable.find?_of_mem hv)))

/-- The acknowledged events of a stream are its first ones. -/
theorem worldRun_queues {o : StreamOwner}
    (hrun : worldLts.Run (World.start (LocalJournal.open config) profile) tr w)
    (hone : ∀ ev ∈ tr, ev.OneService) (hecho : ∀ ev ∈ tr, ev.EchoesTopic)
    (howned : w.journal.db.OwnedBy o) (L : LogicalStream) :
    ((acknowledged tr).map (·.eventId)).filter (· ∈ w.journal.db.streamIds L) <+:
      w.journal.db.streamIds L := by
  induction hrun with
  | nil => exact List.nil_prefix
  | snoc hrun hst ih =>
      rename_i tr w₁ ev w₂
      have hone₁ : ∀ ev ∈ tr, ev.OneService := fun ev hev => hone ev (List.mem_append_left _ hev)
      have hecho₁ : ∀ ev ∈ tr, ev.EchoesTopic :=
        fun ev hev => hecho ev (List.mem_append_left _ hev)
      have howned₁ := howned.of_run (Lts.Run.nil.snoc hst)
      have hqueued := ih hone₁ hecho₁ howned₁
      have hsafe := worldRun_logged hrun hone₁ hecho₁ howned₁
      obtain ⟨jtr, hjournal⟩ := worldRun_journal hrun
      have hreach : Reachable w₁.journal := ⟨_, jtr, hjournal⟩
      rw [acknowledged_snoc, List.map_append]
      cases hack : ev.acknowledged? with
      | some request =>
          cases ev with
          | send i request' r =>
              cases r with
              | error => cases hack
              | ok success =>
                  cases hack
                  have hservice : (WorldEvent.send i request (.ok success)).OneService :=
                    hone _ (by simp)
                  obtain rfl : i = 0 := hservice.1
                  obtain ⟨hlogs, hnext⟩ := hsafe.send hst request rfl
                  cases hst with
                  | send _ _ => exact hnext.snoc hreach.gapless hlogs hqueued
          | _ => cases hack
      | none =>
          rw [Option.toList_none, List.map_nil, List.append_nil]
          rcases worldStep_acceptance hst (worldRun_grounded hrun fun k => ⟨_, rfl⟩) with
            ⟨req, now, a, -, hacc⟩ | ⟨-, hsame⟩
          · rw [hacc.streamIds L]
            split
            · -- the new event has not been acknowledged
              refine List.IsPrefix.trans ?_ (List.prefix_append _ _)
              refine (congrArg (· <+: _) (List.filter_congr fun e he => ?_)).mpr hqueued
              have hne : e ≠ req.eventId := by
                rintro rfl
                obtain ⟨request, hrequest, hid⟩ := List.mem_map.mp he
                obtain ⟨v, hv⟩ := worldRun_stored hrun hone₁ request hrequest
                rw [hid] at hv
                have hnew : w₁.journal.db.storedEnvelope.find? req.eventId = none :=
                  KeyedTable.find?_eq_none_of_append hacc.storedEnvelope
                cases hnew.symm.trans hv
              simp [hne]
            · exact hqueued
          · unfold Db.streamIds at hqueued ⊢
            rw [hsame.storedEnvelope]
            exact hqueued

end Runs

end CraftRelay
