import CraftRelay.Lib.Provenance
import CraftRelay.Delivery.Routing
import CraftRelay.Delivery.SendGuard

/-!
# Where an acknowledgement comes from

Any number of services and clients on one journal, any failing statements, any answers
of the producer. A service sends only what the journal gave it for the event and
confirms only what the producer answered to such a send, which the control flow of its
methods shows alone (`Grounded`). What the journal gives for an event is what its accept
stored, whoever writes in between.
-/

namespace CraftRelay

/-- The operation of a step, with its reply. -/
def WorldEvent.performed? : WorldEvent → Option ((e : Effect) × e.Reply)
  | .journal _ ev => some ⟨.journal ev.call, ev.reply⟩
  | .send _ request reply => some ⟨.send request, reply⟩
  | .clock _ nowMs => some ⟨.clock, nowMs⟩
  | _ => none

/-- The operations the services performed in a run. -/
def performed (tr : List WorldEvent) : Set ((e : Effect) × e.Reply) :=
  {o | ∃ ev ∈ tr, ev.performed? = some o}

theorem performed_snoc (tr : List WorldEvent) (ev : WorldEvent) :
    performed (tr ++ [ev]) = {o | ev.performed? = some o} ∪ performed tr := by
  ext o
  simp only [performed, Set.mem_ofPred_eq, List.mem_append, List.mem_singleton, Set.mem_union]
  constructor
  · rintro ⟨ev', hev | rfl, ho⟩
    · exact .inr ⟨ev', hev, ho⟩
    · exact .inl ho
  · rintro (ho | ⟨ev', hev, ho⟩)
    · exact ⟨ev, .inr rfl, ho⟩
    · exact ⟨ev', .inl hev, ho⟩

theorem performed_subset_snoc (tr : List WorldEvent) (ev : WorldEvent) :
    performed tr ⊆ performed (tr ++ [ev]) := by
  rw [performed_snoc]
  exact Set.subset_union_right

variable [Sha256]

/-- The producer answered a send for the event with the coordinates of the confirmation. -/
def AnsweredWith (past : Set ((e : Effect) × e.Reply)) (eventId : String)
    (topic : String) (partition offset : Int) : Prop :=
  ∃ request success, ⟨.send request, .ok success⟩ ∈ past ∧ request.eventId = eventId ∧
    success.topic = topic ∧ success.partition = partition ∧ success.offset = offset

/-- The journal gave the candidate the request is routed by and the payload it carries. -/
def ReadFor (past : Set ((e : Effect) × e.Reply)) (request : SendRequest) : Prop :=
  ∃ candidate routing,
    ⟨.journal (.getDeliveryCandidate request.eventId), .found candidate⟩ ∈ past ∧
    ⟨.journal (.readVerifiedPayload request.eventId), .found request.payload⟩ ∈ past ∧
    resolveRouting candidate.routingInput = .ok routing ∧ request.topic = routing.topic ∧
    request.partitionKey = routing.partitionKey

/-- What an operation of a service rests on. -/
def Grounded (past : Set ((e : Effect) × e.Reply)) : Effect → Prop
  | .send request => ReadFor past request
  | .journal (.accept _) => False
  | .journal (.confirmReplicatedDelivery eventId _ k) =>
      AnsweredWith past eventId k.kafkaTopic k.kafkaPartition k.kafkaOffset
  | _ => True

theorem Grounded.mono (past past' : Set ((e : Effect) × e.Reply)) (e : Effect)
    (hsub : past ⊆ past') (h : Grounded past e) : Grounded past' e := by
  cases e with
  | send request =>
      obtain ⟨candidate, routing, hcandidate, hpayload, hrest⟩ := h
      exact ⟨candidate, routing, hsub hcandidate, hsub hpayload, hrest⟩
  | clock => trivial
  | journal call =>
      cases call with
      | accept => exact h
      | confirmReplicatedDelivery =>
          obtain ⟨request, success, hanswer, hrest⟩ := h
          exact ⟨request, success, hsub hanswer, hrest⟩
      | _ => trivial

/-! ## The methods of a service -/

namespace DeliveryService

variable (svc : DeliveryService) {past : Set ((e : Effect) × e.Reply)} (e : String)

/-- What is done after a send that failed, and to block, rests on nothing. -/
theorem blockAndMark_grounded (streamKey : String) (streamSequence rev : Int)
    (reason : String) :
    (svc.blockAndMark e streamKey streamSequence rev reason).Justified Grounded past := by
  refine ⟨trivial, fun r => ?_⟩
  cases r <;> exact .done _

theorem retryOrBlock_grounded (candidate : DeliveryCandidate) (sendErr : SendError)
    (nowMs : Int) : (svc.retryOrBlock e candidate sendErr nowMs).Justified Grounded past := by
  unfold DeliveryService.retryOrBlock
  simp only
  split
  · split
    · refine ⟨trivial, fun r => ?_⟩
      cases r <;> exact .done _
    · exact svc.blockAndMark_grounded _ _ _ _ _
  · exact svc.blockAndMark_grounded _ _ _ _ _

theorem recordFailure_grounded (candidate : DeliveryCandidate) (routing : RoutingResolution)
    (sendErr : SendError) :
    (svc.recordFailure e candidate routing sendErr).Justified Grounded past := by
  refine ⟨trivial, fun nowMs => ⟨trivial, fun r => ?_⟩⟩
  cases r with
  | updated => exact svc.retryOrBlock_grounded _ _ _ _
  | _ => exact .done _

/-- What is confirmed is what the producer answered. -/
theorem confirmSent_grounded (candidate : DeliveryCandidate) (routing : RoutingResolution)
    (success : SendSuccess)
    (h : AnsweredWith past e success.topic success.partition success.offset) :
    (svc.confirmSent e candidate routing success).Justified Grounded past := by
  refine ⟨h, fun r => ?_⟩
  cases r <;> exact .done _

/-- What is sent is the payload that was read, routed as the candidate is. -/
theorem sendPayload_grounded (candidate : DeliveryCandidate) (routing : RoutingResolution)
    (hcandidate : ⟨.journal (.getDeliveryCandidate e), .found candidate⟩ ∈ past)
    (hrouted : resolveRouting candidate.routingInput = .ok routing) :
    (svc.sendPayload e candidate routing).Justified Grounded past := by
  refine ⟨trivial, fun r => ?_⟩
  cases r with
  | found payload =>
      refine ⟨?_, fun answer => ?_⟩
      · exact ⟨candidate, routing, Set.mem_insert_of_mem _ hcandidate, Set.mem_insert _ _,
          hrouted, rfl, rfl⟩
      · cases answer with
        | ok success =>
            exact DeliveryService.confirmSent_grounded _ _ _ _ _
              ⟨_, success, Set.mem_insert _ _, rfl, rfl, rfl, rfl⟩
        | error sendErr => exact DeliveryService.recordFailure_grounded _ _ _ _ _
  | _ => exact .done _

theorem attemptDelivery_grounded : (svc.attemptDelivery e).Justified Grounded past := by
  unfold DeliveryService.attemptDelivery
  split
  · exact .done _
  refine ⟨trivial, fun r => ?_⟩
  cases r with
  | found candidate =>
      show (svc.deliverCandidate e candidate).Justified Grounded _
      unfold DeliveryService.deliverCandidate
      split
      · exact .done _
      unfold DeliveryService.deliverAllowed
      simp only
      split
      · split <;> exact .done _
      split
      · exact .done _
      split
      · exact svc.blockAndMark_grounded _ _ _ _ _
      · rename_i hcheck
        exact svc.sendPayload_grounded e candidate _ (Set.mem_insert _ _)
          (checkBeforeSend_eq_ok hcheck).1
  | _ => exact .done _

theorem recover_grounded : svc.recover.Justified Grounded past := by
  refine ⟨trivial, fun r => ?_⟩
  cases r <;> exact .done _

end DeliveryService

theorem ServiceCall.program_grounded (svc : DeliveryService) (c : ServiceCall)
    (past : Set ((e : Effect) × e.Reply)) : (c.program svc).Justified Grounded past := by
  cases c with
  | attemptDelivery e => exact svc.attemptDelivery_grounded e
  | recover => exact svc.recover_grounded
  | shutdown => exact .done _

/-! ## Runs -/

/-- What a service is at rests on what was performed. -/
def Thread.Grounded (past : Set ((e : Effect) × e.Reply)) : Thread → Prop
  | .idle _ => True
  | .running _ prog => prog.Justified CraftRelay.Grounded past

theorem Thread.Grounded.mono {past past' : Set ((e : Effect) × e.Reply)} {t : Thread}
    (h : t.Grounded past) (hsub : past ⊆ past') : t.Grounded past' := by
  cases t with
  | idle => trivial
  | running c p => exact Prog.Justified.mono CraftRelay.Grounded.mono h hsub

/-- One thread moves, and the others keep what they rest on. -/
theorem World.setThread_grounded {w : World} {j : LocalJournal} {tr : List WorldEvent}
    {ev : WorldEvent} {i : Nat} {t : Thread} (h : ∀ k, (w.threads k).Grounded (performed tr))
    (ht : t.Grounded (performed (tr ++ [ev]))) (k : Nat) :
    ((World.setThread { w with journal := j } i t).threads k).Grounded
      (performed (tr ++ [ev])) := by
  show (if k = i then t else w.threads k).Grounded _
  split
  · exact ht
  · exact (h k).mono (performed_subset_snoc tr ev)

theorem Thread.Grounded.op {past : Set ((e : Effect) × e.Reply)} {c : ServiceCall} {e : Effect}
    {k : e.Reply → ServiceProg c.Reply}
    (h : (Thread.running c (.op e k)).Grounded past) :
    CraftRelay.Grounded past e ∧
      ∀ r, (Thread.running c (k r)).Grounded (insert ⟨e, r⟩ past) := h

/-- In every run, whatever a service is about to do rests on what was performed. -/
theorem worldRun_grounded {w w' : World} {tr : List WorldEvent} (hrun : worldLts.Run w tr w')
    (hidle : ∀ k, ∃ svc, w.threads k = .idle svc) :
    ∀ k, (w'.threads k).Grounded (performed tr) := by
  induction hrun with
  | nil =>
      intro k
      obtain ⟨svc, hsvc⟩ := hidle k
      rw [hsvc]
      trivial
  | snoc _ hst ih =>
      rename_i tr w₁ ev w₂ _
      have hown : ∀ {c : ServiceCall} {e : Effect} {k : e.Reply → ServiceProg c.Reply}
          {i : Nat} {r : e.Reply}, w₁.threads i = .running c (.op e k) →
          ev.performed? = some ⟨e, r⟩ →
          (Thread.running c (k r)).Grounded (performed (tr ++ [ev])) := by
        intro c e k i r hat hev
        have hthread := ih i
        rw [hat] at hthread
        refine (hthread.op.2 r).mono ?_
        rw [performed_snoc, Set.insert_subset_iff]
        exact ⟨.inl hev, Set.subset_union_right⟩
      cases hst with
      | client => exact fun k => (ih k).mono (performed_subset_snoc tr _)
      | install => exact World.setThread_grounded ih trivial
      | call =>
          rename_i svc c _
          exact World.setThread_grounded ih (c.program_grounded svc _)
      | journal hat _ => exact World.setThread_grounded ih (hown hat rfl)
      | send r hat => exact World.setThread_grounded ih (hown hat rfl)
      | clock r hat => exact World.setThread_grounded ih (hown hat rfl)
      | «return» => exact World.setThread_grounded ih trivial

/-! ## What the journal gave -/

/-- A client had the request accepted. -/
def AcceptedIn (tr : List WorldEvent) (req : AcceptRequest) : Prop :=
  ∃ env a, WorldEvent.client ⟨env, .accept req, .accepted a⟩ ∈ tr

omit [Sha256] in
theorem AcceptedIn.snoc {tr : List WorldEvent} {req : AcceptRequest} (h : AcceptedIn tr req)
    (ev : WorldEvent) : AcceptedIn (tr ++ [ev]) req := by
  obtain ⟨env, a, hmem⟩ := h
  exact ⟨env, a, List.mem_append_left _ hmem⟩

/-- A replicated row was replicated before with the same acknowledgement, or is the one
of this confirmation. -/
theorem DbStep.ack_cases {env : CallEnv} {db db' : Db} {c : JournalCall} {r : c.Reply}
    (h : DbStep env db c r db') {e : String} {d : DeliveryState}
    (hd : db'.deliveryState.find? e = some d) (hrep : d.deliveryStatus = "REPLICATED") :
    (∃ d₀, db.deliveryState.find? e = some d₀ ∧ d₀.ack = d.ack) ∨
      ∃ rev k, c = .confirmReplicatedDelivery e rev k ∧ d.kafkaTopic = some k.kafkaTopic ∧
        d.kafkaPartition = some k.kafkaPartition ∧ d.kafkaOffset = some k.kafkaOffset := by
  -- a row that was written is the one of its event, the others are as they were
  have hwritten : ∀ {e' : String} {d' : DeliveryState} {t : KeyedTable DeliveryState.eventId},
      db.deliveryState.Puts e' d' t → t.find? e = some d →
      (e' = e ∧ d = d') ∨ db.deliveryState.find? e = some d := by
    intro e' d' t ht hd
    by_cases he : e' = e
    · subst he
      exact .inl ⟨rfl, Option.some.inj (hd.symm.trans ht.self)⟩
    · exact .inr ((ht.other he).symm.trans hd)
  have hsame : ∀ {d' : DeliveryState}, db.deliveryState.find? e = some d' → d' = d →
      ∃ d₀, db.deliveryState.find? e = some d₀ ∧ d₀.ack = d.ack :=
    fun hd' heq => ⟨_, hd', heq ▸ rfl⟩
  cases h with
  | quiet | lifecycle => exact .inl (hsame hd rfl)
  | accepted h =>
      rw [h.deliveryState] at hd
      exact .inl (hsame hd rfl)
  | created _ _ ht =>
      rcases hwritten ht hd with ⟨-, rfl⟩ | hd
      · have hpending : "DELIVERY_PENDING" = "REPLICATED" := hrep
        simp at hpending
      · exact .inl (hsame hd rfl)
  | attempted hs ht =>
      rcases hwritten ht hd with ⟨rfl, rfl⟩ | hd
      · exact .inl ⟨_, hs.row, rfl⟩
      · exact .inl (hsame hd rfl)
  | confirmed _ _ _ _ _ ht =>
      rcases hwritten ht hd with ⟨rfl, rfl⟩ | hd
      · exact .inr ⟨_, _, rfl, rfl, rfl, rfl⟩
      · exact .inl (hsame hd rfl)
  | blocked _ _ _ _ ht =>
      rcases hwritten ht hd with ⟨-, rfl⟩ | hd
      · have hblocked : "DELIVERY_BLOCKED" = "REPLICATED" := hrep
        simp at hblocked
      · exact .inl (hsame hd rfl)
  | retried _ _ _ ht =>
      rcases hwritten ht hd with ⟨-, rfl⟩ | hd
      · have hretrying : "DELIVERY_RETRYING" = "REPLICATED" := hrep
        simp at hretrying
      · exact .inl (hsame hd rfl)

/-- An envelope and a payload are those of a request that was accepted; what was read of
an event is still stored; a replicated row has the coordinates of an answer. -/
structure Db.Genuine (db : Db) (tr : List WorldEvent) : Prop where
  stored : ∀ e v, db.storedEnvelope.find? e = some v → ∃ req, AcceptedIn tr req ∧
    req.eventId = e ∧ v.routingInput = req.routingInput ∧
    ∀ b, db.payloadBlob.find? e = some b → b.payload = req.payload
  candidate : ∀ e candidate,
    ⟨.journal (.getDeliveryCandidate e), .found candidate⟩ ∈ performed tr →
    ∃ v, db.storedEnvelope.find? e = some v ∧ candidate.routingInput = v.routingInput
  payload : ∀ e payload,
    ⟨.journal (.readVerifiedPayload e), .found payload⟩ ∈ performed tr →
    ∃ b, db.payloadBlob.find? e = some b ∧ b.payload = payload
  replicated : ∀ e d, db.deliveryState.find? e = some d → d.deliveryStatus = "REPLICATED" →
    ∃ topic partition offset, d.kafkaTopic = some topic ∧ d.kafkaPartition = some partition ∧
      d.kafkaOffset = some offset ∧ AnsweredWith (performed tr) e topic partition offset

omit [Sha256] in
theorem Db.genuine_empty : Db.empty.Genuine [] where
  stored e v h := by cases h
  candidate e candidate h := by
    obtain ⟨ev, hev, -⟩ := h
    cases hev
  payload e payload h := by
    obtain ⟨ev, hev, -⟩ := h
    cases hev
  replicated e d h := by cases h

omit [Sha256] in
/-- A step that reads nothing of use and leaves the journal alone. -/
theorem Db.Genuine.snoc {db : Db} {tr : List WorldEvent} (h : db.Genuine tr) {ev : WorldEvent}
    (hcandidate : ∀ e candidate,
      ev.performed? = some ⟨.journal (.getDeliveryCandidate e), .found candidate⟩ →
      ∃ v, db.storedEnvelope.find? e = some v ∧ candidate.routingInput = v.routingInput)
    (hpayload : ∀ e payload,
      ev.performed? = some ⟨.journal (.readVerifiedPayload e), .found payload⟩ →
      ∃ b, db.payloadBlob.find? e = some b ∧ b.payload = payload) :
    db.Genuine (tr ++ [ev]) where
  stored e v hv := by
    obtain ⟨req, hreq, hrest⟩ := h.stored e v hv
    exact ⟨req, hreq.snoc ev, hrest⟩
  candidate e candidate hmem := by
    rw [performed_snoc] at hmem
    rcases hmem with hev | hmem
    · exact hcandidate e candidate hev
    · exact h.candidate e candidate hmem
  payload e payload hmem := by
    rw [performed_snoc] at hmem
    rcases hmem with hev | hmem
    · exact hpayload e payload hev
    · exact h.payload e payload hmem
  replicated e d hd hrep := by
    obtain ⟨topic, partition, offset, ht, hp, ho, request, success, hmem, hrest⟩ :=
      h.replicated e d hd hrep
    exact ⟨topic, partition, offset, ht, hp, ho, request, success,
      performed_subset_snoc tr ev hmem, hrest⟩

/-- A call of the journal, once the step is part of the history. The call is no acceptance,
or the one of a client, and a confirmation rests on an answer. -/
theorem DbStep.genuine {env : CallEnv} {db db' : Db} {c : JournalCall} {r : c.Reply}
    {tr : List WorldEvent} (hstep : DbStep env db c r db') (h : db.Genuine tr)
    (haccept : ∀ req a, (⟨env, c, r⟩ : JournalEvent) = ⟨env, .accept req, .accepted a⟩ →
      AcceptedIn tr req)
    (hconfirm : ∀ e rev k, c = .confirmReplicatedDelivery e rev k →
      AnsweredWith (performed tr) e k.kafkaTopic k.kafkaPartition k.kafkaOffset) :
    db'.Genuine tr where
  stored e v hv := by
    rcases hstep.acceptance with ⟨req, a, hev, hacc⟩ | ⟨-, hsame⟩
    · by_cases he : req.eventId = e
      · subst he
        rw [hacc.putsEnvelope.self] at hv
        cases hv
        refine ⟨req, haccept req a hev, rfl, rfl, fun b hb => ?_⟩
        rw [hacc.putsPayload.self] at hb
        cases hb
        rfl
      · rw [hacc.putsEnvelope.other he] at hv
        rw [hacc.putsPayload.other he]
        exact h.stored e v hv
    · rw [hsame.storedEnvelope] at hv
      rw [hsame.payloadBlob]
      exact h.stored e v hv
  candidate e candidate hmem := by
    obtain ⟨v, hv, hinput⟩ := h.candidate e candidate hmem
    exact ⟨v, hstep.keepsEnvelope hv, hinput⟩
  payload e payload hmem := by
    obtain ⟨b, hb, hpayload⟩ := h.payload e payload hmem
    refine ⟨b, ?_, hpayload⟩
    rcases hstep.acceptance with ⟨req, a, -, hacc⟩ | ⟨-, hsame⟩
    · have hmem : b ∈ db'.payloadBlob.rows := by
        rw [hacc.payloadBlob]
        exact List.mem_append_left _ (KeyedTable.mem_of_find? hb)
      rw [← KeyedTable.key_of_find? hb]
      exact KeyedTable.find?_of_mem hmem
    · rw [hsame.payloadBlob]
      exact hb
  replicated e d hd hrep := by
    rcases hstep.ack_cases hd hrep with ⟨d₀, hd₀, hack⟩ | ⟨rev, k, rfl, ht, hp, ho⟩
    · simp only [DeliveryState.ack, Prod.mk.injEq] at hack
      obtain ⟨hstatus, htopic, hpartition, hoffset, -⟩ := hack
      rw [← htopic, ← hpartition, ← hoffset]
      exact h.replicated e d₀ hd₀ (hstatus.trans hrep)
    · exact ⟨_, _, _, ht, hp, ho, hconfirm e rev k rfl⟩

/-- The call is a confirmation. -/
def JournalCall.Confirms : JournalCall → Prop
  | .confirmReplicatedDelivery .. => True
  | _ => False

/-- In every run on an empty journal whose clients confirm nothing. -/
theorem worldRun_genuine {config : JournalConfig} {profile : Nat → KafkaProductionProfile}
    {tr : List WorldEvent} {w : World}
    (hrun : worldLts.Run (World.start (LocalJournal.open config) profile) tr w)
    (hclients : ∀ ev, .client ev ∈ tr → ¬ ev.call.Confirms) : w.journal.db.Genuine tr := by
  induction hrun with
  | nil => exact Db.genuine_empty
  | snoc hrun hst ih =>
      rename_i tr w₁ ev w₂
      have hpre := ih fun ev hev => hclients ev (List.mem_append_left _ hev)
      have hat := worldRun_grounded hrun fun k => ⟨_, rfl⟩
      cases hst with
      | client hj =>
          rename_i jev j'
          refine (journalStep_cases hj).genuine (hpre.snoc ?_ ?_) ?_ ?_
          · intro e candidate hev
            cases hev
          · intro e payload hev
            cases hev
          · intro req a hev
            have hev : jev = ⟨jev.env, .accept req, .accepted a⟩ := hev
            exact ⟨jev.env, a, by rw [← hev]; simp⟩
          · intro e rev k hcall
            refine absurd ?_ (hclients jev (by simp))
            rw [hcall]
            trivial
      | journal hthread hj =>
          rename_i i c call k env r j'
          have hgrounded := hat i
          rw [hthread] at hgrounded
          obtain ⟨hrests, -⟩ := hgrounded.op
          have hstep := journalStep_cases (show journalLts.step w₁.journal ⟨env, call, r⟩ j' from hj)
          refine hstep.genuine (hpre.snoc ?_ ?_) ?_ ?_
          · intro e candidate hev
            cases hev
            obtain ⟨rfl, hload⟩ := LocalJournal.read_eq_some hj
            obtain ⟨-, -, v, hv, -, hdesc⟩ := loadDeliveryCandidate_found_iff.mp hload
            exact ⟨v, hv, hdesc.routingInput_eq⟩
          · intro e payload hev
            cases hev
            obtain ⟨rfl, hread⟩ := LocalJournal.read_eq_some hj
            obtain ⟨-, v, b, -, hb, hpayload, -⟩ := readVerifiedPayload_found_iff.mp hread
            exact ⟨b, hb, hpayload⟩
          · intro req a hev
            cases hev
            exact hrests.elim
          · rintro e rev k rfl
            obtain ⟨request, success, hmem, hrest⟩ := hrests
            exact ⟨request, success, performed_subset_snoc tr _ hmem, hrest⟩
      | send => exact hpre.snoc (fun _ _ h => by cases h) fun _ _ h => by cases h
      | clock => exact hpre.snoc (fun _ _ h => by cases h) fun _ _ h => by cases h
      | install => exact hpre.snoc (fun _ _ h => by cases h) fun _ _ h => by cases h
      | call => exact hpre.snoc (fun _ _ h => by cases h) fun _ _ h => by cases h
      | «return» => exact hpre.snoc (fun _ _ h => by cases h) fun _ _ h => by cases h

/-- What is sent for an event is the payload its accept stored, routed as that request
asks. -/
theorem worldStep_send_genuine {w w' : World} {tr : List WorldEvent} {i : Nat}
    {request : SendRequest} {r : Except SendError SendSuccess}
    (hgenuine : w.journal.db.Genuine tr) (hgrounded : ∀ k, (w.threads k).Grounded (performed tr))
    (hst : worldLts.step w (.send i request r) w') :
    ∃ req routing, AcceptedIn tr req ∧ req.eventId = request.eventId ∧
      request.payload = req.payload ∧ resolveRouting req.routingInput = .ok routing ∧
      request.topic = routing.topic ∧ request.partitionKey = routing.partitionKey := by
  have hread : ReadFor (performed tr) request := by
    cases hst with
    | send _ hat =>
        have hthread := hgrounded i
        rw [hat] at hthread
        exact hthread.op.1
  obtain ⟨candidate, routing, hcandidate, hpayload, hrouted, htopic, hkey⟩ := hread
  obtain ⟨v, hv, hinput⟩ := hgenuine.candidate _ _ hcandidate
  obtain ⟨b, hb, hbytes⟩ := hgenuine.payload _ _ hpayload
  obtain ⟨req, hreq, hid, hinput', hstored⟩ := hgenuine.stored _ v hv
  refine ⟨req, routing, hreq, hid, ?_, ?_, htopic, hkey⟩
  · rw [← hbytes, hstored b hb]
  · rw [← hinput', ← hinput]
    exact hrouted

omit [Sha256] in
/-- The send whose answer was performed. -/
theorem exists_send_of_performed {tr : List WorldEvent} {request : SendRequest}
    {r : Except SendError SendSuccess} (h : ⟨.send request, r⟩ ∈ performed tr) :
    ∃ tr₁ i tr₂, tr = tr₁ ++ .send i request r :: tr₂ := by
  obtain ⟨ev, hev, hperformed⟩ := h
  obtain ⟨tr₁, tr₂, rfl⟩ := List.append_of_mem hev
  cases ev with
  | send i request' r' =>
      cases hperformed
      exact ⟨tr₁, i, tr₂, rfl⟩
  | client | install | call | «return» => cases hperformed
  | journal => cases hperformed
  | clock => cases hperformed

end CraftRelay
