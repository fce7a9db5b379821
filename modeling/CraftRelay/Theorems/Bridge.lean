import CraftRelay.Client.Bridge
import CraftRelay.Theorems.Agent

/-!
# The producers of a server

Every submission of every producer is answered at most once, none is lost, and all
producers are told the same about an event.
-/

namespace CraftRelay.Client

variable [Sha256] {ι : Type} [DecidableEq ι] {registration : ι → ProducerRegistration}
  {producerId : ι → JavaString} {capacity limit : Int32} {installationId : JavaString}
  {a₀ : FakeAgentFixture} {tr : List (BridgeEvent ι)} {b : Bridge registration}

/-- Whatever the threads of the producers do, no call is answered twice, and the request of
every handle that tracks one is answered or has its status lookup under way. -/
theorem bridge_answers_every_submission_once
    (hrun : (bridgeLts producerId).Run (Bridge.new a₀ : Bridge registration) tr b) (i : ι) :
    ((answers i tr).map (·.submission.call)).Nodup ∧
    ∀ handle ∈ (b.clients i).handles, ∀ request, handle.submission = some request →
      (∃ x ∈ answers i tr, x.submission = ⟨handle.call, handle.eventId, request⟩) ∨
        ⟨handle.call, handle.eventId, request⟩ ∈ (b.clients i).lookups := by
  have hhands := clientRun_hands (bridgeRun_client hrun i)
  have hanswers := bridgeRun_answers hrun i
  have hperm : ((b.clients i).handed (foundSubmissions (clientEvents i tr))).Perm
      ((answers i tr).map (·.submission) ++ (b.clients i).lookups) := by
    refine .trans ?_ (hanswers.symm.append_right _)
    unfold LogicalProducerClient.handed
    simp only [List.append_assoc]
    exact List.perm_append_comm.append_left _
  constructor
  · have hnodup := (hperm.map (·.call)).nodup_iff.mp hhands.once
    rw [List.map_append, List.map_map] at hnodup
    exact (List.nodup_append.mp hnodup).1
  · intro handle hmem request hsubmission
    have hhanded := hperm.mem_iff.mp (hhands.handles handle hmem request hsubmission)
    rcases List.mem_append.mp hhanded with hanswered | hpending
    · exact .inl (List.mem_map.mp hanswered)
    · exact .inr hpending

/-- All answers about an event agree, whichever producers they go to: where two submissions
of the event complete it is with one snapshot, the agent's answer to a submission of the
event, and where neither was answered by its status lookup they have the same canonical
bytes. No submission throws. -/
theorem bridge_answers_agree
    (hnew : FakeAgentFixture.construct capacity installationId limit = .ok a₀)
    (hrun : (bridgeLts producerId).Run (Bridge.new a₀ : Bridge registration) tr b) {i : ι}
    {x : Answer} (hx : x ∈ answers i tr) :
    (∀ v, x.result ≠ .threw v) ∧
    ∀ snapshot, x.result = .completed snapshot →
      (∃ p request, .submit p request (.completed snapshot) ∈ agentCalls producerId tr ∧
        request.envelopeInput.eventId = x.submission.eventId.toText) ∧
      ∀ j, ∀ y ∈ answers j tr, y.submission.eventId = x.submission.eventId →
        ∀ snapshot', y.result = .completed snapshot' → snapshot' = snapshot ∧
          (x.byStatus = false → y.byStatus = false →
            y.submission.request.envelopeInput.canonicalBytes =
              x.submission.request.envelopeInput.canonicalBytes) := by
  have hagent := bridgeRun_agent hrun
  refine ⟨?_, fun snapshot hresult => ?_⟩
  · intro v hresult
    rcases bridgeRun_answered hnew hrun hx with
      ⟨-, hmem, hissued⟩ | ⟨found, -, -, -, hfound, -⟩
    · rw [hresult] at hmem
      obtain ⟨-, c, hc⟩ := hissued.exists_construct
      exact agentRun_ne_threw hnew hagent hc hmem
    · rw [hfound] at hresult
      cases hresult
  · obtain ⟨p, request, hmem, hid, hown⟩ := bridgeRun_completed hnew hrun hx hresult
    refine ⟨⟨p, request, hmem, hid⟩, ?_⟩
    intro j y hy hevent snapshot' hresult'
    obtain ⟨p', request', hmem', hid', hown'⟩ := bridgeRun_completed hnew hrun hy hresult'
    have hkeeps := agentRun_keeps hagent hmem
    have hkeeps' := agentRun_keeps hagent hmem'
    rw [hid] at hkeeps
    rw [hid', hevent] at hkeeps'
    have heq := Option.some.inj (hkeeps'.symm.trans hkeeps)
    simp only [AgentEntry.mk.injEq, true_and] at heq
    refine ⟨heq.2, fun hx hy => ?_⟩
    rw [← hown hx, ← hown' hy]
    exact heq.1

/-! ## A concrete run -/

/-- Operations of a producer that hand over nothing. -/
def quietLts (registration : ProducerRegistration) :
    Lts (LogicalProducerClient registration) ClientEvent :=
  (clientLts registration).restrict fun s _ s' => s'.passed = s.passed ∧ s'.lookups = s.lookups

theorem bridgeRun_own {i : ι} {s s' : LogicalProducerClient (registration i)}
    {evs : List ClientEvent} (h : (quietLts (registration i)).Run s evs s') :
    (bridgeLts producerId).Run (b.setClient i s) (evs.map (.own i)) (b.setClient i s') := by
  induction h with
  | nil => exact .nil
  | snoc hrun hst ih =>
      rename_i evs u ev u'
      have hown : BridgeStep producerId (b.setClient i u) (.own i ev)
          ((b.setClient i u).setClient i u') := by
        apply BridgeStep.own
        · rw [b.setClient_clients]
          exact hst.1
        · rw [b.setClient_clients]
          exact hst.2.1
        · rw [b.setClient_clients]
          exact hst.2.2
      rw [b.setClient_setClient] at hown
      rw [List.map_append]
      exact ih.snoc hown

omit [Sha256] in
/-- A new producer submits an event, up to its status lookup. -/
theorem exists_quiet_submit {registration : ProducerRegistration} {handle : JavaString} {e : Uuid}
    {payload : Bytes} {input : EnvelopeInput}
    (hinput : registration.input handle e payload = .ok input) :
    ∃ evs s request, (quietLts registration).Run .new evs s ∧ request.envelopeInput = input ∧
      s.threads 0 = .submitting 0 e input (.status request) ∧ s.passed = [] ∧
      s.lookups = [] := by
  let s₁ : LogicalProducerClient registration := LogicalProducerClient.setThread
    { LogicalProducerClient.new with started := 1 } 0 (.submitting 0 e input .lookUp)
  let request : ClientPublishRequest := ⟨input, 1, by decide⟩
  have hsubmit : (quietLts registration).step .new (.submit 0 handle e payload) s₁ :=
    ⟨.submit rfl hinput, rfl, rfl⟩
  have hlookUp : s₁.advance 0 = s₁.setThread 0 (.submitting 0 e input .untracked) := rfl
  let s₂ := s₁.setThread 0 (.submitting 0 e input .untracked)
  have hsequence : s₂.advance 0 = LogicalProducerClient.setThread { s₂ with nextSequence := 2 } 0
      (.submitting 0 e input (.attach request)) := rfl
  let s₃ := LogicalProducerClient.setThread { s₂ with nextSequence := 2 } 0
    (.submitting 0 e input (.attach request))
  have hroom : (s₃.trackedRequests.attach e request).1 = true := by
    have hempty : ¬ registration.maxPendingPublishes ≤ s₃.trackedRequests.entries.rows.length :=
      Nat.not_le.mpr registration.positive.1
    unfold BoundedTracker.attach
    rw [dif_neg fun hfull => hempty hfull.2]
  have hattach : s₃.advance 0 = LogicalProducerClient.setThread
      { s₃ with trackedRequests := (s₃.trackedRequests.attach e request).2 } 0
      (.submitting 0 e input (.status request)) := by
    show s₃.submitStep 0 0 e input (.attach request) = _
    unfold LogicalProducerClient.submitStep
    simp only [hroom, if_true]
  have hrun : (quietLts registration).Run .new
      [.submit 0 handle e payload, .advance 0, .advance 0, .advance 0] (s₃.advance 0) :=
    .snoc (.snoc (.snoc (.snoc .nil hsubmit) ⟨.advance, rfl, rfl⟩) ⟨.advance, rfl, rfl⟩)
      ⟨.advance, by rw [hattach]; exact ⟨rfl, rfl⟩⟩
  rw [hattach] at hrun
  exact ⟨_, _, request, hrun, rfl, rfl, rfl, rfl⟩

/-- A new producer submits an event up to the answer of its status lookup. -/
theorem exists_bridge_lookup (producerId : ι → JavaString) (b : Bridge registration) {i : ι}
    (hfresh : b.clients i = .new)
    {handle : JavaString} {e : Uuid} {payload : Bytes} {input : EnvelopeInput}
    (hinput : (registration i).input handle e payload = .ok input) :
    ∃ tr s submission snapshot, submission.eventId = e ∧ submission.request.envelopeInput = input ∧
      s.lookups = [submission] ∧ b.agent.getStatus e.toText statusTimeout = .ok snapshot ∧
      (bridgeLts producerId).Run b tr
        ((b.setClient i s).setFound i submission.call snapshot) ∧
      ∀ j, answers j tr = [] := by
  obtain ⟨evs, s, request, hrun, hrequest, hthread, hpassed, hlookups⟩ :=
    exists_quiet_submit hinput
  let submission : Submission := ⟨0, e, request⟩
  let s' := LogicalProducerClient.setThread { s with lookups := s.lookups ++ [submission] } 0
    (.submitting 0 e input (.submitted (some request)))
  have hadvance : s.advance 0 = s' := by
    simp only [LogicalProducerClient.advance, hthread, LogicalProducerClient.submitStep]
    rfl
  have hstart : b.setClient i .new = b := by
    unfold Bridge.setClient
    rw [← hfresh, Function.update_eq_self]
  have hown : (bridgeLts producerId).Run (b.setClient i .new) (evs.map (.own i))
      (b.setClient i s) := bridgeRun_own hrun
  rw [hstart] at hown
  let found := (b.agent.entries.find? e.toText).map (·.snapshot)
  have hstatus : b.agent.getStatus e.toText statusTimeout = .ok found := rfl
  have hlookedUp : BridgeStep producerId (b.setClient i s) (.lookedUp i 0 submission (.ok found))
      (((b.setClient i s).setClient i s').setFound i submission.call found) := by
    refine .lookedUp ?_ ?_ ?_ hstatus
    · rw [b.setClient_clients, ← hadvance]
      exact .advance
    · rw [b.setClient_clients]
      rfl
    · rw [b.setClient_clients]
      rfl
  rw [b.setClient_setClient] at hlookedUp
  refine ⟨_, s', submission, found, rfl, hrequest, ?_, hstatus, hown.snoc hlookedUp, fun j => ?_⟩
  · show s.lookups ++ [submission] = [submission]
    rw [hlookups]
    rfl
  · unfold answers
    rw [List.filterMap_append, List.filterMap_map, List.filterMap_eq_nil_iff.mpr]
    · rfl
    · intro _ _
      rfl

/-- Two producers that share a manifest. -/
def sampleBridge : Bridge fun _ : Bool => sampleRegistration := .new sampleAgent

def sampleInput' : EnvelopeInput := { sampleInput with typedPayload := [8] }

omit [Sha256] in
theorem sampleInput'_eq :
    sampleRegistration.input (.ofString "economy/v1") sampleEvent [8] = .ok sampleInput' := by
  decide +kernel

/-- The second producer submits the event of the first with another payload, and is told
that it was accepted. -/
theorem sampleBridge_run : ∃ tr b x y snapshot,
    (bridgeLts fun _ => sampleProducer).Run sampleBridge tr b ∧ answers false tr = [x] ∧
      answers true tr = [y] ∧ x.result = .completed snapshot ∧
      y.result = .completed snapshot ∧ x.submission.eventId = y.submission.eventId ∧
      x.submission.request.envelopeInput.canonicalBytes ≠
        y.submission.request.envelopeInput.canonicalBytes := by
  obtain ⟨tr₁, s₁, p₁, found₁, hid₁, hinput₁, hlookups₁, hstatus₁, hrun₁, hanswers₁⟩ :=
    exists_bridge_lookup (fun _ => sampleProducer) sampleBridge (i := false) rfl sampleInput_eq
  -- nothing was accepted yet
  obtain rfl : none = found₁ := Except.ok.inj hstatus₁
  have hcheck : sampleAgent.checkSubmission (some sampleProducer) p₁.request = .ok () := by
    rfl
  have hevent₁ : p₁.request.envelopeInput.eventId = sampleEvent.toText := by
    rw [hinput₁]
    rfl
  obtain ⟨snapshot, hsubmit⟩ := FakeAgentFixture.exists_submit_new hcheck (by rfl) (by decide)
    sampleAgent_installation (by rw [hinput₁]; decide +kernel)
  let agent := sampleAgent.accept (some sampleProducer) ⟨p₁.request.envelopeInput.eventId,
    p₁.request.envelopeInput.canonicalBytes, snapshot⟩
  let b₁ := (sampleBridge.setClient false s₁).setFound false p₁.call none
  let s₂ : LogicalProducerClient sampleRegistration :=
    { s₁ with lookups := [], passed := s₁.passed ++ [p₁] }
  let b₂ : Bridge fun _ : Bool => sampleRegistration := { b₁.setClient false s₂ with agent := agent }
  have hsubmitted : BridgeStep (fun _ => sampleProducer) b₁
      (.submitted false p₁ (.completed snapshot)) b₂ := by
    apply BridgeStep.submitted
    · show ClientStep ((sampleBridge.setClient false s₁).clients false) _ s₂
      rw [sampleBridge.setClient_clients]
      exact @ClientStep.answered _ s₁ [] p₁ [] false hlookups₁
    · simp [b₁, Bridge.setFound]
    · unfold Bridge.pass
      rw [show (b₁.setClient false s₂).agent = sampleAgent from rfl, hsubmit]
  obtain ⟨tr₂, s₃, p₂, found₂, hid₂, hinput₂, hlookups₂, hstatus₂, hrun₂, hanswers₂⟩ :=
    exists_bridge_lookup (fun _ => sampleProducer) b₂ (i := true) rfl sampleInput'_eq
  have hkept : (agent.entries.find? sampleEvent.toText).map (·.snapshot) = some snapshot := by
    rw [FakeAgentFixture.find?_accept, if_pos hevent₁]
    rfl
  obtain rfl : some snapshot = found₂ := by
    have hstatus : Except.ok ((agent.entries.find? sampleEvent.toText).map (·.snapshot)) =
      (Except.ok found₂ : Except String _) := hstatus₂
    rw [hkept] at hstatus
    exact Except.ok.inj hstatus
  let b₃ := (b₂.setClient true s₃).setFound true p₂.call (some snapshot)
  have hfound : BridgeStep (fun _ => sampleProducer) b₃ (.found true p₂ snapshot)
      (b₃.setClient true { s₃ with lookups := [] }) := by
    apply BridgeStep.found
    · show ClientStep ((b₂.setClient true s₃).clients true) _ _
      rw [b₂.setClient_clients]
      exact @ClientStep.answered _ s₃ [] p₂ [] true hlookups₂
    · simp [b₃, Bridge.setFound]
  have hrun := ((hrun₁.snoc hsubmitted).append hrun₂).snoc hfound
  refine ⟨_, _, ⟨p₁, .completed snapshot, false⟩, ⟨p₂, .completed snapshot, true⟩, snapshot,
    hrun, ?_, ?_, rfl, rfl, hid₁.trans hid₂.symm, ?_⟩
  · unfold answers at hanswers₁ hanswers₂ ⊢
    rw [Lts.filterMap_snoc, List.filterMap_append, Lts.filterMap_snoc, hanswers₁, hanswers₂]
    rfl
  · unfold answers at hanswers₁ hanswers₂ ⊢
    rw [Lts.filterMap_snoc, List.filterMap_append, Lts.filterMap_snoc, hanswers₁, hanswers₂]
    rfl
  · show p₁.request.envelopeInput.canonicalBytes ≠ p₂.request.envelopeInput.canonicalBytes
    rw [hinput₁, hinput₂]
    decide +kernel

omit [Sha256] in
theorem bridge_answers_every_submission_once_sample :
    ∃ tr b, (@bridgeLts fipsSha256 Bool _ (fun _ => sampleRegistration)
        fun _ => sampleProducer).Run sampleBridge tr b ∧ answers true tr ≠ [] ∧
      ((answers true tr).map (·.submission.call)).Nodup := by
  let _ : Sha256 := fipsSha256
  obtain ⟨tr, b, x, y, snapshot, hrun, -, hy, -⟩ := sampleBridge_run
  refine ⟨tr, b, hrun, ?_, (bridge_answers_every_submission_once hrun true).1⟩
  rw [hy]
  simp

omit [Sha256] in
/-- Both producers are told of the one acceptance. -/
theorem bridge_answers_agree_sample :
    ∃ tr b x y snapshot, (@bridgeLts fipsSha256 Bool _ (fun _ => sampleRegistration)
        fun _ => sampleProducer).Run sampleBridge tr b ∧ answers false tr = [x] ∧
      answers true tr = [y] ∧ x.result = .completed snapshot ∧
      x.submission.request.envelopeInput.canonicalBytes ≠
        y.submission.request.envelopeInput.canonicalBytes ∧
      ∀ snapshot', y.result = .completed snapshot' → snapshot' = snapshot := by
  let _ : Sha256 := fipsSha256
  obtain ⟨tr, b, x, y, snapshot, hrun, hx, hy, hresult, -, hevent, hbytes⟩ := sampleBridge_run
  refine ⟨tr, b, x, y, snapshot, hrun, hx, hy, hresult, hbytes, fun snapshot' hresult' => ?_⟩
  have hmem : x ∈ answers false tr := by simp [hx]
  have hmem' : y ∈ answers true tr := by simp [hy]
  obtain ⟨-, hagree⟩ := bridge_answers_agree sampleAgent_new hrun hmem
  exact ((hagree snapshot hresult).2 true y hmem' hevent.symm snapshot' hresult').1

end CraftRelay.Client
