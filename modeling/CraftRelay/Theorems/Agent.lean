import CraftRelay.Client.FakeAgent
import CraftRelay.Theorems.Retries

/-!
# The fake agent

What its clients can rely on over a whole run, and where its quota leaves a producer.
-/

namespace CraftRelay.Client

/-- Any calls of any clients on a new agent: two completed submissions of one event have
the same canonical bytes and the same answer; a status is found only where a submission
completed before, with its answer, and is found ever after; nothing throws; no more events than the capacity are
accepted, and no producer has more events accepted first than its quota. -/
theorem agent_accepts_each_event_once [Sha256] {capacity limit : Int32}
    {installationId : JavaString} {a₀ a : FakeAgentFixture} {tr : List AgentCall}
    (hnew : FakeAgentFixture.construct capacity installationId limit = .ok a₀)
    (hrun : agentLts.Run a₀ tr a) :
    (∀ p₁ r₁ s₁ p₂ r₂ s₂, .submit p₁ r₁ (.completed s₁) ∈ tr →
      .submit p₂ r₂ (.completed s₂) ∈ tr → r₁.envelopeInput.eventId = r₂.envelopeInput.eventId →
      r₁.envelopeInput.canonicalBytes = r₂.envelopeInput.canonicalBytes ∧ s₁ = s₂) ∧
    (∀ tr₁ e timeout result tr₂, tr = tr₁ ++ .getStatus e timeout (.ok result) :: tr₂ →
      ∀ s, result = some s ↔ ∃ p r, .submit p r (.completed s) ∈ tr₁ ∧
        r.envelopeInput.eventId = e) ∧
    (∀ p r v c, EnvelopeInput.construct c = .ok r.envelopeInput → .submit p r (.threw v) ∉ tr) ∧
    ((firstAcceptances tr).length : Int) ≤ capacity.toInt ∧
    ∀ p, ((firstAcceptances tr).countP (·.1 = some p) : Int) ≤ max 0 limit.toInt := by
  have hrecords := agentRun_records hnew hrun
  have hconfig := agentRun_config hrun
  obtain ⟨-, -, hfields⟩ := FakeAgentFixture.construct_eq_ok hnew
  have hcapacity : a.capacity = a₀.capacity := congrArg (·.1) hconfig
  have hlimit : a.perProducerInFlightLimit = a₀.perProducerInFlightLimit :=
    congrArg (·.2.2) hconfig
  refine ⟨?_, ?_, ?_, ?_, fun p => ?_⟩
  · intro p₁ r₁ s₁ p₂ r₂ s₂ h₁ h₂ he
    have hkeeps₁ := agentRun_keeps hrun h₁
    have hkeeps₂ := agentRun_keeps hrun h₂
    rw [he] at hkeeps₁
    have heq := Option.some.inj (hkeeps₁.symm.trans hkeeps₂)
    simp only [AgentEntry.mk.injEq, true_and] at heq
    exact heq
  · rintro tr₁ e timeout result tr₂ rfl s
    obtain ⟨a₁, a₂, hrun₁, hst, -⟩ := hrun.step_at
    rw [FakeAgentFixture.getStatus_answers hst]
    constructor
    · intro hsome
      obtain ⟨entry, hentry, rfl⟩ := Option.map_eq_some_iff.mp hsome
      have hid : entry.eventId = e := KeyedTable.key_of_find? hentry
      subst hid
      obtain ⟨p, r, hmem, hr, -⟩ := agentRun_genuine hnew hrun₁ hentry
      exact ⟨p, r, hmem, hr⟩
    · rintro ⟨p, r, hmem, rfl⟩
      rw [show a₁.entries.find? r.envelopeInput.eventId = _ from agentRun_keeps hrun₁ hmem]
      rfl
  · intro p r v c hc
    exact agentRun_ne_threw hnew hrun hc
  · rw [hrecords.length]
    have hroom := hrecords.room
    rw [hcapacity, hfields] at hroom
    exact hroom
  · rw [← hrecords.producers p]
    have hquota := hrecords.quota p
    rw [hlimit, hfields] at hquota
    exact hquota

/-- Places are never given back: once a producer had as many events accepted first as its
quota, every later submission of it is refused, of accepted events too, and leaves the
agent as it is. -/
theorem agent_quota_never_freed [Sha256] {capacity limit : Int32}
    {installationId : JavaString} {a₀ a₁ a : FakeAgentFixture} {tr tr' : List AgentCall}
    {p : JavaString} (hnew : FakeAgentFixture.construct capacity installationId limit = .ok a₀)
    (hrun : agentLts.Run a₀ tr a₁)
    (hfull : limit.toInt ≤ (firstAcceptances tr).countP (·.1 = some p))
    (hrun' : agentLts.Run a₁ tr' a) :
    (∀ request result, .submit (some p) request result ∈ tr' →
      ∃ v, result = .failed v ∧ v.code ∈ [.invalidArgument, .boundsExceeded]) ∧
    (firstAcceptances (tr ++ tr')).countP (·.1 = some p) =
      (firstAcceptances tr).countP (·.1 = some p) := by
  have hrecords := agentRun_records hnew hrun
  have hrecords' := agentRun_records hnew (hrun.append hrun')
  have hlimit : a₁.perProducerInFlightLimit = a₀.perProducerInFlightLimit :=
    congrArg (·.2.2) (agentRun_config hrun)
  obtain ⟨-, -, hfields⟩ := FakeAgentFixture.construct_eq_ok hnew
  have hfull₁ : a₁.perProducerInFlightLimit ≤ a₁.inFlight p := by
    rw [Int32.le_iff_toInt_le, hrecords.producers p, hlimit, hfields]
    exact hfull
  obtain ⟨hflight, hrefused⟩ := agentRun_full hrun' hfull₁
  refine ⟨hrefused, ?_⟩
  have hcount := hrecords'.producers p
  rw [hflight, hrecords.producers p] at hcount
  exact_mod_cast hcount.symm

/-! ## A concrete agent -/

def sampleProducer : JavaString := .ofString "economy"

/-- Its quota is a single event for each producer. -/
def sampleAgent : FakeAgentFixture :=
  ⟨8, .ofString "fixture-installation", .empty, ∅, ∅, ∅, ∅, .empty, 1⟩

theorem sampleAgent_installation : Bounded sampleAgent.installationId 128 :=
  ⟨by decide +kernel, by decide +kernel⟩

theorem sampleAgent_new :
    FakeAgentFixture.construct 8 (.ofString "fixture-installation") 1 = .ok sampleAgent := by
  unfold FakeAgentFixture.construct
  rw [positiveInt32_bind, boundedText_bind]
  exact ⟨by decide, sampleAgent_installation, rfl⟩

def sampleRequest : ClientPublishRequest := ⟨sampleInput, 1, by decide⟩

/-- The sample request is accepted, and asked for. -/
theorem sampleAgent_run [Sha256] : ∃ snapshot a result,
    agentLts.Run sampleAgent [.submit (some sampleProducer) sampleRequest (.completed snapshot),
      .getStatus sampleInput.eventId (.ofMillis 1000) (.ok result)] a := by
  have hcheck : sampleAgent.checkSubmission (some sampleProducer) sampleRequest = .ok () := rfl
  obtain ⟨snapshot, hsubmit⟩ := FakeAgentFixture.exists_submit_new hcheck rfl (by decide)
    sampleAgent_installation (by decide +kernel)
  have hst : agentLts.step sampleAgent (.submit (some sampleProducer) sampleRequest _) _ :=
    .submit
  rw [hsubmit] at hst
  exact ⟨snapshot, _, _, Lts.Run.snoc (.snoc .nil hst) .getStatus⟩

theorem agent_accepts_each_event_once_sample :
    ∃ snapshot result a, (@agentLts fipsSha256).Run sampleAgent
        [.submit (some sampleProducer) sampleRequest (.completed snapshot),
          .getStatus sampleInput.eventId (.ofMillis 1000) (.ok result)] a ∧ result = some snapshot := by
  let _ : Sha256 := fipsSha256
  obtain ⟨snapshot, a, result, hrun⟩ := sampleAgent_run
  refine ⟨snapshot, result, a, hrun, ?_⟩
  obtain ⟨-, hstatus, -⟩ := agent_accepts_each_event_once sampleAgent_new hrun
  exact (hstatus [_] _ _ _ [] rfl snapshot).mpr ⟨_, _, List.mem_singleton_self _, rfl⟩

/-- The second submission of the sample request is refused. -/
theorem agent_quota_never_freed_sample :
    ∃ tr a₁ result a₂, (@agentLts fipsSha256).Run sampleAgent tr a₁ ∧
      (@agentLts fipsSha256).Run a₁ [.submit (some sampleProducer) sampleRequest result] a₂ ∧
      ∃ v, result = .failed v := by
  let _ : Sha256 := fipsSha256
  obtain ⟨snapshot, a, result, hrun⟩ := sampleAgent_run
  have hfull : (1 : Int32).toInt ≤ (firstAcceptances [.submit (some sampleProducer) sampleRequest
      (.completed snapshot), .getStatus sampleInput.eventId (.ofMillis 1000)
        (.ok result)]).countP (·.1 = some sampleProducer) := by
    show (1 : Int) ≤ ([(some sampleProducer, sampleInput.eventId)].countP
      (·.1 = some sampleProducer) : Nat)
    decide +kernel
  have hretry : agentLts.Run a [.submit (some sampleProducer) sampleRequest
      (a.submit (some sampleProducer) sampleRequest).2] _ := .snoc .nil .submit
  obtain ⟨hrefused, -⟩ := agent_quota_never_freed sampleAgent_new hrun
    (p := sampleProducer) hfull hretry
  obtain ⟨v, hv, -⟩ := hrefused _ _ (List.mem_singleton_self _)
  exact ⟨_, a, _, _, hrun, hretry, v, hv⟩

end CraftRelay.Client
