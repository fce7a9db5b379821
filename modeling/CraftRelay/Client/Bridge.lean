import CraftRelay.Client.FakeAgent
import CraftRelay.Client.Submissions

/-!
# Logical producers on one transport

`SharedBridgeTransportRuntime.java` over the fake agent: the producers of a server share
it, and every request they pass on and every status lookup they make is a call of the one
agent, which others may call as well. The operations of all threads of all producers come
in any order.
-/

namespace CraftRelay.Client

/-- The producers, the agent, and what the status lookups of each producer's calls found. -/
structure Bridge {ι : Type} (registration : ι → ProducerRegistration) where
  agent : FakeAgentFixture
  clients : ∀ i, LogicalProducerClient (registration i)
  found : ι → Nat → Option PublishLifecycleSnapshot

namespace Bridge

variable {ι : Type} [DecidableEq ι] {registration : ι → ProducerRegistration}

def new (agent : FakeAgentFixture) : Bridge registration := ⟨agent, fun _ => .new, fun _ _ => none⟩

def setClient (b : Bridge registration) (i : ι) (s : LogicalProducerClient (registration i)) :
    Bridge registration :=
  { b with clients := Function.update b.clients i s }

@[simp] theorem setClient_clients (b : Bridge registration) {i : ι}
    (s : LogicalProducerClient (registration i)) : (b.setClient i s).clients i = s :=
  Function.update_self ..

@[simp] theorem setClient_clients_of_ne (b : Bridge registration) {i j : ι}
    {s : LogicalProducerClient (registration j)} (h : j ≠ i) :
    (b.setClient j s).clients i = b.clients i :=
  Function.update_of_ne (Ne.symm h) _ _

@[simp] theorem setClient_setClient (b : Bridge registration) {i : ι}
    (s s' : LogicalProducerClient (registration i)) :
    (b.setClient i s).setClient i s' = b.setClient i s' := by
  simp [setClient]

/-- The status lookup of a call has its answer. -/
def setFound (b : Bridge registration) (i : ι) (call : Nat)
    (snapshot : Option PublishLifecycleSnapshot) : Bridge registration :=
  { b with found := Function.update b.found i (Function.update (b.found i) call snapshot) }

end Bridge

/-- `submit` and `retrySameRequest` of the runtime. -/
def Bridge.pass [Sha256] {ι : Type} {registration : ι → ProducerRegistration}
    (b : Bridge registration) (producerId : JavaString) (request : ClientPublishRequest) :
    Bridge registration × SubmissionResult :=
  let (agent, result) := b.agent.submit (some producerId) request
  ({ b with agent := agent }, result)

/-- An operation of a producer that calls nothing, a tracked request that is passed again,
a status lookup, what happens on its answer, and a call of others. -/
inductive BridgeEvent (ι : Type) where
  | own (i : ι) (ev : ClientEvent)
  | retried (i : ι) (t : Nat) (submission : Submission) (result : SubmissionResult)
  | lookedUp (i : ι) (t : Nat) (submission : Submission)
      (result : Except String (Option PublishLifecycleSnapshot))
  | found (i : ι) (submission : Submission) (snapshot : PublishLifecycleSnapshot)
  | submitted (i : ι) (submission : Submission) (result : SubmissionResult)
  | other (call : AgentCall)

/-- The time a status lookup of `submit` has. -/
def statusTimeout : Duration := .ofMillis 250

section Steps

variable [Sha256] {ι : Type} [DecidableEq ι] {registration : ι → ProducerRegistration}
  (producerId : ι → JavaString)

inductive BridgeStep (b : Bridge registration) : BridgeEvent ι → Bridge registration → Prop
  | own {i ev s} (hst : ClientStep (b.clients i) ev s) (hpassed : s.passed = (b.clients i).passed)
      (hlookups : s.lookups = (b.clients i).lookups) :
      BridgeStep b (.own i ev) (b.setClient i s)
  | retried {i t s submission b' result} (hst : ClientStep (b.clients i) (.advance t) s)
      (hpassed : s.passed = (b.clients i).passed ++ [submission])
      (hlookups : s.lookups = (b.clients i).lookups)
      (hpass : (b.setClient i s).pass (producerId i) submission.request = (b', result)) :
      BridgeStep b (.retried i t submission result) b'
  | lookedUp {i t s submission snapshot} (hst : ClientStep (b.clients i) (.advance t) s)
      (hpassed : s.passed = (b.clients i).passed)
      (hlookups : s.lookups = (b.clients i).lookups ++ [submission])
      (hstatus : b.agent.getStatus submission.eventId.toText statusTimeout = .ok snapshot) :
      BridgeStep b (.lookedUp i t submission (.ok snapshot))
        ((b.setClient i s).setFound i submission.call snapshot)
  | found {i s submission snapshot} (hst : ClientStep (b.clients i) (.answered submission true) s)
      (hfound : b.found i submission.call = some snapshot) :
      BridgeStep b (.found i submission snapshot) (b.setClient i s)
  | submitted {i s submission b' result}
      (hst : ClientStep (b.clients i) (.answered submission false) s)
      (hfound : b.found i submission.call = none)
      (hpass : (b.setClient i s).pass (producerId i) submission.request = (b', result)) :
      BridgeStep b (.submitted i submission result) b'
  | other {call agent} (hst : AgentStep b.agent call agent) :
      BridgeStep b (.other call) { b with agent := agent }

def bridgeLts : Lts (Bridge registration) (BridgeEvent ι) where
  step := BridgeStep producerId

end Steps

/-! ## What its parts see -/

namespace BridgeEvent

variable {ι : Type} [DecidableEq ι]

/-- The call of the agent. -/
def agentCall? (producerId : ι → JavaString) : BridgeEvent ι → Option AgentCall
  | .retried i _ submission result => some (.submit (some (producerId i)) submission.request result)
  | .lookedUp _ _ submission result =>
      some (.getStatus submission.eventId.toText statusTimeout result)
  | .submitted i submission result => some (.submit (some (producerId i)) submission.request result)
  | .other call => some call
  | _ => none

/-- The operation of producer `i`. -/
def clientEvent? (i : ι) : BridgeEvent ι → Option ClientEvent
  | .own j ev => if j = i then some ev else none
  | .retried j t _ _ => if j = i then some (.advance t) else none
  | .lookedUp j t _ _ => if j = i then some (.advance t) else none
  | .found j submission _ => if j = i then some (.answered submission true) else none
  | .submitted j submission _ => if j = i then some (.answered submission false) else none
  | .other _ => none

end BridgeEvent

/-- How the submission of a call ended, by the status lookup of the call or by the agent. -/
structure Answer where
  submission : Submission
  result : SubmissionResult
  byStatus : Bool

def BridgeEvent.answer? {ι : Type} [DecidableEq ι] (i : ι) : BridgeEvent ι → Option Answer
  | .retried j _ submission result => if j = i then some ⟨submission, result, false⟩ else none
  | .found j submission snapshot =>
      if j = i then some ⟨submission, .completed snapshot, true⟩ else none
  | .submitted j submission result => if j = i then some ⟨submission, result, false⟩ else none
  | _ => none

section Runs

variable [Sha256] {ι : Type} [DecidableEq ι] {registration : ι → ProducerRegistration}
  {producerId : ι → JavaString} {b₀ b b' : Bridge registration} {tr : List (BridgeEvent ι)}

/-- The calls of the agent. -/
def agentCalls (producerId : ι → JavaString) (tr : List (BridgeEvent ι)) : List AgentCall :=
  tr.filterMap (·.agentCall? producerId)

/-- The operations of producer `i`. -/
def clientEvents (i : ι) (tr : List (BridgeEvent ι)) : List ClientEvent :=
  tr.filterMap (·.clientEvent? i)

/-- The answers to the submissions of producer `i`. -/
def answers (i : ι) (tr : List (BridgeEvent ι)) : List Answer :=
  tr.filterMap (·.answer? i)

omit [DecidableEq ι] in
theorem Bridge.pass_clients {p : JavaString} {request : ClientPublishRequest}
    {result : SubmissionResult} (h : b.pass p request = (b', result)) :
    b'.clients = b.clients := by
  cases h
  rfl

theorem bridgeRun_agent (hrun : (bridgeLts producerId).Run b₀ tr b) :
    agentLts.Run b₀.agent (agentCalls producerId tr) b.agent := by
  refine hrun.part (f := Bridge.agent) ?_ ?_
  · intro b ev b' call hst hcall
    cases hst with
    | retried hst hpassed hlookups hpass =>
        cases hcall
        cases hpass
        exact .submit
    | lookedUp hst hpassed hlookups hstatus =>
        cases hcall
        rw [← hstatus]
        exact .getStatus
    | submitted hst hfound hpass =>
        cases hcall
        cases hpass
        exact .submit
    | other hst =>
        cases hcall
        exact hst
    | own => cases hcall
    | found => cases hcall
  · intro b ev b' hst hcall
    cases hst with
    | own => rfl
    | found => rfl
    | retried => cases hcall
    | lookedUp => cases hcall
    | submitted => cases hcall
    | other => cases hcall

omit [Sha256] in
theorem Bridge.client_moves {i j : ι} {ev e : ClientEvent}
    {s : LogicalProducerClient (registration j)} (hst : ClientStep (b.clients j) ev s)
    (hclients : b'.clients = (b.setClient j s).clients)
    (he : (if j = i then some ev else none) = some e) :
    (clientLts (registration i)).step (b.clients i) e (b'.clients i) := by
  split at he
  · rename_i hj
    subst hj
    cases he
    rw [hclients]
    rw [b.setClient_clients]
    exact hst
  · cases he

omit [Sha256] in
theorem Bridge.client_stays {i j : ι} {ev : ClientEvent}
    {s : LogicalProducerClient (registration j)}
    (hclients : b'.clients = (b.setClient j s).clients)
    (he : (if j = i then some ev else none) = none) : b'.clients i = b.clients i := by
  split at he
  · cases he
  · rename_i hj
    rw [hclients]
    exact b.setClient_clients_of_ne hj

theorem bridgeRun_client (hrun : (bridgeLts producerId).Run b₀ tr b) (i : ι) :
    (clientLts (registration i)).Run (b₀.clients i) (clientEvents i tr) (b.clients i) := by
  refine hrun.part (f := fun b => b.clients i) ?_ ?_
  · intro b ev b' e hst he
    cases hst with
    | own hst => exact Bridge.client_moves hst rfl he
    | retried hst hpassed hlookups hpass =>
        cases hpass
        exact Bridge.client_moves hst rfl he
    | lookedUp hst => exact Bridge.client_moves hst rfl he
    | found hst => exact Bridge.client_moves hst rfl he
    | submitted hst hfound hpass =>
        cases hpass
        exact Bridge.client_moves hst rfl he
    | other => cases he
  · intro b ev b' hst he
    cases hst with
    | own hst => exact Bridge.client_stays rfl he
    | retried hst hpassed hlookups hpass =>
        cases hpass
        exact Bridge.client_stays rfl he
    | lookedUp hst => exact Bridge.client_stays rfl he
    | found hst => exact Bridge.client_stays rfl he
    | submitted hst hfound hpass =>
        cases hpass
        exact Bridge.client_stays rfl he
    | other => rfl

/-! ## What its producers are answered -/

/-- A status lookup under way has found a snapshot of its event. -/
def Bridge.FindsKept (b : Bridge registration) : Prop :=
  ∀ i, ∀ p ∈ (b.clients i).lookups, ∀ snapshot, b.found i p.call = some snapshot →
    ∃ canonical, b.agent.Keeps p.eventId.toText canonical snapshot

/-- What the lookups under way have found after a step: what they had, or what the agent
has of the event that is looked up. -/
theorem BridgeStep.finds {ev : BridgeEvent ι} (hst : BridgeStep producerId b ev b')
    {i : ι} {found : List Submission} (hhands : (b'.clients i).Hands found) {p : Submission}
    (hp : p ∈ (b'.clients i).lookups) {snapshot : PublishLifecycleSnapshot}
    (hfound : b'.found i p.call = some snapshot) :
    (p ∈ (b.clients i).lookups ∧ b.found i p.call = some snapshot) ∨
      ∃ canonical, b'.agent.Keeps p.eventId.toText canonical snapshot := by
  have hsame : ∀ {j} {s : LogicalProducerClient (registration j)},
      s.lookups ⊆ (b.clients j).lookups → p ∈ ((b.setClient j s).clients i).lookups →
      p ∈ (b.clients i).lookups := by
    intro j s hsub hp
    by_cases hj : j = i
    · subst hj
      rw [b.setClient_clients] at hp
      exact hsub hp
    · rw [b.setClient_clients_of_ne hj] at hp
      exact hp
  cases hst with
  | own hst hpassed hlookups => exact .inl ⟨hsame (by rw [hlookups]; simp) hp, hfound⟩
  | retried hst hpassed hlookups hpass =>
      cases hpass
      exact .inl ⟨hsame (by rw [hlookups]; simp) hp, hfound⟩
  | found hst =>
      refine .inl ⟨hsame ?_ hp, hfound⟩
      cases hst with
      | answered hit hlookups =>
          rw [hlookups]
          exact ((List.sublist_cons_self _ _).append_left _).subset
  | submitted hst _ hpass =>
      cases hpass
      refine .inl ⟨hsame ?_ hp, hfound⟩
      cases hst with
      | answered hit hlookups =>
          rw [hlookups]
          exact ((List.sublist_cons_self _ _).append_left _).subset
  | lookedUp hst hpassed hlookups hstatus =>
      rename_i j t s submission result
      by_cases hj : i = j
      · subst hj
        have hclient : (((b.setClient i s).setFound i submission.call result).clients i) = s :=
          b.setClient_clients s
        rw [hclient] at hhands hp
        have hcall : Function.update b.found i
            (Function.update (b.found i) submission.call result) i p.call = some snapshot := hfound
        rw [Function.update_self] at hcall
        rw [hlookups, List.mem_append, List.mem_singleton] at hp
        rcases hp with hp | rfl
        · rw [Function.update_of_ne (hhands.lookup_ne hlookups hp)] at hcall
          exact .inl ⟨hp, hcall⟩
        · rw [Function.update_self] at hcall
          rw [hcall] at hstatus
          exact .inr (FakeAgentFixture.keeps_of_getStatus hstatus)
      · have hfound : Function.update b.found j
            (Function.update (b.found j) submission.call result) i p.call = some snapshot := hfound
        rw [Function.update_of_ne hj] at hfound
        have hp : p ∈ ((b.setClient j s).clients i).lookups := hp
        rw [b.setClient_clients_of_ne (Ne.symm hj)] at hp
        exact .inl ⟨hp, hfound⟩
  | other => exact .inl ⟨hp, hfound⟩

theorem BridgeStep.findsKept {ev : BridgeEvent ι}
    (hst : BridgeStep producerId b ev b') (h : b.FindsKept)
    (hhands : ∀ i, ∃ found, (b'.clients i).Hands found) : b'.FindsKept := by
  intro i p hp snapshot hfound
  obtain ⟨found, hhands⟩ := hhands i
  rcases hst.finds hhands hp hfound with ⟨hp, hfound⟩ | hkeeps
  · obtain ⟨canonical, hkeeps⟩ := h i p hp snapshot hfound
    have hagent := bridgeRun_agent (Lts.Run.snoc (T := bridgeLts producerId) .nil hst)
    exact ⟨canonical, agentRun_stays hagent hkeeps⟩
  · exact hkeeps

variable {a₀ : FakeAgentFixture}

theorem bridgeRun_findsKept
    (hrun : (bridgeLts producerId).Run (Bridge.new a₀ : Bridge registration) tr b) :
    b.FindsKept := by
  induction hrun with
  | nil => exact fun _ _ hp => by cases hp
  | snoc hrun hst ih =>
      refine BridgeStep.findsKept hst ih fun i => ?_
      have hclient := bridgeRun_client (hrun.snoc hst) i
      exact ⟨_, clientRun_hands hclient⟩

/-- What a step passes on for producer `i` and what a lookup of the producer finds are what
the producer is answered. -/
theorem BridgeStep.answers {ev : BridgeEvent ι} (hst : BridgeStep producerId b ev b') (i : ι) :
    ∃ passed found : List Submission,
      (b'.clients i).passed = (b.clients i).passed ++ passed ∧
      (ev.clientEvent? i).toList.filterMap ClientEvent.found? = found ∧
      (ev.answer? i).toList.map (·.submission) = passed ++ found := by
  have hother : ∀ {j} {s : LogicalProducerClient (registration j)}, j ≠ i →
      ((b.setClient j s).clients i).passed = (b.clients i).passed ++ [] := by
    intro j s hj
    rw [b.setClient_clients_of_ne hj, List.append_nil]
  have hself : ∀ {s : LogicalProducerClient (registration i)},
      ((b.setClient i s).clients i).passed = s.passed := by
    intro s
    rw [b.setClient_clients]
  cases hst with
  | own hst hpassed hlookups =>
      rename_i j e s
      by_cases hj : j = i
      · subst hj
        have hnone : e.found? = none := by
          cases hst with
          | answered hit hpending =>
              rw [hpending] at hlookups
              have hlength := congrArg List.length hlookups
              simp at hlength
          | _ => rfl
        refine ⟨[], [], ?_, ?_, rfl⟩
        · rw [hself, hpassed, List.append_nil]
        · show (if j = j then some e else none).toList.filterMap ClientEvent.found? = []
          simp [hnone]
      · exact ⟨[], [], hother hj, by simp [BridgeEvent.clientEvent?, hj], rfl⟩
  | retried hst hpassed hlookups hpass =>
      rename_i j t s submission result
      cases hpass
      by_cases hj : j = i
      · subst hj
        exact ⟨[submission], [], hself.trans hpassed, by simp [BridgeEvent.clientEvent?, ClientEvent.found?],
          by simp [BridgeEvent.answer?]⟩
      · exact ⟨[], [], hother hj, by simp [BridgeEvent.clientEvent?, hj],
          by simp [BridgeEvent.answer?, hj]⟩
  | lookedUp hst hpassed hlookups hstatus =>
      rename_i j t s submission result
      by_cases hj : j = i
      · subst hj
        exact ⟨[], [], (hself.trans hpassed).trans (List.append_nil _).symm,
          by simp [BridgeEvent.clientEvent?, ClientEvent.found?], rfl⟩
      · exact ⟨[], [], hother hj, by simp [BridgeEvent.clientEvent?, hj], rfl⟩
  | found hst =>
      rename_i j s submission snapshot _
      by_cases hj : j = i
      · subst hj
        have hpassed : s.passed = (b.clients j).passed := by
          cases hst
          rfl
        exact ⟨[], [submission], (hself.trans hpassed).trans (List.append_nil _).symm,
          by simp [BridgeEvent.clientEvent?, ClientEvent.found?], by simp [BridgeEvent.answer?]⟩
      · exact ⟨[], [], hother hj, by simp [BridgeEvent.clientEvent?, hj],
          by simp [BridgeEvent.answer?, hj]⟩
  | submitted hst hfound hpass =>
      rename_i j s submission result
      cases hpass
      by_cases hj : j = i
      · subst hj
        have hpassed : s.passed = (b.clients j).passed ++ [submission] := by
          cases hst
          rfl
        exact ⟨[submission], [], hself.trans hpassed,
          by simp [BridgeEvent.clientEvent?, ClientEvent.found?], by simp [BridgeEvent.answer?]⟩
      · exact ⟨[], [], hother hj, by simp [BridgeEvent.clientEvent?, hj],
          by simp [BridgeEvent.answer?, hj]⟩
  | other => exact ⟨[], [], (List.append_nil _).symm, rfl, rfl⟩

/-- What a producer is answered is what it passed on and what its lookups found. -/
theorem bridgeRun_answers
    (hrun : (bridgeLts producerId).Run (Bridge.new a₀ : Bridge registration) tr b) (i : ι) :
    ((answers i tr).map (·.submission)).Perm
      ((b.clients i).passed ++ foundSubmissions (clientEvents i tr)) := by
  induction hrun with
  | nil => exact .nil
  | snoc _ hst ih =>
      obtain ⟨passed, found, hpassed, hfound, hanswer⟩ := BridgeStep.answers hst i
      unfold answers foundSubmissions clientEvents at ih ⊢
      rw [hpassed, Lts.filterMap_snoc, Lts.filterMap_snoc, List.filterMap_append, List.map_append,
        hanswer, hfound]
      refine (ih.append_right _).trans ?_
      simp only [List.append_assoc]
      refine .append_left _ ?_
      rw [← List.append_assoc, ← List.append_assoc]
      exact List.perm_append_comm.append_right _

/-- Where an answer comes from: the agent answered the request, or the status lookup of the
call found what the agent answered to a submission of the event. -/
theorem bridgeRun_answered {capacity limit : Int32} {installationId : JavaString}
    (hnew : FakeAgentFixture.construct capacity installationId limit = .ok a₀)
    (hrun : (bridgeLts producerId).Run (Bridge.new a₀ : Bridge registration) tr b) {i : ι}
    {x : Answer} (hx : x ∈ answers i tr) :
    (x.byStatus = false ∧
      .submit (some (producerId i)) x.submission.request x.result ∈ agentCalls producerId tr ∧
      (registration i).Issued x.submission.eventId x.submission.request.envelopeInput) ∨
    ∃ snapshot p request, x.byStatus = true ∧ x.result = .completed snapshot ∧
      .submit p request (.completed snapshot) ∈ agentCalls producerId tr ∧
      request.envelopeInput.eventId = x.submission.eventId.toText := by
  obtain ⟨ev, hev, hanswer⟩ := List.mem_filterMap.mp hx
  obtain ⟨tr₁, tr₂, rfl⟩ := List.append_of_mem hev
  obtain ⟨b₁, b₂, hrun₁, hst, -⟩ := hrun.step_at
  have hissues := clientRun_issues (bridgeRun_client (hrun₁.snoc hst) i)
  have hcall : ∀ {call}, ev.agentCall? producerId = some call →
      call ∈ agentCalls producerId (tr₁ ++ ev :: tr₂) := fun hcall =>
    List.mem_filterMap.mpr ⟨ev, hev, hcall⟩
  have hissued : ∀ {s : LogicalProducerClient (registration i)} {passed : List Submission}
      {p : Submission}, b₂.clients i = s → s.passed = passed ++ [p] →
      (registration i).Issued p.eventId p.request.envelopeInput := by
    intro s passed p hclient hs
    refine hissues.passed p ?_
    rw [hclient, hs]
    simp
  cases hst with
  | retried hst hpassed hlookups hpass =>
      rename_i j t s submission result
      by_cases hj : j = i
      · subst hj
        obtain rfl : ⟨submission, result, false⟩ = x := by
          simpa [BridgeEvent.answer?] using hanswer
        have hclient : b₂.clients j = s := by
          rw [Bridge.pass_clients hpass]
          exact b₁.setClient_clients s
        exact .inl ⟨rfl, hcall rfl, hissued hclient hpassed⟩
      · simp [BridgeEvent.answer?, hj] at hanswer
  | submitted hst hfound hpass =>
      rename_i j s submission result
      by_cases hj : j = i
      · subst hj
        obtain rfl : ⟨submission, result, false⟩ = x := by
          simpa [BridgeEvent.answer?] using hanswer
        have hclient : b₂.clients j = s := by
          rw [Bridge.pass_clients hpass]
          exact b₁.setClient_clients s
        have hpassed : s.passed = (b₁.clients j).passed ++ [submission] := by
          cases hst
          rfl
        exact .inl ⟨rfl, hcall rfl, hissued hclient hpassed⟩
      · simp [BridgeEvent.answer?, hj] at hanswer
  | found hst hfound =>
      rename_i j s submission snapshot
      by_cases hj : j = i
      · subst hj
        obtain rfl : ⟨submission, .completed snapshot, true⟩ = x := by
          simpa [BridgeEvent.answer?] using hanswer
        have hpending : submission ∈ (b₁.clients j).lookups := by
          cases hst with
          | answered hit hlookups =>
              rw [hlookups]
              simp
        obtain ⟨canonical, hkeeps⟩ := bridgeRun_findsKept hrun₁ j submission hpending _ hfound
        obtain ⟨p, request, hmem, hid, -⟩ :=
          agentRun_genuine hnew (bridgeRun_agent hrun₁) hkeeps
        refine .inr ⟨snapshot, p, request, rfl, rfl, ?_, hid⟩
        unfold agentCalls
        rw [List.filterMap_append]
        exact List.mem_append_left _ hmem
      · simp [BridgeEvent.answer?, hj] at hanswer
  | _ => cases hanswer

/-- A completed answer is what the agent answered to a submission of the event: of the
request itself, unless it comes from a status lookup. -/
theorem bridgeRun_completed {capacity limit : Int32} {installationId : JavaString}
    (hnew : FakeAgentFixture.construct capacity installationId limit = .ok a₀)
    (hrun : (bridgeLts producerId).Run (Bridge.new a₀ : Bridge registration) tr b) {i : ι}
    {x : Answer} (hx : x ∈ answers i tr) {snapshot : PublishLifecycleSnapshot}
    (hresult : x.result = .completed snapshot) :
    ∃ p request, .submit p request (.completed snapshot) ∈ agentCalls producerId tr ∧
      request.envelopeInput.eventId = x.submission.eventId.toText ∧
      (x.byStatus = false → request = x.submission.request) := by
  rcases bridgeRun_answered hnew hrun hx with
    ⟨-, hmem, hissued⟩ | ⟨found, p, request, hstatus, hfound, hmem, hid⟩
  · rw [hresult] at hmem
    exact ⟨_, _, hmem, hissued.exists_construct.1, fun _ => rfl⟩
  · obtain rfl : found = snapshot := by simpa [hfound] using hresult
    exact ⟨p, request, hmem, hid, fun hown => by rw [hstatus] at hown; cases hown⟩

end Runs

end CraftRelay.Client
