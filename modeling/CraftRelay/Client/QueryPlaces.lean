import CraftRelay.Lib.Slots
import CraftRelay.Client.Queries

/-!
# The places of the queries

The counter of pending queries is, in every interleaving, the calls that were granted a
place, the queries whose stage is not completed, the calls that were too many, and those
that threw after they raised it (`ProducerQueries.Sound`). The last are never taken off.
-/

namespace CraftRelay.Client

open Slots (Ledger tally weigh)

/-- The thread has a place that no query has yet. -/
def QueryTask.held {R : Type} (maxPendingQueries : Int32) : QueryTask R → Nat
  | .counted count _ _ _ => if maxPendingQueries < count then 0 else 1
  | _ => 0

/-- The thread found the counter above the capacity and has not lowered it yet. -/
def QueryTask.surplus {R : Type} (maxPendingQueries : Int32) : QueryTask R → Nat
  | .counted count _ _ _ => if maxPendingQueries < count then 1 else 0
  | _ => 0

theorem QueryTask.weighs_of_isFree {R : Type} {task : QueryTask R} (h : task.isFree = true)
    (maxPendingQueries : Int32) :
    task.held maxPendingQueries = 0 ∧ task.surplus maxPendingQueries = 0 := by
  cases task with
  | counting => cases h
  | counted => cases h
  | _ => exact ⟨rfl, rfl⟩

/-- The event is the end of a call that throws after it has raised the counter. -/
def QueryEvent.loses {R : Type} {n : Nat} : QueryEvent R n → Bool
  | .nullConsistency _ => true
  | .serviceThrew _ => true
  | _ => false

namespace ProducerQueries

variable {manifest : QueryManifest} {R : Type} {n : Nat} {service : QueryService}
  {s s' : ProducerQueries manifest R n} {t : Fin n}

/-- The queries the counter was not lowered for. -/
def pending (s : ProducerQueries manifest R n) : List (PendingQuery R) :=
  s.queries.filter PendingQuery.isPending

/-- The places: of threads, of queries, and those that are lost. -/
def held (s : ProducerQueries manifest R n) : Nat :=
  tally (QueryTask.held manifest.maxPendingQueries) s.threads +
    weigh (fun q => q.isPending.toNat) s.queries + s.lost

def surplus (s : ProducerQueries manifest R n) : Nat :=
  tally (QueryTask.surplus manifest.maxPendingQueries) s.threads

def Sound (s : ProducerQueries manifest R n) : Prop :=
  Ledger manifest.maxPendingQueries s.pendingQueries s.held s.surplus

theorem sound_new : (new : ProducerQueries manifest R n).Sound := by
  have hheld : (new : ProducerQueries manifest R n).held = 0 := by
    show tally _ (fun _ : Fin n => QueryTask.idle) + 0 + 0 = 0
    rw [Slots.tally_eq_zero]
    intro i
    rfl
  have hsurplus : (new : ProducerQueries manifest R n).surplus = 0 :=
    Slots.tally_eq_zero fun _ => rfl
  unfold Sound
  rw [hheld, hsurplus]
  exact .new (by have := manifest.bounded.1; omega)

theorem Sound.of_counts {a b : Nat}
    (h : Ledger manifest.maxPendingQueries s.pendingQueries a b) (hheld : s.held = a)
    (hsurplus : s.surplus = b) : s.Sound := by
  subst hheld hsurplus
  exact h

/-- The state after one operation of a thread. -/
def set (s : ProducerQueries manifest R n) (t : Fin n) (count : Int32)
    (queries : List (PendingQuery R)) (lost : Nat) (task : QueryTask R) :
    ProducerQueries manifest R n :=
  ⟨count, queries, Function.update s.threads t task, lost⟩

theorem held_set (s : ProducerQueries manifest R n) (t : Fin n) (count : Int32)
    (queries : List (PendingQuery R)) (lost : Nat) (task : QueryTask R) :
    (s.set t count queries lost task).held + (s.threads t).held manifest.maxPendingQueries +
        weigh (fun q => q.isPending.toNat) s.queries + s.lost =
      s.held + task.held manifest.maxPendingQueries +
        weigh (fun q => q.isPending.toNat) queries + lost := by
  have hsum := Slots.tally_update (QueryTask.held manifest.maxPendingQueries) s.threads t task
  show tally _ (Function.update s.threads t task) + weigh _ queries + lost + _ + _ + _ = _
  unfold held
  omega

theorem surplus_set (s : ProducerQueries manifest R n) (t : Fin n) (count : Int32)
    (queries : List (PendingQuery R)) (lost : Nat) (task : QueryTask R) :
    (s.set t count queries lost task).surplus +
        (s.threads t).surplus manifest.maxPendingQueries =
      s.surplus + task.surplus manifest.maxPendingQueries :=
  Slots.tally_update _ _ _ _

/-- A thread changed that holds nothing before and after. -/
theorem Sound.setThread (h : s.Sound) {task : QueryTask R} (hfree : (s.threads t).isFree = true)
    (hheld : task.held manifest.maxPendingQueries = 0)
    (hsurplus : task.surplus manifest.maxPendingQueries = 0) : (s.setThread t task).Sound := by
  have h₁ := s.held_set t s.pendingQueries s.queries s.lost task
  have h₂ := s.surplus_set t s.pendingQueries s.queries s.lost task
  obtain ⟨hold, hold'⟩ :=
    QueryTask.weighs_of_isFree hfree manifest.maxPendingQueries
  exact .of_counts (s := s.set t s.pendingQueries s.queries s.lost task) h (by omega) (by omega)

/-- Raising the counter. -/
theorem Sound.increment (h : s.Sound) (hbound : s.held + s.surplus + 1 < 2 ^ 31)
    {request : TypedQueryRequest R} {consistency : Option QueryMode} {timeout : Duration}
    (ht : s.threads t = .counting request consistency timeout) :
    (s.set t (s.pendingQueries + 1) s.queries s.lost
      (.counted (s.pendingQueries + 1) request consistency timeout)).Sound := by
  have h₁ := s.held_set t (s.pendingQueries + 1) s.queries s.lost
    (.counted (s.pendingQueries + 1) request consistency timeout)
  have h₂ := s.surplus_set t (s.pendingQueries + 1) s.queries s.lost
    (.counted (s.pendingQueries + 1) request consistency timeout)
  simp only [ht, QueryTask.held, QueryTask.surplus] at h₁ h₂
  by_cases hlt : manifest.maxPendingQueries < s.pendingQueries + 1
  · rw [if_pos hlt] at h₁ h₂
    exact .of_counts (h.raise_surplus hbound) (by omega) (by omega)
  · rw [if_neg hlt] at h₁ h₂
    exact .of_counts (h.raise_held hbound hlt) (by omega) (by omega)

section

variable {count : Int32} {request : TypedQueryRequest R} {consistency : Option QueryMode}
  {timeout : Duration}

/-- A call that was too many lowers the counter. -/
theorem Sound.refuse (h : s.Sound)
    (ht : s.threads t = .counted count request consistency timeout)
    (hlt : manifest.maxPendingQueries < count) (error : QueryError) :
    (s.set t (s.pendingQueries - 1) s.queries s.lost (.failed error)).Sound := by
  have h₁ := s.held_set t (s.pendingQueries - 1) s.queries s.lost (.failed error)
  have h₂ := s.surplus_set t (s.pendingQueries - 1) s.queries s.lost (.failed error)
  simp only [ht, QueryTask.held, QueryTask.surplus, if_pos hlt] at h₁ h₂
  have hledger : Ledger manifest.maxPendingQueries s.pendingQueries s.held
      ((s.set t (s.pendingQueries - 1) s.queries s.lost (.failed error)).surplus + 1) := by
    rw [show _ + 1 = s.surplus by omega]
    exact h
  exact .of_counts hledger.lower_surplus (by omega) rfl

/-- The place of a call goes to its query, or is lost. -/
theorem Sound.pass (h : s.Sound)
    (ht : s.threads t = .counted count request consistency timeout)
    (hle : ¬ manifest.maxPendingQueries < count) {queries : List (PendingQuery R)} {lost : Nat}
    {task : QueryTask R} (hheld : task.held manifest.maxPendingQueries = 0)
    (hsurplus : task.surplus manifest.maxPendingQueries = 0)
    (hplace : weigh (fun q => q.isPending.toNat) queries + lost =
      weigh (fun q => q.isPending.toNat) s.queries + s.lost + 1) :
    (s.set t s.pendingQueries queries lost task).Sound := by
  have h₁ := s.held_set t s.pendingQueries queries lost task
  have h₂ := s.surplus_set t s.pendingQueries queries lost task
  have hold : (s.threads t).held manifest.maxPendingQueries = 1 := by
    rw [ht]
    exact if_neg hle
  have hold' : (s.threads t).surplus manifest.maxPendingQueries = 0 := by
    rw [ht]
    exact if_neg hle
  exact .of_counts (s := s.set t s.pendingQueries queries lost task) h (by omega) (by omega)

end

/-- A stage that changes, with what the counter then is. -/
theorem weigh_setStage {i : Nat} {q : PendingQuery R} (hq : s.queries[i]? = some q)
    (stage : QueryStage R) :
    weigh (fun q => q.isPending.toNat) (s.setStage i stage).queries + q.isPending.toNat =
      weigh (fun q => q.isPending.toNat) s.queries +
        ({ q with stage := stage } : PendingQuery R).isPending.toNat :=
  Slots.weigh_modify _ _ hq

theorem step_sound (h : s.Sound) (hn : n + 4097 < 2 ^ 31) {ev : QueryEvent R n}
    (hst : QueryStep service s ev s') : s'.Sound := by
  cases hst with
  | query request consistency timeout hfree =>
      unfold query
      cases timeout with
      | none => exact h.setThread hfree rfl rfl
      | some timeout =>
          simp only
          split
          · exact h.setThread hfree rfl rfl
          split
          · exact h.setThread hfree rfl rfl
          split
          · exact h.setThread hfree rfl rfl
          · exact h.setThread hfree rfl rfl
  | increment ht =>
      refine h.increment ?_ ht
      have hheld := h.held_le
      have hmax := manifest.bounded.2
      have hsurplus : s.surplus ≤ n := by
        refine Slots.tally_le (fun task => ?_) s.threads
        unfold QueryTask.surplus
        split
        · split <;> omega
        · omega
      omega
  | refuse ht hlt => exact h.refuse ht hlt _
  | send ht hle =>
      refine h.pass ht hle rfl rfl ?_
      exact (congrArg (· + s.lost) (Slots.weigh_append _ _ _)).trans (Nat.add_right_comm _ _ _)
  | nullConsistency ht hle => exact h.pass ht hle rfl rfl rfl
  | serviceThrew message ht hle hthrows => exact h.pass ht hle rfl rfl rfl
  | answer hq hwaiting hanswers =>
      rename_i i q result
      have hweigh := s.weigh_setStage hq (.answered (result >>= q.request.response q.mode))
      have hbefore : q.isPending = true := by
        unfold PendingQuery.isPending
        rw [hwaiting]
      rw [hbefore] at hweigh
      refine .of_counts (s := s.setStage i _) h ?_ rfl
      have hsame := Nat.add_right_cancel hweigh
      unfold held
      rw [hsame]
      rfl
  | complete hq hanswered =>
      rename_i i q result
      have hweigh := s.weigh_setStage hq (.completed result)
      have hbefore : q.isPending = true := by
        unfold PendingQuery.isPending
        rw [hanswered]
      rw [hbefore] at hweigh
      -- the place of the query is given back
      have hheld : s.held = (s.setStage i (.completed result)).held + 1 := by
        have hafter : weigh (fun q => q.isPending.toNat) (s.setStage i (.completed result)).queries
            + 1 = weigh (fun q => q.isPending.toNat) s.queries := hweigh
        show s.held = tally _ s.threads + weigh _ (s.setStage i (.completed result)).queries +
          s.lost + 1
        unfold held
        omega
      have hledger : Ledger manifest.maxPendingQueries s.pendingQueries
          ((s.setStage i (.completed result)).held + 1) s.surplus := by
        rw [← hheld]
        exact h
      exact .of_counts hledger.lower_held rfl rfl

theorem run_sound (hn : n + 4097 < 2 ^ 31) {tr : List (QueryEvent R n)}
    (hrun : (queryLts service manifest R n).Run new tr s) : s.Sound :=
  hrun.invariant (Q := fun _ => True) (fun _ _ => trivial) sound_new
    fun _ _ _ _ hpre hst => step_sound hpre hn hst

/-! ## The counter where no call is under way -/

theorem held_eq (s : ProducerQueries manifest R n) :
    s.held = tally (QueryTask.held manifest.maxPendingQueries) s.threads + s.pending.length +
      s.lost := by
  unfold held pending
  rw [Slots.weigh_eq_length_filter]

/-- The queries under way and the lost places stay within the limit. -/
theorem Sound.places (h : s.Sound) :
    s.pending.length + s.lost ≤ manifest.maxPendingQueries.toInt := by
  have hle := h.held_le
  rw [s.held_eq] at hle
  omega

theorem Sound.rest (h : s.Sound) (hfree : ∀ t, (s.threads t).isFree = true) :
    s.pendingQueries.toInt = s.pending.length + s.lost := by
  have hnone := fun t => QueryTask.weighs_of_isFree (hfree t) manifest.maxPendingQueries
  have hthreads : tally (QueryTask.held manifest.maxPendingQueries) s.threads = 0 :=
    Slots.tally_eq_zero fun t => (hnone t).1
  have hsurplus : s.surplus = 0 := Slots.tally_eq_zero fun t => (hnone t).2
  have hcount := h.count_eq
  rw [s.held_eq, hthreads, hsurplus] at hcount
  omega

theorem query_frame (s : ProducerQueries manifest R n) (t : Fin n) (request : TypedQueryRequest R)
    (consistency : Option QueryMode) (timeout : Option Duration) :
    (s.query t request consistency timeout).pendingQueries = s.pendingQueries ∧
      (s.query t request consistency timeout).queries = s.queries ∧
      (s.query t request consistency timeout).lost = s.lost := by
  unfold query
  cases timeout with
  | none => exact ⟨rfl, rfl, rfl⟩
  | some timeout =>
      simp only
      split
      · exact ⟨rfl, rfl, rfl⟩
      split
      · exact ⟨rfl, rfl, rfl⟩
      split
      · exact ⟨rfl, rfl, rfl⟩
      · exact ⟨rfl, rfl, rfl⟩

/-- A call that is made where no other is under way finds the counter one above it. -/
theorem Sound.rest_increment (h : s.Sound) (hfree : ∀ t, (s.threads t).isFree = true)
    {request : TypedQueryRequest R} {consistency : Option QueryMode}
    {timeout : Option Duration} {tr : List (QueryEvent R n)}
    (hrun : (queryLts service manifest R n).Run s
      (.query t request consistency timeout :: .increment t :: tr) s') :
    ∃ s₁ count request consistency timeout, (queryLts service manifest R n).Run s₁ tr s' ∧
      s₁.threads t = .counted count request consistency timeout ∧
      (manifest.maxPendingQueries < count ↔
        manifest.maxPendingQueries.toInt ≤ s.pending.length + s.lost) := by
  obtain ⟨s₀, hquery, hrun⟩ := hrun.head
  obtain ⟨s₁, hincrement, hrun⟩ := hrun.head
  have hcount : s₀.pendingQueries = s.pendingQueries := by
    cases hquery with
    | query request consistency timeout hfree => exact (s.query_frame _ _ _ _).1
  have hmax := manifest.bounded.2
  have hplaces := h.places
  have hrest := h.rest hfree
  -- the counter is what it was at rest, so the ledger of that moment decides
  have hledger : Ledger manifest.maxPendingQueries s.pendingQueries
      (s.pending.length + s.lost) 0 := ⟨by omega, by omega⟩
  have hroom := hledger.lt_raise_iff (by omega)
  cases hincrement with
  | increment ht =>
      refine ⟨_, s₀.pendingQueries + 1, _, _, _, hrun, Function.update_self .., ?_⟩
      rw [hcount, hroom]
      omega

/-- Alone, a call is refused only where the limit is reached. -/
theorem Sound.rest_refuse (h : s.Sound) (hfree : ∀ t, (s.threads t).isFree = true)
    {request : TypedQueryRequest R} {consistency : Option QueryMode}
    {timeout : Option Duration}
    (hrun : (queryLts service manifest R n).Run s
      [.query t request consistency timeout, .increment t, .refuse t] s') :
    s.pending.length + s.lost = manifest.maxPendingQueries.toInt := by
  obtain ⟨s₁, count, request, consistency, timeout, hrun, ht, hroom⟩ :=
    h.rest_increment hfree hrun
  obtain ⟨s₂, hst, -⟩ := hrun.head
  have hplaces := h.places
  cases hst with
  | refuse ht' hlt =>
      cases ht.symm.trans ht'
      have hfull := hroom.mp hlt
      omega

/-- Alone, a call goes to the service only where the limit is not reached. -/
theorem Sound.rest_send (h : s.Sound) (hfree : ∀ t, (s.threads t).isFree = true)
    {request : TypedQueryRequest R} {consistency : Option QueryMode}
    {timeout : Option Duration}
    (hrun : (queryLts service manifest R n).Run s
      [.query t request consistency timeout, .increment t, .send t] s') :
    s.pending.length + s.lost < manifest.maxPendingQueries.toInt := by
  obtain ⟨s₁, count, request, consistency, timeout, hrun, ht, hroom⟩ :=
    h.rest_increment hfree hrun
  obtain ⟨s₂, hst, -⟩ := hrun.head
  cases hst with
  | send ht' hle =>
      cases ht.symm.trans ht'
      have hnot := (not_congr hroom).mp hle
      omega

/-! ## Lost places -/

/-- Only such a call loses a place, and nothing brings one back. -/
theorem step_lost {ev : QueryEvent R n} (hst : QueryStep service s ev s') :
    s'.lost = s.lost + ev.loses.toNat := by
  cases hst with
  | query request consistency timeout hfree => exact (s.query_frame _ _ _ _).2.2
  | nullConsistency => rfl
  | serviceThrew => rfl
  | _ => rfl

theorem run_lost {tr : List (QueryEvent R n)}
    (hrun : (queryLts service manifest R n).Run s tr s') :
    s'.lost = s.lost + tr.countP QueryEvent.loses := by
  induction hrun with
  | nil => rfl
  | snoc hrun hst ih =>
      rename_i tr s₁ ev s₂
      rw [step_lost hst, ih, List.countP_append, List.countP_singleton]
      cases ev.loses with
      | false => simp
      | true =>
          simp
          omega

/-- Where every place is lost, no query goes to the service any more. -/
theorem Sound.step_exhausted (h : s.Sound)
    (hlost : s.lost = manifest.maxPendingQueries.toInt) {ev : QueryEvent R n}
    (hst : QueryStep service s ev s') :
    s'.queries.length = s.queries.length ∧ s'.lost = s.lost := by
  -- a call within the capacity would have a place
  have hnone : ∀ t, (s.threads t).held manifest.maxPendingQueries = 0 := by
    intro t
    have hle := Slots.le_tally (QueryTask.held manifest.maxPendingQueries) s.threads t
    have hheld := h.held_le
    rw [s.held_eq] at hheld
    omega
  have hno : ∀ {t count request consistency timeout},
      s.threads t = .counted count request consistency timeout →
      ¬ manifest.maxPendingQueries < count → False := by
    intro t count request consistency timeout ht hle
    have hzero := hnone t
    rw [ht] at hzero
    exact absurd hzero (by simp [QueryTask.held, hle])
  cases hst with
  | query request consistency timeout hfree =>
      obtain ⟨-, hqueries, hsame⟩ := s.query_frame _ request consistency timeout
      exact ⟨congrArg List.length hqueries, hsame⟩
  | increment => exact ⟨rfl, rfl⟩
  | refuse => exact ⟨rfl, rfl⟩
  | send ht hle => exact (hno ht hle).elim
  | nullConsistency ht hle => exact (hno ht hle).elim
  | serviceThrew message ht hle => exact (hno ht hle).elim
  | answer => exact ⟨List.length_modify .., rfl⟩
  | complete => exact ⟨List.length_modify .., rfl⟩

/-- And so for the rest of every run. -/
theorem run_exhausted (hn : n + 4097 < 2 ^ 31) (h : s.Sound)
    (hlost : s.lost = manifest.maxPendingQueries.toInt) {tr : List (QueryEvent R n)}
    (hrun : (queryLts service manifest R n).Run s tr s') :
    s'.queries.length = s.queries.length ∧ s'.lost = s.lost := by
  have hall : s'.Sound ∧ s'.queries.length = s.queries.length ∧ s'.lost = s.lost := by
    induction hrun with
    | nil => exact ⟨h, rfl, rfl⟩
    | snoc hrun hst ih =>
        obtain ⟨hsound, hlength, hsame⟩ := ih
        have hstep := hsound.step_exhausted (by rw [hsame]; exact hlost) hst
        exact ⟨step_sound hsound hn hst, hstep.1.trans hlength, hstep.2.trans hsame⟩
  exact hall.2

/-! ## What the callers are told -/

/-- Every stage that has a result has what an answer of the service gives. -/
def Answered (service : QueryService) (s : ProducerQueries manifest R n) : Prop :=
  ∀ q ∈ s.queries, ∀ result, q.stage = .answered result ∨ q.stage = .completed result →
    ∃ response, service.answers q.call response ∧
      result = response >>= q.request.response q.mode

theorem Answered.setStage (h : s.Answered service) {i : Nat} {q : PendingQuery R}
    (hq : s.queries[i]? = some q) {stage : QueryStage R}
    (hstage : ∀ result, stage = .answered result ∨ stage = .completed result →
      ∃ response, service.answers q.call response ∧
        result = response >>= q.request.response q.mode) :
    (s.setStage i stage).Answered service := by
  intro x hx result hresult
  obtain ⟨j, hj⟩ := List.mem_iff_getElem?.mp hx
  have hj : (s.queries.modify i fun q => { q with stage := stage })[j]? = some x := hj
  rw [List.getElem?_modify] at hj
  by_cases hij : i = j
  · subst hij
    simp only [hq, if_true, Option.map_eq_map, Option.map_some, Option.some.injEq] at hj
    subst hj
    exact hstage result hresult
  · simp only [hij, if_false, Option.map_eq_map, Option.map_id'] at hj
    exact h x (List.mem_of_getElem? hj) result hresult

theorem step_answered (h : s.Answered service) {ev : QueryEvent R n}
    (hst : QueryStep service s ev s') : s'.Answered service := by
  cases hst with
  | query request consistency timeout hfree =>
      unfold Answered
      rw [(s.query_frame _ _ _ _).2.1]
      exact h
  | increment => exact h
  | refuse => exact h
  | send ht hle =>
      intro x hx result hresult
      rcases List.mem_append.mp hx with hx | hx
      · exact h x hx result hresult
      · rw [List.mem_singleton] at hx
        subst hx
        simp at hresult
  | nullConsistency => exact h
  | serviceThrew => exact h
  | answer hq hwaiting hanswers =>
      refine h.setStage hq fun result hresult => ?_
      obtain rfl : _ = result := by simpa using hresult
      exact ⟨_, hanswers, rfl⟩
  | complete hq hanswered =>
      rename_i i q r
      refine h.setStage hq fun result hresult => ?_
      obtain rfl : r = result := by simpa using hresult
      exact h q (List.mem_of_getElem? hq) r (.inl hanswered)

theorem run_answered {tr : List (QueryEvent R n)}
    (hrun : (queryLts service manifest R n).Run new tr s) : s.Answered service := by
  refine hrun.invariant (P := Answered service) (Q := fun _ => True) (fun _ _ => trivial) ?_
    fun _ _ _ _ hpre hst => step_answered hpre hst
  intro q hq
  cases hq

end ProducerQueries

/-- What a decoded response says of its freshness is what the service said, and it never
claims a proof. -/
theorem TypedQueryRequest.response_eq_ok {R : Type} {request : TypedQueryRequest R}
    {mode : QueryMode} {response : QueryServiceResponse} {r : TypedQueryResponse R}
    (h : request.response mode response = .ok r) :
    request.decodeResult response.typedResult = .ok r.value ∧
      r.freshness.requestedMode = mode ∧ r.freshness.proof = .ofService response.proof ∧
      r.freshness.current = response.current ∧
      r.freshness.authoritative = response.authoritative := by
  unfold TypedQueryRequest.response at h
  cases hdecode : request.decodeResult response.typedResult with
  | error e =>
      rw [hdecode] at h
      cases h
  | ok value =>
      rw [hdecode] at h
      cases h
      exact ⟨rfl, rfl, rfl, rfl, rfl⟩

/-- The fake answers only reads that allow a stale result. -/
theorem FakeQueryServiceFixture.query_eq_ok {fake : FakeQueryServiceFixture} {call : ServiceCall}
    {response : QueryServiceResponse} (h : fake.query call = .ok response) :
    call.freshnessMode = "ALLOW_STALE" ∧
      ∃ row, fake.responses.find? call.contractHandle = some row ∧
        response = ⟨row.2, "STALE_ACCEPTED", false, false⟩ := by
  unfold FakeQueryServiceFixture.query at h
  split at h
  · cases h
  split at h
  · cases h
  split at h
  · cases h
  rename_i row hrow
  split at h
  · split at h <;> cases h
  rename_i hmode
  cases h
  exact ⟨not_not.mp hmode, row, hrow, rfl⟩

end CraftRelay.Client
