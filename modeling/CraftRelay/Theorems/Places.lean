import CraftRelay.Lib.EarlyReturn
import CraftRelay.Client.QueryPlaces
import CraftRelay.Client.WatchPlaces

/-!
# Watches and queries of a producer

The two limits of a producer's manifest that are kept by counters, over every interleaving
of its threads, and what a caller is told about the freshness of a query.
-/

namespace CraftRelay.Client

/-! ## Watches -/

/-- Any number of threads ask for watches, close them and detach them, in any order and any
number of times. Never more handles say they are current than the manifest allows, and a
handle that does not say so never does again. Where no call is under way the counter counts
the handles that are current, and a call that then runs alone is granted a watch just when
fewer are current than the manifest allows. -/
theorem watches_bounded {maxActiveWatches : Int32} {n : Nat}
    (hmax : 0 < maxActiveWatches.toInt ∧ maxActiveWatches.toInt ≤ 4096)
    (hn : n + 4097 < 2 ^ 31) {tr : List (WatchEvent n)}
    {s : ProducerWatches maxActiveWatches n}
    (hrun : (watchLts maxActiveWatches n).Run .new tr s) :
    s.current.length ≤ maxActiveWatches.toInt ∧
      (∀ i tr' s', (watchLts maxActiveWatches n).Run s tr' s' → s.Over i → s'.Over i) ∧
      ((∀ t, (s.threads t).isFree = true) →
        s.activeWatches.toInt = s.current.length ∧
        ∀ t timeout s', timeout.isZero = false → timeout.isNegative = false →
          (watchLts maxActiveWatches n).Run s
            [.watch t (some timeout), .advance t, .advance t, .advance t] s' →
          ∃ i h, s'.threads t = .returned i ∧ s'.handles[i]? = some h ∧
            h.isCurrent = decide ((s.current.length : Int) < maxActiveWatches.toInt)) := by
  have hsound := ProducerWatches.run_sound ⟨by omega, hmax.2⟩ hn hrun
  refine ⟨hsound.current_le, ?_, ?_⟩
  · intro i tr' s' hrun' hover
    exact hsound.run_over hmax.2 hn hrun' hover
  · intro hfree
    refine ⟨hsound.rest hfree, ?_⟩
    intro t timeout s' hzero hneg hcall
    exact hsound.rest_watch hmax.2 hfree hzero hneg hcall

def sampleTimeout : Duration := .ofMillis 250

/-- Two threads and one watch allowed: a call of one thread, alone. -/
theorem sampleWatch (s : ProducerWatches 1 2) (t : Fin 2) (hfree : (s.threads t).isFree = true) :
    (watchLts 1 2).Run s [.watch t (some sampleTimeout), .advance t, .advance t, .advance t]
      ((((s.watch t (some sampleTimeout)).advance t).advance t).advance t) := by
  have hwatch : (watchLts 1 2).step s (.watch t (some sampleTimeout)) _ :=
    WatchStep.watch _ hfree
  have hadvance : ∀ s : ProducerWatches 1 2, (watchLts 1 2).step s (.advance t) (s.advance t) :=
    fun _ => WatchStep.advance
  exact (((Lts.Run.nil.snoc hwatch).snoc (hadvance _)).snoc (hadvance _)).snoc (hadvance _)

/-- After the first call. -/
def sampleGranted : ProducerWatches 1 2 :=
  (((ProducerWatches.new.watch 0 (some sampleTimeout)).advance 0).advance 0).advance 0

/-- The watch of the first call is current, and the second call is refused one. -/
theorem watches_bounded_sample :
    ∃ s s' : ProducerWatches 1 2,
      (watchLts 1 2).Run .new
        [.watch 0 (some sampleTimeout), .advance 0, .advance 0, .advance 0] s ∧
      s.current.length = 1 ∧
      (watchLts 1 2).Run s
        [.watch 1 (some sampleTimeout), .advance 1, .advance 1, .advance 1] s' ∧
      ∃ i h, s'.threads 1 = .returned i ∧ s'.handles[i]? = some h ∧ h.isCurrent = false := by
  have hrun : (watchLts 1 2).Run .new _ sampleGranted := sampleWatch .new 0 rfl
  have hrun' := sampleWatch sampleGranted 1 rfl
  refine ⟨_, _, hrun, rfl, hrun', ?_⟩
  obtain ⟨-, -, hrest⟩ := watches_bounded (by decide) (by decide) hrun
  obtain ⟨-, hcall⟩ := hrest (by decide)
  exact hcall 1 sampleTimeout _ (by decide) (by decide) hrun'

/-! ## Queries -/

/-- Any number of threads ask any query service. The queries under way and the calls that
threw after they had raised the counter never outnumber the limit of the manifest; where no
call is under way the counter counts them, and a call that then runs alone is refused only
where the limit is reached and goes to the service only where it is not. The calls that
threw are never taken off: once there were as many as the limit, no query goes to the
service in any continuation. -/
theorem pending_queries_bounded {service : QueryService} {manifest : QueryManifest} {R : Type}
    {n : Nat} (hn : n + 4097 < 2 ^ 31) {tr : List (QueryEvent R n)}
    {s : ProducerQueries manifest R n} (hrun : (queryLts service manifest R n).Run .new tr s) :
    s.pending.length + tr.countP QueryEvent.loses ≤ manifest.maxPendingQueries.toInt ∧
      ((∀ t, (s.threads t).isFree = true) →
        s.pendingQueries.toInt = s.pending.length + tr.countP QueryEvent.loses ∧
        ∀ t request consistency timeout s',
          ((queryLts service manifest R n).Run s
              [.query t request consistency timeout, .increment t, .refuse t] s' →
            s.pending.length + tr.countP QueryEvent.loses = manifest.maxPendingQueries.toInt) ∧
          ((queryLts service manifest R n).Run s
              [.query t request consistency timeout, .increment t, .send t] s' →
            s.pending.length + tr.countP QueryEvent.loses < manifest.maxPendingQueries.toInt)) ∧
      (tr.countP QueryEvent.loses = manifest.maxPendingQueries.toInt →
        ∀ tr' s', (queryLts service manifest R n).Run s tr' s' →
          s'.queries.length = s.queries.length) := by
  have hsound := ProducerQueries.run_sound hn hrun
  have hlost : s.lost = tr.countP QueryEvent.loses := by
    have hsum := ProducerQueries.run_lost hrun
    have hzero : (ProducerQueries.new : ProducerQueries manifest R n).lost = 0 := rfl
    omega
  rw [← hlost]
  refine ⟨hsound.places, ?_, ?_⟩
  · intro hfree
    refine ⟨hsound.rest hfree, ?_⟩
    intro t request consistency timeout s'
    exact ⟨hsound.rest_refuse hfree, hsound.rest_send hfree⟩
  · intro hexhausted tr' s' hrun'
    exact (ProducerQueries.run_exhausted hn hsound hexhausted hrun').1

/-- A contract and one pending query allowed. -/
def sampleQueryManifest : QueryManifest := ⟨[.ofString "balance"], 1, by decide⟩

def sampleQuery : TypedQueryRequest Bytes := ⟨.ofString "balance", [1], .ok⟩

abbrev SampleQueries := ProducerQueries sampleQueryManifest Bytes 1

/-- One thread asks, and has raised the counter. -/
theorem sampleQuery_counted (service : QueryService) (consistency : Option QueryMode) :
    ∃ s : SampleQueries, (queryLts service sampleQueryManifest Bytes 1).Run .new
        [.query 0 sampleQuery consistency (some sampleTimeout), .increment 0] s ∧
      s.threads 0 = .counted 1 sampleQuery consistency sampleTimeout ∧ s.queries = [] := by
  have hquery : (queryLts service sampleQueryManifest Bytes 1).step .new
      (.query 0 sampleQuery consistency (some sampleTimeout))
      (ProducerQueries.new.query 0 sampleQuery consistency (some sampleTimeout)) :=
    QueryStep.query _ _ _ rfl
  have hcounting : (ProducerQueries.query (.new : SampleQueries) 0 sampleQuery consistency
      (some sampleTimeout)).threads 0 = .counting sampleQuery consistency sampleTimeout := rfl
  exact ⟨_, (Lts.Run.nil.snoc hquery).snoc (QueryStep.increment hcounting), rfl, rfl⟩

/-- A call without a consistency throws; the one place it took is lost for good. -/
theorem pending_queries_bounded_sample :
    ∃ s : SampleQueries, (queryLts .any sampleQueryManifest Bytes 1).Run .new
        [.query 0 sampleQuery none (some sampleTimeout), .increment 0, .nullConsistency 0] s ∧
      ∀ tr s', (queryLts .any sampleQueryManifest Bytes 1).Run s tr s' → s'.queries = [] := by
  obtain ⟨s, hrun, hthread, hqueries⟩ := sampleQuery_counted .any none
  have hlost := hrun.snoc (QueryStep.nullConsistency hthread (by decide))
  refine ⟨_, hlost, ?_⟩
  intro tr s' hrun'
  obtain ⟨-, -, hexhausted⟩ := pending_queries_bounded (by decide) hlost
  have hlength := hexhausted rfl tr s' hrun'
  rw [← List.length_eq_zero_iff, hlength]
  exact congrArg List.length hqueries

/-- What the caller of a query sees, over any query service: the mode it asked for, and
never a proof that the result is fresh. Over the fake service, only reads that allow a stale
result are answered, with what the fixture holds for the contract, and the result is said to
be neither current nor authoritative. -/
theorem query_freshness_honest {service : QueryService} {manifest : QueryManifest} {R : Type}
    {n : Nat} {tr : List (QueryEvent R n)} {s : ProducerQueries manifest R n}
    (hrun : (queryLts service manifest R n).Run .new tr s) {q : PendingQuery R}
    (hq : q ∈ s.queries) {r : TypedQueryResponse R} (hr : q.stage = .completed (.ok r)) :
    r.freshness.requestedMode = q.mode ∧ r.freshness.proof ≠ .strictProven ∧
      r.freshness.proof ≠ .tokenProven ∧
      ∀ fake : FakeQueryServiceFixture, service = fake.service →
        q.mode = .allowStale ∧ r.freshness.proof = .staleAccepted ∧
          r.freshness.current = false ∧ r.freshness.authoritative = false ∧
          ∃ row, fake.responses.find? q.request.contract = some row ∧
            q.request.decodeResult row.2 = .ok r.value := by
  obtain ⟨answer, hanswer, hresult⟩ :=
    ProducerQueries.run_answered hrun q hq _ (.inr hr)
  obtain ⟨response, rfl, hresponse⟩ := Except.bind_eq_ok_iff.mp hresult.symm
  obtain ⟨hdecode, hmode, hproof, hcurrent, hauthoritative⟩ :=
    TypedQueryRequest.response_eq_ok hresponse
  have hnot := FreshnessProof.ofService_not_proven response.proof
  refine ⟨hmode, by rw [hproof]; exact hnot.1, by rw [hproof]; exact hnot.2, ?_⟩
  rintro fake rfl
  obtain ⟨hname, row, hrow, rfl⟩ := FakeQueryServiceFixture.query_eq_ok hanswer.symm
  refine ⟨?_, hproof, hcurrent, hauthoritative, row, hrow, hdecode⟩
  have hname : q.mode.name = "ALLOW_STALE" := hname
  cases hq : q.mode with
  | allowStale => rfl
  | strictLatestCommitted =>
      rw [hq] at hname
      exact absurd hname (by decide)
  | atLeastToken =>
      rw [hq] at hname
      exact absurd hname (by decide)

/-- The fixture holds one answer for the contract. -/
def sampleFixture : FakeQueryServiceFixture where
  responses := ⟨[(.ofString "balance", [42])], by decide⟩
  bounded := by decide

def sampleSent : PendingQuery Bytes := ⟨sampleQuery, .allowStale, sampleTimeout, .waiting⟩

/-- What the caller of the sample read is told. -/
def sampleResult : Except QueryError (TypedQueryResponse Bytes) :=
  sampleFixture.query sampleSent.call >>= sampleQuery.response .allowStale

theorem setStage_sampleSent {s : SampleQueries} {q : PendingQuery Bytes} (h : s.queries = [q])
    (stage : QueryStage Bytes) : (s.setStage 0 stage).queries = [{ q with stage := stage }] := by
  show s.queries.modify 0 _ = _
  rw [h]
  rfl

/-- The read is sent, answered and completed. -/
theorem sampleQuery_completed :
    ∃ tr, ∃ s : SampleQueries,
      (queryLts sampleFixture.service sampleQueryManifest Bytes 1).Run .new tr s ∧
      s.queries = [{ sampleSent with stage := .completed sampleResult }] := by
  obtain ⟨s₀, hrun, hthread, hqueries⟩ :=
    sampleQuery_counted sampleFixture.service (some .allowStale)
  obtain ⟨s, hsent, hs⟩ : ∃ s : SampleQueries,
      (queryLts sampleFixture.service sampleQueryManifest Bytes 1).Run .new
        ([.query 0 sampleQuery (some .allowStale) (some sampleTimeout), .increment 0] ++
          [.send 0]) s ∧ s.queries = [sampleSent] := by
    refine ⟨_, hrun.snoc (QueryStep.send hthread (by decide)), ?_⟩
    show s₀.queries ++ [sampleSent] = _
    rw [hqueries]
    rfl
  have hget : s.queries[0]? = some sampleSent := by
    rw [hs]
    rfl
  have hanswered := hsent.snoc (QueryStep.answer hget rfl rfl)
  have hs' := setStage_sampleSent hs (.answered sampleResult)
  have hget' : (s.setStage 0 (.answered sampleResult)).queries[0]? =
      some { sampleSent with stage := .answered sampleResult } := by
    rw [hs']
    rfl
  exact ⟨_, _, hanswered.snoc (QueryStep.complete hget' rfl), setStage_sampleSent hs' _⟩

/-- A read that allows a stale result is answered, and not called fresh. -/
theorem query_freshness_honest_sample :
    ∃ tr, ∃ s : SampleQueries,
      (queryLts sampleFixture.service sampleQueryManifest Bytes 1).Run .new tr s ∧
      ∃ q ∈ s.queries, ∃ r, q.stage = .completed (.ok r) ∧ r.freshness.proof = .staleAccepted ∧
        r.freshness.current = false := by
  obtain ⟨tr, s, hrun, hs⟩ := sampleQuery_completed
  have hmem : { sampleSent with stage := .completed sampleResult } ∈ s.queries := by
    rw [hs]
    exact List.mem_singleton.mpr rfl
  obtain ⟨r, hr⟩ : ∃ r, sampleResult = .ok r := ⟨_, rfl⟩
  rw [hr] at hmem
  obtain ⟨-, -, -, hfake⟩ := query_freshness_honest hrun hmem rfl
  obtain ⟨-, hproof, hcurrent, -⟩ := hfake sampleFixture rfl
  exact ⟨tr, s, hrun, _, hmem, r, rfl, hproof, hcurrent⟩

end CraftRelay.Client
