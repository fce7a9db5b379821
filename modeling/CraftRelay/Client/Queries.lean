import CraftRelay.Lib.KeyedTable
import CraftRelay.Lib.Lts
import CraftRelay.Client.JavaString
import CraftRelay.Client.ReconnectPolicy

/-!
# Typed queries

`LogicalProducerClient.query` over any query service, and `FakeQueryServiceFixture`. Any
number of threads ask; a step is one operation on the counter of pending queries, a request
to the service, its answer, or the completion of the stage that the caller was given. The
proven barrier is null and the proven tokens are empty everywhere, and the metrics are left
out.
-/

namespace CraftRelay.Client

/-- `ContractLimits.MAX_QUERY_PARAMETER_BYTES`. -/
def maxQueryParameterBytes : Nat := 65536

/-! ## Freshness -/

/-- `QueryConsistency.Mode`. -/
inductive QueryMode where
  | strictLatestCommitted | atLeastToken | allowStale
  deriving DecidableEq

def QueryMode.name : QueryMode → String
  | .strictLatestCommitted => "STRICT_LATEST_COMMITTED"
  | .atLeastToken => "AT_LEAST_TOKEN"
  | .allowStale => "ALLOW_STALE"

/-- `QueryFreshnessMetadata.Proof`. -/
inductive FreshnessProof where
  | strictProven | tokenProven | staleAccepted | unavailable
  deriving DecidableEq

/-- `QueryFreshnessMetadata`, with what its constructor checks. -/
structure QueryFreshnessMetadata where
  requestedMode : QueryMode
  proof : FreshnessProof
  current : Bool
  authoritative : Bool
  trackingDetached : Bool
  proven : proof = .strictProven ∨ proof = .tokenProven → current = true ∧ authoritative = true
  attached : trackingDetached = true → current = false

/-! ## The query service -/

/-- What a query fails with: exceptions of the client, of the fake service, and whatever a
service or a generated decoder throws. -/
inductive QueryError where
  | illegalArgument (message : String)
  | illegalState (message : String)
  | nullPointer
  | tokenReadNotImplemented (message : String)
  | strictReadNotImplemented (message : String)
  | other (message : String)
  deriving DecidableEq

/-- `QueryServiceClient.Response`. -/
structure QueryServiceResponse where
  typedResult : Bytes
  proof : String
  current : Bool
  authoritative : Bool

/-- The arguments of `QueryServiceClient.query`. -/
structure ServiceCall where
  contractHandle : JavaString
  typedParameters : Bytes
  freshnessMode : String
  timeout : Duration

/-- What a query service may do with a call: throw, or complete its stage. -/
structure QueryService where
  throws : ServiceCall → Prop
  answers : ServiceCall → Except QueryError QueryServiceResponse → Prop

/-- Any behaviour at all. -/
def QueryService.any : QueryService := ⟨fun _ => True, fun _ _ => True⟩

/-- `FakeQueryServiceFixture`. -/
structure FakeQueryServiceFixture where
  responses : KeyedTable (Prod.fst : JavaString × Bytes → JavaString)
  bounded : responses.rows.length ≤ 256 ∧ ∀ row ∈ responses.rows, row.2.length ≤ 1048576

namespace FakeQueryServiceFixture

def query (fake : FakeQueryServiceFixture) (call : ServiceCall) :
    Except QueryError QueryServiceResponse :=
  if maxQueryParameterBytes < call.typedParameters.length then
    .error (.illegalArgument "query parameters exceed bounds")
  else if call.timeout.isNegative || call.timeout.isZero then
    .error (.illegalArgument "timeout must be positive")
  else
    match fake.responses.find? call.contractHandle with
    | none => .error (.illegalArgument "unknown typed query contract")
    | some response =>
        if call.freshnessMode ≠ "ALLOW_STALE" then
          if call.freshnessMode = "AT_LEAST_TOKEN" then
            .error (.tokenReadNotImplemented
              "Sprint 1 fake Query Service cannot prove authoritative freshness")
          else
            .error (.strictReadNotImplemented
              "Sprint 1 fake Query Service cannot prove authoritative freshness")
        else .ok ⟨response.2, "STALE_ACCEPTED", false, false⟩

/-- The fake never throws and answers each call in one way. -/
def service (fake : FakeQueryServiceFixture) : QueryService :=
  ⟨fun _ => False, fun call result => result = fake.query call⟩

end FakeQueryServiceFixture

/-! ## Requests and responses -/

/-- `TypedQueryRequest`: what generated code encodes and decodes. -/
structure TypedQueryRequest (R : Type) where
  contract : JavaString
  encodedParameters : Bytes
  decodeResult : Bytes → Except QueryError R

structure TypedQueryResponse (R : Type) where
  value : R
  freshness : QueryFreshnessMetadata

/-- The `switch` on the proof a service names. -/
def FreshnessProof.ofService (proof : String) : FreshnessProof :=
  if proof = "STALE_ACCEPTED" then .staleAccepted else .unavailable

theorem FreshnessProof.ofService_not_proven (proof : String) :
    FreshnessProof.ofService proof ≠ .strictProven ∧
      FreshnessProof.ofService proof ≠ .tokenProven := by
  unfold ofService
  split <;> simp

/-- The stage after the service's: the freshness first, then the decoded value. -/
def TypedQueryRequest.response {R : Type} (request : TypedQueryRequest R) (mode : QueryMode)
    (response : QueryServiceResponse) : Except QueryError (TypedQueryResponse R) :=
  let freshness : QueryFreshnessMetadata :=
    { requestedMode := mode
      proof := .ofService response.proof
      current := response.current
      authoritative := response.authoritative
      trackingDetached := false
      proven := fun h => by
        have hproof := FreshnessProof.ofService_not_proven response.proof
        exact absurd h (not_or.mpr hproof)
      attached := by simp }
  (request.decodeResult response.typedResult).map fun value => ⟨value, freshness⟩

/-! ## Threads and pending queries -/

/-- The stage a caller was given: the service has not answered, it has answered, or it has
and the counter was lowered, which is when the caller sees the result. -/
inductive QueryStage (R : Type) where
  | waiting
  | answered (result : Except QueryError (TypedQueryResponse R))
  | completed (result : Except QueryError (TypedQueryResponse R))

/-- A query the service was given. -/
structure PendingQuery (R : Type) where
  request : TypedQueryRequest R
  mode : QueryMode
  timeout : Duration
  stage : QueryStage R

def PendingQuery.call {R : Type} (q : PendingQuery R) : ServiceCall :=
  ⟨q.request.contract, q.request.encodedParameters, q.mode.name, q.timeout⟩

/-- The counter has not been lowered for the query. -/
def PendingQuery.isPending {R : Type} (q : PendingQuery R) : Bool :=
  match q.stage with
  | .completed _ => false
  | _ => true

inductive QueryTask (R : Type) where
  | idle
  | failed (error : QueryError)
  | threw (error : QueryError)
  | counting (request : TypedQueryRequest R) (consistency : Option QueryMode)
      (timeout : Duration)
  | counted (count : Int32) (request : TypedQueryRequest R) (consistency : Option QueryMode)
      (timeout : Duration)
  | returned (query : Nat)

/-- The thread can make a call. -/
def QueryTask.isFree {R : Type} : QueryTask R → Bool
  | .counting _ _ _ | .counted _ _ _ _ => false
  | _ => true

/-! ## The client -/

/-- What a query reads of the producer's manifest. -/
structure QueryManifest where
  queryContractHandles : List JavaString
  maxPendingQueries : Int32
  bounded : 0 < maxPendingQueries.toInt ∧ maxPendingQueries.toInt ≤ 4096

/-- The counter of a client, the queries the service was given and the threads. The calls
that threw after they had raised the counter are counted in `lost`. -/
structure ProducerQueries (manifest : QueryManifest) (R : Type) (n : Nat) where
  pendingQueries : Int32
  queries : List (PendingQuery R)
  threads : Fin n → QueryTask R
  lost : Nat

namespace ProducerQueries

variable {manifest : QueryManifest} {R : Type} {n : Nat}

def new : ProducerQueries manifest R n := ⟨0, [], fun _ => .idle, 0⟩

def setThread (s : ProducerQueries manifest R n) (t : Fin n) (task : QueryTask R) :
    ProducerQueries manifest R n :=
  { s with threads := Function.update s.threads t task }

/-- The beginning of `query`, which touches nothing shared. -/
def query (s : ProducerQueries manifest R n) (t : Fin n) (request : TypedQueryRequest R)
    (consistency : Option QueryMode) (timeout : Option Duration) :
    ProducerQueries manifest R n :=
  match timeout with
  | none => s.setThread t (.threw (.illegalArgument "timeout must be positive"))
  | some timeout =>
      if timeout.isZero || timeout.isNegative then
        s.setThread t (.threw (.illegalArgument "timeout must be positive"))
      else if request.contract ∉ manifest.queryContractHandles then
        s.setThread t (.failed (.illegalArgument
          "query contract handle is not issued by this integration manifest"))
      else if maxQueryParameterBytes < request.encodedParameters.length then
        s.setThread t (.failed (.illegalArgument "typed query parameters exceed bounded limit"))
      else s.setThread t (.counting request consistency timeout)

/-- A call that throws after it has raised the counter. -/
def lose (s : ProducerQueries manifest R n) (t : Fin n) (error : QueryError) :
    ProducerQueries manifest R n :=
  setThread { s with lost := s.lost + 1 } t (.threw error)

/-- The stage of a query changes. -/
def setStage (s : ProducerQueries manifest R n) (i : Nat) (stage : QueryStage R) :
    ProducerQueries manifest R n :=
  { s with queries := s.queries.modify i fun q => { q with stage := stage } }

end ProducerQueries

inductive QueryEvent (R : Type) (n : Nat) where
  | query (t : Fin n) (request : TypedQueryRequest R) (consistency : Option QueryMode)
      (timeout : Option Duration)
  | increment (t : Fin n)
  | refuse (t : Fin n)
  | send (t : Fin n)
  | nullConsistency (t : Fin n)
  | serviceThrew (t : Fin n)
  | answer (i : Nat) (result : Except QueryError QueryServiceResponse)
  | complete (i : Nat)

/-- One operation of a thread, the service's answer to a query, or the end of its stage. -/
inductive QueryStep (service : QueryService) {manifest : QueryManifest} {R : Type} {n : Nat}
    (s : ProducerQueries manifest R n) :
    QueryEvent R n → ProducerQueries manifest R n → Prop
  | query {t} (request : TypedQueryRequest R) (consistency : Option QueryMode)
      (timeout : Option Duration) (hfree : (s.threads t).isFree = true) :
      QueryStep service s (.query t request consistency timeout)
        (s.query t request consistency timeout)
  | increment {t request consistency timeout}
      (ht : s.threads t = .counting request consistency timeout) :
      QueryStep service s (.increment t)
        (ProducerQueries.setThread { s with pendingQueries := s.pendingQueries + 1 } t
          (.counted (s.pendingQueries + 1) request consistency timeout))
  | refuse {t count request consistency timeout}
      (ht : s.threads t = .counted count request consistency timeout)
      (hlt : manifest.maxPendingQueries < count) :
      QueryStep service s (.refuse t)
        (ProducerQueries.setThread { s with pendingQueries := s.pendingQueries - 1 } t
          (.failed (.illegalState "per-producer pending query capacity exhausted")))
  | send {t count request mode timeout}
      (ht : s.threads t = .counted count request (some mode) timeout)
      (hle : ¬ manifest.maxPendingQueries < count) :
      QueryStep service s (.send t)
        (ProducerQueries.setThread
          { s with queries := s.queries ++ [⟨request, mode, timeout, .waiting⟩] } t
          (.returned s.queries.length))
  | nullConsistency {t count request timeout}
      (ht : s.threads t = .counted count request none timeout)
      (hle : ¬ manifest.maxPendingQueries < count) :
      QueryStep service s (.nullConsistency t) (s.lose t .nullPointer)
  | serviceThrew {t count request mode timeout} (message : String)
      (ht : s.threads t = .counted count request (some mode) timeout)
      (hle : ¬ manifest.maxPendingQueries < count)
      (hthrows : service.throws ⟨request.contract, request.encodedParameters, mode.name, timeout⟩) :
      QueryStep service s (.serviceThrew t) (s.lose t (.other message))
  | answer {i q result} (hq : s.queries[i]? = some q) (hwaiting : q.stage = .waiting)
      (hanswers : service.answers q.call result) :
      QueryStep service s (.answer i result)
        (s.setStage i (.answered (result >>= q.request.response q.mode)))
  | complete {i q result} (hq : s.queries[i]? = some q) (hanswered : q.stage = .answered result) :
      QueryStep service s (.complete i)
        (ProducerQueries.setStage { s with pendingQueries := s.pendingQueries - 1 } i
          (.completed result))

def queryLts (service : QueryService) (manifest : QueryManifest) (R : Type) (n : Nat) :
    Lts (ProducerQueries manifest R n) (QueryEvent R n) where
  step := QueryStep service

end CraftRelay.Client
