import CraftRelay.Lib.Lts
import CraftRelay.Journal.Transitions

/-!
# The journal as a transition system

`LocalJournal` holds its connection behind a mutex, so a call of a public method
is one atomic step. `JournalCall` names the public methods with their arguments,
`JournalCall.Reply` their results, and a label of `journalLts` is a call that
returned, with the environment it ran in. Any order of the calls of any number
of clients is a run of this system.
-/

namespace CraftRelay

/-- The part of the configuration that decides anything; the rest are PRAGMA
values. -/
structure JournalConfig where
  maxPayloadBytes : Nat := 1048576

/-- The journal: its configuration, its database and the shutdown flag. -/
structure LocalJournal where
  config : JournalConfig
  db : Db
  shutdown : Bool

/-- A journal opened on a new file. -/
def LocalJournal.open (config : JournalConfig) : LocalJournal := ⟨config, .empty, false⟩

/-- A public method with its arguments. -/
inductive JournalCall where
  | accept (req : AcceptRequest)
  | getStatus (eventId : String)
  | getStatusByJournalSeq (journalSeq : Int)
  | updateLifecycle (eventId : String) (expectedRevision : Int)
      (newDelivery : LocalDeliveryStatus) (newRetention : LocalRetentionStatus)
  | verifyPayload (eventId : String)
  | readVerifiedPayload (eventId : String)
  | createDeliveryPending (eventId : String) (routingFingerprint : Checksum)
      (profileId : String) (profileVersion : Int) (kafkaTopic : String)
  | recordDeliveryAttempt (attempt : DeliveryAttemptRecord)
  | confirmReplicatedDelivery (eventId : String) (expectedDeliveryRevision : Int)
      (confirmation : ReplicatedDeliveryConfirmation)
  | blockDelivery (eventId : String) (expectedDeliveryRevision : Int) (reason : String)
  | updateDeliveryRetry (eventId : String) (expectedDeliveryRevision nextRetryAtMs : Int)
  | scanPendingDeliveries (limit : Int)
  | scanRetryingDeliveries (nowMs limit : Int)
  | scanDeliveryGateStates (limit : Int)
  | getDeliveryState (eventId : String)
  | getDeliveryCandidate (eventId : String)
  | shutdown
  | isShutdown

/-- What a method returns. -/
abbrev JournalCall.Reply : JournalCall → Type
  | .accept _ => AcceptResult
  | .getStatus _ => StatusResult
  | .getStatusByJournalSeq _ => StatusResult
  | .updateLifecycle .. => CasResult
  | .verifyPayload _ => VerifyResult
  | .readVerifiedPayload _ => PayloadReadResult
  | .createDeliveryPending .. => CasResult
  | .recordDeliveryAttempt _ => CasResult
  | .confirmReplicatedDelivery .. => CasResult
  | .blockDelivery .. => CasResult
  | .updateDeliveryRetry .. => CasResult
  | .scanPendingDeliveries _ => DeliveryScanResult
  | .scanRetryingDeliveries .. => DeliveryScanResult
  | .scanDeliveryGateStates _ => DeliveryScanResult
  | .getDeliveryState _ => DeliveryStateResult
  | .getDeliveryCandidate _ => DeliveryCandidateResult
  | .shutdown => Unit
  | .isShutdown => Bool

variable [Sha256]

/-- `accept`: the admission checks, then the transaction. -/
def LocalJournal.accept (j : LocalJournal) (env : CallEnv) (req : AcceptRequest) :
    Option (LocalJournal × AcceptResult) :=
  if j.shutdown then some (j, .shuttingDown)
  else if !env.diskSafe then some (j, .diskUnsafe)
  else if j.config.maxPayloadBytes < req.payload.length then
    some (j, .error "payload exceeds max size")
  else if req.eventId = "" ∨ req.installationId = "" then
    some (j, .error "missing required field")
  else
    (acceptTransaction env j.db req).map fun result => ({ j with db := result.1 }, result.2)

/-- A method that leaves a database and a result. -/
def LocalJournal.write {α : Type} (j : LocalJournal) (result : Db × α) :
    Option (LocalJournal × α) :=
  some ({ j with db := result.1 }, result.2)

/-- Perform one call. `none` is the panic of `accept`. -/
def LocalJournal.exec (j : LocalJournal) (env : CallEnv) :
    (c : JournalCall) → Option (LocalJournal × c.Reply)
  | .accept req => j.accept env req
  | .getStatus eventId => some (j, getStatusImpl env j.db eventId)
  | .getStatusByJournalSeq journalSeq => some (j, getStatusByJournalSeq env j.db journalSeq)
  | .updateLifecycle eventId rev delivery retention =>
      j.write (updateLifecycle env j.db eventId rev delivery retention)
  | .verifyPayload eventId => some (j, verifyPayload env j.db eventId)
  | .readVerifiedPayload eventId => some (j, readVerifiedPayload env j.db eventId)
  | .createDeliveryPending eventId fingerprint profileId profileVersion topic =>
      j.write (createDeliveryPending env j.db eventId fingerprint profileId profileVersion topic)
  | .recordDeliveryAttempt attempt => j.write (recordDeliveryAttempt env j.db attempt)
  | .confirmReplicatedDelivery eventId rev confirmation =>
      j.write (confirmReplicatedDelivery env j.db eventId rev confirmation)
  | .blockDelivery eventId rev reason => j.write (blockDelivery env j.db eventId rev reason)
  | .updateDeliveryRetry eventId rev next => j.write (updateDeliveryRetry env j.db eventId rev next)
  | .scanPendingDeliveries limit => some (j, scanPendingDeliveries env j.db limit)
  | .scanRetryingDeliveries nowMs limit => some (j, scanRetryingDeliveries env j.db nowMs limit)
  | .scanDeliveryGateStates limit => some (j, scanDeliveryGateStates env j.db limit)
  | .getDeliveryState eventId => some (j, loadDeliveryState env j.db eventId)
  | .getDeliveryCandidate eventId => some (j, loadDeliveryCandidate env j.db eventId)
  | .shutdown => some ({ j with shutdown := true }, ())
  | .isShutdown => some (j, j.shutdown)

/-- A call that returned. -/
structure JournalEvent where
  env : CallEnv
  call : JournalCall
  reply : call.Reply

/-- Any client may make any call at any time. -/
def journalLts : Lts LocalJournal JournalEvent where
  step j ev j' := j.exec ev.env ev.call = some (j', ev.reply)

/-- A journal some run of calls leads to from a new file. -/
def Reachable (j : LocalJournal) : Prop :=
  ∃ config tr, journalLts.Run (LocalJournal.open config) tr j

theorem Reachable.run {j j' : LocalJournal} {tr : List JournalEvent} (h : Reachable j)
    (hrun : journalLts.Run j tr j') : Reachable j' := by
  obtain ⟨config, tr₀, hrun₀⟩ := h
  exact ⟨config, tr₀ ++ tr, hrun₀.append hrun⟩

/-- A trace determines the journal it leads to. -/
theorem journalRun_deterministic {j j₁ j₂ : LocalJournal} {tr : List JournalEvent}
    (h₁ : journalLts.Run j tr j₁) (h₂ : journalLts.Run j tr j₂) : j₁ = j₂ := by
  refine h₁.deterministic ?_ h₂
  intro t ev u u' hu hu'
  have hpair := hu.symm.trans hu'
  exact congrArg Prod.fst (Option.some.inj hpair)

end CraftRelay
