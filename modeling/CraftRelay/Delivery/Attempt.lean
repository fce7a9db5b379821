import CraftRelay.Journal.Replicated
import CraftRelay.Delivery.World

/-!
# The rule for `attempt_delivery`

One walk through the method, for any discipline: what a discipline has to say
about the gate marks the method can end with, so that the method is safe under
it. The walk knows one fact about the journal, that a confirmation it was
answered is on record and stays there; so it already gives that a replicated
outcome is a persisted acknowledgement, whatever the other parties do.
-/

namespace CraftRelay

/-- The calls a service makes. -/
def JournalCall.ByService : JournalCall → Prop
  | .getDeliveryCandidate _ => True
  | .readVerifiedPayload _ => True
  | .recordDeliveryAttempt _ => True
  | .confirmReplicatedDelivery .. => True
  | .blockDelivery .. => True
  | .updateDeliveryRetry .. => True
  | .scanDeliveryGateStates _ => True
  | _ => False

variable [Sha256]

namespace Discipline

/-- The gate marks around a send of a candidate, and the send itself, keep the
discipline. -/
structure Marks (D : Discipline) (svc : DeliveryService) (eventId streamKey : String)
    (streamSequence : Int) (j : LocalJournal) : Prop where
  blocking : D.idle j (svc.withGate (svc.gate.markBlocking streamKey streamSequence))
  inFlight : D.idle j (svc.withGate (svc.gate.markInFlight streamKey streamSequence))
  failed : D.idle j (svc.withGate
    ((svc.gate.markInFlight streamKey streamSequence).markBlocking streamKey streamSequence))
  confirmed : ∀ j' p o, D.rely j j' → j'.db.Acked eventId p o → D.idle j' (svc.withGate
    ((svc.gate.markInFlight streamKey streamSequence).markCompleted streamKey streamSequence))
  send : ∀ j' request, D.rely j j' → request.eventId = eventId → D.guard j' (.send request)

/-- What a discipline owes to `attempt_delivery` of an event. -/
structure AttemptRule (D : Discipline) (eventId : String) : Prop where
  relyRun : ∀ j j', D.rely j j' → ∃ tr, journalLts.Run j tr j'
  journal : ∀ j call, call.ByService → D.guard j (.journal call)
  clock : ∀ j, D.guard j .clock
  other : ∀ j out, (∀ p o, out ≠ .replicated p o) → D.post j (.attemptDelivery eventId) out
  acked : ∀ j p o, j.db.Acked eventId p o →
    D.post j (.attemptDelivery eventId) (.replicated p o)
  completed : ∀ j env svc candidate, D.Ok j → D.idle j svc →
    loadDeliveryCandidate env j.db eventId = .found candidate →
    svc.gate.check candidate.streamKey candidate.streamSequence = .allowed →
    candidate.deliveryState.deliveryStatus = "REPLICATED" →
    D.idle j (svc.withGate
      (svc.gate.markCompleted candidate.streamKey candidate.streamSequence))
  marks : ∀ j env svc candidate, D.Ok j → D.idle j svc →
    loadDeliveryCandidate env j.db eventId = .found candidate →
    svc.gate.check candidate.streamKey candidate.streamSequence = .allowed →
    candidate.deliveryState.deliveryStatus ≠ "REPLICATED" →
    D.Marks svc eventId candidate.streamKey candidate.streamSequence j

namespace AttemptRule

variable {D : Discipline} {e : String} {j : LocalJournal} {svc : DeliveryService}

/-- The method ends without a replicated outcome. -/
theorem finish (R : D.AttemptRule e) {out : DeliveryOutcome} (hidle : D.idle j svc)
    (hout : ∀ p o, out ≠ .replicated p o) :
    D.SafeProg (.attemptDelivery e) j (.done (svc, out)) :=
  safeProg_done hidle fun j' _ => R.other j' out hout

/-- The method ends with coordinates that are on record. -/
theorem finishAcked (R : D.AttemptRule e) {p o : Int} (hidle : D.idle j svc)
    (hack : j.db.Acked e p o) :
    D.SafeProg (.attemptDelivery e) j (.done (svc, .replicated p o)) := by
  refine safeProg_done hidle fun j' hrely => ?_
  obtain ⟨tr, hrun⟩ := R.relyRun j j' hrely
  exact R.acked j' p o (journalRun_keepsAcked hrun hack)

theorem blockAndMark (R : D.AttemptRule e) {streamKey reason : String}
    {streamSequence rev : Int} (hidle : D.idle j svc)
    (hmark : D.idle j (svc.withGate (svc.gate.markBlocking streamKey streamSequence))) :
    D.SafeProg (.attemptDelivery e) j
      (svc.blockAndMark e streamKey streamSequence rev reason) := by
  refine safeProg_journal (fun j' _ => R.journal j' _ trivial) ?_
  intro j' env r j'' _ _ _ hrely
  cases r with
  | updated => exact R.finish (D.stable _ _ _ hmark hrely) (by simp)
  | _ => exact R.finish (D.stable _ _ _ hidle hrely) (by simp [DeliveryService.persistenceFailed])

theorem confirmSent (R : D.AttemptRule e) {candidate : DeliveryCandidate}
    {routing : RoutingResolution} {success : SendSuccess}
    (hmark : D.idle j (svc.withGate
      (svc.gate.markBlocking candidate.streamKey candidate.streamSequence)))
    (hdone : ∀ j' p o, D.rely j j' → j'.db.Acked e p o → D.idle j' (svc.withGate
      (svc.gate.markCompleted candidate.streamKey candidate.streamSequence))) :
    D.SafeProg (.attemptDelivery e) j (svc.confirmSent e candidate routing success) := by
  refine safeProg_journal (fun j' _ => R.journal j' _ trivial) ?_
  intro j' env r j'' _ _ hexec hrely
  have hack := confirmReplicatedDelivery_acked (LocalJournal.write_eq_some hexec)
  cases r with
  | updated =>
      have hack := hack (.inl rfl)
      exact R.finishAcked (hdone _ _ _ hrely hack) hack
  | alreadyConfirmed =>
      have hack := hack (.inr rfl)
      exact R.finishAcked (hdone _ _ _ hrely hack) hack
  | _ => exact R.finish (D.stable _ _ _ hmark hrely) (by simp)

theorem retryOrBlock (R : D.AttemptRule e) {candidate : DeliveryCandidate}
    {sendErr : SendError} {nowMs : Int} (hidle : D.idle j svc)
    (hmark : D.idle j (svc.withGate
      (svc.gate.markBlocking candidate.streamKey candidate.streamSequence))) :
    D.SafeProg (.attemptDelivery e) j (svc.retryOrBlock e candidate sendErr nowMs) := by
  unfold DeliveryService.retryOrBlock
  simp only
  split
  · split
    · refine safeProg_journal (fun j' _ => R.journal j' _ trivial) ?_
      intro j' env r j'' _ _ _ hrely
      cases r with
      | updated => exact R.finish (D.stable _ _ _ hmark hrely) (by simp)
      | _ =>
          exact R.finish (D.stable _ _ _ hidle hrely)
            (by simp [DeliveryService.persistenceFailed])
    · exact R.blockAndMark hidle hmark
  · exact R.blockAndMark hidle hmark

theorem recordFailure (R : D.AttemptRule e) {candidate : DeliveryCandidate}
    {routing : RoutingResolution} {sendErr : SendError} (hidle : D.idle j svc)
    (hmark : D.idle j (svc.withGate
      (svc.gate.markBlocking candidate.streamKey candidate.streamSequence))) :
    D.SafeProg (.attemptDelivery e) j (svc.recordFailure e candidate routing sendErr) := by
  refine safeProg_clock (fun j' _ => R.clock j') ?_
  intro j₁ nowMs hrely₁
  refine safeProg_journal (fun j' _ => R.journal j' _ trivial) ?_
  intro j' env r j₂ _ _ _ hrely₂
  have hrely := D.trans _ _ _ hrely₁ hrely₂
  have hidle := D.stable _ _ _ hidle hrely
  cases r with
  | updated => exact R.retryOrBlock hidle (D.stable _ _ _ hmark hrely)
  | _ => exact R.finish hidle (by simp [DeliveryService.persistenceFailed])

theorem sendPayload (R : D.AttemptRule e) {candidate : DeliveryCandidate}
    {routing : RoutingResolution}
    (hmarks : D.Marks svc e candidate.streamKey candidate.streamSequence j) :
    D.SafeProg (.attemptDelivery e) j (svc.sendPayload e candidate routing) := by
  refine safeProg_journal (fun j' _ => R.journal j' _ trivial) ?_
  intro j' env r j₁ _ _ _ hrely₁
  cases r with
  | found payload =>
      refine safeProg_send (fun j' hrely => hmarks.send _ _ (D.trans _ _ _ hrely₁ hrely) rfl) ?_
      intro j₂ r hrely₂
      have hrely := D.trans _ _ _ hrely₁ hrely₂
      have hfailed := D.stable _ _ _ hmarks.failed hrely
      cases r with
      | ok success =>
          refine R.confirmSent hfailed ?_
          intro j₃ p o hrely₃ hack
          exact hmarks.confirmed j₃ p o (D.trans _ _ _ hrely hrely₃) hack
      | error sendErr => exact R.recordFailure (D.stable _ _ _ hmarks.inFlight hrely) hfailed
  | _ => exact R.finish (D.stable _ _ _ hmarks.blocking hrely₁) (by simp)

theorem deliverAllowed (R : D.AttemptRule e) {env : CallEnv} {candidate : DeliveryCandidate}
    (hok : D.Ok j) (hidle : D.idle j svc)
    (hfound : loadDeliveryCandidate env j.db e = .found candidate)
    (hgate : svc.gate.check candidate.streamKey candidate.streamSequence = .allowed) :
    D.SafeProg (.attemptDelivery e) j (svc.deliverAllowed e candidate) := by
  unfold DeliveryService.deliverAllowed
  simp only
  split
  · rename_i hrep
    have hdone := R.completed j env svc candidate hok hidle hfound hgate hrep
    split
    · rename_i p o hp ho
      have hrow := (loadDeliveryState_found_iff.mp (loadDeliveryCandidate_found_iff.mp hfound).1).2.1
      exact R.finishAcked hdone ⟨_, hrow, hrep, hp, ho⟩
    · exact R.finish hidle (by simp)
  · rename_i hrep
    have hmarks := R.marks j env svc candidate hok hidle hfound hgate hrep
    split
    · exact R.finish hmarks.blocking (by simp)
    · split
      · exact R.blockAndMark hidle hmarks.blocking
      · exact R.sendPayload hmarks

/-- `attempt_delivery` is safe under a discipline that has the rule. -/
theorem attemptDelivery (R : D.AttemptRule e) (hidle : D.idle j svc) :
    D.SafeProg (.attemptDelivery e) j (svc.attemptDelivery e) := by
  unfold DeliveryService.attemptDelivery
  split
  · exact R.finish hidle (by simp)
  refine safeProg_journal (fun j' _ => R.journal j' _ trivial) ?_
  intro j' env r j₁ hrely _ hexec hrely₁
  have hidle := D.stable _ _ _ hidle hrely₁
  have heq := Option.some.inj (show some (j', loadDeliveryCandidate env j'.db e) = some (j₁, r)
    from hexec)
  obtain ⟨rfl, hfound⟩ := Prod.mk.inj heq
  cases r with
  | found candidate =>
      show D.SafeProg (.attemptDelivery e) _ (svc.deliverCandidate e candidate)
      unfold DeliveryService.deliverCandidate
      split
      · exact R.finish hidle (by simp)
      · rename_i hgate
        exact R.deliverAllowed (D.ok _ _ hrely) hidle hfound hgate
  | _ => exact R.finish hidle (by simp)

end AttemptRule

end Discipline

/-! ## Acknowledgements -/

/-- A replicated outcome is on record. -/
def AckedPost (j : LocalJournal) : (c : ServiceCall) → c.Reply → Prop
  | .attemptDelivery e, out => ∀ p o, out = .replicated p o → j.db.Acked e p o
  | .recover, _ => True
  | .shutdown, _ => True

/-- Anyone may make any journal call; services make theirs only. -/
def ackDiscipline : Discipline where
  Ok _ := True
  rely j j' := ∃ tr, journalLts.Run j tr j'
  guard _ e := ∀ call, e = .journal call → call.ByService
  expects _ _ := True
  idle _ _ := True
  post := AckedPost
  refl _ _ := ⟨[], .nil⟩
  trans := fun _ _ _ ⟨_, h⟩ ⟨_, h'⟩ => ⟨_, h.append h'⟩
  ok _ _ _ := trivial
  own := fun _ env call r _ _ _ _ h => ⟨[⟨env, call, r⟩], Lts.Run.snoc .nil h⟩
  stable _ _ _ _ _ := trivial

theorem ackDiscipline_attemptRule (e : String) : ackDiscipline.AttemptRule e where
  relyRun _ _ h := h
  journal := by
    rintro j call h _ ⟨⟩
    exact h
  clock := by rintro j _ ⟨⟩
  other := by
    intro j out hout p o h
    exact absurd h (hout p o)
  acked := by
    rintro j p o h _ _ ⟨⟩
    exact h
  completed _ _ _ _ _ _ _ _ _ := trivial
  marks _ _ _ _ _ _ _ _ _ :=
    ⟨trivial, trivial, trivial, fun _ _ _ _ _ => trivial, fun _ _ _ _ _ h => by cases h⟩

theorem ackDiscipline_admits : ackDiscipline.Admits fun _ => True where
  client _ ev _ _ _ _ h := ⟨[ev], Lts.Run.snoc .nil h⟩
  install _ _ _ _ _ := trivial
  call := by
    intro i c j svc _ _ _
    cases c with
    | attemptDelivery e => exact (ackDiscipline_attemptRule e).attemptDelivery trivial
    | recover =>
        refine Discipline.safeProg_journal ?_ ?_
        · rintro j' _ _ ⟨⟩
          trivial
        · intro j' env r j'' _ _ _ _
          cases r <;> exact Discipline.safeProg_done trivial fun _ _ => trivial
    | shutdown => exact Discipline.safeProg_done trivial fun _ _ => trivial

/-- Every world reached from services at rest keeps the discipline. -/
theorem worldRun_ackSafe {w w' : World} {tr : List WorldEvent} (hrun : worldLts.Run w tr w')
    (hidle : ∀ i, ∃ svc, w.threads i = .idle svc) : ackDiscipline.WorldSafe w' := by
  refine Discipline.worldSafe_run ackDiscipline_admits hrun ⟨trivial, ?_⟩ ?_
  · intro i
    obtain ⟨svc, hsvc⟩ := hidle i
    rw [hsvc]
    trivial
  · intro _ _ _ _ _ _ _ _ _
    exact ⟨trivial, fun _ _ => trivial, trivial⟩

end CraftRelay
