import CraftRelay.Delivery.Progress

/-!
# Attempts on a replicated event

`attempt_delivery` asks the gate before it looks at the status of the row. A replicated
event is therefore answered with its coordinates only while the gate is at it; once the
gate has moved on, it is held back for a later event.
-/

namespace CraftRelay

variable [Sha256]

/-- An operation of a service none of whose statements fails. -/
def FaultlessStep (j : LocalJournal) (e : Effect) (r : e.Reply) (j' : LocalJournal) : Prop :=
  match e with
  | .journal call => ∃ env : CallEnv, env.Faultless ∧ j.exec env call = some (j', r)
  | .send _ => j' = j
  | .clock => j' = j

namespace DeliveryService

/-- An attempt on `e` returns, and whenever it does it reports these coordinates, has sent
nothing and has left the journal as it was. -/
structure AnswersReplicated (svc : DeliveryService) (j : LocalJournal) (e : String)
    (kafkaPartition kafkaOffset : Int) : Prop where
  returns : ∃ tr svc' out j',
    Prog.Run FaultlessStep (svc.attemptDelivery e) j tr (.done (svc', out)) j'
  answer : ∀ tr svc' out j',
    Prog.Run FaultlessStep (svc.attemptDelivery e) j tr (.done (svc', out)) j' →
      out = .replicated kafkaPartition kafkaOffset ∧ j' = j ∧
        ∀ op ∈ tr, ∀ request, op.1 ≠ .send request

variable {svc svc' : DeliveryService} {j j' : LocalJournal} {e : String} {v : StoredEnvelope}
  {s : DeliveryStateRecord} {tr : List ((o : Effect) × o.Reply)} {out : DeliveryOutcome}
  {p o : Int}

/-- The gate decides what is said about a replicated candidate. -/
theorem resolveCandidate_replicated (hrep : s.deliveryStatus = "REPLICATED")
    (hp : s.kafkaPartition = some p) (ho : s.kafkaOffset = some o) :
    svc.resolveCandidate e (.found (v.candidate s)) =
      match svc.gate.check v.streamKey v.streamSequence with
      | .blocked n => .done (svc, .gateHeld n)
      | .allowed =>
          .done (svc.withGate (svc.gate.markCompleted v.streamKey v.streamSequence),
            .replicated p o) := by
  show svc.deliverCandidate e (v.candidate s) = _
  have hallowed : svc.deliverAllowed e (v.candidate s) =
      .done (svc.withGate (svc.gate.markCompleted v.streamKey v.streamSequence),
        .replicated p o) := by
    unfold deliverAllowed
    simp only [StoredEnvelope.candidate, hrep, if_true, hp, ho]
  unfold deliverCandidate
  rw [hallowed]
  rfl

/-- An attempt reads the candidate and is done with what is said about it. -/
theorem attemptDelivery_run (hopen : svc.shutdown = false)
    (hs : j.db.HasDelivery e s) (hv : j.db.storedEnvelope.find? e = some v) (hver : v.Verifies)
    (hdone : svc.resolveCandidate e (.found (v.candidate s)) = .done (svc', out)) :
    Prog.Run FaultlessStep (svc.attemptDelivery e) j
      [⟨.journal (.getDeliveryCandidate e), .found (v.candidate s)⟩] (.done (svc', out)) j := by
  have hcalm := CallEnv.calm_faultless 0
  have hread : j.exec (.calm 0) (.getDeliveryCandidate e) = some (j, .found (v.candidate s)) :=
    congrArg (fun r => some (j, r)) (StoredEnvelope.candidate_found hcalm hs hv hver)
  unfold attemptDelivery
  rw [hopen, ← hdone]
  exact .op ⟨_, hcalm, hread⟩ (.refl _ _)

/-- There is no other run of it. -/
theorem attemptDelivery_run_inv (hopen : svc.shutdown = false)
    (hs : j.db.HasDelivery e s) (hv : j.db.storedEnvelope.find? e = some v) (hver : v.Verifies)
    {svc'' : DeliveryService} {out' : DeliveryOutcome}
    (hdone : svc.resolveCandidate e (.found (v.candidate s)) = .done (svc', out))
    (hrun : Prog.Run FaultlessStep (svc.attemptDelivery e) j tr (.done (svc'', out')) j') :
    out' = out ∧ j' = j ∧
      tr = [⟨.journal (.getDeliveryCandidate e), .found (v.candidate s)⟩] := by
  unfold attemptDelivery at hrun
  rw [hopen] at hrun
  rcases hrun.op_inv with ⟨-, hat, -⟩ | ⟨r, j₁, tr', rfl, ⟨env, hcalm, hexec⟩, hrest⟩
  · cases hat
  have hread : j.exec env (.getDeliveryCandidate e) = some (j, .found (v.candidate s)) :=
    congrArg (fun r => some (j, r)) (StoredEnvelope.candidate_found hcalm hs hv hver)
  rw [hread] at hexec
  cases hexec
  rw [hdone] at hrest
  obtain ⟨rfl, hout, rfl⟩ := hrest.done_inv
  cases hout
  exact ⟨rfl, rfl, rfl⟩

/-- A replicated event is answered with its coordinates exactly when the gate is at it. -/
theorem answersReplicated_iff (hopen : svc.shutdown = false) (hs : j.db.HasDelivery e s)
    (hv : j.db.storedEnvelope.find? e = some v) (hver : v.Verifies)
    (hrep : s.deliveryStatus = "REPLICATED") (hp : s.kafkaPartition = some p)
    (ho : s.kafkaOffset = some o) :
    svc.AnswersReplicated j e p o ↔ svc.gate.check v.streamKey v.streamSequence = .allowed := by
  have hresolve : svc.resolveCandidate e (.found (v.candidate s)) = _ :=
    resolveCandidate_replicated hrep hp ho
  cases hgate : svc.gate.check v.streamKey v.streamSequence with
  | blocked n =>
      rw [hgate] at hresolve
      have hrun := attemptDelivery_run hopen hs hv hver hresolve
      refine iff_of_false (fun h => ?_) (by simp)
      have hout := (h.answer _ _ _ _ hrun).1
      cases hout
  | allowed =>
      rw [hgate] at hresolve
      refine iff_of_true ⟨?_, ?_⟩ rfl
      · exact ⟨_, _, _, _, attemptDelivery_run hopen hs hv hver hresolve⟩
      · intro tr svc' out j' hrun
        obtain ⟨rfl, rfl, rfl⟩ := attemptDelivery_run_inv hopen hs hv hver hresolve hrun
        refine ⟨rfl, rfl, ?_⟩
        intro op hop request
        rw [List.mem_singleton.mp hop]
        simp

end DeliveryService

end CraftRelay
