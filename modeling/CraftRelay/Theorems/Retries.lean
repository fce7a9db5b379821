import CraftRelay.Client.Retries

/-!
# Retries of tracked events

While a handle of an event is attached, every further submission of the event passes the
transport the request of that handle, provided nobody takes the tracked request away from
its holders.
-/

namespace CraftRelay.Client

variable {registration : ProducerRegistration}

/-- The operations at which tracked requests are not taken from their holders. -/
def carefulLts (registration : ProducerRegistration) :
    Lts (LogicalProducerClient registration) ClientEvent :=
  (clientLts registration).restrict fun s ev _ => s.Careful ev

theorem carefulRun_tracks {tr : List ClientEvent} {s : LogicalProducerClient registration}
    (hrun : (carefulLts registration).Run .new tr s) : s.Tracks ∧ s.Numbered := by
  induction hrun with
  | nil => exact ⟨LogicalProducerClient.tracks_new, LogicalProducerClient.numbered_new⟩
  | snoc _ hst ih => exact ⟨ih.1.step hst.1 hst.2, ih.2.step hst.1⟩

/-- After a careful run the events with an attached handle do not outnumber the pending
publishes of the manifest. Let a handle be attached then, and let the run go on, still
careful, as long as some handle of its event is attached: every call of `submit` for the
event that starts in this second part passes the transport the request of the handle and
nothing else, and throws only when its input has other bytes. -/
theorem retries_keep_identity {tr : List ClientEvent} {s : LogicalProducerClient registration}
    (hrun : (carefulLts registration).Run .new tr s) :
    s.attachedEvents.length ≤ registration.maxPendingPublishes ∧
    ∀ handle ∈ s.handles, handle.trackingState = .attached →
      ∃ request, handle.submission = some request ∧
        ∀ tr' s', ((carefulLts registration).restrict
            fun _ _ u => u.Attached handle.eventId).Run s tr' s' →
          (∀ p ∈ s'.passed, s.started ≤ p.call → p.eventId = handle.eventId →
            p.request = request) ∧
          (∀ later ∈ s'.handles, s.started ≤ later.call → later.eventId = handle.eventId →
            later.submission = some request ∧
              ⟨later.call, handle.eventId, request⟩ ∈ s'.passed) ∧
          ∀ t call input error, s'.threads t = .threw call handle.eventId input error →
            s.started ≤ call →
              request.envelopeInput.canonicalBytes ≠ input.canonicalBytes := by
  obtain ⟨htracks, hnum⟩ := carefulRun_tracks hrun
  refine ⟨htracks.attachedEvents_le, ?_⟩
  intro handle hmem hstate
  obtain ⟨request, hsub, hholds⟩ := htracks.handleFrom handle hmem hstate
  have htracked := htracks.tracked _ _ hholds
  refine ⟨request, hsub, ?_⟩
  intro tr' s' hkeep
  have hend : s'.Attached handle.eventId ∧ s'.Kept s.started handle.eventId request := by
    refine hkeep.invariant (P := fun u => u.Attached handle.eventId ∧
      u.Kept s.started handle.eventId request) (Q := fun _ => True) (fun _ _ => trivial)
      ⟨⟨handle, hmem, rfl, hstate⟩, hnum.kept htracked⟩ ?_
    rintro u ev u' - ⟨hatt, hkept⟩ ⟨⟨hst, hcareful⟩, hatt'⟩
    exact ⟨hatt', hkept.step hst hcareful hatt⟩
  refine ⟨hend.2.passed, hend.2.handles, ?_⟩
  intro t call input error hthrew hcall
  have htask := hend.2.tasks t
  rw [hthrew] at htask
  exact htask hcall rfl

/-! ## Concrete runs -/

/-- A producer that may have one publish pending. -/
def sampleRegistration : ProducerRegistration :=
  ⟨.ofString "economy", [.ofString "economy/v1"], 1, by decide⟩

def sampleEvent : Uuid := ⟨0x01890f3e7b4c7cc2, 0x98c83f0f5f3f9b4a⟩

/-- What the sample producer submits. -/
def sampleInput : EnvelopeInput where
  eventId := sampleEvent.toText
  «namespace» := .ofString "economy"
  logicalStreamType := .ofString "NODE_LOCAL"
  streamKey := sampleEvent.toText.map fun u => UInt8.ofNat u.toNat
  eventType := .ofString "economy/v1"
  schemaVersion := 1
  operationType := .ofString "DOMAIN_EVENT"
  operationId := sampleEvent.toText
  eventRole := .ofString "EVENT"
  requestedMinimumDurability := .ofString "POLICY_RESOLVED_BY_AGENT"
  clientMetadata := [⟨.ofString "integration.id", .ofString "economy", by decide +kernel⟩]
  typedPayload := [7]
  canonicalizationVersion := 1
  eventContractHandle := .ofString "economy/v1"

theorem sampleInput_eq :
    sampleRegistration.input (.ofString "economy/v1") sampleEvent [7] = .ok sampleInput := by
  decide +kernel

/-- Thread 0 calls `submit` for the sample event. -/
def sampleSubmit (s : LogicalProducerClient sampleRegistration) :
    LogicalProducerClient sampleRegistration :=
  LogicalProducerClient.setThread { s with started := s.started + 1 } 0
    (.submitting s.started sampleEvent sampleInput .lookUp)

/-- Thread 0 calls `detachTracking` of the first handle. -/
def sampleDetach (s : LogicalProducerClient sampleRegistration) :
    LogicalProducerClient sampleRegistration :=
  s.setThread 0 (.detaching 0 sampleEvent .trackingState)

/-- Thread 0 performs `n` operations. -/
def sampleAdvance (s : LogicalProducerClient sampleRegistration) : Nat →
    LogicalProducerClient sampleRegistration
  | 0 => s
  | n + 1 => (sampleAdvance s n).advance 0

theorem sampleAdvance_run {T : Lts (LogicalProducerClient sampleRegistration) ClientEvent}
    (s : LogicalProducerClient sampleRegistration) (n : Nat)
    (h : ∀ k < n, T.step (sampleAdvance s k) (.advance 0) (sampleAdvance s (k + 1))) :
    T.Run s (List.replicate n (.advance 0)) (sampleAdvance s n) := by
  induction n with
  | zero => exact .nil
  | succ n ih =>
      rw [List.replicate_succ']
      exact (ih fun k hk => h k (Nat.lt_succ_of_lt hk)).snoc (h n (Nat.lt_succ_self n))

/-- The event was submitted once, twice, and then its first handle was detached. -/
def sampleOnce : LogicalProducerClient sampleRegistration :=
  sampleAdvance (sampleSubmit .new) 5

def sampleTwice : LogicalProducerClient sampleRegistration :=
  sampleAdvance (sampleSubmit sampleOnce) 3

def sampleDetached : LogicalProducerClient sampleRegistration :=
  sampleAdvance (sampleDetach sampleTwice) 4

theorem sampleSubmit_step {s : LogicalProducerClient sampleRegistration}
    (h : (s.threads 0).isFree = true) :
    ClientStep s (.submit 0 (.ofString "economy/v1") sampleEvent [7]) (sampleSubmit s) :=
  .submit h sampleInput_eq

/-- The thread is about to replace or remove a tracked request. -/
def Task.takesRequest : Task → Bool
  | .submitting _ _ _ (.attach _) => true
  | .detaching _ _ .trackedRequests => true
  | _ => false

theorem careful_of_takesRequest {s : LogicalProducerClient registration} {t : Nat}
    (h : (s.threads t).takesRequest = false) : s.Careful (.advance t) := by
  simp only [LogicalProducerClient.Careful]
  split
  · rename_i htask
    rw [htask] at h
    cases h
  · rename_i htask
    rw [htask] at h
    cases h
  · trivial

/-- The first submission is careful: there is nothing to take away. -/
theorem sampleOnce_run : ∃ tr, (carefulLts sampleRegistration).Run .new tr sampleOnce := by
  have hfirst : (carefulLts sampleRegistration).Run .new _ (sampleSubmit .new) :=
    .snoc .nil ⟨sampleSubmit_step rfl, trivial⟩
  refine ⟨_, hfirst.append (sampleAdvance_run _ 5 ?_)⟩
  intro k hk
  refine ⟨.advance, ?_⟩
  by_cases hattach : k = 2
  · subst hattach
    exact fun hsome => absurd (by decide +kernel) hsome
  · exact careful_of_takesRequest ((by decide +kernel : ∀ k < 5, k ≠ 2 →
      ((sampleAdvance (sampleSubmit .new) k).threads 0).takesRequest = false) k hk hattach)

/-- The handle of the first submission. -/
theorem sampleOnce_handle : ∃ handle ∈ sampleOnce.handles,
    handle.eventId = sampleEvent ∧ handle.trackingState = .attached := by
  decide +kernel

/-- The second submission passes the request of the first. -/
theorem retries_keep_identity_twice :
    ∃ handle ∈ sampleOnce.handles, ∃ request, handle.submission = some request ∧
      ∀ p ∈ sampleTwice.passed, sampleOnce.started ≤ p.call → p.eventId = sampleEvent →
        p.request = request := by
  obtain ⟨tr, hrun⟩ := sampleOnce_run
  obtain ⟨handle, hmem, hid, hstate⟩ := sampleOnce_handle
  obtain ⟨request, hsub, hkeep⟩ := (retries_keep_identity hrun).2 handle hmem hstate
  rw [hid] at hkeep
  have hsubmit : ((carefulLts sampleRegistration).restrict fun _ _ u =>
      u.Attached sampleEvent).Run sampleOnce _ (sampleSubmit sampleOnce) :=
    .snoc .nil ⟨⟨sampleSubmit_step (by decide +kernel), trivial⟩, by decide +kernel⟩
  have hsegment := hsubmit.append (sampleAdvance_run _ 3 fun k hk =>
    ⟨⟨.advance, careful_of_takesRequest ((by decide +kernel : ∀ k < 3,
        ((sampleAdvance (sampleSubmit sampleOnce) k).threads 0).takesRequest = false) k hk)⟩,
      (by decide +kernel : ∀ k < 3,
        (sampleAdvance (sampleSubmit sampleOnce) (k + 1)).Attached sampleEvent) k hk⟩)
  exact ⟨handle, hmem, request, hsub, (hkeep _ _ hsegment).1⟩

theorem sampleDetached_run :
    ∃ tr, (clientLts sampleRegistration).Run .new tr sampleDetached := by
  obtain ⟨tr, honce⟩ := sampleOnce_run
  have hsubmit : (clientLts sampleRegistration).Run sampleOnce _ (sampleSubmit sampleOnce) :=
    .snoc .nil (sampleSubmit_step (by decide +kernel))
  have htwice : (clientLts sampleRegistration).Run sampleOnce _ sampleTwice :=
    hsubmit.append (sampleAdvance_run _ 3 fun _ _ => .advance)
  have hfirst : (sampleTwice.handles[0]?).map (·.eventId) = some sampleEvent := by decide +kernel
  obtain ⟨handle, hhandle, hid⟩ := Option.map_eq_some_iff.mp hfirst
  have hdetach : (clientLts sampleRegistration).Run sampleTwice _ (sampleDetach sampleTwice) :=
    .snoc .nil (hid ▸ ClientStep.detachTracking (t := 0) (by decide +kernel) hhandle)
  exact ⟨_, ((honce.of_restrict.append htwice).append hdetach).append
    (sampleAdvance_run _ 4 fun _ _ => .advance)⟩

/-- The first handle is detached while the second still is attached, and the next
submission of the same payload gets another sequence number. -/
theorem retry_loses_identity :
    ∃ tr s tr' s' handle request p, (clientLts sampleRegistration).Run .new tr s ∧
      handle ∈ s.handles ∧ handle.trackingState = .attached ∧
      handle.submission = some request ∧
      ((clientLts sampleRegistration).restrict fun _ _ u => u.Attached handle.eventId).Run
        s tr' s' ∧
      p ∈ s'.passed ∧ s.started ≤ p.call ∧ p.eventId = handle.eventId ∧
      p.request.envelopeInput = request.envelopeInput ∧ p.request ≠ request := by
  obtain ⟨tr, hrun⟩ := sampleDetached_run
  obtain ⟨handle, hmem, hid, hstate, hsub⟩ : ∃ handle ∈ sampleDetached.handles,
      handle.eventId = sampleEvent ∧ handle.trackingState = .attached ∧
      handle.submission.map (fun r => (r.envelopeInput, r.producerOperationSequence)) =
        some (sampleInput, 1) := by
    decide +kernel
  obtain ⟨request, hrequest, hfields⟩ := Option.map_eq_some_iff.mp hsub
  obtain ⟨p, hp, hcall, hevent, hsubmitted⟩ :
      ∃ p ∈ (sampleAdvance (sampleSubmit sampleDetached) 5).lookups,
        sampleDetached.started ≤ p.call ∧ p.eventId = sampleEvent ∧
        (p.request.envelopeInput, p.request.producerOperationSequence) = (sampleInput, 2) := by
    decide +kernel
  rw [Prod.mk.injEq] at hfields hsubmitted
  have hsubmit : ((clientLts sampleRegistration).restrict fun _ _ u =>
      u.Attached sampleEvent).Run sampleDetached _ (sampleSubmit sampleDetached) :=
    .snoc .nil ⟨sampleSubmit_step (by decide +kernel), by decide +kernel⟩
  have hsegment := hsubmit.append (sampleAdvance_run _ 5 fun k hk =>
    ⟨.advance, (by decide +kernel : ∀ k < 5,
      (sampleAdvance (sampleSubmit sampleDetached) (k + 1)).Attached sampleEvent) k hk⟩)
  have hattached : (sampleAdvance (sampleSubmit sampleDetached) 5).Attached sampleEvent := by
    decide +kernel
  generalize sampleAdvance (sampleSubmit sampleDetached) 5 = after at hp hsegment hattached
  -- the status lookup of the last submission finds nothing
  obtain ⟨before, rest, hlookups⟩ := List.append_of_mem hp
  have hend := hsegment.snoc ⟨.answered false hlookups, hattached⟩
  rw [← hid] at hend
  refine ⟨tr, sampleDetached, _, _, handle, request, p, hrun, hmem, hstate, hrequest, hend,
    List.mem_append_right _ (List.mem_singleton_self p), hcall, hevent.trans hid.symm,
    hsubmitted.1.trans hfields.1.symm, ?_⟩
  intro heq
  rw [heq, hfields.2] at hsubmitted
  exact absurd hsubmitted.2 (by decide)

end CraftRelay.Client
