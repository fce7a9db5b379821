import Mathlib.Data.List.Dedup
import CraftRelay.Client.LogicalProducer

/-!
# Who holds a tracked request

A request is held by the attached handles of its event and by the calls of `submit` that
looked it up or attached it and have no handle yet. As long as no operation takes a
tracked request away from its holders, the tracker has the request of every holder, so
the next call finds it.
-/

namespace CraftRelay.Client

/-! ## The tracker -/

namespace BoundedTracker

variable {κ ν : Type} [DecidableEq κ] {capacity : Nat} (t : BoundedTracker κ ν capacity)

/-- An entry is attached unless the tracker is full of others. -/
theorem attach_cases (key : κ) (value : ν) :
    (t.attach key value = (false, t)) ∨
      ((t.attach key value).1 = true ∧ ∀ k, (t.attach key value).2.get k =
        if key = k then some value else t.get k) := by
  unfold attach
  split
  · exact .inl rfl
  · refine .inr ⟨rfl, fun k => ?_⟩
    show ((t.entries.upsert (key, value)).find? k).map Prod.snd = _
    rw [KeyedTable.find?_upsert]
    unfold get
    split <;> rfl

theorem get_detach (key k : κ) :
    (t.detach key).2.get k = if key = k then none else t.get k := by
  show ((t.entries.erase key).find? k).map Prod.snd = _
  rw [KeyedTable.find?_erase]
  unfold get
  split <;> rfl

/-- No more keys than the capacity have an entry. -/
theorem length_le_capacity {keys : List κ} (hnodup : keys.Nodup)
    (h : ∀ k ∈ keys, t.get k ≠ none) : keys.length ≤ capacity := by
  have hsub : keys ⊆ t.entries.rows.map Prod.fst := by
    intro k hk
    cases hfind : t.entries.find? k with
    | none => exact absurd (by simp [get, hfind]) (h k hk)
    | some row =>
        obtain ⟨hmem, rfl⟩ := KeyedTable.find?_eq_some_iff.mp hfind
        exact List.mem_map_of_mem hmem
  have hle := (List.subperm_of_subset hnodup hsub).length_le
  rw [List.length_map] at hle
  exact hle.trans t.bounded

end BoundedTracker

/-! ## Holders -/

/-- The request of a call that has it and no handle for it yet. -/
def Task.request? : Task → Option (Uuid × ClientPublishRequest)
  | .submitting _ eventId _ (.tracked request) => some (eventId, request)
  | .submitting _ eventId _ (.status request) => some (eventId, request)
  | .submitting _ eventId _ (.submitted (some request)) => some (eventId, request)
  | _ => none

/-- The call a thread is in, or ended last, has a smaller number. -/
def Task.StartedBefore (n : Nat) : Task → Prop
  | .submitting call _ _ _ => call < n
  | .returned call _ => call < n
  | .threw call _ _ _ => call < n
  | _ => True

theorem Task.StartedBefore.succ {n : Nat} {task : Task} (h : task.StartedBefore n) :
    task.StartedBefore (n + 1) := by
  cases task with
  | submitting => exact Nat.lt_succ_of_lt h
  | returned => exact Nat.lt_succ_of_lt h
  | threw => exact Nat.lt_succ_of_lt h
  | _ => trivial

namespace LogicalProducerClient

variable {registration : ProducerRegistration} {s s' : LogicalProducerClient registration}

/-- Some handle of the event reports `ATTACHED`. -/
def Attached (s : LogicalProducerClient registration) (eventId : Uuid) : Prop :=
  ∃ handle ∈ s.handles, handle.eventId = eventId ∧ handle.trackingState = .attached

instance (s : LogicalProducerClient registration) (eventId : Uuid) :
    Decidable (s.Attached eventId) :=
  inferInstanceAs (Decidable (∃ handle ∈ s.handles,
    handle.eventId = eventId ∧ handle.trackingState = .attached))

/-- An attached handle or a call has the event. -/
def Held (s : LogicalProducerClient registration) (eventId : Uuid) : Prop :=
  s.Attached eventId ∨ ∃ t request, (s.threads t).request? = some (eventId, request)

/-- The condition on an operation: the tracked request of an event is replaced or removed
when no handle of the event is attached and no call has the request. -/
def Careful (s : LogicalProducerClient registration) : ClientEvent → Prop
  | .advance t =>
      match s.threads t with
      | .submitting _ eventId _ (.attach _) =>
          s.trackedRequests.get eventId ≠ none → ¬ s.Held eventId
      | .detaching _ eventId .trackedRequests => ¬ s.Held eventId
      | _ => True
  | _ => True

/-- The events with an attached handle. -/
def attachedEvents (s : LogicalProducerClient registration) : List Uuid :=
  ((s.handles.filter fun h => h.trackingState = .attached).map (·.eventId)).dedup

theorem mem_attachedEvents {eventId : Uuid} : eventId ∈ s.attachedEvents ↔ s.Attached eventId := by
  unfold attachedEvents Attached
  simp only [List.mem_dedup, List.mem_map, List.mem_filter, decide_eq_true_eq]
  constructor
  · rintro ⟨handle, ⟨hmem, hstate⟩, rfl⟩
    exact ⟨handle, hmem, rfl, hstate⟩
  · rintro ⟨handle, hmem, rfl, hstate⟩
    exact ⟨handle, ⟨hmem, hstate⟩, rfl⟩

/-- An attached handle or a call has the event with this request. -/
def Holds (s : LogicalProducerClient registration) (eventId : Uuid)
    (request : ClientPublishRequest) : Prop :=
  (∃ handle ∈ s.handles, handle.eventId = eventId ∧ handle.trackingState = .attached ∧
    handle.submission = some request) ∨
  ∃ t, (s.threads t).request? = some (eventId, request)

/-- The tracker has the request of every holder. -/
structure Tracks (s : LogicalProducerClient registration) : Prop where
  submission : ∀ handle ∈ s.handles, handle.trackingState = .attached →
    ∃ request, handle.submission = some request
  tracked : ∀ eventId request, s.Holds eventId request →
    s.trackedRequests.get eventId = some request

/-! ## What an operation does -/

/-- What holds of every thread and of the new task holds of every thread after. -/
theorem forall_setThread {P : Task → Prop} {t : Nat} {task : Task} (hold : ∀ k, P (s.threads k))
    (hnew : P task) : ∀ k, P ((s.setThread t task).threads k) := by
  intro k
  show P (if k = t then task else s.threads k)
  split
  · exact hnew
  · exact hold k

/-- What holds of every element as it is and rewritten holds after one is rewritten. -/
theorem forall_mem_modify {α : Type} {P : α → Prop} {f : α → α} {xs : List α} {i : Nat}
    (hold : ∀ a ∈ xs, P a) (hnew : ∀ a ∈ xs, P (f a)) : ∀ a ∈ xs.modify i f, P a := by
  induction xs generalizing i with
  | nil => simp
  | cons x xs ih =>
      rw [List.forall_mem_cons] at hold hnew
      cases i with
      | zero =>
          rw [List.modify_zero_cons, List.forall_mem_cons]
          exact ⟨hnew.1, hold.2⟩
      | succ i =>
          rw [List.modify_succ_cons, List.forall_mem_cons]
          exact ⟨hold.1, ih hold.2 hnew.2⟩

/-- The operations of a thread, with what each finds and what it leaves. The tracker after
an operation is known by its entries. -/
inductive Operation (s : LogicalProducerClient registration) (t : Nat) :
    Task → LogicalProducerClient registration → Prop
  | found {call e input request} (h : s.trackedRequests.get e = some request) :
      Operation s t (.submitting call e input .lookUp)
        (s.setThread t (.submitting call e input (.tracked request)))
  | missing {call e input} (h : s.trackedRequests.get e = none) :
      Operation s t (.submitting call e input .lookUp)
        (s.setThread t (.submitting call e input .untracked))
  | conflict {call e input request error}
      (h : request.envelopeInput.canonicalBytes ≠ input.canonicalBytes) :
      Operation s t (.submitting call e input (.tracked request))
        (s.setThread t (.threw call e input error))
  | retry {call e input request} :
      Operation s t (.submitting call e input (.tracked request))
        (setThread { s with passed := s.passed ++ [⟨call, e, request⟩] } t
          (.submitting call e input (.submitted (some request))))
  | sequence {call e input request} :
      Operation s t (.submitting call e input .untracked)
        (setThread { s with nextSequence := s.nextSequence + 1 } t
          (.submitting call e input (.attach request)))
  | exhausted {call e input error} :
      Operation s t (.submitting call e input .untracked)
        (setThread { s with nextSequence := s.nextSequence + 1 } t (.threw call e input error))
  | full {call e input request} :
      Operation s t (.submitting call e input (.attach request))
        (s.setThread t (.submitting call e input (.submitted none)))
  | attached {call e input request tracker}
      (h : ∀ k, tracker.get k = if e = k then some request else s.trackedRequests.get k) :
      Operation s t (.submitting call e input (.attach request))
        (setThread { s with trackedRequests := tracker } t
          (.submitting call e input (.status request)))
  | status {call e input request} :
      Operation s t (.submitting call e input (.status request))
        (setThread { s with lookups := s.lookups ++ [⟨call, e, request⟩] } t
          (.submitting call e input (.submitted (some request))))
  | handle {call e input submission publishHandles} :
      Operation s t (.submitting call e input (.submitted submission))
        (setThread { s with
          publishHandles := publishHandles
          handles := s.handles ++ [.new call e submission submission.isSome] } t
          (.returned call s.handles.length))
  | trackingState {n e} :
      Operation s t (.detaching n e .trackingState)
        (setThread { s with
          handles := s.handles.modify n fun h => { h with trackingState := .detached } } t
          (.detaching n e .compareAndSet))
  | set {n e} :
      Operation s t (.detaching n e .compareAndSet)
        (setThread { s with handles := s.handles.modify n fun h => { h with detached := true } } t
          (.detaching n e .publishHandles))
  | alreadySet {n e} : Operation s t (.detaching n e .compareAndSet) (s.setThread t .idle)
  | detachHandle {n e publishHandles} :
      Operation s t (.detaching n e .publishHandles)
        (setThread { s with publishHandles := publishHandles } t
          (.detaching n e .trackedRequests))
  | detachRequest {n e tracker}
      (h : ∀ k, tracker.get k = if e = k then none else s.trackedRequests.get k) :
      Operation s t (.detaching n e .trackedRequests)
        (setThread { s with trackedRequests := tracker } t .idle)

theorem submitStep_operation (t call : Nat) (e : Uuid) (input : EnvelopeInput)
    (point : SubmitPoint) :
    Operation s t (.submitting call e input point) (s.submitStep t call e input point) := by
  cases point with
  | lookUp =>
      simp only [submitStep]
      split
      · exact .found (by assumption)
      · exact .missing (by assumption)
  | tracked request =>
      simp only [submitStep]
      split
      · exact .conflict (by assumption)
      · exact .retry
  | untracked =>
      simp only [submitStep]
      split
      · exact .sequence
      · exact .exhausted
  | attach request =>
      rcases s.trackedRequests.attach_cases e request with hfull | ⟨hattached, hget⟩
      · simp only [submitStep, hfull]
        exact .full
      · simp only [submitStep, hattached]
        exact .attached hget
  | status request => exact .status
  | submitted submission => exact .handle

theorem detachStep_operation (t n : Nat) (e : Uuid) (point : DetachPoint) :
    Operation s t (.detaching n e point) (s.detachStep t n e point) := by
  cases point with
  | trackingState => exact .trackingState
  | compareAndSet =>
      simp only [detachStep]
      split
      · exact .set
      · exact .alreadySet
  | publishHandles => exact .detachHandle
  | trackedRequests => exact .detachRequest (s.trackedRequests.get_detach e)

theorem advance_operation (s : LogicalProducerClient registration) (t : Nat) :
    s.advance t = s ∨ ∃ task, s.threads t = task ∧ Operation s t task (s.advance t) := by
  unfold advance
  cases htask : s.threads t with
  | submitting call e input point => exact .inr ⟨_, rfl, submitStep_operation t call e input point⟩
  | detaching n e point => exact .inr ⟨_, rfl, detachStep_operation t n e point⟩
  | _ => exact .inl rfl

/-! ## The tracker after a step -/

theorem Held.of_holds {eventId : Uuid} {request : ClientPublishRequest}
    (h : s.Holds eventId request) : s.Held eventId := by
  rcases h with ⟨handle, hmem, hid, hstate, -⟩ | ⟨t, ht⟩
  · exact .inl ⟨handle, hmem, hid, hstate⟩
  · exact .inr ⟨t, request, ht⟩

/-- A careful operation changes the entry of an event that has none or is not held. -/
theorem Operation.tracked {t : Nat} {task : Task} {eventId : Uuid}
    (hop : Operation s t task s') (htask : s.threads t = task) (hcareful : s.Careful (.advance t)) :
    s'.trackedRequests.get eventId = s.trackedRequests.get eventId ∨
      s.trackedRequests.get eventId = none ∨ ¬ s.Held eventId := by
  unfold Careful at hcareful
  cases hop with
  | attached hget =>
      rename_i call e input request tracker
      simp only [htask] at hcareful
      by_cases heq : e = eventId
      · subst heq
        by_cases hnone : s.trackedRequests.get e = none
        · exact .inr (.inl hnone)
        · exact .inr (.inr (hcareful hnone))
      · exact .inl ((hget eventId).trans (if_neg heq))
  | detachRequest hget =>
      rename_i n e tracker
      simp only [htask] at hcareful
      by_cases heq : e = eventId
      · subst heq
        exact .inr (.inr hcareful)
      · exact .inl ((hget eventId).trans (if_neg heq))
  | _ => exact .inl rfl

theorem step_tracked {ev : ClientEvent} (hst : ClientStep s ev s') (hcareful : s.Careful ev)
    (eventId : Uuid) :
    s'.trackedRequests.get eventId = s.trackedRequests.get eventId ∨
      s.trackedRequests.get eventId = none ∨ ¬ s.Held eventId := by
  cases hst with
  | advance =>
      rename_i t
      rcases s.advance_operation t with hsame | ⟨task, htask, hop⟩
      · rw [hsame]
        exact .inl rfl
      · exact hop.tracked htask hcareful
  | _ => exact .inl rfl

/-! ## Holders after a step -/

/-- The handle is for a request that `s` has a holder of. -/
def HandleFrom (s : LogicalProducerClient registration) (handle : BridgePublishHandle) : Prop :=
  handle.trackingState = .attached →
    ∃ request, handle.submission = some request ∧ s.Holds handle.eventId request

/-- The call has a request that `s` has a holder of, or that `s'` tracks. -/
def TaskFrom (s s' : LogicalProducerClient registration) (task : Task) : Prop :=
  ∀ eventId request, task.request? = some (eventId, request) →
    s.Holds eventId request ∨ s'.trackedRequests.get eventId = some request

theorem Tracks.handleFrom (hinv : s.Tracks) : ∀ handle ∈ s.handles, s.HandleFrom handle := by
  intro handle hmem hstate
  obtain ⟨request, hsub⟩ := hinv.submission handle hmem hstate
  exact ⟨request, hsub, .inl ⟨handle, hmem, rfl, hstate, hsub⟩⟩

theorem Operation.handles {t : Nat} {task : Task} (hop : Operation s t task s')
    (htask : s.threads t = task) (hinv : s.Tracks) : ∀ handle ∈ s'.handles, s.HandleFrom handle := by
  have hsame := hinv.handleFrom
  cases hop with
  | handle =>
      rename_i call e input submission publishHandles
      intro handle hmem
      rcases List.mem_append.mp hmem with hmem | hmem
      · exact hsame handle hmem
      · obtain rfl := List.mem_singleton.mp hmem
        intro hstate
        cases submission with
        | none => cases hstate
        | some request => exact ⟨request, rfl, .inr ⟨t, by rw [htask]; rfl⟩⟩
  | trackingState => exact forall_mem_modify hsame fun handle _ hstate => (by cases hstate)
  | set => exact forall_mem_modify hsame fun handle hmem hstate => hsame handle hmem hstate
  | _ => exact hsame

theorem Operation.tasks {t : Nat} {task : Task} (hop : Operation s t task s')
    (htask : s.threads t = task) : ∀ k, TaskFrom s s' (s'.threads k) := by
  have hsame : ∀ k, TaskFrom s s' (s.threads k) := fun k _ _ h => .inl (.inr ⟨k, h⟩)
  have hself : TaskFrom s s' task := htask ▸ hsame t
  cases hop with
  | found hget =>
      refine forall_setThread hsame ?_
      intro eventId request heq
      cases heq
      exact .inr hget
  | attached hget =>
      refine forall_setThread hsame ?_
      intro eventId request heq
      cases heq
      exact .inr ((hget _).trans (if_pos rfl))
  | retry => exact forall_setThread hsame hself
  | status => exact forall_setThread hsame hself
  | _ => exact forall_setThread hsame fun _ _ heq => (by cases heq)

/-- Requests of holders stay tracked. -/
theorem Tracks.of_step {ev : ClientEvent} (hinv : s.Tracks) (hst : ClientStep s ev s')
    (hcareful : s.Careful ev) (hhandles : ∀ handle ∈ s'.handles, s.HandleFrom handle)
    (htasks : ∀ t, TaskFrom s s' (s'.threads t)) : s'.Tracks := by
  have hkept : ∀ eventId request, s.Holds eventId request →
      s'.trackedRequests.get eventId = some request := by
    intro eventId request hholds
    have hget := hinv.tracked eventId request hholds
    rcases step_tracked hst hcareful eventId with hsame | hnone | hfree
    · exact hsame.trans hget
    · rw [hnone] at hget
      cases hget
    · exact absurd (.of_holds hholds) hfree
  refine ⟨fun handle hmem hstate => ?_, fun eventId request hholds => ?_⟩
  · obtain ⟨request, hsub, -⟩ := hhandles handle hmem hstate
    exact ⟨request, hsub⟩
  · rcases hholds with ⟨handle, hmem, rfl, hstate, hsub⟩ | ⟨t, ht⟩
    · obtain ⟨request', hsub', hholds⟩ := hhandles handle hmem hstate
      rw [hsub] at hsub'
      cases hsub'
      exact hkept _ _ hholds
    · rcases htasks t eventId request ht with hholds | hget
      · exact hkept _ _ hholds
      · exact hget

theorem Tracks.step {ev : ClientEvent} (hinv : s.Tracks) (hst : ClientStep s ev s')
    (hcareful : s.Careful ev) : s'.Tracks := by
  have hsame : ∀ k, TaskFrom s s' (s.threads k) := fun k _ _ h => .inl (.inr ⟨k, h⟩)
  refine hinv.of_step hst hcareful ?_ ?_
  · cases hst with
    | advance =>
        rename_i t
        rcases s.advance_operation t with heq | ⟨task, htask, hop⟩
        · rw [heq]
          exact hinv.handleFrom
        · exact hop.handles htask hinv
    | _ => exact hinv.handleFrom
  · cases hst with
    | advance =>
        rename_i t
        rcases s.advance_operation t with heq | ⟨task, htask, hop⟩
        · rw [heq] at hsame ⊢
          exact hsame
        · exact hop.tasks htask
    | submit => exact forall_setThread hsame fun _ _ heq => (by cases heq)
    | detachTracking => exact forall_setThread hsame fun _ _ heq => (by cases heq)
    | refused => exact hsame
    | answered => exact hsame

theorem tracks_new : (new : LogicalProducerClient registration).Tracks := by
  refine ⟨fun handle hmem => (by cases hmem), ?_⟩
  rintro eventId request (⟨handle, hmem, -⟩ | ⟨t, ht⟩)
  · cases hmem
  · cases ht

/-- The events with an attached handle fit in the tracker. -/
theorem Tracks.attachedEvents_le (hinv : s.Tracks) :
    s.attachedEvents.length ≤ registration.maxPendingPublishes := by
  refine s.trackedRequests.length_le_capacity (List.nodup_dedup _) ?_
  intro eventId hmem
  obtain ⟨handle, hhandle, rfl, hstate⟩ := mem_attachedEvents.mp hmem
  obtain ⟨request, -, hholds⟩ := hinv.handleFrom handle hhandle hstate
  rw [hinv.tracked _ _ hholds]
  exact Option.some_ne_none _

/-! ## Numbers of calls -/

/-- Every call that left a trace has started. -/
structure Numbered (s : LogicalProducerClient registration) : Prop where
  tasks : ∀ t, (s.threads t).StartedBefore s.started
  handles : ∀ handle ∈ s.handles, handle.call < s.started
  lookups : ∀ p ∈ s.lookups, p.call < s.started
  passed : ∀ p ∈ s.passed, p.call < s.started

theorem Operation.numbered {t : Nat} {task : Task} (hop : Operation s t task s')
    (htask : s.threads t = task) (hnum : s.Numbered) : s'.Numbered := by
  have hself : task.StartedBefore s.started := htask ▸ hnum.tasks t
  have hlater : ∀ {xs : List Submission} {p : Submission}, (∀ q ∈ xs, q.call < s.started) →
      p.call < s.started → ∀ q ∈ xs ++ [p], q.call < s.started := by
    intro xs p hxs hp q hq
    rcases List.mem_append.mp hq with hq | hq
    · exact hxs q hq
    · obtain rfl := List.mem_singleton.mp hq
      exact hp
  cases hop with
  | retry =>
      exact { hnum with
        tasks := forall_setThread hnum.tasks hself
        passed := hlater hnum.passed hself }
  | status =>
      exact { hnum with
        tasks := forall_setThread hnum.tasks hself
        lookups := hlater hnum.lookups hself }
  | handle =>
      refine { hnum with tasks := forall_setThread hnum.tasks hself, handles := ?_ }
      intro handle hmem
      rcases List.mem_append.mp hmem with hmem | hmem
      · exact hnum.handles handle hmem
      · obtain rfl := List.mem_singleton.mp hmem
        exact hself
  | trackingState =>
      exact { hnum with
        tasks := forall_setThread hnum.tasks hself
        handles := forall_mem_modify hnum.handles hnum.handles }
  | set =>
      exact { hnum with
        tasks := forall_setThread hnum.tasks hself
        handles := forall_mem_modify hnum.handles hnum.handles }
  | _ => exact { hnum with tasks := forall_setThread hnum.tasks hself }

theorem Numbered.step {ev : ClientEvent} (hnum : s.Numbered) (hst : ClientStep s ev s') :
    s'.Numbered := by
  cases hst with
  | submit =>
      have hlt : ∀ {n : Nat}, n < s.started → n < s.started + 1 := fun h => Nat.lt_succ_of_lt h
      exact ⟨forall_setThread (fun k => (hnum.tasks k).succ) (Nat.lt_succ_self s.started),
        fun handle hmem => hlt (hnum.handles handle hmem), fun p hp => hlt (hnum.lookups p hp),
        fun p hp => hlt (hnum.passed p hp)⟩
  | refused => exact hnum
  | detachTracking =>
      exact { hnum with tasks := forall_setThread hnum.tasks trivial }
  | advance =>
      rename_i t
      rcases s.advance_operation t with heq | ⟨task, htask, hop⟩
      · rw [heq]
        exact hnum
      · exact hop.numbered htask hnum
  | answered found hlookups =>
      rename_i before submission after
      have hmem : ∀ p ∈ before ++ submission :: after, p.call < s.started := hlookups ▸ hnum.lookups
      rw [List.forall_mem_append, List.forall_mem_cons] at hmem
      obtain ⟨hbefore, hself, hafter⟩ := hmem
      refine { hnum with lookups := List.forall_mem_append.mpr ⟨hbefore, hafter⟩, passed := ?_ }
      cases found with
      | true => exact hnum.passed
      | false =>
          refine List.forall_mem_append.mpr ⟨hnum.passed, ?_⟩
          intro p hp
          obtain rfl := List.mem_singleton.mp hp
          exact hself

theorem numbered_new : (new : LogicalProducerClient registration).Numbered :=
  ⟨fun _ => trivial, fun _ h => (by cases h), fun _ h => (by cases h), fun _ h => (by cases h)⟩

/-! ## Calls while a handle stays attached -/

/-- A call for `e` with a number from `first` on has no request but `r`, and passed it to
the transport before it has its submission. -/
def OnCourse (first : Nat) (e : Uuid) (r : ClientPublishRequest) (passed : List Submission) :
    Task → Prop
  | .submitting _ _ _ .lookUp => True
  | .submitting call eventId _ (.tracked request) => first ≤ call → eventId = e → request = r
  | .submitting call eventId _ (.submitted submission) =>
      first ≤ call → eventId = e → submission = some r ∧ ⟨call, e, r⟩ ∈ passed
  | .submitting call eventId _ _ => first ≤ call → eventId ≠ e
  | .threw call eventId input _ =>
      first ≤ call → eventId = e → r.envelopeInput.canonicalBytes ≠ input.canonicalBytes
  | _ => True

/-- The event `e` is tracked with `r`, which is the request of every call for it from
`first` on. -/
structure Kept (first : Nat) (e : Uuid) (r : ClientPublishRequest)
    (s : LogicalProducerClient registration) : Prop where
  tracked : s.trackedRequests.get e = some r
  tasks : ∀ t, OnCourse first e r s.passed (s.threads t)
  handles : ∀ handle ∈ s.handles, first ≤ handle.call → handle.eventId = e →
    handle.submission = some r ∧ ⟨handle.call, e, r⟩ ∈ s.passed
  lookups : ∀ p ∈ s.lookups, first ≤ p.call → p.eventId ≠ e
  passed : ∀ p ∈ s.passed, first ≤ p.call → p.eventId = e → p.request = r

variable {first : Nat} {e : Uuid} {r : ClientPublishRequest}

theorem OnCourse.mono {passed passed' : List Submission} {task : Task}
    (h : OnCourse first e r passed task) (hsub : passed ⊆ passed') :
    OnCourse first e r passed' task := by
  cases task with
  | submitting call eventId input point =>
      cases point with
      | submitted submission => exact fun hcall hid => ⟨(h hcall hid).1, hsub (h hcall hid).2⟩
      | _ => exact h
  | _ => exact h

/-- Nothing was done yet for calls that have not started. -/
theorem Numbered.kept (hnum : s.Numbered) (htracked : s.trackedRequests.get e = some r) :
    s.Kept s.started e r := by
  have hnone : ∀ {n : Nat} {p : Prop}, n < s.started → s.started ≤ n → p :=
    fun hlt hle => absurd hle (Nat.not_le.mpr hlt)
  refine ⟨htracked, fun t => ?_, fun handle hmem hle => hnone (hnum.handles handle hmem) hle,
    fun p hp hle => hnone (hnum.lookups p hp) hle, fun p hp hle => hnone (hnum.passed p hp) hle⟩
  have ht := hnum.tasks t
  cases htask : s.threads t with
  | submitting call eventId input point =>
      rw [htask] at ht
      cases point with
      | lookUp => trivial
      | _ => exact hnone ht
  | threw =>
      rw [htask] at ht
      exact hnone ht
  | _ => trivial

/-- One more request is passed on, for another event or the same request. -/
theorem Kept.pass (hkept : s.Kept first e r) {p : Submission}
    (hp : first ≤ p.call → p.eventId = e → p.request = r) :
    Kept first e r { s with passed := s.passed ++ [p] } := by
  have hsub := List.subset_append_left s.passed [p]
  refine { hkept with
    tasks := fun t => (hkept.tasks t).mono hsub
    handles := fun handle hmem hcall hid => ?_
    passed := fun p' hp' hcall hid => ?_ }
  · obtain ⟨hsubmission, hmem'⟩ := hkept.handles handle hmem hcall hid
    exact ⟨hsubmission, hsub hmem'⟩
  · rcases List.mem_append.mp hp' with hp' | hp'
    · exact hkept.passed p' hp' hcall hid
    · obtain rfl := List.mem_singleton.mp hp'
      exact hp hcall hid

theorem Operation.kept {t : Nat} {task : Task} (hop : Operation s t task s')
    (htask : s.threads t = task) (hkept : s.Kept first e r)
    (htracked : s'.trackedRequests.get e = some r) : s'.Kept first e r := by
  have hself : OnCourse first e r s.passed task := htask ▸ hkept.tasks t
  cases hop with
  | found hget =>
      refine { hkept with tasks := forall_setThread hkept.tasks fun _ hid => ?_ }
      subst hid
      exact Option.some.inj (hget.symm.trans hkept.tracked)
  | missing hget =>
      refine { hkept with tasks := forall_setThread hkept.tasks fun _ hid => ?_ }
      subst hid
      rw [hkept.tracked] at hget
      cases hget
  | conflict hne =>
      refine { hkept with tasks := forall_setThread hkept.tasks fun hcall hid => ?_ }
      rw [← hself hcall hid]
      exact hne
  | retry =>
      rename_i call eventId input request
      have hpass := hkept.pass (p := ⟨call, eventId, request⟩) hself
      refine { hpass with tasks := forall_setThread hpass.tasks fun hcall hid => ?_ }
      obtain rfl := hself hcall hid
      subst hid
      exact ⟨rfl, List.mem_append_right _ (List.mem_singleton_self _)⟩
  | exhausted =>
      refine { hkept with tasks := forall_setThread hkept.tasks fun hcall hid => ?_ }
      exact absurd hid (hself hcall)
  | full =>
      refine { hkept with tasks := forall_setThread hkept.tasks fun hcall hid => ?_ }
      exact absurd hid (hself hcall)
  | status =>
      refine { hkept with
        tasks := forall_setThread hkept.tasks fun hcall hid => absurd hid (hself hcall)
        lookups := fun p hp hcall => ?_ }
      rcases List.mem_append.mp hp with hp | hp
      · exact hkept.lookups p hp hcall
      · obtain rfl := List.mem_singleton.mp hp
        exact hself hcall
  | handle =>
      refine { hkept with
        tasks := forall_setThread hkept.tasks trivial
        handles := fun handle hmem hcall hid => ?_ }
      rcases List.mem_append.mp hmem with hmem | hmem
      · exact hkept.handles handle hmem hcall hid
      · obtain rfl := List.mem_singleton.mp hmem
        exact hself hcall hid
  | trackingState =>
      exact { hkept with
        tasks := forall_setThread hkept.tasks trivial
        handles := forall_mem_modify hkept.handles hkept.handles }
  | set =>
      exact { hkept with
        tasks := forall_setThread hkept.tasks trivial
        handles := forall_mem_modify hkept.handles hkept.handles }
  | sequence => exact { hkept with tasks := forall_setThread hkept.tasks hself }
  | attached =>
      exact { hkept with tracked := htracked, tasks := forall_setThread hkept.tasks hself }
  | detachRequest =>
      exact { hkept with tracked := htracked, tasks := forall_setThread hkept.tasks trivial }
  | alreadySet => exact { hkept with tasks := forall_setThread hkept.tasks trivial }
  | detachHandle => exact { hkept with tasks := forall_setThread hkept.tasks trivial }

/-- A careful step keeps the request of an event that has an attached handle. -/
theorem Kept.step {ev : ClientEvent} (hkept : s.Kept first e r) (hst : ClientStep s ev s')
    (hcareful : s.Careful ev) (hattached : s.Attached e) : s'.Kept first e r := by
  have htracked : s'.trackedRequests.get e = some r := by
    rcases step_tracked hst hcareful e with hsame | hnone | hfree
    · exact hsame.trans hkept.tracked
    · rw [hkept.tracked] at hnone
      cases hnone
    · exact absurd (.inl hattached) hfree
  cases hst with
  | submit => exact { hkept with tasks := forall_setThread hkept.tasks trivial }
  | refused => exact hkept
  | detachTracking => exact { hkept with tasks := forall_setThread hkept.tasks trivial }
  | advance =>
      rename_i t
      rcases s.advance_operation t with heq | ⟨task, htask, hop⟩
      · rw [heq]
        exact hkept
      · exact hop.kept htask hkept htracked
  | answered found hlookups =>
      rename_i before submission after
      have hall : ∀ p ∈ before ++ submission :: after, first ≤ p.call → p.eventId ≠ e :=
        hlookups ▸ hkept.lookups
      rw [List.forall_mem_append, List.forall_mem_cons] at hall
      obtain ⟨hbefore, hnot, hafter⟩ := hall
      have hrest := List.forall_mem_append.mpr ⟨hbefore, hafter⟩
      cases found with
      | true => exact { hkept with lookups := hrest }
      | false =>
          have hpass := hkept.pass fun hcall hid => absurd hid (hnot hcall)
          exact { hpass with lookups := hrest }

end LogicalProducerClient

end CraftRelay.Client
