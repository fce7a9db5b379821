import CraftRelay.Client.Retries

/-!
# Every call hands over one request

A call of `submit` passes its request to the transport, or looks up the status of its
event first. Either is done once, before the call has its handle, and the request is one
that the producer's manifest issued for the event.
-/

namespace CraftRelay.Client

variable {registration : ProducerRegistration}

/-! ## Issued requests -/

/-- The request is for what some call submits. -/
def ProducerRegistration.Issued (registration : ProducerRegistration) (eventId : Uuid)
    (input : EnvelopeInput) : Prop :=
  ∃ handle typedPayload, registration.input handle eventId typedPayload = .ok input

theorem ProducerRegistration.Issued.exists_construct {eventId : Uuid} {input : EnvelopeInput}
    (h : registration.Issued eventId input) :
    input.eventId = eventId.toText ∧ ∃ c : EnvelopeInput, c.construct = .ok input := by
  obtain ⟨handle, typedPayload, h⟩ := h
  unfold ProducerRegistration.input at h
  rw [Except.refuseIf_bind_iff, Except.bind_eq_ok_iff] at h
  obtain ⟨-, entry, -, h⟩ := h
  have hconstruct := Except.mapError_eq_ok_iff.mp h
  refine ⟨?_, _, hconstruct⟩
  rw [(EnvelopeInput.construct_eq_ok_iff.mp hconstruct).2]
  rfl

/-- The input of the call a thread is in, and the request it has. -/
def Task.Issued (registration : ProducerRegistration) : Task → Prop
  | .submitting _ eventId input point =>
      registration.Issued eventId input ∧
        match point with
        | .tracked request | .attach request | .status request | .submitted (some request) =>
            registration.Issued eventId request.envelopeInput
        | _ => True
  | _ => True

namespace LogicalProducerClient

variable {s s' : LogicalProducerClient registration}

/-- Every request is one that was issued for its event. -/
structure Issues (s : LogicalProducerClient registration) : Prop where
  tracked : ∀ e request, s.trackedRequests.get e = some request →
    registration.Issued e request.envelopeInput
  tasks : ∀ t, (s.threads t).Issued registration
  lookups : ∀ p ∈ s.lookups, registration.Issued p.eventId p.request.envelopeInput
  passed : ∀ p ∈ s.passed, registration.Issued p.eventId p.request.envelopeInput

/-- A new request is for the input of its call. -/
theorem request_of_sequence {t call : Nat} {e : Uuid} {input : EnvelopeInput}
    {request : ClientPublishRequest}
    (h : (s.submitStep t call e input .untracked).threads t =
      .submitting call e input (.attach request)) : request.envelopeInput = input := by
  unfold submitStep ClientPublishRequest.construct at h
  simp only at h
  split at h
  · rename_i hmade
    split at hmade
    · cases hmade
    · cases hmade
      simp only [setThread, if_true] at h
      cases h
      rfl
  · simp [setThread] at h

theorem Operation.issues {t : Nat} {task : Task} (hop : Operation s t task s')
    (htask : s.threads t = task) (hadvance : s.advance t = s') (h : s.Issues) : s'.Issues := by
  have hself : task.Issued registration := htask ▸ h.tasks t
  have hlater : ∀ {xs : List Submission} {p : Submission},
      (∀ q ∈ xs, registration.Issued q.eventId q.request.envelopeInput) →
      registration.Issued p.eventId p.request.envelopeInput →
      ∀ q ∈ xs ++ [p], registration.Issued q.eventId q.request.envelopeInput := by
    intro xs p hxs hp q hq
    rcases List.mem_append.mp hq with hq | hq
    · exact hxs q hq
    · rw [List.mem_singleton.mp hq]
      exact hp
  cases hop with
  | found hget =>
      exact { h with tasks := forall_setThread h.tasks ⟨hself.1, h.tracked _ _ hget⟩ }
  | retry =>
      exact { h with
        tasks := forall_setThread h.tasks hself
        passed := hlater h.passed hself.2 }
  | sequence =>
      rename_i call e input request
      have hthread : (s.submitStep t call e input .untracked).threads t =
          .submitting call e input (.attach request) := by
        unfold advance at hadvance
        rw [htask] at hadvance
        rw [show s.submitStep t call e input .untracked = _ from hadvance]
        simp [setThread]
      have hrequest := request_of_sequence hthread
      have hissued : registration.Issued e request.envelopeInput := by
        rw [hrequest]
        exact hself.1
      exact { h with tasks := forall_setThread h.tasks ⟨hself.1, hissued⟩ }
  | attached hget =>
      rename_i call e input request tracker
      refine { h with
        tracked := fun k request' hk => ?_
        tasks := forall_setThread h.tasks hself }
      have hk : tracker.get k = some request' := hk
      rw [hget] at hk
      split at hk
      · rename_i he
        cases hk
        rw [← he]
        exact hself.2
      · exact h.tracked k request' hk
  | status =>
      exact { h with
        tasks := forall_setThread h.tasks hself
        lookups := hlater h.lookups hself.2 }
  | detachRequest hget =>
      rename_i n e tracker
      refine { h with
        tracked := fun k request' hk => ?_
        tasks := forall_setThread h.tasks trivial }
      have hk : tracker.get k = some request' := hk
      rw [hget] at hk
      split at hk
      · cases hk
      · exact h.tracked k request' hk
  | missing => exact { h with tasks := forall_setThread h.tasks ⟨hself.1, trivial⟩ }
  | full => exact { h with tasks := forall_setThread h.tasks ⟨hself.1, trivial⟩ }
  | _ => exact { h with tasks := forall_setThread h.tasks trivial }

theorem Issues.step {ev : ClientEvent} (h : s.Issues) (hst : ClientStep s ev s') : s'.Issues := by
  cases hst with
  | submit hfree hinput =>
      exact { h with tasks := forall_setThread h.tasks ⟨⟨_, _, hinput⟩, trivial⟩ }
  | refused => exact h
  | detachTracking => exact { h with tasks := forall_setThread h.tasks trivial }
  | advance =>
      rename_i t
      rcases s.advance_operation t with heq | ⟨task, htask, hop⟩
      · rw [heq]
        exact h
      · exact hop.issues htask rfl h
  | answered found hlookups =>
      rename_i before submission after
      have hmem := h.lookups
      rw [hlookups, List.forall_mem_append, List.forall_mem_cons] at hmem
      obtain ⟨hbefore, hself, hafter⟩ := hmem
      refine { h with lookups := List.forall_mem_append.mpr ⟨hbefore, hafter⟩, passed := ?_ }
      cases found with
      | true => exact h.passed
      | false =>
          refine List.forall_mem_append.mpr ⟨h.passed, ?_⟩
          intro p hp
          rw [List.mem_singleton.mp hp]
          exact hself

theorem issues_new : (new : LogicalProducerClient registration).Issues :=
  ⟨fun _ _ h => (by cases h), fun _ => trivial, fun _ h => (by cases h), fun _ h => (by cases h)⟩

/-! ## Requests that were handed over -/

end LogicalProducerClient

/-- The call has not handed over its request. -/
def Task.owes? : Task → Option Nat
  | .submitting _ _ _ (.submitted _) => none
  | .submitting call _ _ _ => some call
  | _ => none

/-- The call handed over a request and has no handle for it yet. -/
def Task.gave? : Task → Option Submission
  | .submitting call eventId _ (.submitted (some request)) => some ⟨call, eventId, request⟩
  | _ => none

/-- An answer that found the event. -/
def ClientEvent.found? : ClientEvent → Option Submission
  | .answered submission true => some submission
  | _ => none

namespace LogicalProducerClient

variable {s s' : LogicalProducerClient registration}

/-- The requests that were passed on, looked up, or found by their lookup. -/
def handed (s : LogicalProducerClient registration) (found : List Submission) :
    List Submission :=
  s.passed ++ s.lookups ++ found

/-- Every call hands over its request once, before it has its handle. -/
structure Hands (s : LogicalProducerClient registration) (found : List Submission) : Prop where
  once : ((s.handed found).map (·.call)).Nodup
  started : ∀ p ∈ s.handed found, p.call < s.started
  owing : ∀ t n, (s.threads t).owes? = some n →
    n < s.started ∧ ∀ p ∈ s.handed found, p.call ≠ n
  apart : ∀ t t' n, (s.threads t).owes? = some n → (s.threads t').owes? = some n → t = t'
  gave : ∀ t p, (s.threads t).gave? = some p → p ∈ s.handed found
  handles : ∀ handle ∈ s.handles, ∀ request, handle.submission = some request →
    ⟨handle.call, handle.eventId, request⟩ ∈ s.handed found

variable {found : List Submission}

/-- The thread goes on, and owes no more than before. -/
theorem Hands.setThread (h : s.Hands found) {t : Nat} {task : Task}
    (howes : ∀ n, task.owes? = some n → (s.threads t).owes? = some n)
    (hgave : ∀ p, task.gave? = some p → p ∈ s.handed found) :
    (s.setThread t task).Hands found := by
  have howing : ∀ k n, ((s.setThread t task).threads k).owes? = some n →
      (s.threads k).owes? = some n := by
    intro k n hk
    have hk : (if k = t then task else s.threads k).owes? = some n := hk
    split at hk
    · rename_i heq
      rw [heq]
      exact howes n hk
    · exact hk
  exact { h with
    owing := fun k n hk => h.owing k n (howing k n hk)
    apart := fun k k' n hk hk' => h.apart k k' n (howing k n hk) (howing k' n hk')
    gave := forall_setThread (P := fun task => ∀ p, task.gave? = some p → p ∈ s.handed found)
      h.gave hgave }

/-- What was handed over is what it was in another order, and nothing else changed. -/
theorem Hands.perm {found' : List Submission} (h : s.Hands found)
    (hperm : (s'.handed found').Perm (s.handed found)) (hthreads : s'.threads = s.threads)
    (hstarted : s'.started = s.started) (hhandles : s'.handles = s.handles) :
    s'.Hands found' where
  once := (hperm.map _).nodup_iff.mpr h.once
  started p hp := by
    rw [hstarted]
    exact h.started p (hperm.mem_iff.mp hp)
  owing t n ht := by
    rw [hthreads] at ht
    rw [hstarted]
    obtain ⟨hlt, hnot⟩ := h.owing t n ht
    exact ⟨hlt, fun p hp => hnot p (hperm.mem_iff.mp hp)⟩
  apart t t' n ht ht' := by
    rw [hthreads] at ht ht'
    exact h.apart t t' n ht ht'
  gave t p ht := by
    rw [hthreads] at ht
    exact hperm.mem_iff.mpr (h.gave t p ht)
  handles handle hmem request hsubmission := by
    rw [hhandles] at hmem
    exact hperm.mem_iff.mpr (h.handles handle hmem request hsubmission)

/-- A lookup that was begun last is for another call than the others under way. -/
theorem Hands.lookup_ne (h : s.Hands found) {lookups : List Submission} {p q : Submission}
    (hlookups : s.lookups = lookups ++ [q]) (hp : p ∈ lookups) : p.call ≠ q.call := by
  have hnodup := h.once
  unfold handed at hnodup
  rw [hlookups, List.map_append, List.map_append, List.map_append, List.nodup_append,
    List.nodup_append, List.nodup_append] at hnodup
  exact hnodup.1.2.1.2.2 _ (List.mem_map_of_mem hp) _ (List.mem_map_of_mem (by simp))

/-- A thread hands over the request of its call. -/
theorem Hands.hand (h : s.Hands found) {t : Nat} {p : Submission} {input : EnvelopeInput}
    {passed lookups : List Submission} (howes : (s.threads t).owes? = some p.call)
    (hhanded : (handed { s with passed := passed, lookups := lookups } found).Perm
      (s.handed found ++ [p])) :
    Hands (LogicalProducerClient.setThread { s with passed := passed, lookups := lookups } t
      (.submitting p.call p.eventId input (.submitted (some p.request)))) found := by
  obtain ⟨hlt, hnot⟩ := h.owing t _ howes
  have hmem : ∀ q, q ∈ handed { s with passed := passed, lookups := lookups } found ↔
      q ∈ s.handed found ∨ q = p := by
    intro q
    rw [hhanded.mem_iff, List.mem_append, List.mem_singleton]
  -- the thread itself owes nothing any more
  have howing : ∀ k n, ((LogicalProducerClient.setThread
      { s with passed := passed, lookups := lookups } t (.submitting p.call p.eventId input
        (.submitted (some p.request)))).threads k).owes? = some n →
      k ≠ t ∧ (s.threads k).owes? = some n := by
    intro k n hk
    have hk : (if k = t then _ else s.threads k).owes? = some n := hk
    split at hk
    · cases hk
    · exact ⟨by assumption, hk⟩
  refine ⟨?_, ?_, ?_, ?_, ?_, ?_⟩
  · refine (hhanded.map _).nodup_iff.mpr ?_
    rw [List.map_append, List.nodup_append]
    refine ⟨h.once, by simp, ?_⟩
    intro n hn m hm
    obtain ⟨q, hq, rfl⟩ := List.mem_map.mp hn
    obtain rfl : m = p.call := by simpa using hm
    exact hnot q hq
  · intro q hq
    rcases (hmem q).mp hq with hq | rfl
    · exact h.started q hq
    · exact hlt
  · intro k n hk
    obtain ⟨hne, howes'⟩ := howing k n hk
    obtain ⟨hklt, hknot⟩ := h.owing k n howes'
    refine ⟨hklt, fun q hq => ?_⟩
    rcases (hmem q).mp hq with hq | rfl
    · exact hknot q hq
    · intro hcall
      rw [← hcall] at howes'
      exact hne (h.apart k t _ howes' howes)
  · intro k k' n hk hk'
    exact h.apart k k' n (howing k n hk).2 (howing k' n hk').2
  · have hold : ∀ k q, (s.threads k).gave? = some q →
        q ∈ handed { s with passed := passed, lookups := lookups } found :=
      fun k q hk => (hmem q).mpr (.inl (h.gave k q hk))
    refine forall_setThread (P := fun task => ∀ q, task.gave? = some q →
      q ∈ handed { s with passed := passed, lookups := lookups } found) hold fun q hq => ?_
    cases hq
    exact (hmem p).mpr (.inr rfl)
  · intro handle hhandle request hsubmission
    exact (hmem _).mpr (.inl (h.handles handle hhandle request hsubmission))

theorem Operation.hands {t : Nat} {task : Task} (hop : Operation s t task s')
    (htask : s.threads t = task) (h : s.Hands found) : s'.Hands found := by
  have hsame : ∀ n, task.owes? = some n → (s.threads t).owes? = some n := by
    rw [htask]
    exact fun _ hn => hn
  have hself : ∀ p, task.gave? = some p → p ∈ s.handed found := htask ▸ h.gave t
  cases hop with
  | retry =>
      refine h.hand (p := ⟨_, _, _⟩) (hsame _ rfl) ?_
      unfold handed
      simp only [List.append_assoc]
      rw [← List.append_assoc s.lookups]
      exact List.perm_append_comm.append_left _
  | status =>
      refine h.hand (p := ⟨_, _, _⟩) (hsame _ rfl) ?_
      unfold handed
      simp only [List.append_assoc]
      exact ((List.perm_append_comm).append_left _).append_left _
  | handle =>
      rename_i call e input submission publishHandles
      have hreturned : Hands (s.setThread t (.returned call s.handles.length)) found :=
        h.setThread nofun nofun
      refine { hreturned with handles := fun handle hmem request hrequest => ?_ }
      rcases List.mem_append.mp hmem with hmem | hmem
      · exact h.handles handle hmem request hrequest
      · obtain rfl := List.mem_singleton.mp hmem
        have hrequest : submission = some request := hrequest
        subst hrequest
        exact hself _ rfl
  | trackingState =>
      rename_i n e
      have hnext : Hands (s.setThread t (.detaching n e .compareAndSet)) found :=
        h.setThread nofun nofun
      exact { hnext with handles := forall_mem_modify h.handles h.handles }
  | set =>
      rename_i n e
      have hnext : Hands (s.setThread t (.detaching n e .publishHandles)) found :=
        h.setThread nofun nofun
      exact { hnext with handles := forall_mem_modify h.handles h.handles }
  | found => exact h.setThread hsame nofun
  | missing => exact h.setThread hsame nofun
  | sequence =>
      have hmod : Hands { s with nextSequence := s.nextSequence + 1 } found := { h with }
      exact hmod.setThread hsame nofun
  | attached =>
      rename_i tracker _
      have hmod : Hands { s with trackedRequests := tracker } found := { h with }
      exact hmod.setThread hsame nofun
  | exhausted =>
      have hmod : Hands { s with nextSequence := s.nextSequence + 1 } found := { h with }
      exact hmod.setThread nofun nofun
  | detachHandle =>
      rename_i publishHandles
      have hmod : Hands { s with publishHandles := publishHandles } found := { h with }
      exact hmod.setThread nofun nofun
  | detachRequest =>
      rename_i tracker _
      have hmod : Hands { s with trackedRequests := tracker } found := { h with }
      exact hmod.setThread nofun nofun
  | _ => exact h.setThread nofun nofun

/-- A new call has handed over nothing. -/
theorem Hands.call (h : s.Hands found) {t : Nat} {e : Uuid} {input : EnvelopeInput} :
    Hands (LogicalProducerClient.setThread { s with started := s.started + 1 } t
      (.submitting s.started e input .lookUp)) found := by
  have howing : ∀ k n, ((LogicalProducerClient.setThread { s with started := s.started + 1 } t
      (.submitting s.started e input .lookUp)).threads k).owes? = some n →
      (k = t ∧ n = s.started) ∨ (s.threads k).owes? = some n := by
    intro k n hk
    have hk : (if k = t then _ else s.threads k).owes? = some n := hk
    split at hk
    · cases hk
      exact .inl ⟨by assumption, rfl⟩
    · exact .inr hk
  refine { h with
    started := fun p hp => Nat.lt_succ_of_lt (h.started p hp)
    owing := fun k n hk => ?_
    apart := fun k k' n hk hk' => ?_
    gave := forall_setThread (P := fun task => ∀ q, task.gave? = some q → q ∈ s.handed found)
      h.gave fun _ hp => (by cases hp) }
  · rcases howing k n hk with ⟨-, rfl⟩ | hk
    · exact ⟨Nat.lt_succ_self _, fun p hp => (h.started p hp).ne⟩
    · obtain ⟨hlt, hnot⟩ := h.owing k n hk
      exact ⟨Nat.lt_succ_of_lt hlt, hnot⟩
  · rcases howing k n hk with ⟨rfl, rfl⟩ | howes
    · rcases howing k' _ hk' with ⟨rfl, -⟩ | howes'
      · rfl
      · exact absurd (h.owing k' _ howes').1 (Nat.lt_irrefl _)
    · rcases howing k' n hk' with ⟨rfl, rfl⟩ | howes'
      · exact absurd (h.owing k _ howes).1 (Nat.lt_irrefl _)
      · exact h.apart k k' n howes howes'

theorem Hands.step {ev : ClientEvent} (h : s.Hands found) (hst : ClientStep s ev s') :
    s'.Hands (found ++ ev.found?.toList) := by
  cases hst with
  | submit =>
      show Hands _ (found ++ [])
      rw [List.append_nil]
      exact h.call
  | refused =>
      show Hands _ (found ++ [])
      rw [List.append_nil]
      exact h
  | detachTracking =>
      show Hands _ (found ++ [])
      rw [List.append_nil]
      exact h.setThread nofun nofun
  | advance =>
      rename_i t
      show Hands _ (found ++ [])
      rw [List.append_nil]
      rcases s.advance_operation t with heq | ⟨task, htask, hop⟩
      · rw [heq]
        exact h
      · exact hop.hands htask h
  | answered hit hlookups =>
      rename_i before submission after
      refine h.perm ?_ rfl rfl rfl
      unfold handed
      rw [hlookups]
      have hmiddle : (submission :: (s.passed ++ (before ++ after) ++ found)).Perm
          (s.passed ++ (before ++ submission :: after) ++ found) := by
        simpa using (@List.perm_middle _ submission (s.passed ++ before) (after ++ found)).symm
      cases hit with
      | true =>
          show (s.passed ++ (before ++ after) ++ (found ++ [submission])).Perm _
          refine .trans ?_ hmiddle
          rw [← List.append_assoc]
          exact List.perm_append_singleton _ _
      | false =>
          show (s.passed ++ [submission] ++ (before ++ after) ++ (found ++ [])).Perm _
          refine .trans ?_ hmiddle
          simp

theorem hands_new : (new : LogicalProducerClient registration).Hands [] :=
  ⟨.nil, fun _ h => (by cases h), fun _ _ h => (by cases h), fun _ _ _ h => (by cases h),
    fun _ _ h => (by cases h), fun _ h => (by cases h)⟩

end LogicalProducerClient

/-- The submissions whose status lookup found the event. -/
def foundSubmissions (tr : List ClientEvent) : List Submission :=
  tr.filterMap (·.found?)

variable {tr : List ClientEvent} {s : LogicalProducerClient registration}

theorem clientRun_issues (hrun : (clientLts registration).Run .new tr s) : s.Issues := by
  induction hrun with
  | nil => exact LogicalProducerClient.issues_new
  | snoc _ hst ih => exact ih.step hst

theorem clientRun_hands (hrun : (clientLts registration).Run .new tr s) :
    s.Hands (foundSubmissions tr) := by
  induction hrun with
  | nil => exact LogicalProducerClient.hands_new
  | snoc _ hst ih =>
      unfold foundSubmissions
      rw [Lts.filterMap_snoc]
      exact ih.step hst

end CraftRelay.Client
