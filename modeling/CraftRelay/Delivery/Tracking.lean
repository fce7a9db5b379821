import CraftRelay.Delivery.World

/-!
# One service followed through a run

`Discipline` speaks about all services at once, and about journal calls whatever
environment they run in. A `Tracking` follows one service: it keeps a state of
what the service went through, moved by the events of the run (`next`), and it
may count on a condition on each step (`admits`) that sees this state, the
environment of a call and the journal before and after. The other parties are
known by the relation `rely` alone. Where it asks for it, the operations of the
service satisfy `guard` when they are performed.
-/

namespace CraftRelay

/-- The service whose step it is. -/
def WorldEvent.thread? : WorldEvent → Option Nat
  | .client _ => none
  | .install i _ => some i
  | .call i _ => some i
  | .journal i _ => some i
  | .send i _ _ => some i
  | .clock i _ => some i
  | .return i _ _ => some i

theorem World.setThread_threads_of_ne (w : World) {i k : Nat} (t : Thread) (h : k ≠ i) :
    (w.setThread i t).threads k = w.threads k := if_neg h

variable [Sha256]

/-- The step of the world in which service `i` performs an operation of its method. -/
inductive Performs (i : Nat) (j : LocalJournal) :
    (e : Effect) → e.Reply → WorldEvent → LocalJournal → Prop
  | journal {env call r j'} (h : j.exec env call = some (j', r)) :
      Performs i j (.journal call) r (.journal i ⟨env, call, r⟩) j'
  | send (request : SendRequest) (r : Except SendError SendSuccess) :
      Performs i j (.send request) r (.send i request r) j
  | clock (nowMs : Int) : Performs i j .clock nowMs (.clock i nowMs) j

/-- A way to follow service `thread`. -/
structure Tracking (σ : Type) where
  thread : Nat
  next : σ → WorldEvent → σ
  admits : LocalJournal → σ → WorldEvent → LocalJournal → Prop
  rely : LocalJournal → LocalJournal → Prop
  idle : LocalJournal → σ → DeliveryService → Prop
  post : LocalJournal → (c : ServiceCall) → c.Reply → Prop
  guard : LocalJournal → σ → Effect → Prop := fun _ _ _ => True
  refl : ∀ j, rely j j
  trans : ∀ a b c, rely a b → rely b c → rely a c
  stable : ∀ j j' s svc, idle j s svc → rely j j' → idle j' s svc

namespace Tracking

variable {σ : Type} (T : Tracking σ)

/-- The state does not move while others do. -/
def Rely (a b : LocalJournal × σ) : Prop := T.rely a.1 b.1 ∧ b.2 = a.2

/-- An operation of the service in a step the tracking counts on. -/
def Step (a : LocalJournal × σ) (e : Effect) (r : e.Reply) (b : LocalJournal × σ) : Prop :=
  ∃ ev, Performs T.thread a.1 e r ev b.1 ∧ T.admits a.1 a.2 ev b.1 ∧ b.2 = T.next a.2 ev

/-- An operation the service may be at. -/
def Guard (a : LocalJournal × σ) (e : Effect) : Prop := T.guard a.1 a.2 e

/-- What a method ends with. -/
def Ends (c : ServiceCall) (a : LocalJournal × σ) (out : DeliveryService × c.Reply) : Prop :=
  T.idle a.1 (T.next a.2 (.return T.thread c out.2)) out.1 ∧ T.post a.1 c out.2

/-- A method under way. -/
def SafeProg (c : ServiceCall) (j : LocalJournal) (s : σ) (p : ServiceProg c.Reply) : Prop :=
  p.Safe T.Rely T.Step T.Guard (T.Ends c) (j, s)

def ThreadSafe (j : LocalJournal) (s : σ) : Thread → Prop
  | .idle svc => T.idle j s svc
  | .running c p => T.SafeProg c j s p

/-- What the other parties and the methods of the service owe the tracking. -/
structure Sound : Prop where
  others : ∀ w s ev w', ev.thread? ≠ some T.thread → worldLts.step w ev w' →
    T.admits w.journal s ev w'.journal → T.next s ev = s ∧ T.rely w.journal w'.journal
  install : ∀ j s profile, T.admits j s (.install T.thread profile) j →
    T.idle j (T.next s (.install T.thread profile)) (.new profile)
  call : ∀ j s c svc, T.admits j s (.call T.thread c) j → T.idle j s svc →
    T.SafeProg c j (T.next s (.call T.thread c)) (c.program svc)

variable {T} {c : ServiceCall} {j : LocalJournal} {s : σ}

omit [Sha256] in
theorem rely_refl (a : LocalJournal × σ) : T.Rely a a := ⟨T.refl a.1, rfl⟩

omit [Sha256] in
theorem rely_trans (a b d : LocalJournal × σ) (h : T.Rely a b) (h' : T.Rely b d) : T.Rely a d :=
  ⟨T.trans _ _ _ h.1 h'.1, h'.2.trans h.2⟩

/-! ## Rules for programs -/

theorem safeProg_done {svc : DeliveryService} {out : c.Reply}
    (hidle : T.idle j (T.next s (.return T.thread c out)) svc)
    (hpost : ∀ j', T.rely j j' → T.post j' c out) : T.SafeProg c j s (.done (svc, out)) := by
  rintro ⟨j', s'⟩ ⟨hrely, hs⟩
  cases hs
  exact ⟨T.stable _ _ _ _ hidle hrely, hpost j' hrely⟩

theorem safeProg_journal {call : JournalCall} {k : call.Reply → ServiceProg c.Reply}
    (hk : ∀ j' env r j'', T.rely j j' → j'.exec env call = some (j'', r) →
      T.admits j' s (.journal T.thread ⟨env, call, r⟩) j'' →
      T.SafeProg c j'' (T.next s (.journal T.thread ⟨env, call, r⟩)) (k r))
    (hguard : ∀ j', T.rely j j' → T.guard j' s (.journal call) := by intros; trivial) :
    T.SafeProg c j s (.op (.journal call) k) := by
  rintro ⟨j', s'⟩ ⟨hrely, hs⟩
  cases hs
  refine ⟨hguard j' hrely, ?_⟩
  rintro r ⟨j'', s''⟩ ⟨ev, hperf, hadm, hs⟩
  cases hs
  cases hperf with
  | journal h => exact hk j' _ r j'' hrely h hadm

theorem safeProg_send {request : SendRequest}
    {k : Except SendError SendSuccess → ServiceProg c.Reply}
    (hk : ∀ j' r, T.rely j j' → T.admits j' s (.send T.thread request r) j' →
      T.SafeProg c j' (T.next s (.send T.thread request r)) (k r))
    (hguard : ∀ j', T.rely j j' → T.guard j' s (.send request) := by intros; trivial) :
    T.SafeProg c j s (.op (.send request) k) := by
  rintro ⟨j', s'⟩ ⟨hrely, hs⟩
  cases hs
  refine ⟨hguard j' hrely, ?_⟩
  rintro r ⟨j'', s''⟩ ⟨ev, hperf, hadm, hs⟩
  cases hs
  cases hperf
  exact hk j' r hrely hadm

theorem safeProg_clock {k : Int → ServiceProg c.Reply}
    (hk : ∀ j' nowMs, T.rely j j' → T.admits j' s (.clock T.thread nowMs) j' →
      T.SafeProg c j' (T.next s (.clock T.thread nowMs)) (k nowMs))
    (hguard : ∀ j', T.rely j j' → T.guard j' s .clock := by intros; trivial) :
    T.SafeProg c j s (.op .clock k) := by
  rintro ⟨j', s'⟩ ⟨hrely, hs⟩
  cases hs
  refine ⟨hguard j' hrely, ?_⟩
  rintro r ⟨j'', s''⟩ ⟨ev, hperf, hadm, hs⟩
  cases hs
  cases hperf
  exact hk j' r hrely hadm

/-! ## Steps and runs of the world -/

theorem ThreadSafe.mono {j' : LocalJournal} {t : Thread} (h : T.ThreadSafe j s t)
    (hrely : T.rely j j') : T.ThreadSafe j' s t := by
  cases t with
  | idle svc => exact T.stable _ _ _ _ h hrely
  | running c p => exact Prog.Safe.stable rely_trans h ⟨hrely, rfl⟩

/-- The service performs an operation of its method. -/
theorem ThreadSafe.op {e : Effect} {k : e.Reply → ServiceProg c.Reply} {r : e.Reply}
    {ev : WorldEvent} {j' : LocalJournal} (h : T.ThreadSafe j s (.running c (.op e k)))
    (hperf : Performs T.thread j e r ev j') (hadm : T.admits j s ev j') :
    T.ThreadSafe j' (T.next s ev) (.running c (k r)) := by
  have h : (Prog.op e k).Safe T.Rely T.Step T.Guard (T.Ends c) (j, s) := h
  exact (h.op (rely_refl _)).2 r (j', T.next s ev) ⟨ev, hperf, hadm, rfl⟩

theorem ThreadSafe.return {svc : DeliveryService} {out : c.Reply}
    (h : T.ThreadSafe j s (.running c (.done (svc, out)))) :
    T.idle j (T.next s (.return T.thread c out)) svc ∧ T.post j c out := by
  have h : (Prog.done (svc, out)).Safe T.Rely T.Step T.Guard (T.Ends c) (j, s) := h
  exact h.done (rely_refl _)

/-- What the service sends is guarded. -/
theorem ThreadSafe.send {w w' : World} {request : SendRequest}
    {r : Except SendError SendSuccess}
    (h : T.ThreadSafe w.journal s (w.threads T.thread))
    (hst : worldLts.step w (.send T.thread request r) w') :
    T.guard w.journal s (.send request) := by
  cases hst with
  | send _ hat =>
      rename_i c k
      rw [hat] at h
      have h : (Prog.op (.send request) k).Safe T.Rely T.Step T.Guard (T.Ends c)
        (w.journal, s) := h
      exact (h.op (rely_refl _)).1

/-- A step of another service leaves this one alone. -/
theorem thread_other {w w' : World} {ev : WorldEvent} (hst : worldLts.step w ev w')
    (hev : ev.thread? ≠ some T.thread) : w'.threads T.thread = w.threads T.thread := by
  have hne : ∀ {i}, some i ≠ some T.thread → T.thread ≠ i := by
    rintro i h rfl
    exact h rfl
  cases hst with
  | client => rfl
  | install => exact w.setThread_threads_of_ne _ (hne hev)
  | call => exact w.setThread_threads_of_ne _ (hne hev)
  | journal => exact World.setThread_threads_of_ne _ _ (hne hev)
  | send => exact w.setThread_threads_of_ne _ (hne hev)
  | clock => exact w.setThread_threads_of_ne _ (hne hev)
  | «return» => exact w.setThread_threads_of_ne _ (hne hev)

/-- A step the tracking counts on keeps the service safe. -/
theorem thread_step (hT : T.Sound) {w w' : World} {ev : WorldEvent}
    (hst : worldLts.step w ev w') (hadm : T.admits w.journal s ev w'.journal)
    (hsafe : T.ThreadSafe w.journal s (w.threads T.thread)) :
    T.ThreadSafe w'.journal (T.next s ev) (w'.threads T.thread) := by
  by_cases hev : ev.thread? = some T.thread
  · -- its own step: the thread it was at is the one the rule of the step names
    cases hst with
    | client => cases hev
    | install =>
        cases hev
        rw [World.setThread_self]
        exact hT.install _ _ _ hadm
    | call h =>
        cases hev
        rw [h] at hsafe
        rw [World.setThread_self]
        exact hT.call _ _ _ _ hadm hsafe
    | journal h hj =>
        cases hev
        rw [h] at hsafe
        rw [World.setThread_self]
        exact hsafe.op (.journal hj) hadm
    | send r h =>
        cases hev
        rw [h] at hsafe
        rw [World.setThread_self]
        exact hsafe.op (.send _ _) hadm
    | clock r h =>
        cases hev
        rw [h] at hsafe
        rw [World.setThread_self]
        exact hsafe.op (.clock _) hadm
    | «return» h =>
        cases hev
        rw [h] at hsafe
        rw [World.setThread_self]
        exact hsafe.return.1
  · obtain ⟨hnext, hrely⟩ := hT.others _ _ _ _ hev hst hadm
    rw [hnext, thread_other hst hev]
    exact hsafe.mono hrely

/-- A run of steps the tracking counts on keeps the service safe. -/
theorem thread_run (hT : T.Sound) {w w' : World} {tr : List WorldEvent}
    (hrun : worldLts.Run w tr w') (hsafe : T.ThreadSafe w.journal s (w.threads T.thread))
    (hadm : ∀ tr₁ ev tr₂ w₁ w₂, tr = tr₁ ++ ev :: tr₂ → worldLts.Run w tr₁ w₁ →
      worldLts.step w₁ ev w₂ → worldLts.Run w₂ tr₂ w' →
      T.admits w₁.journal (tr₁.foldl T.next s) ev w₂.journal) :
    T.ThreadSafe w'.journal (tr.foldl T.next s) (w'.threads T.thread) := by
  induction hrun with
  | nil => exact hsafe
  | snoc hrun hst ih =>
      rw [List.foldl_append]
      refine thread_step hT hst (hadm _ _ [] _ _ rfl hrun hst .nil) (ih ?_)
      intro tr₁ ev tr₂ w₁ w₂ htr hrun₁ hst₁ hrun₂
      refine hadm tr₁ ev (tr₂ ++ [_]) w₁ w₂ ?_ hrun₁ hst₁ (hrun₂.snoc hst)
      rw [htr, List.append_assoc]
      rfl

end Tracking

end CraftRelay
