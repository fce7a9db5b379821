import CraftRelay.Lib.Lts
import CraftRelay.Delivery.Service

/-!
# Services and clients on one journal

Any number of delivery services share a journal with any number of other
clients. A step of the world is one atomic journal call of some party, one
answer of the producer, one reading of the clock, or the beginning or end of a
service's method, so a run is an interleaving at the granularity of single
journal calls. A service borrows itself mutably: one method runs at a time.

`Discipline` is the rely–guarantee rule for such a world. It asks for a condition
on idle services that other parties cannot break, and for each method a proof
that it is safe when started under it; then every reachable world is made of
safe threads.
-/

namespace CraftRelay

/-- A public method of a service. -/
inductive ServiceCall where
  | attemptDelivery (eventId : String)
  | recover
  | shutdown

abbrev ServiceCall.Reply : ServiceCall → Type
  | .attemptDelivery _ => DeliveryOutcome
  | .recover => Except String Unit
  | .shutdown => Unit

/-- A service, at rest or inside a method. -/
inductive Thread where
  | idle (svc : DeliveryService)
  | running (call : ServiceCall) (prog : ServiceProg call.Reply)

structure World where
  journal : LocalJournal
  threads : Nat → Thread

/-- The world with thread `i` replaced. -/
def World.setThread (w : World) (i : Nat) (t : Thread) : World :=
  { w with threads := fun k => if k = i then t else w.threads k }

@[simp] theorem World.setThread_self (w : World) (i : Nat) (t : Thread) :
    (w.setThread i t).threads i = t := if_pos rfl

@[simp] theorem World.setThread_setThread (w : World) (j : LocalJournal) (i : Nat)
    (t t' : Thread) :
    World.setThread { w.setThread i t with journal := j } i t' =
      World.setThread { w with journal := j } i t' := by
  unfold World.setThread
  congr 1
  funext k
  by_cases hk : k = i <;> simp [hk]

/-- A journal with new services only. -/
def World.start (journal : LocalJournal) (profile : Nat → KafkaProductionProfile) : World :=
  ⟨journal, fun i => .idle (.new (profile i))⟩

inductive WorldEvent where
  | client (ev : JournalEvent)
  | install (i : Nat) (profile : KafkaProductionProfile)
  | call (i : Nat) (call : ServiceCall)
  | journal (i : Nat) (ev : JournalEvent)
  | send (i : Nat) (request : SendRequest) (reply : Except SendError SendSuccess)
  | clock (i : Nat) (nowMs : Int)
  | return (i : Nat) (call : ServiceCall) (reply : call.Reply)

/-- The operation a service performs in a step, if it performs one. -/
def WorldEvent.effect? : WorldEvent → Option Effect
  | .journal _ ev => some (.journal ev.call)
  | .send _ request _ => some (.send request)
  | .clock _ _ => some .clock
  | _ => none

variable [Sha256]

/-- The program of a method. -/
def ServiceCall.program (svc : DeliveryService) : (c : ServiceCall) → ServiceProg c.Reply
  | .attemptDelivery eventId => svc.attemptDelivery eventId
  | .recover => svc.recover
  | .shutdown => .done ({ svc with shutdown := true }, ())

/-- One step of some party. A new instance may be installed at any time; what
its predecessor was doing is lost. -/
inductive World.Step (w : World) : WorldEvent → World → Prop
  | client {ev j'} (h : journalLts.step w.journal ev j') :
      Step w (.client ev) { w with journal := j' }
  | install {i profile} : Step w (.install i profile) (w.setThread i (.idle (.new profile)))
  | call {i svc c} (h : w.threads i = .idle svc) :
      Step w (.call i c) (w.setThread i (.running c (c.program svc)))
  | journal {i c call k env r j'} (h : w.threads i = .running c (.op (.journal call) k))
      (hj : w.journal.exec env call = some (j', r)) :
      Step w (.journal i ⟨env, call, r⟩)
        (World.setThread { w with journal := j' } i (.running c (k r)))
  | send {i c request k} (r : Except SendError SendSuccess)
      (h : w.threads i = .running c (.op (.send request) k)) :
      Step w (.send i request r) (w.setThread i (.running c (k r)))
  | clock {i c k} (r : Int) (h : w.threads i = .running c (.op .clock k)) :
      Step w (.clock i r) (w.setThread i (.running c (k r)))
  | return {i c svc out} (h : w.threads i = .running c (.done (svc, out))) :
      Step w (.return i c out) (w.setThread i (.idle svc))

def worldLts : Lts World WorldEvent where
  step := World.Step

/-- A run of the world is a run of its journal. -/
theorem worldRun_journal {w w' : World} {tr : List WorldEvent} (hrun : worldLts.Run w tr w') :
    ∃ tr', journalLts.Run w.journal tr' w'.journal := by
  induction hrun with
  | nil => exact ⟨[], .nil⟩
  | snoc _ hst ih =>
      obtain ⟨tr', hrun'⟩ := ih
      cases hst with
      | client h => exact ⟨_, hrun'.snoc h⟩
      | journal _ h =>
          rename_i call _ env r j' _
          have hst : journalLts.step _ ⟨env, call, r⟩ j' := h
          exact ⟨_, hrun'.snoc hst⟩
      | _ => exact ⟨tr', hrun'⟩

/-! ## The rely–guarantee rule -/

/-- What an operation of a service may do to the journal. -/
def EffectStep (j : LocalJournal) (e : Effect) (r : e.Reply) (j' : LocalJournal) : Prop :=
  match e with
  | .journal call => ∃ env, j.exec env call = some (j', r)
  | .send _ => j' = j
  | .clock => j' = j

/-- A way to reason about services on a shared journal: states are `Ok`, parties
move the journal along `rely`, an operation satisfies `guard` when it is issued
and may count on `expects` when it is performed, and services at rest satisfy
`idle`. -/
structure Discipline where
  Ok : LocalJournal → Prop
  rely : LocalJournal → LocalJournal → Prop
  guard : LocalJournal → Effect → Prop
  expects : LocalJournal → Effect → Prop
  idle : LocalJournal → DeliveryService → Prop
  post : LocalJournal → (c : ServiceCall) → c.Reply → Prop
  refl : ∀ j, Ok j → rely j j
  trans : ∀ a b c, rely a b → rely b c → rely a c
  ok : ∀ j j', rely j j' → Ok j'
  own : ∀ j env call r j', guard j (.journal call) → Ok j → Ok j' →
    j.exec env call = some (j', r) → rely j j'
  stable : ∀ j j' svc, idle j svc → rely j j' → idle j' svc

namespace Discipline

variable (D : Discipline)

/-- An operation that leads to a state the discipline speaks about. -/
def step (j : LocalJournal) (e : Effect) (r : e.Reply) (j' : LocalJournal) : Prop :=
  EffectStep j e r j' ∧ D.expects j e ∧ D.Ok j'

/-- A method under way that keeps the discipline. -/
def SafeProg (c : ServiceCall) (j : LocalJournal) (p : ServiceProg c.Reply) : Prop :=
  p.Safe D.rely D.step D.guard (fun j out => D.idle j out.1 ∧ D.post j c out.2) j

def ThreadSafe (j : LocalJournal) : Thread → Prop
  | .idle svc => D.idle j svc
  | .running c p => D.SafeProg c j p

/-- Every thread keeps the discipline. -/
def WorldSafe (w : World) : Prop := D.Ok w.journal ∧ ∀ i, D.ThreadSafe w.journal (w.threads i)

/-- What the calls of clients and the methods of services owe the discipline,
when the events of the run satisfy `ok`. -/
structure Admits (D : Discipline) (ok : WorldEvent → Prop) : Prop where
  client : ∀ j ev j', ok (.client ev) → D.Ok j → D.Ok j' → journalLts.step j ev j' → D.rely j j'
  install : ∀ i profile j, ok (.install i profile) → D.Ok j → D.idle j (.new profile)
  call : ∀ i c j svc, ok (.call i c) → D.Ok j → D.idle j svc → D.SafeProg c j (c.program svc)

/-- A step the discipline applies to. -/
structure Follows (D : Discipline) (ok : WorldEvent → Prop) (w : World) (ev : WorldEvent)
    (w' : World) : Prop where
  event : ok ev
  expects : ∀ e, ev.effect? = some e → D.expects w.journal e
  after : D.Ok w'.journal

variable {D} {c : ServiceCall} {j : LocalJournal}

/-! Rules for programs -/

theorem safeProg_done {svc : DeliveryService} {out : c.Reply} (hidle : D.idle j svc)
    (hpost : ∀ j', D.rely j j' → D.post j' c out) : D.SafeProg c j (.done (svc, out)) :=
  fun j' hrely => ⟨D.stable j j' svc hidle hrely, hpost j' hrely⟩

theorem safeProg_journal {call : JournalCall} {k : call.Reply → ServiceProg c.Reply}
    (hguard : ∀ j', D.rely j j' → D.guard j' (.journal call))
    (hk : ∀ j' env r j'', D.rely j j' → D.expects j' (.journal call) →
      j'.exec env call = some (j'', r) → D.rely j j'' → D.SafeProg c j'' (k r)) :
    D.SafeProg c j (.op (.journal call) k) := by
  intro j' hrely
  refine ⟨hguard j' hrely, ?_⟩
  rintro r j'' ⟨⟨env, hexec⟩, hexp, hok⟩
  have hown := D.own _ _ _ _ _ (hguard j' hrely) (D.ok _ _ hrely) hok hexec
  exact hk j' env r j'' hrely hexp hexec (D.trans _ _ _ hrely hown)

theorem safeProg_send {request : SendRequest}
    {k : Except SendError SendSuccess → ServiceProg c.Reply}
    (hguard : ∀ j', D.rely j j' → D.guard j' (.send request))
    (hk : ∀ j' r, D.rely j j' → D.SafeProg c j' (k r)) :
    D.SafeProg c j (.op (.send request) k) := by
  intro j' hrely
  refine ⟨hguard j' hrely, ?_⟩
  rintro r j'' ⟨rfl, -, -⟩
  exact hk j'' r hrely

theorem safeProg_clock {k : Int → ServiceProg c.Reply}
    (hguard : ∀ j', D.rely j j' → D.guard j' .clock)
    (hk : ∀ j' nowMs, D.rely j j' → D.SafeProg c j' (k nowMs)) :
    D.SafeProg c j (.op .clock k) := by
  intro j' hrely
  refine ⟨hguard j' hrely, ?_⟩
  rintro r j'' ⟨rfl, -, -⟩
  exact hk j'' r hrely

/-! Steps and runs of the world -/

theorem ThreadSafe.mono {j' : LocalJournal} {t : Thread}
    (h : D.ThreadSafe j t) (hrely : D.rely j j') : D.ThreadSafe j' t := by
  cases t with
  | idle svc => exact D.stable j j' svc h hrely
  | running c p => exact Prog.Safe.stable D.trans h hrely

theorem WorldSafe.running {w : World} {i : Nat} {p : ServiceProg c.Reply}
    (hsafe : D.WorldSafe w) (h : w.threads i = .running c p) : D.SafeProg c w.journal p := by
  have hthread := hsafe.2 i
  rw [h] at hthread
  exact hthread

variable {ok : WorldEvent → Prop}

/-- One thread replaced by a safe one on a journal the others can rely on. -/
theorem worldSafe_setThread {w : World} {j' : LocalJournal} {i : Nat} {t : Thread}
    (hsafe : D.WorldSafe w) (hrely : D.rely w.journal j') (ht : D.ThreadSafe j' t) :
    D.WorldSafe (World.setThread { w with journal := j' } i t) := by
  refine ⟨D.ok _ _ hrely, ?_⟩
  intro k
  show D.ThreadSafe j' (if k = i then t else w.threads k)
  split
  · exact ht
  · exact (hsafe.2 k).mono hrely

/-- A step the discipline applies to keeps every thread safe. -/
theorem worldSafe_step (hD : D.Admits ok) {w w' : World} {ev : WorldEvent}
    (hst : worldLts.step w ev w') (hfol : D.Follows ok w ev w') (hsafe : D.WorldSafe w) :
    D.WorldSafe w' := by
  have hself := D.refl _ hsafe.1
  have hok := hfol.after
  -- only clients and journal calls move the journal; the other steps are one thread's own
  cases hst with
  | client hj =>
      have hrely := hD.client _ _ _ hfol.event hsafe.1 hok hj
      exact ⟨hok, fun k => (hsafe.2 k).mono hrely⟩
  | install =>
      exact worldSafe_setThread hsafe hself (hD.install _ _ _ hfol.event hok)
  | call h =>
      rename_i i svc c
      have hidle := hsafe.2 i
      rw [h] at hidle
      exact worldSafe_setThread hsafe hself (hD.call _ _ _ _ hfol.event hok hidle)
  | journal h hj =>
      rename_i i c call k env r j'
      obtain ⟨hguard, hrest⟩ := Prog.Safe.op (hsafe.running h) hself
      have hnext := hrest r j' ⟨⟨env, hj⟩, hfol.expects _ rfl, hok⟩
      exact worldSafe_setThread hsafe (D.own _ _ _ _ _ hguard hsafe.1 hok hj) hnext
  | send r h =>
      exact worldSafe_setThread hsafe hself
        ((Prog.Safe.op (hsafe.running h) hself).2 r _ ⟨rfl, hfol.expects _ rfl, hok⟩)
  | clock r h =>
      exact worldSafe_setThread hsafe hself
        ((Prog.Safe.op (hsafe.running h) hself).2 r _ ⟨rfl, hfol.expects _ rfl, hok⟩)
  | «return» h =>
      exact worldSafe_setThread hsafe hself (hsafe.running h _ hself).1

/-- A run of steps the discipline applies to keeps every thread safe. -/
theorem worldSafe_run (hD : D.Admits ok) {w w' : World} {tr : List WorldEvent}
    (hrun : worldLts.Run w tr w') (hsafe : D.WorldSafe w)
    (hfol : ∀ tr₁ ev tr₂ w₁ w₂, tr = tr₁ ++ ev :: tr₂ → worldLts.Run w tr₁ w₁ →
      worldLts.step w₁ ev w₂ → worldLts.Run w₂ tr₂ w' → D.Follows ok w₁ ev w₂) :
    D.WorldSafe w' := by
  induction hrun with
  | nil => exact hsafe
  | snoc hrun hst ih =>
      have hlast := hfol _ _ [] _ _ rfl hrun hst .nil
      refine worldSafe_step hD hst hlast (ih ?_)
      intro tr₁ ev tr₂ w₁ w₂ htr hrun₁ hst₁ hrun₂
      refine hfol tr₁ ev (tr₂ ++ [_]) w₁ w₂ ?_ hrun₁ hst₁ (hrun₂.snoc hst)
      rw [htr, List.append_assoc]
      rfl

/-- A send is guarded when its world is safe. -/
theorem WorldSafe.send {w w' : World} {i : Nat} {request : SendRequest}
    {r : Except SendError SendSuccess} (hsafe : D.WorldSafe w)
    (hst : worldLts.step w (.send i request r) w') : D.guard w.journal (.send request) := by
  have hself := D.refl _ hsafe.1
  cases hst with
  | send _ h => exact (Prog.Safe.op (hsafe.running h) hself).1

/-- A return satisfies its postcondition when its world is safe. -/
theorem WorldSafe.return {w w' : World} {i : Nat} {c : ServiceCall} {out : c.Reply}
    (hsafe : D.WorldSafe w) (hst : worldLts.step w (.return i c out) w') :
    D.post w.journal c out := by
  have hself := D.refl _ hsafe.1
  cases hst with
  | «return» h => exact (Prog.Safe.done (hsafe.running h) hself).2

end Discipline

end CraftRelay
