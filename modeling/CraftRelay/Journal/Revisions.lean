import CraftRelay.Journal.Acceptance

/-!
# Revisions count the updates

A delivery row's revision moves only when a confirm, block or retry that named
it answers `Updated`, and then by one; a lifecycle row's only when an
`update_lifecycle`, confirm or block does. So the revisions named by the
successful delivery transitions of an event are exactly `1, 2, …`, each once.
-/

namespace CraftRelay

/-- The revision a successful delivery transition of `e` named. -/
def JournalEvent.deliveryUpdate? (ev : JournalEvent) (e : String) : Option Int :=
  match ev with
  | ⟨_, .confirmReplicatedDelivery e' rev _, .updated⟩ => if e' = e then some rev else none
  | ⟨_, .blockDelivery e' rev _, .updated⟩ => if e' = e then some rev else none
  | ⟨_, .updateDeliveryRetry e' rev _, .updated⟩ => if e' = e then some rev else none
  | _ => none

/-- The revision a successful `update_lifecycle` of `e` named. -/
def JournalEvent.lifecycleUpdate? (ev : JournalEvent) (e : String) : Option Int :=
  match ev with
  | ⟨_, .updateLifecycle e' rev _ _, .updated⟩ => if e' = e then some rev else none
  | _ => none

/-- The call moved the lifecycle row of `e`. -/
def JournalEvent.lifecycleMoved (ev : JournalEvent) (e : String) : Bool :=
  match ev with
  | ⟨_, .updateLifecycle e' _ _ _, .updated⟩ => e' = e
  | ⟨_, .confirmReplicatedDelivery e' _ _, .updated⟩ => e' = e
  | ⟨_, .blockDelivery e' _ _, .updated⟩ => e' = e
  | _ => false

/-- The answer of one of the six compare-and-set methods. -/
def JournalEvent.casReply? (ev : JournalEvent) : Option CasResult :=
  match ev with
  | ⟨_, .updateLifecycle .., r⟩ => some r
  | ⟨_, .createDeliveryPending .., r⟩ => some r
  | ⟨_, .recordDeliveryAttempt _, r⟩ => some r
  | ⟨_, .confirmReplicatedDelivery .., r⟩ => some r
  | ⟨_, .blockDelivery .., r⟩ => some r
  | ⟨_, .updateDeliveryRetry .., r⟩ => some r
  | _ => none

/-- The revisions named by the successful delivery transitions of `e`. -/
def deliveryUpdates (tr : List JournalEvent) (e : String) : List Int :=
  tr.filterMap fun ev => ev.deliveryUpdate? e

/-- The revisions named by the successful `update_lifecycle` calls for `e`. -/
def lifecycleUpdates (tr : List JournalEvent) (e : String) : List Int :=
  tr.filterMap fun ev => ev.lifecycleUpdate? e

/-- How often the lifecycle row of `e` was moved. -/
def lifecycleMoves (tr : List JournalEvent) (e : String) : Nat :=
  tr.countP fun ev => ev.lifecycleMoved e

def Db.deliveryRevision? (db : Db) (e : String) : Option Int :=
  (db.deliveryState.find? e).map (·.deliveryRevision)

def Db.lifecycleRevision? (db : Db) (e : String) : Option Int :=
  (db.lifecycleState.find? e).map (·.revision)

variable [Sha256]

/-! ## One call -/

/-- What a call does to the delivery revision of `e`. -/
inductive DeliveryMove (ev : JournalEvent) (e : String) : Option Int → Option Int → Prop
  | kept {rev} (h : ev.deliveryUpdate? e = none) : DeliveryMove ev e rev rev
  | created (h : ev.deliveryUpdate? e = none) : DeliveryMove ev e none (some 1)
  | moved {rev} (h : ev.deliveryUpdate? e = some rev) :
      DeliveryMove ev e (some rev) (some (rev + 1))

omit [Sha256] in
/-- A row put under `e'` decides the move of `e'`; every other row is kept. -/
theorem DeliveryMove.of_puts {ev : JournalEvent} {db : Db} {e e' : String} {d : DeliveryState}
    {t : KeyedTable DeliveryState.eventId} (ht : db.deliveryState.Puts e' d t)
    (hself : DeliveryMove ev e' (db.deliveryRevision? e') (some d.deliveryRevision))
    (hother : e' ≠ e → ev.deliveryUpdate? e = none) :
    DeliveryMove ev e (db.deliveryRevision? e) ((t.find? e).map (·.deliveryRevision)) := by
  by_cases he : e' = e
  · subst he
    rw [ht.self]
    exact hself
  · rw [ht.other he]
    exact .kept (hother he)

/-- A revision that moves, for the row a transition loaded. -/
theorem Db.HasDelivery.deliveryRevision {db : Db} {e : String} {s : DeliveryStateRecord}
    (h : db.HasDelivery e s) : db.deliveryRevision? e = some s.deliveryRevision := by
  unfold Db.deliveryRevision?
  rw [h.row]
  rfl

theorem DbStep.deliveryMove {env : CallEnv} {db db' : Db} {c : JournalCall} {r : c.Reply}
    (h : DbStep env db c r db') (e : String) :
    DeliveryMove ⟨env, c, r⟩ e (db.deliveryRevision? e) (db'.deliveryRevision? e) := by
  cases h with
  | quiet hc =>
      -- a transition that is quiet did not answer `Updated`
      refine .kept ?_
      cases c with
      | confirmReplicatedDelivery e' rev k =>
          cases r with
          | updated => exact absurd rfl hc
          | _ => rfl
      | blockDelivery e' rev reason =>
          cases r with
          | updated => exact absurd rfl hc
          | _ => rfl
      | updateDeliveryRetry e' rev next =>
          cases r with
          | updated => exact absurd rfl hc
          | _ => rfl
      | _ => rfl
  | accepted hacc =>
      unfold Db.deliveryRevision?
      rw [hacc.deliveryState]
      exact .kept rfl
  | lifecycle => exact .kept rfl
  | created hv hnew ht =>
      refine DeliveryMove.of_puts ht ?_ fun _ => rfl
      unfold Db.deliveryRevision?
      rw [hnew]
      exact .created rfl
  | attempted hs ht =>
      refine DeliveryMove.of_puts ht ?_ fun _ => rfl
      rw [hs.deliveryRevision]
      exact .kept rfl
  | confirmed hs hst hstatus hrev hk ht ht' =>
      subst hrev
      refine DeliveryMove.of_puts ht ?_ fun he => if_neg he
      rw [hs.deliveryRevision]
      exact .moved (if_pos rfl)
  | blocked hs hst hstatus hrev ht ht' =>
      subst hrev
      refine DeliveryMove.of_puts ht ?_ fun he => if_neg he
      rw [hs.deliveryRevision]
      exact .moved (if_pos rfl)
  | retried hs hstatus hrev ht =>
      subst hrev
      refine DeliveryMove.of_puts ht ?_ fun he => if_neg he
      rw [hs.deliveryRevision]
      exact .moved (if_pos rfl)

/-- What a call does to the lifecycle revision of `e`. -/
inductive LifecycleMove (ev : JournalEvent) (e : String) : Option Int → Option Int → Prop
  | kept {rev} (h : ev.lifecycleMoved e = false) (h' : ev.lifecycleUpdate? e = none) :
      LifecycleMove ev e rev rev
  | created (h : ev.lifecycleMoved e = false) (h' : ev.lifecycleUpdate? e = none) :
      LifecycleMove ev e none (some 1)
  | moved {rev} (h : ev.lifecycleMoved e = true)
      (h' : ∀ rev', ev.lifecycleUpdate? e = some rev' → rev' = rev) :
      LifecycleMove ev e (some rev) (some (rev + 1))

omit [Sha256] in
theorem LifecycleMove.of_puts {ev : JournalEvent} {db : Db} {e e' : String} {l : LifecycleState}
    {t : KeyedTable LifecycleState.eventId} (ht : db.lifecycleState.Puts e' l t)
    (hself : LifecycleMove ev e' (db.lifecycleRevision? e') (some l.revision))
    (hother : e' ≠ e → ev.lifecycleMoved e = false ∧ ev.lifecycleUpdate? e = none) :
    LifecycleMove ev e (db.lifecycleRevision? e) ((t.find? e).map (·.revision)) := by
  by_cases he : e' = e
  · subst he
    rw [ht.self]
    exact hself
  · rw [ht.other he]
    exact .kept (hother he).1 (hother he).2

theorem Db.HasStatus.lifecycleRevision {db : Db} {e : String} {v : StoredEnvelope}
    {l : LifecycleState} (h : db.HasStatus e v l) : db.lifecycleRevision? e = some l.revision := by
  unfold Db.lifecycleRevision?
  rw [h.lifecycle]
  rfl

theorem DbStep.lifecycleMove {env : CallEnv} {db db' : Db} {c : JournalCall} {r : c.Reply}
    (h : DbStep env db c r db') (e : String) :
    LifecycleMove ⟨env, c, r⟩ e (db.lifecycleRevision? e) (db'.lifecycleRevision? e) := by
  cases h with
  | quiet hc =>
      cases c with
      | updateLifecycle e' rev delivery retention =>
          cases r with
          | updated => exact absurd rfl hc
          | _ => exact .kept rfl rfl
      | confirmReplicatedDelivery e' rev k =>
          cases r with
          | updated => exact absurd rfl hc
          | _ => exact .kept rfl rfl
      | blockDelivery e' rev reason =>
          cases r with
          | updated => exact absurd rfl hc
          | _ => exact .kept rfl rfl
      | _ => exact .kept rfl rfl
  | accepted hacc =>
      refine LifecycleMove.of_puts hacc.putsLifecycle ?_ fun _ => ⟨rfl, rfl⟩
      have hnew := KeyedTable.find?_eq_none_of_append hacc.lifecycleState
      unfold Db.lifecycleRevision?
      rw [hnew]
      exact .created rfl rfl
  | lifecycle hst hrev ht =>
      subst hrev
      refine LifecycleMove.of_puts ht ?_ fun he => ⟨decide_eq_false he, if_neg he⟩
      rw [hst.lifecycleRevision]
      refine .moved (decide_eq_true rfl) fun rev' hrev' => ?_
      exact Option.some.inj (hrev'.symm.trans (if_pos rfl))
  | created => exact .kept rfl rfl
  | attempted => exact .kept rfl rfl
  | confirmed hs hst hstatus hrev hk ht ht' =>
      refine LifecycleMove.of_puts ht' ?_ fun he => ⟨decide_eq_false he, rfl⟩
      rw [hst.lifecycleRevision]
      exact .moved (decide_eq_true rfl) fun rev' hrev' => by cases hrev'
  | blocked hs hst hstatus hrev ht ht' =>
      refine LifecycleMove.of_puts ht' ?_ fun he => ⟨decide_eq_false he, rfl⟩
      rw [hst.lifecycleRevision]
      exact .moved (decide_eq_true rfl) fun rev' hrev' => by cases hrev'
  | retried => exact .kept rfl rfl

/-! ## Whole runs -/

/-- The delivery revision is one more than the number of successful transitions,
which named `1, 2, …` in this order. -/
theorem journalRun_deliveryUpdates {config : JournalConfig} {tr : List JournalEvent}
    {j : LocalJournal} (hrun : journalLts.Run (LocalJournal.open config) tr j) (e : String) :
    ∃ n, deliveryUpdates tr e = countUp n ∧
      ((j.db.deliveryRevision? e = none ∧ n = 0) ∨
        j.db.deliveryRevision? e = some ((n : Int) + 1)) := by
  induction hrun with
  | nil => exact ⟨0, rfl, .inl ⟨rfl, rfl⟩⟩
  | snoc hrun hst ih =>
      rename_i tr t ev u
      obtain ⟨n, hn, hrev⟩ := ih
      have hmove := (journalStep_cases hst).deliveryMove e
      have htr : deliveryUpdates (tr ++ [ev]) e =
          deliveryUpdates tr e ++ (ev.deliveryUpdate? e).toList := Lts.filterMap_snoc _ _ _
      rw [htr, hn]
      -- only the two revisions matter from here on
      generalize t.db.deliveryRevision? e = old at hmove hrev
      generalize u.db.deliveryRevision? e = new at hmove
      cases hmove with
      | kept h =>
          have h : ev.deliveryUpdate? e = none := h
          rw [h]
          exact ⟨n, List.append_nil _, hrev⟩
      | created h =>
          have h : ev.deliveryUpdate? e = none := h
          rw [h]
          rcases hrev with ⟨-, rfl⟩ | hrev
          · exact ⟨0, rfl, .inr rfl⟩
          · cases hrev
      | moved h =>
          rename_i rev
          have h : ev.deliveryUpdate? e = some rev := h
          rw [h]
          rcases hrev with ⟨hnone, -⟩ | hrev
          · cases hnone
          · injection hrev with hrev
            subst hrev
            exact ⟨n + 1, (countUp_succ n).symm, .inr (by push_cast; rfl)⟩

/-- The lifecycle revision is one more than the number of moves; the revisions
`update_lifecycle` named increase and stay below it. -/
theorem journalRun_lifecycleUpdates {config : JournalConfig} {tr : List JournalEvent}
    {j : LocalJournal} (hrun : journalLts.Run (LocalJournal.open config) tr j) (e : String) :
    ((j.db.lifecycleRevision? e = none ∧ lifecycleMoves tr e = 0) ∨
        j.db.lifecycleRevision? e = some (1 + (lifecycleMoves tr e : Int))) ∧
      IncreasesTo (lifecycleUpdates tr e) (lifecycleMoves tr e) := by
  induction hrun with
  | nil => exact ⟨.inl ⟨rfl, rfl⟩, IncreasesTo.nil _⟩
  | snoc hrun hst ih =>
      rename_i tr t ev u
      obtain ⟨hrev, hinc⟩ := ih
      have hmove := (journalStep_cases hst).lifecycleMove e
      have htr : lifecycleUpdates (tr ++ [ev]) e =
          lifecycleUpdates tr e ++ (ev.lifecycleUpdate? e).toList := Lts.filterMap_snoc _ _ _
      have hcount : lifecycleMoves (tr ++ [ev]) e =
          lifecycleMoves tr e + if ev.lifecycleMoved e then 1 else 0 := by
        unfold lifecycleMoves
        rw [List.countP_append, List.countP_singleton]
      generalize t.db.lifecycleRevision? e = old at hmove hrev
      generalize u.db.lifecycleRevision? e = new at hmove
      rw [htr, hcount]
      cases hmove with
      | kept h h' =>
          have h : ev.lifecycleMoved e = false := h
          have h' : ev.lifecycleUpdate? e = none := h'
          rw [h, h']
          simpa using ⟨hrev, hinc⟩
      | created h h' =>
          have h : ev.lifecycleMoved e = false := h
          have h' : ev.lifecycleUpdate? e = none := h'
          rw [h, h']
          rcases hrev with ⟨-, hzero⟩ | hrev
          · rw [hzero] at hinc ⊢
            exact ⟨.inr rfl, by simpa using hinc⟩
          · cases hrev
      | moved h h' =>
          rename_i rev
          have h : ev.lifecycleMoved e = true := h
          have h' : ∀ rev', ev.lifecycleUpdate? e = some rev' → rev' = rev := h'
          rw [h, if_pos rfl]
          push_cast
          rcases hrev with ⟨hnone, -⟩ | hrev
          · cases hnone
          · -- a revision that is named is the current one, the next number
            injection hrev with hrev
            subst hrev
            refine ⟨.inr (by rw [Int.add_assoc]), hinc.next fun rev' hrev' => ?_⟩
            rw [h' rev' hrev', Int.add_comm]

/-- A compare-and-set that answered anything but `Updated` left the three tables
as they were. -/
theorem DbStep.cas_unchanged {env : CallEnv} {db db' : Db} {c : JournalCall} {r : c.Reply}
    (h : DbStep env db c r db') {answer : CasResult}
    (hcas : (⟨env, c, r⟩ : JournalEvent).casReply? = some answer) (hne : answer ≠ .updated) :
    db'.deliveryState = db.deliveryState ∧ db'.lifecycleState = db.lifecycleState ∧
      db'.deliveryAttempt = db.deliveryAttempt := by
  cases h with
  | quiet _ => exact ⟨rfl, rfl, rfl⟩
  | accepted _ => cases hcas
  | _ =>
      injection hcas with hcas
      exact absurd hcas.symm hne

end CraftRelay
