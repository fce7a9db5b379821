import CraftRelay.Journal.Acceptance

/-!
# Attempt histories

`accept` audits what it answered in `write_attempt`, and `record_delivery_attempt` keeps
what it is given in `delivery_attempt`. Both delete all but the newest rows of the event
afterwards; the delivery row counts on.
-/

namespace CraftRelay

/-! ## What is recorded -/

/-- The row `accept` audits an answer with. -/
def AcceptRequest.audit (req : AcceptRequest) (nowMs : Int) : AcceptResult → Option WriteAttempt
  | .accepted _ => some ⟨req.eventId, "NEWLY_ACCEPTED", none, nowMs⟩
  | .existingDuplicate _ => some ⟨req.eventId, "EXISTING_DUPLICATE", none, nowMs⟩
  | .fingerprintConflict _ => some ⟨req.eventId, "FINGERPRINT_CONFLICT", none, nowMs⟩
  | .sequenceConflict detail => some ⟨req.eventId, "SEQUENCE_CONFLICT", some detail, nowMs⟩
  | _ => none

def JournalEvent.writeAttempt? (ev : JournalEvent) : Option WriteAttempt :=
  match ev with
  | ⟨env, .accept req, r⟩ => req.audit env.nowMs r
  | _ => none

def JournalEvent.deliveryAttempt? (ev : JournalEvent) : Option DeliveryAttemptRecord :=
  match ev with
  | ⟨_, .recordDeliveryAttempt attempt, .updated⟩ => some attempt
  | _ => none

/-- The attempts of a trace to accept an event, oldest first. -/
def writeAttempts (e : String) (tr : List JournalEvent) : List WriteAttempt :=
  (tr.filterMap JournalEvent.writeAttempt?).filter fun a => a.eventId = e

/-- The attempts of a trace to deliver an event, oldest first. -/
def deliveryAttempts (e : String) (tr : List JournalEvent) : List DeliveryAttemptRecord :=
  (tr.filterMap JournalEvent.deliveryAttempt?).filter fun a => a.eventId = e

theorem writeAttempts_snoc (e : String) (tr : List JournalEvent) (ev : JournalEvent) :
    writeAttempts e (tr ++ [ev]) =
      writeAttempts e tr ++ ev.writeAttempt?.toList.filter fun a => a.eventId = e := by
  rw [writeAttempts, Lts.filterMap_snoc, List.filter_append]
  rfl

theorem deliveryAttempts_snoc (e : String) (tr : List JournalEvent) (ev : JournalEvent) :
    deliveryAttempts e (tr ++ [ev]) =
      deliveryAttempts e tr ++ ev.deliveryAttempt?.toList.filter fun a => a.eventId = e := by
  rw [deliveryAttempts, Lts.filterMap_snoc, List.filter_append]
  rfl

/-! ## A history of each event -/

/-- The log after one more row, of whose event only the newest rows are kept. -/
def keepNewest {ρ : Type} (eventId : ρ → String) (keep : Nat) (log : AutoLog ρ) :
    Option ρ → AutoLog ρ
  | none => log
  | some a => (log.insert a).trim (fun b => eventId b = eventId a) keep

section

variable {ρ : Type} {eventId : ρ → String} {keep : Nat} {log : AutoLog ρ} {a? : Option ρ}
  {e : String}

/-- Other events keep their rows. -/
theorem filter_keepNewest_of_ne (h : ∀ a ∈ a?, eventId a ≠ e) :
    (keepNewest eventId keep log a?).rows.filter (fun b => eventId b.2 = e) =
      log.rows.filter fun b => eventId b.2 = e := by
  cases a? with
  | none => rfl
  | some a =>
      have hne : eventId a ≠ e := h a rfl
      have hother : ∀ b, decide (eventId b = e) = true →
          decide (eventId b = eventId a) = false := by
        intro b hb
        rw [decide_eq_true_eq] at hb
        rw [decide_eq_false_iff_not, hb]
        exact Ne.symm hne
      exact AutoLog.filter_record_of_disjoint hother (by simpa using hne)

/-- The newest rows of a history stay the newest rows. -/
theorem select_keepNewest {history : List ρ}
    (h : log.select (fun b => eventId b = e) = history.rtake keep) :
    (keepNewest eventId keep log a?).select (fun b => eventId b = e) =
      (history ++ a?.toList.filter fun b => eventId b = e).rtake keep := by
  cases a? with
  | none => simpa [keepNewest] using h
  | some a =>
      by_cases hid : eventId a = e
      · subst hid
        have hrecord := AutoLog.select_record h (r := a) (by simp)
        simpa [keepNewest] using hrecord
      · have hother : ∀ b ∈ some a, eventId b ≠ e := by simpa using hid
        have hsame := @filter_keepNewest_of_ne _ eventId keep log _ e hother
        unfold AutoLog.select at h ⊢
        rw [hsame, h]
        simp [hid]

end

/-! ## Accept -/

theorem recordAttempt_of_faultless {env : CallEnv} (henv : env.Faultless) (db : Db)
    (eventId outcome : String) (detail : Option String) :
    recordAttempt env db eventId outcome detail =
      { db with
        writeAttempt := keepNewest WriteAttempt.eventId maxAttempts db.writeAttempt
          (some ⟨eventId, outcome, detail, env.nowMs⟩) } := by
  unfold recordAttempt
  simp only [henv.run]
  rfl

theorem commitIgnored_of_faultless {env : CallEnv} (henv : env.Faultless) (db tx : Db) :
    commitIgnored env db tx = tx := by
  unfold commitIgnored
  rw [henv.run]

variable [Sha256]

/-- What `accept` answered is what it audited. -/
def Audited (env : CallEnv) (db : Db) (req : AcceptRequest) (db' : Db) (r : AcceptResult) : Prop :=
  db'.writeAttempt =
    keepNewest WriteAttempt.eventId maxAttempts db.writeAttempt (req.audit env.nowMs r)

theorem acceptDuplicate_audited {env : CallEnv} (henv : env.Faultless) (db : Db)
    (req : AcceptRequest) :
    Audited env db req (acceptDuplicate env db req).1 (acceptDuplicate env db req).2 := by
  unfold acceptDuplicate
  split
  · rfl
  · rfl
  · split
    · rfl
    · rw [commitIgnored_of_faultless henv, recordAttempt_of_faultless henv]
      rfl

theorem acceptNew_audited {env : CallEnv} (henv : env.Faultless) {db db' : Db}
    {req : AcceptRequest} {r : AcceptResult} (h : acceptNew env db req = some (db', r)) :
    Audited env db req db' r := by
  unfold acceptNew at h
  split at h
  · cases h
  split at h
  · cases h
    rfl
  rename_i tx ss hss
  obtain ⟨rfl, rfl⟩ := allocateStreamSequence_eq_ok hss
  split at h
  · cases h
    rfl
  rename_i tx htx
  obtain ⟨se, pb, ls, df, -, -, -, -, rfl⟩ := insertAcceptedRows_eq_ok htx
  simp only [recordAttempt_of_faultless henv, henv.run] at h
  cases h
  rfl

theorem acceptTransaction_audited {env : CallEnv} (henv : env.Faultless) {db db' : Db}
    {req : AcceptRequest} {r : AcceptResult} (h : acceptTransaction env db req = some (db', r)) :
    Audited env db req db' r := by
  unfold acceptTransaction at h
  simp only [henv.run] at h
  split at h
  · cases h
    rfl
  · have haudited := acceptDuplicate_audited henv db req
    rw [Option.some.inj h] at haudited
    exact haudited
  · cases h
    rw [commitIgnored_of_faultless henv, recordAttempt_of_faultless henv]
    rfl
  · split at h
    · cases h
      rfl
    · cases h
      rw [commitIgnored_of_faultless henv, recordAttempt_of_faultless henv]
      rfl
    · exact acceptNew_audited henv h

theorem LocalJournal.accept_audited {j j' : LocalJournal} {env : CallEnv}
    (henv : env.Faultless) {req : AcceptRequest} {r : AcceptResult}
    (h : j.accept env req = some (j', r)) : Audited env j.db req j'.db r := by
  unfold LocalJournal.accept at h
  split at h
  · cases h
    rfl
  split at h
  · cases h
    rfl
  split at h
  · cases h
    rfl
  split at h
  · cases h
    rfl
  obtain ⟨⟨db', r'⟩, htx, heq⟩ := Option.map_eq_some_iff.mp h
  cases heq
  exact acceptTransaction_audited henv htx

/-! ## The other calls -/

omit [Sha256] in
/-- A transaction that answers something else than `Updated` is dropped. -/
theorem settle_of_ne_updated {db db' : Db} {x : Except CasResult Db} {r : CasResult}
    (h : settle db x = (db', r)) (hr : r ≠ .updated) : db' = db := by
  cases x with
  | ok tx =>
      cases h
      exact absurd rfl hr
  | error r' =>
      cases h
      rfl

/-- A call that is dropped when it does not commit audits nothing. -/
theorem DbStep.keepsAudit {env : CallEnv} {db db' : Db} {c : JournalCall} {r : c.Reply}
    (h : DbStep env db c r db') (hc : ∀ req, c ≠ .accept req)
    (hdropped : ¬ c.Commits r → db' = db) : db'.writeAttempt = db.writeAttempt := by
  by_cases hcommits : c.Commits r
  · cases h with
    | quiet hquiet => exact absurd hcommits hquiet
    | accepted => exact absurd rfl (hc _)
    | _ => rfl
  · rw [hdropped hcommits]

theorem updateLifecycle_keepsAudit (env : CallEnv) (db : Db) (eventId : String) (rev : Int)
    (delivery : LocalDeliveryStatus) (retention : LocalRetentionStatus) :
    (updateLifecycle env db eventId rev delivery retention).1.writeAttempt = db.writeAttempt := by
  unfold updateLifecycle
  split
  · rfl
  · rfl
  · split
    · rfl
    · simp only
      split
      · rfl
      · rename_i hrun
        cases (CallEnv.run_eq_ok.mp hrun).2
        rfl

theorem createDeliveryPending_keepsAudit (env : CallEnv) (db : Db) (eventId : String)
    (fingerprint : Checksum) (profileId : String) (profileVersion : Int) (topic : String) :
    (createDeliveryPending env db eventId fingerprint profileId profileVersion
      topic).1.writeAttempt = db.writeAttempt := by
  unfold createDeliveryPending
  split
  · rfl
  · rfl
  · split <;> rfl

theorem updateDeliveryRetry_keepsAudit (env : CallEnv) (db : Db) (eventId : String)
    (rev next : Int) :
    (updateDeliveryRetry env db eventId rev next).1.writeAttempt = db.writeAttempt := by
  unfold updateDeliveryRetry
  split
  · rfl
  · split
    · rfl
    · split
      · rfl
      · simp only
        split
        · rfl
        · rename_i hrun
          cases (CallEnv.run_eq_ok.mp hrun).2
          rfl

/-- Where every statement succeeds, `write_attempt` gets what the call is to be audited with. -/
theorem journalStep_writeAttempt {j j' : LocalJournal} {ev : JournalEvent}
    (h : journalLts.step j ev j') (henv : ev.env.Faultless) :
    j'.db.writeAttempt =
      keepNewest WriteAttempt.eventId maxAttempts j.db.writeAttempt ev.writeAttempt? := by
  have hstep := journalStep_cases h
  obtain ⟨env, c, r⟩ := ev
  have h : j.exec env c = some (j', r) := h
  cases c with
  | accept req => exact LocalJournal.accept_audited henv h
  | updateLifecycle =>
      rw [LocalJournal.write_db h]
      exact updateLifecycle_keepsAudit ..
  | createDeliveryPending =>
      rw [LocalJournal.write_db h]
      exact createDeliveryPending_keepsAudit ..
  | updateDeliveryRetry =>
      rw [LocalJournal.write_db h]
      exact updateDeliveryRetry_keepsAudit ..
  | recordDeliveryAttempt =>
      exact hstep.keepsAudit nofun (settle_of_ne_updated (LocalJournal.write_eq_some h))
  | confirmReplicatedDelivery =>
      exact hstep.keepsAudit nofun (settle_of_ne_updated (LocalJournal.write_eq_some h))
  | blockDelivery =>
      exact hstep.keepsAudit nofun (settle_of_ne_updated (LocalJournal.write_eq_some h))
  | _ =>
      cases h
      rfl

/-! ## Delivery attempts -/

omit [Sha256] in
theorem JournalEvent.deliveryAttempt?_eq_none {env : CallEnv} {c : JournalCall} {r : c.Reply}
    (h : ¬ c.Commits r) : (⟨env, c, r⟩ : JournalEvent).deliveryAttempt? = none := by
  unfold deliveryAttempt?
  split
  · rename_i heq
    cases heq
    exact absurd rfl h
  · rfl

/-- `delivery_attempt` gets the attempts that are answered with `Updated`. -/
theorem journalStep_deliveryAttempt {j j' : LocalJournal} {ev : JournalEvent}
    (h : journalLts.step j ev j') :
    j'.db.deliveryAttempt = keepNewest DeliveryAttemptRecord.eventId maxDeliveryAttempts
      j.db.deliveryAttempt ev.deliveryAttempt? := by
  have hstep := journalStep_cases h
  obtain ⟨env, c, r⟩ := ev
  have h : j.exec env c = some (j', r) := h
  generalize hdb' : j'.db = db' at hstep ⊢
  cases hstep with
  | quiet hquiet =>
      rw [JournalEvent.deliveryAttempt?_eq_none hquiet]
      rfl
  | accepted hacc => exact hacc.deliveryAttempt
  | attempted hs ht =>
      rcases recordDeliveryAttempt_cases (LocalJournal.write_eq_some h) with
        ⟨hr, -⟩ | ⟨-, s, t, -, -, hdb⟩
      · exact absurd rfl hr
      · exact (congrArg Db.deliveryAttempt (hdb'.symm.trans hdb))
  | _ => rfl

/-! ## Counts -/

/-- The delivery row of the event counts `m` attempts; without a row there were none. -/
structure Db.Counts (db : Db) (e : String) (m : Nat) : Prop where
  created : db.deliveryState.find? e = none → m = 0
  counted : ∀ d, db.deliveryState.find? e = some d → d.attemptCount = m

omit [Sha256] in
theorem Db.Counts.congr {db db' : Db} {e : String} {m : Nat} (h : db.Counts e m)
    (hrow : db'.deliveryState = db.deliveryState) : db'.Counts e m := by
  constructor
  · rw [hrow]
    exact h.created
  · rw [hrow]
    exact h.counted

omit [Sha256] in
/-- A row is put for some event. -/
theorem Db.Counts.put {db db' : Db} {e e' : String} {m m' : Nat} {d : DeliveryState}
    {t : KeyedTable DeliveryState.eventId} (h : db.Counts e m) (ht : db.deliveryState.Puts e' d t)
    (hdb' : db'.deliveryState = t) (hself : e' = e → d.attemptCount = m')
    (hother : e' ≠ e → m' = m) : db'.Counts e m' := by
  by_cases he : e' = e
  · subst he
    refine ⟨fun hnone => ?_, fun d' hd' => ?_⟩
    · rw [hdb', ht.self] at hnone
      cases hnone
    · rw [hdb', ht.self] at hd'
      cases hd'
      exact hself rfl
  · rw [hother he]
    have hsame : db'.deliveryState.find? e = db.deliveryState.find? e := by
      rw [hdb', ht.other he]
    exact ⟨fun hnone => h.created (hsame ▸ hnone), fun d' hd' => h.counted d' (hsame ▸ hd')⟩

theorem Db.Counts.loaded {db : Db} {e : String} {m : Nat} {s : DeliveryStateRecord}
    (h : db.Counts e m) (hs : db.HasDelivery e s) : s.attemptCount = m :=
  h.counted s.toRow hs.row

/-- The row counts the attempts that are recorded, and no other call counts. -/
theorem DbStep.counts {env : CallEnv} {db db' : Db} {c : JournalCall} {r : c.Reply}
    (h : DbStep env db c r db') {e : String} {m : Nat} (hm : db.Counts e m) :
    db'.Counts e (m + ((⟨env, c, r⟩ : JournalEvent).deliveryAttempt?.toList.filter
      fun a => a.eventId = e).length) := by
  cases h with
  | quiet hquiet =>
      rw [JournalEvent.deliveryAttempt?_eq_none hquiet]
      exact hm.congr rfl
  | accepted hacc => exact hm.congr hacc.deliveryState
  | lifecycle => exact hm.congr rfl
  | created hv hnew ht =>
      refine hm.put ht rfl (fun he => ?_) fun _ => rfl
      subst he
      rw [hm.created hnew]
      rfl
  | attempted hs ht =>
      rename_i attempt s t log
      refine hm.put ht rfl (fun he => ?_) fun he => ?_
      · subst he
        have hcount := hm.loaded hs
        show s.attemptCount + 1 = _
        simp [JournalEvent.deliveryAttempt?, hcount]
      · simp [JournalEvent.deliveryAttempt?, he]
  | confirmed hs hst hstatus hrev hk ht ht' =>
      refine hm.put ht rfl (fun he => ?_) fun _ => rfl
      subst he
      have hcount := hm.loaded hs
      exact hcount
  | blocked hs hst hstatus hrev ht ht' =>
      refine hm.put ht rfl (fun he => ?_) fun _ => rfl
      subst he
      have hcount := hm.loaded hs
      exact hcount
  | retried hs hstatus hrev ht =>
      refine hm.put ht rfl (fun he => ?_) fun _ => rfl
      subst he
      have hcount := hm.loaded hs
      exact hcount

/-! ## Runs -/

/-- The histories of an event after a trace, and its count. -/
structure Db.Remembers (db : Db) (e : String) (tr : List JournalEvent) : Prop where
  writeAttempt : db.writeAttempt.select (fun a => a.eventId = e) =
    (writeAttempts e tr).rtake maxAttempts
  deliveryAttempt : db.deliveryAttempt.select (fun a => a.eventId = e) =
    (deliveryAttempts e tr).rtake maxDeliveryAttempts
  counts : db.Counts e (deliveryAttempts e tr).length

omit [Sha256] in
theorem Db.remembers_empty (e : String) : Db.empty.Remembers e [] :=
  ⟨(List.rtake_nil _).symm, (List.rtake_nil _).symm, fun _ => rfl, fun _ hd => by cases hd⟩

theorem Db.Remembers.step {j j' : LocalJournal} {e : String} {tr : List JournalEvent}
    {ev : JournalEvent} (h : j.db.Remembers e tr) (hst : journalLts.step j ev j')
    (henv : ev.env.Faultless) : j'.db.Remembers e (tr ++ [ev]) where
  writeAttempt := by
    rw [journalStep_writeAttempt hst henv, writeAttempts_snoc]
    exact select_keepNewest h.writeAttempt
  deliveryAttempt := by
    rw [journalStep_deliveryAttempt hst, deliveryAttempts_snoc]
    exact select_keepNewest h.deliveryAttempt
  counts := by
    rw [deliveryAttempts_snoc, List.length_append]
    exact (journalStep_cases hst).counts h.counts

/-- Where every statement succeeds, the newest attempts of every event are there. -/
theorem journalRun_remembers {config : JournalConfig} {tr : List JournalEvent} {j : LocalJournal}
    (hrun : journalLts.Run (LocalJournal.open config) tr j)
    (hok : ∀ ev ∈ tr, ev.env.Faultless) (e : String) : j.db.Remembers e tr := by
  induction hrun with
  | nil => exact Db.remembers_empty e
  | snoc _ hst ih =>
      have hpre := ih fun ev hev => hok ev (List.mem_append_left _ hev)
      exact hpre.step hst (hok _ (by simp))

end CraftRelay
