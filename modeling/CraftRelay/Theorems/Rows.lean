import CraftRelay.Journal.Confirmation
import CraftRelay.Delivery.RowText

/-!
# Delivery rows as their readers see them

The shape of a row is the reader's business alone: the writers take any arguments,
and the checksum is over a text in which an absent column looks like an empty one.
Each result names the arguments, or the pairs of rows, for which reader and writer
agree all the same.
-/

namespace CraftRelay

/-! ## A write is readable -/

/-- The call writes the delivery row of `e` with arguments of its caller. -/
def JournalCall.WritesRow (e : String) : JournalCall → Prop
  | .createDeliveryPending eventId .. => eventId = e
  | .blockDelivery eventId .. => eventId = e
  | .confirmReplicatedDelivery eventId .. => eventId = e
  | _ => False

/-- A row that was put is found when it verifies. -/
theorem KeyedTable.Puts.readable_iff [Sha256] {t t' : KeyedTable DeliveryState.eventId}
    {e : String} {s : DeliveryStateRecord} (ht : t.Puts e s.toRow t') {db : Db}
    (hdb : db.deliveryState = t') {env : CallEnv} (henv : env.fault .selectDeliveryState = none) :
    (∃ s', loadDeliveryState env db e = .found s') ↔ s.Verifies := by
  constructor
  · rintro ⟨s', hload⟩
    obtain ⟨-, hrow, hver⟩ := loadDeliveryState_found_iff.mp hload
    rw [hdb, ht.self] at hrow
    rw [DeliveryStateRecord.toRow_injective (Option.some.inj hrow)]
    exact hver
  · intro hver
    exact ⟨s, loadDeliveryState_found_iff.mpr ⟨henv, by rw [hdb]; exact ht.self, hver⟩⟩

theorem pending_verifies_iff [Sha256] {now : Int} {eventId : String} {fingerprint : Checksum}
    {profileId : String} {profileVersion : Int} {topic : String} :
    (pendingRecord now eventId fingerprint profileId profileVersion topic).sealed.Verifies ↔
      topic ≠ "" ∧ profileId ≠ "" ∧ 0 < profileVersion := by
  constructor
  · intro hver
    obtain ⟨⟨⟨_, ht, htopic⟩, -, ⟨_, hp, hprofile⟩, ⟨_, hv, hversion⟩⟩, -⟩ := hver.shape.2.1 rfl
    cases ht
    cases hp
    cases hv
    exact ⟨htopic, hprofile, hversion⟩
  · rintro ⟨htopic, hprofile, hversion⟩
    exact (pending_healthy htopic hprofile hversion).verifies

theorem replicated_verifies_iff [Sha256] {s : DeliveryStateRecord} (h : s.Healthy)
    {k : ReplicatedDeliveryConfirmation} (hk : k.Matches s) {rev now : Int} :
    (s.replicated k rev now).sealed.Verifies ↔ 0 ≤ k.kafkaPartition ∧ 0 ≤ k.kafkaOffset := by
  constructor
  · intro hver
    obtain ⟨-, ⟨_, hp, hpartition⟩, ⟨_, ho, hoffset⟩, -⟩ := hver.shape.1 rfl
    cases hp
    cases ho
    exact ⟨hpartition, hoffset⟩
  · rintro ⟨hpartition, hoffset⟩
    exact (replicated_healthy h hk hpartition hoffset _ _).verifies

theorem blocked_verifies_iff [Sha256] {s : DeliveryStateRecord} (h : s.Healthy)
    (hne : s.deliveryStatus ≠ "REPLICATED") {reason : String} {rev now : Int} :
    (s.blocked reason rev now).sealed.Verifies ↔ reason ≠ "" := by
  constructor
  · intro hver
    obtain ⟨⟨_, hr, hreason⟩, -⟩ := hver.shape.2.2.2 rfl
    cases hr
    exact hreason
  · intro hreason
    exact (blocked_healthy h hne hreason _ _).verifies

/-- The arguments the writers do not look at are the ones the reader looks at. -/
theorem DbStep.readable_iff [Sha256] {env : CallEnv} {db db' : Db} {c : JournalCall} {r : c.Reply}
    (h : DbStep env db c r db') (hl : db.LoadsRouted) {e : String} (hc : c.WritesRow e)
    (hr : c.Commits r) {env' : CallEnv} (henv : env'.fault .selectDeliveryState = none) :
    (∃ s, loadDeliveryState env' db' e = .found s) ↔ c.WellFormed db := by
  cases h with
  | quiet hquiet => exact absurd hr hquiet
  | accepted | lifecycle | attempted | retried => exact hc.elim
  | created hv hnew ht =>
      obtain rfl : _ = e := hc
      rw [KeyedTable.Puts.readable_iff (s := (pendingRecord _ _ _ _ _ _).sealed) ht rfl henv]
      exact pending_verifies_iff
  | confirmed hs hst hstatus hrev hk ht ht' =>
      obtain rfl : _ = e := hc
      rw [KeyedTable.Puts.readable_iff ht rfl henv]
      exact replicated_verifies_iff (hl.healthy hs) hk
  | blocked hs hst hstatus hrev ht ht' =>
      obtain rfl : _ = e := hc
      rw [KeyedTable.Puts.readable_iff ht rfl henv]
      exact blocked_verifies_iff (hl.healthy hs) hstatus

/-- In every reachable journal: the row of a creation, a block or a confirmation that
answered `Updated` is found right afterwards exactly when its arguments are well formed. -/
theorem updated_row_found_iff [Sha256] {j j' : LocalJournal} (hreach : Reachable j)
    {env : CallEnv} {c : JournalCall} {r : c.Reply} (hst : journalLts.step j ⟨env, c, r⟩ j')
    {e : String} (hc : c.WritesRow e) (hr : c.Commits r) {env' : CallEnv}
    (henv : env'.fault .selectDeliveryState = none) :
    (∃ s, j'.exec env' (.getDeliveryState e) = some (j', .found s)) ↔ c.WellFormed j.db := by
  rw [← (journalStep_cases hst).readable_iff hreach.loadsRouted hc hr henv]
  simp [LocalJournal.exec]

/-- The sample event's row, found right after it was created. -/
theorem updated_row_found_iff_pending :
    ∃ j j', @Reachable fipsSha256 j ∧
      (@journalLts fipsSha256).step j
        ⟨.calm 20, .createDeliveryPending "e1" sampleFingerprint "p0" 1 "topic", .updated⟩ j' ∧
      ∃ s, @LocalJournal.exec fipsSha256 j' (.calm 30) (.getDeliveryState "e1") =
        some (j', .found s) := by
  obtain ⟨db, a, v, l, hrun, -, -⟩ := @sampleRun_pending fipsSha256
  have hsnoc : (@journalLts fipsSha256).Run _ ([_] ++ [_]) _ := @carefulRun_run fipsSha256 _ _ _ hrun
  obtain ⟨j, hrun', hst⟩ := hsnoc.last
  refine ⟨j, _, ⟨_, _, hrun'⟩, hst, ?_⟩
  exact (@updated_row_found_iff fipsSha256 _ _ ⟨_, _, hrun'⟩ _ _ _ hst "e1" rfl rfl _ rfl).mpr
    ⟨by decide, by decide, by decide⟩

/-- A creation with the empty topic answers `Updated`, and the row it leaves is not
found. -/
theorem updated_row_corrupted :
    ¬ ∃ h : Sha256, ∀ j env c r j' e env', @Reachable h j →
      (@journalLts h).step j ⟨env, c, r⟩ j' → c.WritesRow e → c.Commits r →
      env'.fault .selectDeliveryState = none →
      ∃ s, @LocalJournal.exec h j' env' (.getDeliveryState e) = some (j', .found s) := by
  rintro ⟨h, hall⟩
  have hnil : journalLts.Run (LocalJournal.open {}) [] ⟨{}, .empty, false⟩ := .nil
  obtain ⟨db, a, hrun, hacc, -⟩ := @sampleAccept h _ _ "e1" 1 hnil (by decide) rfl
    (fun _ _ h => by cases h) "ns" 10
  have hnone : db.deliveryState.find? "e1" = none := by
    rw [hacc.deliveryState]
    rfl
  obtain ⟨t, hcreate, -⟩ := createDeliveryPending_of_new (CallEnv.calm_faultless 20)
    hacc.putsEnvelope.self hnone sampleFingerprint "p0" 1 ""
  have hst : journalLts.step ⟨{}, db, false⟩
      ⟨.calm 20, .createDeliveryPending "e1" sampleFingerprint "p0" 1 "", .updated⟩
      ⟨{}, { db with deliveryState := t }, false⟩ :=
    congrArg (LocalJournal.write ⟨{}, db, false⟩) hcreate
  have hreach : Reachable ⟨{}, db, false⟩ := ⟨_, _, hrun⟩
  have hfound := hall _ _ _ _ _ "e1" (.calm 30) hreach hst rfl rfl rfl
  have hload : (∃ s, loadDeliveryState (.calm 30) { db with deliveryState := t } "e1" =
      .found s) ↔ _ := (journalStep_cases hst).readable_iff hreach.loadsRouted rfl rfl rfl
  obtain ⟨s, hs⟩ := hfound
  obtain ⟨htopic, -⟩ := hload.mp ⟨s, by simpa [LocalJournal.exec] using hs⟩
  exact htopic rfl

/-! ## The text of a row's checksum -/

/-- Equal checksum texts come from equal rows, exactly when the columns are not the same
pieces with the zero characters distributed in another way, and the rows do not differ by
texts that one has empty and the other not at all. -/
theorem delivery_text_determines_iff {a b : DeliveryStateRecord} :
    (utf8 a.canonicalText = utf8 b.canonicalText → a.SameState b) ↔
      ¬ Joined.TextRecut '\x00' a.canonicalFields b.canonicalFields ∧ ¬ a.EmptyForAbsent b :=
  DeliveryStateRecord.canonicalText_determines_iff

/-- Without zero characters in their texts rows cannot be recut, so only the texts that are
empty in one and absent in the other stay apart. -/
theorem plain_text_determines_iff {a b : DeliveryStateRecord} (ha : a.Plain) (hb : b.Plain) :
    (utf8 a.canonicalText = utf8 b.canonicalText → a.SameState b) ↔ ¬ a.EmptyForAbsent b := by
  have hrecut : ¬ Joined.TextRecut '\x00' a.canonicalFields b.canonicalFields :=
    Joined.not_textRecut_of_notMem ha.canonicalFields hb.canonicalFields
  rw [DeliveryStateRecord.canonicalText_determines_iff, and_iff_right hrecut]

/-- A pending row after an attempt whose error had this text. -/
def attemptedSample (lastError : Option String) : DeliveryStateRecord where
  eventId := "e1"
  deliveryStatus := "DELIVERY_PENDING"
  attemptCount := 1
  nextRetryAtMs := none
  lastError := lastError
  blockedReason := none
  kafkaTopic := some "topic"
  kafkaPartition := none
  kafkaOffset := none
  routingFingerprint := some sampleFingerprint
  profileId := some "p0"
  profileVersion := some 1
  deliveryRevision := 1
  deliveryChecksum := sampleFingerprint
  confirmedAtMs := none
  createdAtMs := 10
  updatedAtMs := 20

/-- Both rows are valid; one has no error and one the empty error, and their checksums
hash the same bytes. -/
theorem delivery_text_collides :
    ¬ ∀ a b, validateDeliveryStateInvariants a = .ok () →
      validateDeliveryStateInvariants b = .ok () →
      utf8 a.canonicalText = utf8 b.canonicalText → a.SameState b := by
  intro hall
  have hsame := hall (attemptedSample none) (attemptedSample (some "")) rfl rfl rfl
  exact absurd hsame (by decide)

end CraftRelay
