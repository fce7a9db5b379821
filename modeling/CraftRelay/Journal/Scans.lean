import CraftRelay.Journal.Verified

/-!
# What a scan lists

A scan joins delivery rows with their envelopes, takes the first of them by some column and
verifies each one before it lists it. `Db.FirstBy` says which rows these are, whatever the
order of rows that tie, and `Db.Listing` what it means for one to be listed.
-/

namespace CraftRelay

/-- The journal sequence of a row's envelope, null where there is none. -/
def Db.journalSequenceOf (db : Db) (d : DeliveryState) : Option Int :=
  (db.storedEnvelope.find? d.eventId).map (·.journalSequence)

/-- The first `limit` of the selected rows in some ascending order of the column. -/
def Db.FirstBy (db : Db) (selected : DeliveryState → Bool) (column : DeliveryState → Option Int)
    (limit : Int) (ds : List DeliveryState) : Prop :=
  ∃ all : List DeliveryState, all.Perm (db.deliveryState.rows.filter selected) ∧
    all.Pairwise (fun a b => nullFirst (column a) (column b) = true) ∧ ds = all.take limit.toNat

theorem Db.FirstBy.mem {db : Db} {selected : DeliveryState → Bool}
    {column : DeliveryState → Option Int} {limit : Int} {ds : List DeliveryState}
    (h : db.FirstBy selected column limit ds) {d : DeliveryState} (hd : d ∈ ds) :
    d ∈ db.deliveryState.rows := by
  obtain ⟨all, hperm, -, rfl⟩ := h
  exact (List.mem_filter.mp (hperm.mem_iff.mp (List.mem_of_mem_take hd))).1

/-- Ordering and limiting the join takes the first rows of the table. -/
theorem Db.exists_firstBy (db : Db) {limit : Int} (hlimit : 0 ≤ limit)
    {selected : DeliveryState → Bool} {column : DeliveryState → Option Int}
    {joined : DeliveryScanRow → Bool} {joinedColumn : DeliveryScanRow → Option Int}
    (hselected : ∀ d, joined (db.joinScanRow d) = selected d)
    (hcolumn : ∀ d, joinedColumn (db.joinScanRow d) = column d) :
    ∃ ds, db.FirstBy selected column limit ds ∧
      limitRows limit (orderBy joinedColumn (db.scanRows.filter joined)) =
        ds.map db.joinScanRow := by
  have hfilter : db.scanRows.filter joined =
      (db.deliveryState.rows.filter selected).map db.joinScanRow := by
    rw [Db.scanRows, List.filter_map]
    congr 1
    exact List.filter_congr fun d _ => hselected d
  have horder : orderBy joinedColumn (db.scanRows.filter joined) =
      (orderBy column (db.deliveryState.rows.filter selected)).map db.joinScanRow := by
    rw [hfilter]
    refine (List.map_insertionSort _ _ _ _ fun a _ b _ => ?_).symm
    rw [hcolumn, hcolumn]
  refine ⟨_, ⟨_, List.perm_insertionSort .., orderBy_sorted .., rfl⟩, ?_⟩
  rw [horder]
  unfold limitRows
  rw [if_neg (Int.not_lt.mpr hlimit), List.map_take]
  rfl

/-- Each entry of the first list has one in the second. -/
theorem exists_of_mem_forall₂ {α β : Type} {R : α → β → Prop} {as : List α} {bs : List β}
    (h : List.Forall₂ R as bs) {a : α} (ha : a ∈ as) : ∃ b, R a b := by
  induction h with
  | nil => cases ha
  | cons hab _ ih =>
      cases ha with
      | head => exact ⟨_, hab⟩
      | tail _ ha => exact ih ha

variable [Sha256]

/-- The row loads as `s`, its envelope `v` carries the checksum that is recomputed from it,
and the listed delivery has their fields. -/
structure Db.Listing (db : Db) (d : DeliveryState) (p : PendingDelivery)
    (s : DeliveryStateRecord) (v : StoredEnvelope) : Prop where
  row : d = s.toRow
  loads : ∀ env : CallEnv, env.fault .selectDeliveryState = none →
    loadDeliveryState env db d.eventId = .found s
  envelope : db.storedEnvelope.find? d.eventId = some v
  recomputes : ∀ env : CallEnv, env.fault .selectEnvelopeRow = none →
    ∃ c, recomputeEnvelopeChecksumFromRow env db d.eventId = .ok c ∧ v.envelopeChecksum = c.val
  listed : p = ⟨d.eventId, v.journalSequence, v.streamKey, v.streamSequence, d.deliveryStatus,
    d.attemptCount, d.nextRetryAtMs⟩

section

variable {db : Db} {d : DeliveryState} {s : DeliveryStateRecord} {v : StoredEnvelope}

/-- A verified row is listed with its envelope. -/
theorem Db.listing_of_verified (hd : d ∈ db.deliveryState.rows) (hs : s.Verifies)
    (hrow : db.deliveryState.find? d.eventId = some s.toRow)
    (hv : db.storedEnvelope.find? d.eventId = some v) (hver : v.Verifies) :
    db.Listing d (db.joinScanRow d).toPending s v where
  row := Option.some.inj ((KeyedTable.find?_of_mem hd).symm.trans hrow)
  loads := fun env hfault => loadDeliveryState_found_iff.mpr ⟨hfault, hrow, hs⟩
  envelope := hv
  recomputes := by
    intro env hfault
    obtain ⟨-, pd, rf, -, -, hchecksum⟩ := id hver
    exact ⟨_, (recompute_matches_iff hv hchecksum).mpr ⟨hfault, hver⟩, hchecksum⟩
  listed := by simp [DeliveryScanRow.toPending, Db.joinScanRow, hv]

/-- What is listed is verified. -/
theorem Db.Listing.verified {p : PendingDelivery} (h : db.Listing d p s v) :
    s.Verifies ∧ db.deliveryState.find? d.eventId = some s.toRow ∧ v.Verifies ∧
      p = (db.joinScanRow d).toPending := by
  obtain ⟨-, hrow, hs⟩ :=
    loadDeliveryState_found_iff.mp (h.loads ⟨0, true, fun _ => none⟩ rfl)
  obtain ⟨c, hrecompute, hc⟩ := h.recomputes ⟨0, true, fun _ => none⟩ rfl
  refine ⟨hs, hrow, ((recompute_matches_iff h.envelope hc).mp hrecompute).2, ?_⟩
  rw [h.listed]
  simp [DeliveryScanRow.toPending, Db.joinScanRow, h.envelope]

end

section

variable {env : CallEnv} {db : Db} {ds : List DeliveryState} {out : List PendingDelivery}

/-- A scan that ends with a list has listed each of its rows. -/
theorem scanDeliveries_lists (hds : ∀ d ∈ ds, d ∈ db.deliveryState.rows)
    (h : scanDeliveries env db (ds.map db.joinScanRow) = .ok out) :
    List.Forall₂ (fun d p => ∃ s v, db.Listing d p s v) ds out := by
  have hsub : ∀ r ∈ ds.map db.joinScanRow, r ∈ db.scanRows := by
    intro r hr
    obtain ⟨d, hd, rfl⟩ := List.mem_map.mp hr
    exact List.mem_map_of_mem (hds d hd)
  obtain ⟨rfl, hver⟩ := scanDeliveries_ok hsub h
  rw [List.map_map, List.forall₂_map_right_iff, List.forall₂_same]
  intro d hd
  obtain ⟨⟨s, hs, hrow⟩, v, hv, hvver⟩ := hver _ (List.mem_map_of_mem hd)
  exact ⟨s, v, Db.listing_of_verified (hds d hd) hs hrow hv hvver⟩

/-- A scan that no statement stops lists rows that can be listed. -/
theorem scanDeliveries_of_lists (henv : env.Faultless)
    (h : List.Forall₂ (fun d p => ∃ s v, db.Listing d p s v) ds out) :
    scanDeliveries env db (ds.map db.joinScanRow) = .ok out := by
  have hrows : ∀ d ∈ ds, ∃ s v, db.Listing d (db.joinScanRow d).toPending s v := by
    intro d hd
    obtain ⟨p, s, v, hlisting⟩ := exists_of_mem_forall₂ h hd
    exact ⟨s, v, hlisting.verified.2.2.2 ▸ hlisting⟩
  have hout : out = (ds.map db.joinScanRow).map DeliveryScanRow.toPending := by
    clear hrows
    induction h with
    | nil => rfl
    | cons hd _ ih =>
        obtain ⟨s, v, hlisting⟩ := hd
        rw [List.map_cons, List.map_cons, ← ih, ← hlisting.verified.2.2.2]
  rw [hout]
  refine scanDeliveries_of_rows henv fun r hr => ?_
  obtain ⟨d, hd, rfl⟩ := List.mem_map.mp hr
  obtain ⟨s, v, hlisting⟩ := hrows d hd
  obtain ⟨hs, hrow, hvver, -⟩ := hlisting.verified
  obtain rfl := hlisting.row
  exact ⟨s, rfl, hs, hrow, v, hlisting.envelope, hvver⟩

end

/-! ## Answers -/

/-- An answer about exactly these rows: a list has all of them, verified and in their order,
and where one of them does not verify there is no list. -/
structure Db.Answers (env : CallEnv) (db : Db) (ds : List DeliveryState)
    (answer : DeliveryScanResult) : Prop where
  exact : ∀ out, answer = .ok out → List.Forall₂ (fun d p => ∃ s v, db.Listing d p s v) ds out
  closed : (∃ d ∈ ds, ¬ ∃ p s v, db.Listing d p s v) →
    (∃ eventId detail, answer = .corrupted eventId detail) ∨ ∃ message, answer = .error message
  complete : env.Faultless → ∀ out,
    List.Forall₂ (fun d p => ∃ s v, db.Listing d p s v) ds out → answer = .ok out

theorem scanDeliveries_answers {env : CallEnv} {db : Db} {ds : List DeliveryState}
    (hds : ∀ d ∈ ds, d ∈ db.deliveryState.rows) :
    db.Answers env ds (scanDeliveries env db (ds.map db.joinScanRow)) where
  exact := fun out h => scanDeliveries_lists hds h
  closed := by
    intro ⟨d, hd, hnot⟩
    cases hscan : scanDeliveries env db (ds.map db.joinScanRow) with
    | ok out =>
        obtain ⟨p, hlisting⟩ := exists_of_mem_forall₂ (scanDeliveries_lists hds hscan) hd
        exact absurd ⟨p, hlisting⟩ hnot
    | corrupted eventId detail => exact .inl ⟨eventId, detail, rfl⟩
    | error message => exact .inr ⟨message, rfl⟩
  complete := fun henv out h => scanDeliveries_of_lists henv h

/-- A scan answers about the first rows of its selection. -/
theorem Db.scan_answers (env : CallEnv) (db : Db) {limit : Int} (hlimit : 0 ≤ limit)
    {selected : DeliveryState → Bool} {column : DeliveryState → Option Int}
    {joined : DeliveryScanRow → Bool} {joinedColumn : DeliveryScanRow → Option Int}
    (hselected : ∀ d, joined (db.joinScanRow d) = selected d)
    (hcolumn : ∀ d, joinedColumn (db.joinScanRow d) = column d) :
    ∃ ds, db.FirstBy selected column limit ds ∧
      db.Answers env ds (scanDeliveries env db
        (limitRows limit (orderBy joinedColumn (db.scanRows.filter joined)))) := by
  obtain ⟨ds, hfirst, hrows⟩ := db.exists_firstBy hlimit hselected hcolumn
  rw [hrows]
  exact ⟨ds, hfirst, scanDeliveries_answers fun d hd => hfirst.mem hd⟩

/-! ## Errors -/

inductive DeliveryScan where
  | pending | retrying (nowMs : Int) | gateStates

/-- The joined rows a scan verifies. -/
def DeliveryScan.rows (db : Db) (limit : Int) : DeliveryScan → List DeliveryScanRow
  | .pending => limitRows limit <| orderBy (·.journalSequence) <|
      db.scanRows.filter fun d => d.deliveryStatus = "DELIVERY_PENDING"
  | .retrying nowMs => limitRows limit <| orderBy (·.nextRetryAtMs) <|
      db.scanRows.filter fun d =>
        d.deliveryStatus = "DELIVERY_RETRYING" && d.nextRetryAtMs.any (· ≤ nowMs)
  | .gateStates => limitRows limit <| orderBy (·.journalSequence) db.scanRows

def DeliveryScan.run (env : CallEnv) (db : Db) (limit : Int) : DeliveryScan → DeliveryScanResult
  | .pending => scanPendingDeliveries env db limit
  | .retrying nowMs => scanRetryingDeliveries env db nowMs limit
  | .gateStates => scanDeliveryGateStates env db limit

end CraftRelay
