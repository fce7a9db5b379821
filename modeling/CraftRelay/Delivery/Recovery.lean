import CraftRelay.Delivery.Order

/-!
# Recovery of the gate

`recover` rebuilds the gate from delivery rows alone, the largest replicated
sequence and the smallest other one per raw key. Accepted events without a
delivery row leave no trace in it, so the gate it builds is at a frontier only
where such events do not come before the first open row of their stream. An event
without a row that comes after all the rows a limited scan looked at does no
harm: it keeps the gate from getting past it.
-/

namespace CraftRelay

/-! ## The fold over scanned rows -/

/-- What a gate entry knows about the rows it was built from. -/
structure StreamGateState.Summarises (entry : StreamGateState)
    (rows : List RecoveredStreamState) : Prop where
  inFlight : entry.inFlight = none
  blocking : ∀ b, entry.blocking = some b →
    (∃ p ∈ rows, p.replicated = false ∧ p.streamSequence = b) ∧
      ∀ p ∈ rows, p.replicated = false → b ≤ p.streamSequence
  free : entry.blocking = none → ∀ p ∈ rows, p.replicated = true
  highest : entry.highestCompleted = 0 ∨
    ∃ p ∈ rows, p.replicated = true ∧ p.streamSequence = entry.highestCompleted

/-- A scanned row is replicated or blocks, and is never in flight. -/
def RecoveredStreamState.Scanned (p : RecoveredStreamState) : Prop :=
  p.blocking = !p.replicated ∧ p.inFlight = false

section Summary

variable {entry : StreamGateState} {rows : List RecoveredStreamState} {p : RecoveredStreamState}

/-- A row in the list is in the list that continues it. -/
theorem StreamGateState.Summarises.highest_append (h : entry.Summarises rows) :
    entry.highestCompleted = 0 ∨ ∃ q ∈ rows ++ [p], q.replicated = true ∧
      q.streamSequence = entry.highestCompleted := by
  rcases h.highest with h0 | ⟨q, hq, hqr⟩
  · exact .inl h0
  · exact .inr ⟨q, List.mem_append_left _ hq, hqr⟩

/-- A replicated row may raise the highest sequence and blocks nothing. -/
theorem StreamGateState.Summarises.recover_replicated (h : entry.Summarises rows)
    (hp : p.Scanned) (hrep : p.replicated = true) :
    (entry.recover p).Summarises (rows ++ [p]) := by
  obtain ⟨hblock, hfl⟩ := hp
  have hbl : (entry.recover p).blocking = entry.blocking := by
    simp [StreamGateState.recover, hblock, hrep]
  refine ⟨?_, ?_, ?_, ?_⟩
  · simp [StreamGateState.recover, hfl, h.inFlight]
  · intro b hb
    obtain ⟨⟨q, hq, hqr⟩, hmin⟩ := h.blocking b (hbl ▸ hb)
    refine ⟨⟨q, List.mem_append_left _ hq, hqr⟩, ?_⟩
    intro q hq hqr
    rcases List.mem_append.mp hq with hq | hq
    · exact hmin q hq hqr
    · rw [List.mem_singleton.mp hq, hrep] at hqr
      cases hqr
  · intro hb q hq
    rcases List.mem_append.mp hq with hq | hq
    · exact h.free (hbl ▸ hb) q hq
    · rw [List.mem_singleton.mp hq]
      exact hrep
  · -- the highest sequence is the new row's or stays
    by_cases hlt : entry.highestCompleted < p.streamSequence
    · exact .inr ⟨p, by simp, hrep, by simp [StreamGateState.recover, hrep, hlt]⟩
    · have hh : (entry.recover p).highestCompleted = entry.highestCompleted := by
        simp [StreamGateState.recover, hlt]
      rw [hh]
      exact h.highest_append

/-- A row that is not replicated blocks, unless an earlier sequence does. -/
theorem StreamGateState.Summarises.recover_open (h : entry.Summarises rows)
    (hp : p.Scanned) (hrep : p.replicated = false) :
    (entry.recover p).Summarises (rows ++ [p]) := by
  obtain ⟨hblock, hfl⟩ := hp
  have hh : (entry.recover p).highestCompleted = entry.highestCompleted := by
    simp [StreamGateState.recover, hrep]
  refine ⟨?_, ?_, ?_, ?_⟩
  · simp [StreamGateState.recover, hfl, h.inFlight]
  · intro b hb
    cases hent : entry.blocking with
    | none =>
        have hb : p.streamSequence = b := by
          simpa [StreamGateState.recover, hblock, hrep, hent] using hb
        refine ⟨⟨p, by simp, hrep, hb⟩, ?_⟩
        intro q hq hqr
        rcases List.mem_append.mp hq with hq | hq
        · rw [h.free hent q hq] at hqr
          cases hqr
        · rw [List.mem_singleton.mp hq]
          omega
    | some existing =>
        have hb : min existing p.streamSequence = b := by
          simpa [StreamGateState.recover, hblock, hrep, hent] using hb
        -- the minimum is attained by the old row or by the new one
        obtain ⟨⟨q, hq, hqr, hqs⟩, hmin⟩ := h.blocking existing hent
        refine ⟨?_, ?_⟩
        · rcases Int.le_total existing p.streamSequence with hle | hle
          · exact ⟨q, List.mem_append_left _ hq, hqr, by omega⟩
          · exact ⟨p, by simp, hrep, by omega⟩
        · intro q hq hqr
          rcases List.mem_append.mp hq with hq | hq
          · have := hmin q hq hqr
            omega
          · rw [List.mem_singleton.mp hq]
            omega
  · intro hb
    cases hent : entry.blocking <;>
      simp [StreamGateState.recover, hblock, hrep, hent] at hb
  · rw [hh]
    exact h.highest_append

end Summary

theorem StreamGateState.fresh_summarises : StreamGateState.fresh.Summarises [] :=
  ⟨rfl, fun _ h => (by cases h), fun _ _ h => (by cases h), .inl rfl⟩

/-- The entry a recovery leaves for a key summarises the rows with the key. -/
theorem OrderingGate.recoverFromScan_summarises (gate : OrderingGate)
    (states : List RecoveredStreamState) (hstates : ∀ p ∈ states, p.Scanned) (k : String) :
    ((gate.recoverFromScan states).entry k).Summarises
      (states.filter fun p => p.streamKey = k) := by
  unfold OrderingGate.recoverFromScan
  induction states using List.reverseRecOn with
  | nil => exact StreamGateState.fresh_summarises
  | append_singleton states p ih =>
      have ih := ih fun q hq => hstates q (List.mem_append_left _ hq)
      rw [List.foldl_concat, OrderingGate.entry_modify, List.filter_append]
      by_cases hk : p.streamKey = k
      · have hlast : [p].filter (fun p => p.streamKey = k) = [p] := by simp [hk]
        rw [if_pos hk, hlast, hk]
        have hp := hstates p (by simp)
        cases hrep : p.replicated with
        | true => exact ih.recover_replicated hp hrep
        | false => exact ih.recover_open hp hrep
      · have hlast : [p].filter (fun p => p.streamKey = k) = [] := by simp [hk]
        rw [if_neg hk, hlast, List.append_nil]
        exact ih

/-! ## The scan -/

/-- The scanned delivery is that of a row and its envelope. -/
structure Db.Scans (db : Db) (p : PendingDelivery) (d : DeliveryState) (v : StoredEnvelope) :
    Prop where
  row : db.deliveryState.find? p.eventId = some d
  envelope : db.storedEnvelope.find? p.eventId = some v
  streamKey : p.streamKey = v.streamKey
  streamSequence : p.streamSequence = v.streamSequence
  deliveryStatus : p.deliveryStatus = d.deliveryStatus

theorem Db.scans_joinScanRow {db : Db} {d : DeliveryState} {v : StoredEnvelope}
    (hd : db.deliveryState.find? d.eventId = some d)
    (hv : db.storedEnvelope.find? d.eventId = some v) :
    db.Scans (db.joinScanRow d).toPending d v := by
  refine ⟨hd, hv, ?_, ?_, rfl⟩
  · simp [Db.joinScanRow, DeliveryScanRow.toPending, hv]
  · simp [Db.joinScanRow, DeliveryScanRow.toPending, hv]

variable [Sha256]

/-- The rows a gate scan with this limit looks at. -/
def Db.gateRows (db : Db) (limit : Int) : List DeliveryScanRow :=
  limitRows limit (orderBy (·.journalSequence) db.scanRows)

/-- The scan looks at the row of this event. -/
def Db.Listed (db : Db) (limit : Int) (v : StoredEnvelope) : Prop :=
  ∃ r ∈ db.gateRows limit, r.eventId = v.eventId

/-- What a gate scan lists: rows with their envelopes, and with a row every row
that was accepted before it. -/
theorem scanDeliveryGateStates_ok {env : CallEnv} {db : Db} {limit : Int}
    {out : List PendingDelivery} (h : scanDeliveryGateStates env db limit = .ok out) :
    (∀ p ∈ out, ∃ d v, db.Scans p d v ∧ db.Listed limit v) ∧
      ∀ p ∈ out, ∀ d v, db.Scans p d v → ∀ e d' v', db.deliveryState.find? e = some d' →
        db.storedEnvelope.find? e = some v' → v'.journalSequence < v.journalSequence →
        ∃ p' ∈ out, db.Scans p' d' v' := by
  have hsub : ∀ r ∈ db.gateRows limit, r ∈ db.scanRows :=
    fun r hr => mem_orderBy.mp (mem_of_mem_limitRows hr)
  obtain ⟨rfl, hver⟩ := scanDeliveries_ok hsub h
  refine ⟨?_, ?_⟩
  · intro p hp
    obtain ⟨r, hr, rfl⟩ := List.mem_map.mp hp
    obtain ⟨-, v, hv, -⟩ := hver r hr
    obtain ⟨d, hd, rfl⟩ := List.mem_map.mp (hsub r hr)
    have hkey : v.eventId = d.eventId := KeyedTable.key_of_find? hv
    exact ⟨d, v, Db.scans_joinScanRow (KeyedTable.find?_of_mem hd) hv, _, hr, hkey.symm⟩
  · intro p hp d v hscan e d' v' hd' hv' hlt
    obtain ⟨r, hr, rfl⟩ := List.mem_map.mp hp
    obtain ⟨d₀, hd₀, rfl⟩ := List.mem_map.mp (hsub r hr)
    obtain rfl : d'.eventId = e := KeyedTable.key_of_find? hd'
    have hmem : db.joinScanRow d' ∈ db.scanRows :=
      List.mem_map_of_mem (KeyedTable.mem_of_find? hd')
    by_cases hkept : db.joinScanRow d' ∈ db.gateRows limit
    · exact ⟨_, List.mem_map_of_mem hkept, Db.scans_joinScanRow hd' hv'⟩
    · -- a row that is cut off is not before one that is kept
      have hle := rel_of_mem_limitRows (orderBy_sorted _ _) hr (mem_orderBy.mpr hmem) hkept
      have hv : db.storedEnvelope.find? d₀.eventId = some v := hscan.envelope
      simp only [Db.joinScanRow, hv, hv', Option.map_some, nullFirst, decide_eq_true_eq] at hle
      omega

/-! ## What a recovered gate means -/

/-- Calls that neither accept an event nor create a delivery row. -/
def JournalCall.AddsNothing : JournalCall → Prop
  | .accept _ => False
  | .createDeliveryPending .. => False
  | _ => True

/-- From the sequence on, an event without a delivery row comes before every row
that is not replicated, if there is such a row at all. -/
def Db.Held (db : Db) (L : LogicalStream) (n : Int) : Prop :=
  ∀ u ∈ db.storedEnvelope.rows, u.logicalStream = L → n ≤ u.streamSequence →
    ∀ d, db.deliveryState.find? u.eventId = some d → d.deliveryStatus ≠ "REPLICATED" →
    ∃ x ∈ db.storedEnvelope.rows, x.logicalStream = L ∧ n ≤ x.streamSequence ∧
      x.streamSequence < u.streamSequence ∧ db.deliveryState.find? x.eventId = none

/-- The first event of its stream whose delivery row is not replicated. -/
structure Db.FirstOpen (db : Db) (v : StoredEnvelope) : Prop where
  stored : v ∈ db.storedEnvelope.rows
  open_ : ∃ d, db.deliveryState.find? v.eventId = some d ∧ d.deliveryStatus ≠ "REPLICATED"
  first : ∀ u ∈ db.storedEnvelope.rows, u.logicalStream = v.logicalStream →
    u.streamSequence < v.streamSequence → ∀ d, db.deliveryState.find? u.eventId = some d →
    d.deliveryStatus = "REPLICATED"

/-- No accepted event without a delivery row comes before the first open row of
its stream, unless one does after all the rows the scan looks at. -/
def Db.NothingHidden (db : Db) (limit : Int) : Prop :=
  ∀ v, db.FirstOpen v → ∀ u ∈ db.storedEnvelope.rows, u.logicalStream = v.logicalStream →
    u.streamSequence < v.streamSequence → db.deliveryState.find? u.eventId = none →
    ∃ x ∈ db.storedEnvelope.rows, x.logicalStream = v.logicalStream ∧
      x.streamSequence < v.streamSequence ∧ db.deliveryState.find? x.eventId = none ∧
      ∀ y ∈ db.storedEnvelope.rows, y.logicalStream = v.logicalStream → db.Listed limit y →
        y.streamSequence < x.streamSequence

theorem DbStep.sameEnvelopes {env : CallEnv} {db db' : Db} {c : JournalCall} {r : c.Reply}
    (h : DbStep env db c r db') (hc : c.AddsNothing) : db'.storedEnvelope = db.storedEnvelope := by
  rcases h.acceptance with ⟨req, a, hev, -⟩ | ⟨-, hsame⟩
  · cases hev
    exact hc.elim
  · exact hsame.storedEnvelope

/-- No delivery row is new. -/
theorem DbStep.hadDelivery {env : CallEnv} {db db' : Db} {c : JournalCall} {r : c.Reply}
    (h : DbStep env db c r db') (hc : c.AddsNothing) {e : String}
    (he : db.deliveryState.find? e = none) : db'.deliveryState.find? e = none := by
  -- a row that was rewritten had been there
  have hother : ∀ {e' : String} {s : DeliveryStateRecord} {d' : DeliveryState}
      {t : KeyedTable DeliveryState.eventId}, db.HasDelivery e' s →
      db.deliveryState.Puts e' d' t → t.find? e = none := by
    intro e' s d' t hs ht
    have hee : e' ≠ e := by
      rintro rfl
      cases hs.row.symm.trans he
    exact (ht.other hee).trans he
  cases h with
  | quiet => exact he
  | accepted => exact hc.elim
  | lifecycle => exact he
  | created => exact hc.elim
  | attempted hs ht => exact hother hs ht
  | confirmed hs _ _ _ _ ht _ => exact hother hs ht
  | blocked hs _ _ _ ht _ => exact hother hs ht
  | retried hs _ _ ht => exact hother hs ht

theorem DbStep.keepsHeld {env : CallEnv} {db db' : Db} {c : JournalCall} {r : c.Reply}
    (h : DbStep env db c r db') (hc : c.AddsNothing) {L : LogicalStream} {n : Int}
    (hheld : db.Held L n) : db'.Held L n := by
  intro u hu hL hle d' hd' hne
  rw [h.sameEnvelopes hc] at hu ⊢
  cases hd : db.deliveryState.find? u.eventId with
  | none =>
      rw [h.hadDelivery hc hd] at hd'
      cases hd'
  | some d =>
      -- a row that is open now was open before
      have hopen : d.deliveryStatus ≠ "REPLICATED" := by
        intro hrep
        obtain ⟨d'', hd'', hrep'⟩ := h.keepsReplicated ⟨d, hd, hrep⟩
        cases hd''.symm.trans hd'
        exact hne hrep'
      obtain ⟨x, hx, hxL, hxn, hxu, hnone⟩ := hheld u hu hL hle d hd hopen
      exact ⟨x, hx, hxL, hxn, hxu, h.hadDelivery hc hnone⟩

omit [Sha256] in
/-- The event that holds the stream back is not the replicated one. -/
theorem Db.Held.next {db : Db} {eventId : String} {v : StoredEnvelope} (hg : db.Gapless)
    (hv : db.storedEnvelope.find? eventId = some v) (hrep : db.Replicated eventId)
    (h : db.Held v.logicalStream v.streamSequence) :
    db.Held v.logicalStream (v.streamSequence + 1) := by
  intro u hu hL hle d hd hne
  obtain ⟨x, hx, hxL, hxn, hxu, hnone⟩ := h u hu hL (by omega) d hd hne
  refine ⟨x, hx, hxL, ?_, hxu, hnone⟩
  by_contra hlt
  obtain rfl := hg.eq_of_sequence hx (KeyedTable.mem_of_find? hv) hxL (by omega)
  obtain ⟨dv, hdv, -⟩ := hrep
  rw [show x.eventId = eventId from KeyedTable.key_of_find? hv] at hnone
  cases hnone.symm.trans hdv

/-- The stream is clear up to the sequence, or held before the next row to send. -/
def recoveredFrontier : Frontier JournalCall.AddsNothing where
  At db L n := db.Clear L n ∨ db.Held L n
  start hg := .inl hg.clear_one
  stable := by
    intro env db c r db' L n h hc _ hat
    rcases hat with hclear | hheld
    · left
      intro u hu hL hlt
      rw [h.sameEnvelopes hc] at hu
      exact h.keepsReplicated (hclear u hu hL hlt)
    · exact .inr (h.keepsHeld hc hheld)
  clear := by
    intro db eventId v d _ hv hd hne hat
    rcases hat with hclear | hheld
    · exact hclear
    · -- nothing lies between the sequence and itself
      obtain rfl : v.eventId = eventId := KeyedTable.key_of_find? hv
      obtain ⟨x, -, -, hle, hlt, -⟩ :=
        hheld v (KeyedTable.mem_of_find? hv) rfl (le_refl _) d hd hne
      omega
  next := by
    intro db eventId v hg hv hrep hat
    rcases hat with hclear | hheld
    · exact .inl (hclear.next hg hv hrep)
    · exact .inr (hheld.next hg hv hrep)

section Frontier

variable {db : Db} {L : LogicalStream}

omit [Sha256] in
/-- A stream with an open row has a first one. -/
theorem Db.Gapless.exists_firstOpen (hg : db.Gapless) {v : StoredEnvelope}
    (hv : v ∈ db.storedEnvelope.rows) (hL : v.logicalStream = L)
    (hd : ∃ d, db.deliveryState.find? v.eventId = some d ∧ d.deliveryStatus ≠ "REPLICATED") :
    ∃ v, db.FirstOpen v ∧ v.logicalStream = L := by
  -- go down the sequences until nothing open is left before
  induction hn : v.streamSequence.toNat using Nat.strong_induction_on generalizing v with
  | _ n ih =>
      by_cases hfirst : ∃ u ∈ db.storedEnvelope.rows, u.logicalStream = v.logicalStream ∧
          u.streamSequence < v.streamSequence ∧
          ∃ d, db.deliveryState.find? u.eventId = some d ∧ d.deliveryStatus ≠ "REPLICATED"
      · obtain ⟨u, hu, huL, hlt, hud⟩ := hfirst
        have hpos := (hg.sequence_le hu huL).1
        exact ih u.streamSequence.toNat (by omega) hu (huL.trans hL) hud rfl
      · refine ⟨v, ⟨hv, hd, ?_⟩, hL⟩
        intro u hu huL hlt d hud
        by_contra hne
        exact hfirst ⟨u, hu, huL, hlt, d, hud, hne⟩

omit [Sha256] in
/-- A stream is clear up to its first open row, or an event without a row comes
before that row and after all the rows the scan looks at. -/
theorem Db.FirstOpen.clear_or_hidden {v : StoredEnvelope} {limit : Int} (h : db.FirstOpen v)
    (hhid : db.NothingHidden limit) :
    db.Clear v.logicalStream v.streamSequence ∨
      ∃ x ∈ db.storedEnvelope.rows, x.logicalStream = v.logicalStream ∧
        x.streamSequence < v.streamSequence ∧ db.deliveryState.find? x.eventId = none ∧
        ∀ y ∈ db.storedEnvelope.rows, y.logicalStream = v.logicalStream → db.Listed limit y →
          y.streamSequence < x.streamSequence := by
  by_cases hnone : ∃ u ∈ db.storedEnvelope.rows, u.logicalStream = v.logicalStream ∧
      u.streamSequence < v.streamSequence ∧ db.deliveryState.find? u.eventId = none
  · obtain ⟨u, hu, hL, hlt, hnone⟩ := hnone
    exact .inr (hhid v h u hu hL hlt hnone)
  · left
    intro u hu hL hlt
    cases hd : db.deliveryState.find? u.eventId with
    | none => exact absurd ⟨u, hu, hL, hlt, hd⟩ hnone
    | some d => exact ⟨d, hd, h.first u hu hL hlt d hd⟩

omit [Sha256] in
/-- An event without a row before the first open one holds the stream. -/
theorem Db.FirstOpen.held {v x : StoredEnvelope} (h : db.FirstOpen v)
    (hx : x ∈ db.storedEnvelope.rows) (hL : x.logicalStream = v.logicalStream)
    (hlt : x.streamSequence < v.streamSequence)
    (hnone : db.deliveryState.find? x.eventId = none) {n : Int} (hn : n ≤ x.streamSequence) :
    db.Held v.logicalStream n := by
  intro u hu huL _ d hd hne
  refine ⟨x, hx, hL, hn, ?_, hnone⟩
  by_contra hle
  exact hne (h.first u hu huL (by omega) d hd)

end Frontier

/-- The scanned rows of a key stand for the delivery rows of a stream, up to some
sequence. -/
structure Db.StreamRows (db : Db) (limit : Int) (L : LogicalStream)
    (rows : List RecoveredStreamState) : Prop where
  listed : ∀ q ∈ rows, ∃ v ∈ db.storedEnvelope.rows, v.logicalStream = L ∧
    v.streamSequence = q.streamSequence ∧ db.Listed limit v ∧
      ∃ d, db.deliveryState.find? v.eventId = some d ∧
        (q.replicated = true ↔ d.deliveryStatus = "REPLICATED")
  before : ∀ q ∈ rows, ∀ u ∈ db.storedEnvelope.rows, u.logicalStream = L →
    u.streamSequence < q.streamSequence → ∀ d, db.deliveryState.find? u.eventId = some d →
    ∃ q' ∈ rows, q'.streamSequence = u.streamSequence ∧
      (q'.replicated = true ↔ d.deliveryStatus = "REPLICATED")

omit [Sha256] in
theorem PendingDelivery.recovered_scanned (p : PendingDelivery) : p.recovered.Scanned := by
  refine ⟨?_, rfl⟩
  simp [PendingDelivery.recovered, bne]

omit [Sha256] in
/-- A gate rebuilt from a scan summarises the scanned rows of each key. -/
theorem OrderingGate.recoverFromScan_pending (gate : OrderingGate) (out : List PendingDelivery)
    (k : String) : ((gate.recoverFromScan (out.map (·.recovered))).entry k).Summarises
      ((out.map (·.recovered)).filter fun q => q.streamKey = k) := by
  refine gate.recoverFromScan_summarises _ ?_ k
  intro q hq
  obtain ⟨p, -, rfl⟩ := List.mem_map.mp hq
  exact p.recovered_scanned

/-- When no two streams share a raw key, a scan's rows of a key are rows of its
stream. -/
theorem scanDeliveryGateStates_streamRows {env : CallEnv} {db : Db} {limit : Int}
    {out : List PendingDelivery} (hscan : scanDeliveryGateStates env db limit = .ok out)
    (hg : db.Gapless) {owner : String → LogicalStream}
    (howner : ∀ v ∈ db.storedEnvelope.rows, owner v.streamKey = v.logicalStream) (k : String) :
    db.StreamRows limit (owner k)
      ((out.map (·.recovered)).filter fun q => q.streamKey = k) := by
  obtain ⟨hlisted, hbefore⟩ := scanDeliveryGateStates_ok hscan
  have hmem : ∀ q, q ∈ (out.map (·.recovered)).filter (fun q => q.streamKey = k) ↔
      ∃ p ∈ out, p.recovered = q ∧ p.streamKey = k := by
    intro q
    rw [List.mem_filter, List.mem_map, decide_eq_true_iff]
    constructor
    · rintro ⟨⟨p, hp, rfl⟩, hk⟩
      exact ⟨p, hp, rfl, hk⟩
    · rintro ⟨p, hp, rfl, hk⟩
      exact ⟨⟨p, hp, rfl⟩, hk⟩
  have hstatus : ∀ {p d v}, db.Scans p d v →
      (p.recovered.replicated = true ↔ d.deliveryStatus = "REPLICATED") := by
    intro p d v hs
    rw [← hs.deliveryStatus]
    simp [PendingDelivery.recovered]
  have hstream : ∀ {p d v}, db.Scans p d v → p.streamKey = k → v.logicalStream = owner k := by
    intro p d v hs hk
    rw [← howner v (KeyedTable.mem_of_find? hs.envelope), ← hs.streamKey, hk]
  refine ⟨?_, ?_⟩
  · intro q hq
    obtain ⟨p, hp, rfl, hk⟩ := (hmem q).mp hq
    obtain ⟨d, v, hs, hl⟩ := hlisted p hp
    have heid : v.eventId = p.eventId := KeyedTable.key_of_find? hs.envelope
    refine ⟨v, KeyedTable.mem_of_find? hs.envelope, hstream hs hk, hs.streamSequence.symm, hl, d,
      ?_, hstatus hs⟩
    rw [heid]
    exact hs.row
  · intro q hq u hu hL hlt d' hd'
    obtain ⟨p, hp, rfl, hk⟩ := (hmem q).mp hq
    obtain ⟨d, v, hs, -⟩ := hlisted p hp
    have hlt : u.streamSequence < v.streamSequence := by
      rw [← hs.streamSequence]
      exact hlt
    -- earlier in the stream is earlier in the journal, so the scan has it too
    have hjs := hg.journalSequence_lt hu (KeyedTable.mem_of_find? hs.envelope)
      (hL.trans (hstream hs hk).symm) hlt
    obtain ⟨p', hp', hs'⟩ := hbefore p hp d v hs u.eventId d' u hd' (KeyedTable.find?_of_mem hu) hjs
    refine ⟨p'.recovered, (hmem _).mpr ⟨p', hp', rfl, ?_⟩, hs'.streamSequence, hstatus hs'⟩
    have hkey : u.streamKey = v.streamKey :=
      congrArg (fun L : LogicalStream => L.2.2.2) (hL.trans (hstream hs hk).symm)
    rw [hs'.streamKey, hkey, ← hs.streamKey, hk]

section AtFrontier

variable {db : Db} {limit : Int} {L : LogicalStream} {entry : StreamGateState}
  {rows : List RecoveredStreamState}

omit [Sha256] in
/-- The smallest open sequence of the scan is the first of the stream. -/
theorem StreamGateState.Summarises.firstOpen (h : entry.Summarises rows)
    (hrows : db.StreamRows limit L rows) {b : Int} (hbl : entry.blocking = some b) :
    ∃ v, db.FirstOpen v ∧ v.logicalStream = L ∧ v.streamSequence = b ∧ db.Listed limit v := by
  obtain ⟨⟨q, hq, hqr, rfl⟩, hmin⟩ := h.blocking b hbl
  obtain ⟨v, hv, rfl, hvs, hl, d, hd, hstatus⟩ := hrows.listed q hq
  refine ⟨v, ⟨hv, ⟨d, hd, ?_⟩, ?_⟩, rfl, hvs, hl⟩
  · intro hrep
    rw [hstatus.mpr hrep] at hqr
    cases hqr
  · intro u hu hL hlt du hdu
    obtain ⟨q', hq', hseq, hstatus'⟩ := hrows.before q hq u hu hL (by omega) du hdu
    by_contra hne
    have hopen : q'.replicated = false :=
      Bool.eq_false_iff.mpr fun hrep => hne (hstatus'.mp hrep)
    have := hmin q' hq' hopen
    omega

omit [Sha256] in
/-- A scan without open rows ended before the first open row of the stream. -/
theorem StreamGateState.Summarises.highest_lt (h : entry.Summarises rows)
    (hrows : db.StreamRows limit L rows) (hg : db.Gapless) (hbl : entry.blocking = none)
    {v : StoredEnvelope} (hfirst : db.FirstOpen v) (hL : v.logicalStream = L) :
    entry.highestCompleted < v.streamSequence := by
  rcases h.highest with h0 | ⟨q, hq, hqr, hqs⟩
  · have := (hg.sequence_le hfirst.stored rfl).1
    omega
  · by_contra hle
    obtain ⟨u, hu, huL, hus, -, d, hd, hstatus⟩ := hrows.listed q hq
    obtain ⟨dv, hdv, hopen⟩ := hfirst.open_
    by_cases heq : v.streamSequence = u.streamSequence
    · obtain rfl := hg.eq_of_sequence hfirst.stored hu (hL.trans huL.symm) heq
      cases hd.symm.trans hdv
      exact hopen (hstatus.mp hqr)
    · obtain ⟨q', hq', -, hstatus'⟩ :=
        hrows.before q hq v hfirst.stored hL (by omega) dv hdv
      exact hopen (hstatus'.mp (h.free hbl q' hq'))

/-- An entry that summarises a stream's rows is at its frontier, unless something
is hidden. -/
theorem StreamGateState.Summarises.at_frontier (h : entry.Summarises rows)
    (hrows : db.StreamRows limit L rows) (hg : db.Gapless) (hhid : db.NothingHidden limit) :
    recoveredFrontier.At db L entry.next := by
  cases hbl : entry.blocking with
  | some b =>
      -- the gate waits for a row the scan looked at, so nothing is hidden after it
      obtain ⟨v, hfirst, rfl, rfl, hl⟩ := h.firstOpen hrows hbl
      have hnext : entry.next = v.streamSequence := by
        simp [StreamGateState.next, hbl]
      rw [hnext]
      rcases hfirst.clear_or_hidden hhid with hclear | ⟨x, -, -, hlt, -, hafter⟩
      · exact .inl hclear
      · have := hafter v hfirst.stored rfl hl
        omega
  | none =>
      have hnext : entry.next = entry.highestCompleted + 1 := by
        simp [StreamGateState.next, hbl]
      rw [hnext]
      by_cases hopen : ∃ v ∈ db.storedEnvelope.rows, v.logicalStream = L ∧
          ∃ d, db.deliveryState.find? v.eventId = some d ∧ d.deliveryStatus ≠ "REPLICATED"
      · obtain ⟨v', hv', hL', hd'⟩ := hopen
        obtain ⟨v, hfirst, rfl⟩ := hg.exists_firstOpen hv' hL' hd'
        have hlt := h.highest_lt hrows hg hbl hfirst rfl
        rcases hfirst.clear_or_hidden hhid with hclear | ⟨x, hx, hxL, hxv, hnone, hafter⟩
        · left
          intro u hu hL hu'
          exact hclear u hu hL (by omega)
        · -- the hidden event comes after the highest sequence of the scan
          refine .inr (hfirst.held hx hxL hxv hnone ?_)
          rcases h.highest with h0 | ⟨q, hq, -, hqs⟩
          · have := (hg.sequence_le hx hxL).1
            omega
          · obtain ⟨u, hu, huL, hus, hl, -⟩ := hrows.listed q hq
            have := hafter u hu huL hl
            omega
      · right
        intro u hu hL _ d hd hne
        exact absurd ⟨u, hu, hL, d, hd, hne⟩ hopen

end AtFrontier

/-- The gate a recovery builds is at the frontiers of all streams. -/
theorem recoverFromScan_respects {env : CallEnv} {db : Db} {limit : Int}
    {out : List PendingDelivery} (hscan : scanDeliveryGateStates env db limit = .ok out)
    (hg : db.Gapless) (hhid : db.NothingHidden limit) {owner : String → LogicalStream}
    (howner : ∀ v ∈ db.storedEnvelope.rows, owner v.streamKey = v.logicalStream)
    (gate : OrderingGate) :
    (gate.recoverFromScan (out.map (·.recovered))).Respects
      fun k n => recoveredFrontier.At db (owner k) n := by
  intro k _
  exact (gate.recoverFromScan_pending out k).at_frontier
    (scanDeliveryGateStates_streamRows hscan hg howner k) hg hhid

/-! ## Restarted services -/

omit [Sha256] in
theorem JournalCall.ByService.addsNothing {c : JournalCall} (h : c.ByService) :
    c.AddsNothing := by
  cases c with
  | accept => exact h
  | createDeliveryPending => exact h
  | _ => trivial

/-- No two streams have one raw key. -/
def Db.KeysApart (db : Db) : Prop :=
  ∀ u ∈ db.storedEnvelope.rows, ∀ v ∈ db.storedEnvelope.rows, u.streamKey = v.streamKey →
    u.logicalStream = v.logicalStream

omit [Sha256] in
theorem Db.KeysApart.exists_owner {db : Db} (h : db.KeysApart) :
    ∃ owner : String → LogicalStream, ∀ v ∈ db.storedEnvelope.rows,
      owner v.streamKey = v.logicalStream := by
  have hkey : ∀ k, ∃ L : LogicalStream, ∀ v ∈ db.storedEnvelope.rows, v.streamKey = k →
      L = v.logicalStream := by
    intro k
    by_cases hk : ∃ v ∈ db.storedEnvelope.rows, v.streamKey = k
    · obtain ⟨v, hv, hvk⟩ := hk
      exact ⟨v.logicalStream, fun u hu huk => h v hv u hu (hvk.trans huk.symm)⟩
    · exact ⟨("", "", "", k), fun v hv hvk => absurd ⟨v, hv, hvk⟩ hk⟩
  choose owner howner using hkey
  exact ⟨owner, fun v hv => howner v.streamKey v hv rfl⟩

/-- Services that may recover, on a journal that gets no new events and rows. -/
def recoveredView (owner : String → LogicalStream) : GateView where
  calls := JournalCall.AddsNothing
  byService _ h := h.addsNothing
  frontier := recoveredFrontier
  owner := owner
  attempted _ := True
  scannable limit db := db.NothingHidden limit

/-- `recover` leaves the gate at its frontiers, or as it was. -/
theorem recover_safe (owner : String → LogicalStream) {j : LocalJournal}
    {svc : DeliveryService} (hidle : (recoveredView owner).AtFrontier j svc) :
    (gateDiscipline (recoveredView owner)).SafeProg .recover j svc.recover := by
  refine Discipline.safeProg_journal ?_ ?_
  · intro j' _
    refine ⟨?_, ?_⟩
    · rintro _ ⟨⟩
      trivial
    · rintro _ ⟨⟩
  · intro j' env r j'' hrely hexp hexec hrely'
    have heq := Option.some.inj
      (show some (j', scanDeliveryGateStates env j'.db 10000) = some (j'', r) from hexec)
    obtain ⟨rfl, hscan⟩ := Prod.mk.inj heq
    have hkept := (gateDiscipline (recoveredView owner)).stable _ _ _ hidle hrely
    cases r with
    | ok out =>
        -- the journal is as it was when the scan ran, so the meaning is the scan's
        have howner : ∀ v ∈ j'.db.storedEnvelope.rows, owner v.streamKey = v.logicalStream :=
          fun v hv => hrely.2.2.2 v.eventId v trivial (KeyedTable.find?_of_mem hv)
        have hgate := recoverFromScan_respects hscan hrely.2.2.1 (hexp 10000 rfl) howner svc.gate
        exact Discipline.safeProg_done hgate fun _ _ => trivial
    | corrupted => exact Discipline.safeProg_done hkept fun _ _ => trivial
    | error => exact Discipline.safeProg_done hkept fun _ _ => trivial

/-- Where clients add nothing, no envelope is added. -/
theorem worldRun_sameEnvelopes {w w' : World} {tr : List WorldEvent}
    (hrun : worldLts.Run w tr w') (hidle : ∀ i, ∃ svc, w.threads i = .idle svc)
    (hclients : ∀ ev, .client ev ∈ tr → ev.call.AddsNothing) :
    w'.journal.db.storedEnvelope = w.journal.db.storedEnvelope := by
  induction hrun with
  | nil => rfl
  | snoc hrun hst ih =>
      have ih := ih fun ev hev => hclients ev (List.mem_append_left _ hev)
      have hsafe := worldRun_ackSafe hrun hidle
      cases hst with
      | client h =>
          exact ((journalStep_cases h).sameEnvelopes (hclients _ (by simp))).trans ih
      | journal hprog h =>
          -- a service only makes the calls of its programs
          rename_i t _ i c call k env r j'
          have hst : journalLts.step t.journal ⟨env, call, r⟩ j' := h
          have hguard := (Prog.Safe.op (hsafe.running hprog)
            (ackDiscipline.refl _ trivial)).1 call rfl
          exact ((journalStep_cases hst).sameEnvelopes hguard.addsNothing).trans ih
      | _ => exact ih

/-- Whenever a gate is rebuilt, nothing is hidden. -/
def ScansInFull (w : World) (tr : List WorldEvent) : Prop :=
  ∀ tr₁ tr₂ i env limit r w₁,
    tr = tr₁ ++ .journal i ⟨env, .scanDeliveryGateStates limit, r⟩ :: tr₂ →
    worldLts.Run w tr₁ w₁ → w₁.journal.db.NothingHidden limit

/-- Restarted services on a journal with one stream per key keep their gates at
the frontiers, as long as nothing is hidden from their scans. -/
theorem worldRun_recovered {j : LocalJournal} {profile : Nat → KafkaProductionProfile}
    {tr : List WorldEvent} {w : World} (hreach : Reachable j) (hkeys : j.db.KeysApart)
    (hrun : worldLts.Run (World.start j profile) tr w)
    (hclients : ∀ ev, .client ev ∈ tr → ev.call.AddsNothing)
    (hscans : ScansInFull (World.start j profile) tr) :
    ∃ G, (gateDiscipline G).WorldSafe w := by
  obtain ⟨owner, howner⟩ := hkeys.exists_owner
  have hadmits : (gateDiscipline (recoveredView owner)).Admits (· ∈ tr) :=
    gateDiscipline_admits _ hclients (fun _ _ _ => trivial)
      fun _ _ _ _ _ hidle => recover_safe owner hidle
  have hidle : ∀ i, ∃ svc, (World.start j profile).threads i = .idle svc :=
    fun i => ⟨_, rfl⟩
  refine ⟨recoveredView owner, Discipline.worldSafe_run hadmits hrun ⟨⟨hreach.gapless, ?_⟩, ?_⟩ ?_⟩
  · intro e v _ hv
    exact howner v (KeyedTable.mem_of_find? hv)
  · intro i
    exact (recoveredView owner).atFrontier_new hreach.gapless (profile i)
  · intro tr₁ ev tr₂ w₁ w₂ htr hrun₁ hst _
    have hrun₂ := hrun₁.snoc hst
    have hmem : ∀ ev' ∈ tr₁ ++ [ev], ev' ∈ tr := by
      intro ev' hev'
      rw [htr]
      simp only [List.mem_append, List.mem_cons, List.not_mem_nil, or_false] at hev' ⊢
      tauto
    obtain ⟨tr', hjournal⟩ := worldRun_journal hrun₂
    refine ⟨hmem ev (by simp), ?_, (hreach.run hjournal).gapless, ?_⟩
    · -- the only scan of gate states is the one of `recover`
      intro e he limit hlimit
      subst hlimit
      cases ev with
      | journal i jev =>
          obtain ⟨env, call, r⟩ := jev
          have hcall : call = .scanDeliveryGateStates limit := by
            simpa [WorldEvent.effect?] using he
          subst hcall
          exact hscans tr₁ tr₂ i env limit r w₁ htr hrun₁
      | _ => simp [WorldEvent.effect?] at he
    · intro e v _ hv
      have hsame := worldRun_sameEnvelopes hrun₂ hidle fun ev' hev' => hclients ev' (hmem _ hev')
      rw [hsame] at hv
      exact howner v (KeyedTable.mem_of_find? hv)

end CraftRelay
