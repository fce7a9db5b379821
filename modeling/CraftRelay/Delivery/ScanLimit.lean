import CraftRelay.Delivery.Progress

/-!
# The limit of the recovery scan

`recover` scans 10000 delivery rows in journal order. When every accepted event
has its row, the k-th row of the scan is that of journal sequence k, so the rows
the scan looks at are those of the events accepted among the first 10000. Of a
stream the scan sees a prefix, and the gate is left one past it or at its first
open event. A stream with nothing but replicated events in that prefix, and more
after it, is left behind its next event.
-/

namespace CraftRelay

/-- Every accepted event has a delivery row. -/
def Db.AllTracked (db : Db) : Prop :=
  ∀ v ∈ db.storedEnvelope.rows, (db.deliveryState.find? v.eventId).isSome

/-! ## The rows the scan looks at -/

theorem nullFirst_antisymm {m n : Option Int} (hmn : nullFirst m n) (hnm : nullFirst n m) :
    m = n := by
  cases m with
  | none =>
      cases n with
      | none => rfl
      | some n => cases hnm
  | some m =>
      cases n with
      | none => cases hmn
      | some n =>
          simp only [nullFirst, decide_eq_true_eq] at hmn hnm
          rw [Option.some_inj]
          omega

variable [Sha256] {db : Db}

/-- Delivery rows and envelopes have the same events. -/
theorem Db.AllTracked.events_perm (h : db.AllTracked) (hc : db.Consistent) :
    (db.deliveryState.rows.map (·.eventId)).Perm (db.storedEnvelope.rows.map (·.eventId)) := by
  rw [List.perm_ext_iff_of_nodup db.deliveryState.nodup db.storedEnvelope.nodup]
  intro e
  constructor
  · intro he
    obtain ⟨d, hd, rfl⟩ := List.mem_map.mp he
    have hsome := hc.delivery d.eventId (by rw [KeyedTable.find?_of_mem hd]; rfl)
    obtain ⟨v, hv⟩ := Option.isSome_iff_exists.mp hsome
    exact List.mem_map.mpr ⟨v, KeyedTable.mem_of_find? hv, KeyedTable.key_of_find? hv⟩
  · intro he
    obtain ⟨v, hv, rfl⟩ := List.mem_map.mp he
    obtain ⟨d, hd⟩ := Option.isSome_iff_exists.mp (h v hv)
    exact List.mem_map.mpr ⟨d, KeyedTable.mem_of_find? hd, KeyedTable.key_of_find? hd⟩

/-- In journal order the rows have the journal sequences 1, 2, …. -/
theorem Db.AllTracked.ordered (h : db.AllTracked) (hc : db.Consistent) (hg : db.Gapless) :
    (orderBy (·.journalSequence) db.scanRows).map (·.journalSequence) =
      (countUp db.storedEnvelope.rows.length).map some := by
  have hperm : ((orderBy (·.journalSequence) db.scanRows).map (·.journalSequence)).Perm
      ((countUp db.storedEnvelope.rows.length).map some) := by
    have hsort : (orderBy (·.journalSequence) db.scanRows).Perm db.scanRows :=
      List.perm_insertionSort _ _
    refine (hsort.map _).trans ?_
    have hevents := (h.events_perm hc).map
      fun e => (db.storedEnvelope.find? e).map (·.journalSequence)
    rw [← hg.journal]
    have hrows : (db.storedEnvelope.rows.map (·.eventId)).map
        (fun e => (db.storedEnvelope.find? e).map (·.journalSequence)) =
        (db.storedEnvelope.rows.map (·.journalSequence)).map some := by
      rw [List.map_map, List.map_map]
      refine List.map_congr_left ?_
      intro v hv
      simp [KeyedTable.find?_of_mem hv]
    rw [hrows, List.map_map] at hevents
    rw [Db.scanRows, List.map_map]
    exact hevents
  have hleft : ((orderBy (·.journalSequence) db.scanRows).map (·.journalSequence)).Pairwise
      fun m n => nullFirst m n := List.pairwise_map.mpr (orderBy_sorted _ _)
  have hright : ((countUp db.storedEnvelope.rows.length).map some).Pairwise
      fun m n => nullFirst m n := by
    refine List.pairwise_map.mpr ((countUp_sorted _).imp ?_)
    intro a b hab
    simp only [nullFirst, decide_eq_true_eq]
    omega
  exact List.Perm.eq_of_pairwise (fun _ _ _ _ => nullFirst_antisymm) hleft hright hperm

theorem Db.AllTracked.gateRows (h : db.AllTracked) (hc : db.Consistent) (hg : db.Gapless)
    (limit : Nat) :
    (db.gateRows limit).map (·.journalSequence) =
      (countUp (min limit db.storedEnvelope.rows.length)).map some := by
  unfold Db.gateRows limitRows
  rw [if_neg (by omega), List.map_take, h.ordered hc hg, Int.toNat_natCast, ← List.map_take,
    take_countUp]

omit [Sha256] in
theorem Db.Gapless.eq_of_journalSequence (hg : db.Gapless) {u v : StoredEnvelope}
    (hu : u ∈ db.storedEnvelope.rows) (hv : v ∈ db.storedEnvelope.rows)
    (h : u.journalSequence = v.journalSequence) : u = v := by
  have hnodup : (db.storedEnvelope.rows.map (·.journalSequence)).Nodup := by
    rw [hg.journal]
    exact (countUp_sorted _).nodup
  exact List.inj_on_of_nodup_map hnodup hu hv h

/-- A row the scan looks at is a delivery row with its envelope. -/
theorem Db.Consistent.gateRow (hc : db.Consistent) {limit : Int} {r : DeliveryScanRow}
    (hr : r ∈ db.gateRows limit) :
    ∃ v ∈ db.storedEnvelope.rows, r.eventId = v.eventId ∧
      r.journalSequence = some v.journalSequence := by
  obtain ⟨d, hd, rfl⟩ := List.mem_map.mp (mem_orderBy.mp (mem_of_mem_limitRows hr))
  have hsome := hc.delivery d.eventId (by rw [KeyedTable.find?_of_mem hd]; rfl)
  obtain ⟨v, hv⟩ := Option.isSome_iff_exists.mp hsome
  have hkey : v.eventId = d.eventId := KeyedTable.key_of_find? hv
  refine ⟨v, KeyedTable.mem_of_find? hv, hkey.symm, ?_⟩
  simp [Db.joinScanRow, hv]

/-- The scan looks at the rows of the first events of the journal. -/
theorem Db.AllTracked.listed_iff (h : db.AllTracked) (hc : db.Consistent) (hg : db.Gapless)
    {limit : Nat} {v : StoredEnvelope} (hv : v ∈ db.storedEnvelope.rows) :
    db.Listed limit v ↔ v.journalSequence ≤ limit := by
  have hrows := h.gateRows hc hg limit
  constructor
  · rintro ⟨r, hr, hid⟩
    obtain ⟨u, hu, huid, hseq⟩ := hc.gateRow hr
    obtain rfl : u = v := KeyedTable.eq_of_key_eq hu hv (huid.symm.trans hid)
    have hmem : some u.journalSequence ∈ (db.gateRows limit).map (·.journalSequence) :=
      List.mem_map.mpr ⟨r, hr, hseq⟩
    rw [hrows, List.mem_map_of_injective (Option.some_injective _), mem_countUp] at hmem
    omega
  · intro hle
    have hall : v.journalSequence ∈ db.storedEnvelope.rows.map (·.journalSequence) :=
      List.mem_map_of_mem hv
    rw [hg.journal, mem_countUp] at hall
    have hmem : some v.journalSequence ∈ (db.gateRows limit).map (·.journalSequence) := by
      rw [hrows, List.mem_map_of_injective (Option.some_injective _), mem_countUp]
      omega
    obtain ⟨r, hr, hseq⟩ := List.mem_map.mp hmem
    obtain ⟨u, hu, huid, hseq'⟩ := hc.gateRow hr
    obtain rfl := hg.eq_of_journalSequence hu hv (Option.some.inj (hseq'.symm.trans hseq))
    exact ⟨r, hr, huid⟩

/-- The row of an event the scan looks at is in the list, under its key. -/
theorem scanDeliveryGateStates_lists {env : CallEnv} {limit : Int} {out : List PendingDelivery}
    (hscan : scanDeliveryGateStates env db limit = .ok out) {u : StoredEnvelope}
    (hu : u ∈ db.storedEnvelope.rows) (hl : db.Listed limit u) :
    ∃ q ∈ (out.map (·.recovered)).filter (fun q => q.streamKey = u.streamKey),
      q.streamSequence = u.streamSequence := by
  have hsub : ∀ r ∈ db.gateRows limit, r ∈ db.scanRows :=
    fun r hr => mem_orderBy.mp (mem_of_mem_limitRows hr)
  obtain ⟨rfl, -⟩ := scanDeliveries_ok hsub hscan
  obtain ⟨r, hr, hid⟩ := hl
  obtain ⟨d, hd, rfl⟩ := List.mem_map.mp (hsub r hr)
  have hid : d.eventId = u.eventId := hid
  have hscans := Db.scans_joinScanRow (KeyedTable.find?_of_mem hd)
    (show db.storedEnvelope.find? d.eventId = some u by
      rw [hid]
      exact KeyedTable.find?_of_mem hu)
  refine ⟨(db.joinScanRow d).toPending.recovered, List.mem_filter.mpr ⟨?_, ?_⟩,
    hscans.streamSequence⟩
  · exact List.mem_map_of_mem (List.mem_map_of_mem hr)
  · exact decide_eq_true hscans.streamKey

/-! ## Where the gate is left -/

section Highest

omit [Sha256]

theorem StreamGateState.recover_highest_le (entry : StreamGateState) (p : RecoveredStreamState) :
    entry.highestCompleted ≤ (entry.recover p).highestCompleted ∧
      (p.replicated = true → p.streamSequence ≤ (entry.recover p).highestCompleted) := by
  by_cases hlt : entry.highestCompleted < p.streamSequence
  · cases hrep : p.replicated with
    | true =>
        simp [StreamGateState.recover, hrep, hlt]
        omega
    | false => simp [StreamGateState.recover, hrep]
  · simp [StreamGateState.recover, hlt]
    omega

/-- No replicated row of a key is above its highest completed sequence. -/
theorem OrderingGate.recoverFromScan_highest_le (gate : OrderingGate)
    (states : List RecoveredStreamState) (k : String) :
    ∀ q ∈ states.filter (fun p => p.streamKey = k), q.replicated = true →
      q.streamSequence ≤ ((gate.recoverFromScan states).entry k).highestCompleted := by
  unfold OrderingGate.recoverFromScan
  induction states using List.reverseRecOn with
  | nil => simp
  | append_singleton states p ih =>
      intro q hq hrep
      rw [List.foldl_concat, OrderingGate.entry_modify]
      rw [List.filter_append, List.mem_append] at hq
      rcases hq with hq | hq
      · have hle := ih q hq hrep
        split
        · rename_i hk
          rw [← hk] at hle
          exact hle.trans (StreamGateState.recover_highest_le _ p).1
        · exact hle
      · obtain ⟨hmem, hk⟩ := List.mem_filter.mp hq
        obtain rfl := List.mem_singleton.mp hmem
        rw [if_pos (of_decide_eq_true hk)]
        exact (StreamGateState.recover_highest_le _ q).2 hrep

section Next

variable {entry : StreamGateState} {rows : List RecoveredStreamState} {n : Int}

/-- An open row is not before `n`, so the row of `n` was scanned and is the first open
one. -/
theorem StreamGateState.Summarises.next_of_blocking (h : entry.Summarises rows) {b : Int}
    (hbl : entry.blocking = some b)
    (hbefore : ∀ q ∈ rows, q.streamSequence < n → q.replicated = true)
    (hopen : ∀ q ∈ rows, q.streamSequence = n → q.replicated = false)
    (hdown : ∀ q ∈ rows, n ≤ q.streamSequence → ∃ q' ∈ rows, q'.streamSequence = n) :
    entry.next = n ∧ ∃ q ∈ rows, q.streamSequence = n := by
  have hnext : entry.next = b := by simp [StreamGateState.next, hbl]
  obtain ⟨⟨q, hq, hqr, hqs⟩, hmin⟩ := h.blocking b hbl
  have hnb : n ≤ b := by
    by_contra hlt
    rw [hbefore q hq (by omega)] at hqr
    cases hqr
  obtain ⟨q', hq', hqs'⟩ := hdown q hq (by omega)
  have hbn := hmin q' hq' (hopen q' hq' hqs')
  exact ⟨by omega, q', hq', hqs'⟩

/-- Without an open row every row is before `n`, and the entry is one past the highest. -/
theorem StreamGateState.Summarises.next_of_free (h : entry.Summarises rows)
    (hbl : entry.blocking = none)
    (hmax : ∀ q ∈ rows, q.replicated = true → q.streamSequence ≤ entry.highestCompleted)
    (hpos : ∀ q ∈ rows, 1 ≤ q.streamSequence) (hlt : ∀ q ∈ rows, q.streamSequence < n) :
    entry.next = n ↔ n = 1 ∨ ∃ q ∈ rows, q.streamSequence + 1 = n := by
  have hnext : entry.next = entry.highestCompleted + 1 := by
    simp [StreamGateState.next, hbl]
  rw [hnext]
  constructor
  · intro heq
    rcases h.highest with h0 | ⟨q, hq, -, hqs⟩
    · left
      omega
    · exact .inr ⟨q, hq, by omega⟩
  · intro hcases
    have hbound : entry.highestCompleted = 0 ∨
        1 ≤ entry.highestCompleted ∧ entry.highestCompleted < n := by
      rcases h.highest with h0 | ⟨q, hq, -, hqs⟩
      · exact .inl h0
      · have := hpos q hq
        have := hlt q hq
        omega
    rcases hcases with hn | ⟨q, hq, hqs⟩
    · omega
    · have := hmax q hq (h.free hbl q hq)
      have := hpos q hq
      omega

/-- An entry built from replicated rows below `n`, where the row of `n` is open if
there is one, and there is one if there is any beyond, is at `n` when it was built
from the row of `n` or of the sequence before. -/
theorem StreamGateState.Summarises.next_eq_iff (h : entry.Summarises rows)
    (hmax : ∀ q ∈ rows, q.replicated = true → q.streamSequence ≤ entry.highestCompleted)
    (hpos : ∀ q ∈ rows, 1 ≤ q.streamSequence)
    (hbefore : ∀ q ∈ rows, q.streamSequence < n → q.replicated = true)
    (hopen : ∀ q ∈ rows, q.streamSequence = n → q.replicated = false)
    (hdown : ∀ q ∈ rows, n ≤ q.streamSequence → ∃ q' ∈ rows, q'.streamSequence = n) :
    entry.next = n ↔
      n = 1 ∨ (∃ q ∈ rows, q.streamSequence = n) ∨ ∃ q ∈ rows, q.streamSequence + 1 = n := by
  cases hbl : entry.blocking with
  | some b =>
      obtain ⟨hnext, hrow⟩ := h.next_of_blocking hbl hbefore hopen hdown
      exact ⟨fun _ => .inr (.inl hrow), fun _ => hnext⟩
  | none =>
      have hnone : ¬ ∃ q ∈ rows, q.streamSequence = n := by
        rintro ⟨q, hq, hqs⟩
        have hrep := hopen q hq hqs
        rw [h.free hbl q hq] at hrep
        cases hrep
      have hlt : ∀ q ∈ rows, q.streamSequence < n := by
        intro q hq
        by_contra hle
        exact hnone (hdown q hq (by omega))
      rw [h.next_of_free hbl hmax hpos hlt, or_iff_right hnone]

end Next

end Highest

/-- Where a rebuilt gate is left, in terms of the stream of the key: at `n`, when the rows
of earlier events are replicated, that of `n` is open if it is there, and it is there if
there is any from `n` on. -/
theorem recovered_next_iff {env : CallEnv} {limit : Int} {out : List PendingDelivery}
    (hscan : scanDeliveryGateStates env db limit = .ok out) (hg : db.Gapless)
    {owner : String → LogicalStream}
    (howner : ∀ v ∈ db.storedEnvelope.rows, owner v.streamKey = v.logicalStream) {k : String}
    (hkey : (owner k).2.2.2 = k) {n : Int}
    (hbefore : ∀ u ∈ db.storedEnvelope.rows, u.logicalStream = owner k → u.streamSequence < n →
      ∀ d, db.deliveryState.find? u.eventId = some d → d.deliveryStatus = "REPLICATED")
    (hopen : ∀ u ∈ db.storedEnvelope.rows, u.logicalStream = owner k → u.streamSequence = n →
      ∀ d, db.deliveryState.find? u.eventId = some d → d.deliveryStatus ≠ "REPLICATED")
    (hdown : ∀ u ∈ db.storedEnvelope.rows, u.logicalStream = owner k → n < u.streamSequence →
      (db.deliveryState.find? u.eventId).isSome → ∃ x ∈ db.storedEnvelope.rows,
        x.logicalStream = owner k ∧ x.streamSequence = n ∧
          (db.deliveryState.find? x.eventId).isSome)
    (gate : OrderingGate) :
    ((gate.recoverFromScan (out.map (·.recovered))).entry k).next = n ↔
      n = 1 ∨ (∃ u ∈ db.storedEnvelope.rows, u.logicalStream = owner k ∧
          u.streamSequence = n ∧ db.Listed limit u) ∨
        ∃ u ∈ db.storedEnvelope.rows, u.logicalStream = owner k ∧
          u.streamSequence + 1 = n ∧ db.Listed limit u := by
  have hrows := scanDeliveryGateStates_streamRows hscan hg howner k
  -- a sequence is among the scanned rows of the key when its event was looked at
  have hseq : ∀ m, (∃ q ∈ (out.map (·.recovered)).filter (fun q => q.streamKey = k),
      q.streamSequence = m) ↔ ∃ u ∈ db.storedEnvelope.rows, u.logicalStream = owner k ∧
        u.streamSequence = m ∧ db.Listed limit u := by
    intro m
    constructor
    · rintro ⟨q, hq, hqs⟩
      obtain ⟨u, hu, hL, hus, hl, -⟩ := hrows.listed q hq
      exact ⟨u, hu, hL, hus.trans hqs, hl⟩
    · rintro ⟨u, hu, hL, hus, hl⟩
      have huk : u.streamKey = k := (congrArg (fun L : LogicalStream => L.2.2.2) hL).trans hkey
      obtain ⟨q, hq, hqs⟩ := scanDeliveryGateStates_lists hscan hu hl
      exact ⟨q, huk ▸ hq, hqs.trans hus⟩
  have hnext := (gate.recoverFromScan_pending out k).next_eq_iff
    (gate.recoverFromScan_highest_le (out.map (·.recovered)) k) (n := n) ?_ ?_ ?_ ?_
  · simp only [hnext, hseq, ← eq_sub_iff_add_eq]
  · intro q hq
    obtain ⟨u, hu, hL, hus, -⟩ := hrows.listed q hq
    have := (hg.sequence_le hu hL).1
    omega
  · intro q hq hlt
    obtain ⟨u, hu, hL, hus, -, d, hd, hstatus⟩ := hrows.listed q hq
    exact hstatus.mpr (hbefore u hu hL (by omega) d hd)
  · intro q hq hqs
    obtain ⟨u, hu, hL, hus, -, d, hd, hstatus⟩ := hrows.listed q hq
    exact Bool.eq_false_iff.mpr fun hrep =>
      hopen u hu hL (hus.trans hqs) d hd (hstatus.mp hrep)
  · intro q hq hle
    by_cases heq : q.streamSequence = n
    · exact ⟨q, hq, heq⟩
    · obtain ⟨u, hu, hL, hus, -, d, hd, -⟩ := hrows.listed q hq
      obtain ⟨x, hx, hxL, hxn, hrow⟩ := hdown u hu hL (by omega) (by rw [hd]; rfl)
      obtain ⟨dx, hdx⟩ := Option.isSome_iff_exists.mp hrow
      obtain ⟨q', hq', hqs', -⟩ := hrows.before q hq x hx hxL (by omega) dx hdx
      exact ⟨q', hq', hqs'.trans hxn⟩

/-- A recovered gate is at the first open event of a stream exactly when the scan came
to the event, or to the one before it, or there is none before it. -/
theorem Db.FirstOpen.recovered_check_iff {env : CallEnv} {limit : Int}
    {out : List PendingDelivery} (hscan : scanDeliveryGateStates env db limit = .ok out)
    (hg : db.Gapless) (hkeys : db.KeysApart) {v : StoredEnvelope}
    (hfirst : db.FirstOpen v) (gate : OrderingGate) :
    (gate.recoverFromScan (out.map (·.recovered))).check v.streamKey v.streamSequence =
        .allowed ↔
      v.streamSequence = 1 ∨ db.Listed limit v ∨
        ∃ u ∈ db.storedEnvelope.rows, u.logicalStream = v.logicalStream ∧
          u.streamSequence + 1 = v.streamSequence ∧ db.Listed limit u := by
  obtain ⟨owner, howner⟩ := hkeys.exists_owner
  have hv := howner v hfirst.stored
  obtain ⟨d, hd, hopen⟩ := hfirst.open_
  have hsame : ∀ u ∈ db.storedEnvelope.rows, u.logicalStream = owner v.streamKey →
      u.streamSequence = v.streamSequence → u = v :=
    fun u hu hL => hg.eq_of_sequence hu hfirst.stored (hL.trans hv)
  have hnext := recovered_next_iff hscan hg howner (k := v.streamKey) (n := v.streamSequence)
    (by rw [hv]; rfl) (fun u hu hL => hfirst.first u hu (hL.trans hv)) ?_ ?_ gate
  · rw [OrderingGate.check_eq_allowed_iff,
      and_iff_right (gate.recoverFromScan_pending out v.streamKey).inFlight, eq_comm, hnext, hv]
    refine or_congr_right (or_congr_left ?_)
    constructor
    · rintro ⟨u, hu, hL, hus, hl⟩
      exact hsame u hu (hL.trans hv.symm) hus ▸ hl
    · exact fun hl => ⟨v, hfirst.stored, rfl, rfl, hl⟩
  · intro u hu hL hus du hdu
    obtain rfl := hsame u hu hL hus
    cases hdu.symm.trans hd
    exact hopen
  · exact fun _ _ _ _ _ => ⟨v, hfirst.stored, hv.symm, rfl, by rw [hd]; rfl⟩

/-- What a recovery that returned did. -/
theorem DeliveryService.recover_ok {svc svc' : DeliveryService} {j j' : LocalJournal}
    {tr : List ((o : Effect) × o.Reply)}
    (hrun : Prog.Run EffectStep svc.recover j tr (.done (svc', .ok ())) j') :
    j' = j ∧ ∃ env out, scanDeliveryGateStates env j.db 10000 = .ok out ∧
      svc' = svc.withGate (svc.gate.recoverFromScan (out.map (·.recovered))) := by
  obtain ⟨-, h, -⟩ | ⟨r, j₁, tr', -, ⟨env, hexec⟩, hrun⟩ := hrun.op_inv
  · cases h
  obtain ⟨rfl, rfl⟩ := LocalJournal.read_eq_some hexec
  cases hscan : scanDeliveryGateStates env j.db 10000 with
  | ok out =>
      rw [hscan] at hrun
      obtain ⟨-, hdone, rfl⟩ := hrun.done_inv
      cases hdone
      exact ⟨rfl, env, out, hscan, rfl⟩
  | corrupted | error =>
      rw [hscan] at hrun
      cases hrun.done_inv.2.1

/-- Healthy rows with their envelopes can be scanned. -/
theorem Db.Healthy.scannable (h : db.Healthy) (hc : db.Consistent) :
    ∀ d ∈ db.deliveryState.rows, ∃ s : DeliveryStateRecord, d = s.toRow ∧ s.Verifies ∧
      ∃ v, db.storedEnvelope.find? d.eventId = some v ∧ v.Verifies := by
  intro d hd
  have hfind := KeyedTable.find?_of_mem hd
  obtain ⟨s, rfl, hs⟩ := h _ _ hfind
  obtain ⟨v, hv⟩ := Option.isSome_iff_exists.mp
    (hc.envelope_of_delivery (⟨hfind, hs.verifies⟩ : db.HasDelivery s.toRow.eventId s))
  exact ⟨s, rfl, hs.verifies, v, hv, hc.envelope _ _ hv⟩

/-- A recovery on verified rows returns. -/
theorem DeliveryService.recover_of_verified {env : CallEnv} (henv : env.Faultless)
    {j : LocalJournal} (hdb : ∀ d ∈ j.db.deliveryState.rows, ∃ s : DeliveryStateRecord,
      d = s.toRow ∧ s.Verifies ∧
        ∃ v, j.db.storedEnvelope.find? d.eventId = some v ∧ v.Verifies)
    (svc : DeliveryService) :
    ∃ tr svc', Prog.Run EffectStep svc.recover j tr (.done (svc', .ok ())) j := by
  have hsub : ∀ r ∈ j.db.gateRows 10000, r ∈ j.db.scanRows :=
    fun r hr => mem_orderBy.mp (mem_of_mem_limitRows hr)
  have hscan : scanDeliveryGateStates env j.db 10000 =
      .ok ((j.db.gateRows 10000).map DeliveryScanRow.toPending) :=
    scanDeliveries_of_verified henv hdb hsub
  have hstep : EffectStep j (.journal (.scanDeliveryGateStates 10000))
      (.ok ((j.db.gateRows 10000).map DeliveryScanRow.toPending)) j :=
    ⟨env, congrArg (fun r => some (j, r)) hscan⟩
  exact ⟨_, _, .op hstep (.refl _ _)⟩

/-! ## A stream beyond the limit -/

/-- The id of the `n`-th event of the stream. -/
def longId (n : Nat) : String := String.ofList (List.replicate (n + 1) 'x')

omit [Sha256] in
theorem longId_injective {m n : Nat} (h : longId m = longId n) : m = n := by
  have hlen := congrArg (fun s => s.toList.length) h
  simpa [longId] using hlen

/-- `n` events of one stream, all of them replicated. -/
structure Db.LongStream (db : Db) (n : Nat) : Prop where
  length : db.storedEnvelope.rows.length = n
  id : ∀ v ∈ db.storedEnvelope.rows, ∃ i < n, v.eventId = longId i
  input : ∀ v ∈ db.storedEnvelope.rows, v.routingInput = sampleInput "ns"
  producer : ∀ key row, db.producerSequence.find? key = some row → row.highestSeq < (n : Int) + 1
  healthy : db.Healthy
  replicated : ∀ v ∈ db.storedEnvelope.rows, db.Replicated v.eventId

/-- The same with the next event accepted and its row created. -/
structure Db.Extends (db' db : Db) (n : Nat) (v : StoredEnvelope) : Prop where
  rows : db'.storedEnvelope.rows = db.storedEnvelope.rows ++ [v]
  id : v.eventId = longId n
  input : v.routingInput = sampleInput "ns"
  sequence : v.journalSequence = db.storedEnvelope.rows.length + 1
  producer : ∀ key row, db'.producerSequence.find? key = some row →
    row.highestSeq < ((n + 1 : Nat) : Int) + 1
  delivery : db.deliveryState.Puts (longId n) (sampleRecord 20 (longId n) "ns").toRow
    db'.deliveryState

/-- The stream goes on with one more event. -/
theorem Db.LongStream.extend {tr : List JournalEvent} {n : Nat}
    (hrun : journalLts.Run (LocalJournal.open {}) tr ⟨{}, db, false⟩) (h : db.LongStream n) :
    ∃ tr' db' v, journalLts.Run (LocalJournal.open {}) tr' ⟨{}, db', false⟩ ∧
      db'.Extends db n v := by
  have hreach : Reachable ⟨{}, db, false⟩ := ⟨_, _, hrun⟩
  have hnew : db.storedEnvelope.find? (longId n) = none := by
    rw [KeyedTable.find?_eq_none_iff]
    intro v hv hid
    obtain ⟨i, hi, hvid⟩ := h.id v hv
    have := longId_injective (hvid.symm.trans hid)
    omega
  have hnorow : db.deliveryState.find? (longId n) = none := by
    by_contra hsome
    have henv := hreach.consistent.delivery (longId n) (Option.isSome_iff_ne_none.mpr hsome)
    rw [show (⟨{}, db, false⟩ : LocalJournal).db.storedEnvelope.find? (longId n) = none
      from hnew] at henv
    cases henv
  have hid : longId n ≠ "" := by
    intro hempty
    have := congrArg (fun s => s.toList.length) hempty
    simp [longId] at this
  obtain ⟨db₁, a, hrun₁, hstep, hproducer⟩ := sampleAccept hrun hid hnew h.producer "ns" 10
  have hnorow₁ : db₁.deliveryState.find? (longId n) = none := by
    rw [hstep.deliveryState]
    exact hnorow
  obtain ⟨t, hrun₂, ht⟩ := sampleCreated hrun₁ hstep.putsEnvelope.self hnorow₁ "ns" 20
  rw [hstep.deliveryState] at ht
  refine ⟨_, _, _, hrun₂, hstep.storedEnvelope, rfl, rfl, hreach.gapless.nextJournalSequence, ?_,
    ht⟩
  intro key row hrow
  have := hproducer key row hrow
  push_cast
  omega

namespace Db.Extends

variable {db' : Db} {n : Nat} {v : StoredEnvelope}

theorem mem_cases (h : db'.Extends db n v) {u : StoredEnvelope}
    (hu : u ∈ db'.storedEnvelope.rows) : u ∈ db.storedEnvelope.rows ∨ u = v := by
  rw [h.rows, List.mem_append, List.mem_singleton] at hu
  exact hu

theorem mem_new (h : db'.Extends db n v) : v ∈ db'.storedEnvelope.rows := by
  rw [h.rows]
  simp

theorem input_all (h : db'.Extends db n v) (hlong : db.LongStream n) {u : StoredEnvelope}
    (hu : u ∈ db'.storedEnvelope.rows) : u.routingInput = sampleInput "ns" := by
  rcases h.mem_cases hu with hu | rfl
  · exact hlong.input u hu
  · exact h.input

theorem healthy (h : db'.Extends db n v) (hlong : db.LongStream n) : db'.Healthy :=
  hlong.healthy.puts h.delivery ⟨_, rfl, pending_healthy
    (by
      show "craftrelay." ++ "inst" ++ "." ++ "ns" ++ ".events" ≠ ""
      decide)
    (by decide) (by decide)⟩

/-- The earlier events stay replicated. -/
theorem replicated (h : db'.Extends db n v) (hlong : db.LongStream n) {u : StoredEnvelope}
    (hu : u ∈ db.storedEnvelope.rows) : db'.Replicated u.eventId := by
  obtain ⟨d, hd, hrep⟩ := hlong.replicated u hu
  obtain ⟨i, hi, hid⟩ := hlong.id u hu
  have hne : longId n ≠ u.eventId := by
    intro heq
    have := longId_injective (heq.trans hid)
    omega
  exact ⟨d, (h.delivery.other hne).trans hd, hrep⟩

theorem hasDelivery (h : db'.Extends db n v) :
    db'.HasDelivery v.eventId (sampleRecord 20 (longId n) "ns") := by
  rw [h.id]
  exact ⟨h.delivery.self, sampleRecord_verifies _ _ _⟩

theorem allTracked (h : db'.Extends db n v) (hlong : db.LongStream n) : db'.AllTracked := by
  intro u hu
  rcases h.mem_cases hu with hu | rfl
  · obtain ⟨d, hd, -⟩ := h.replicated hlong hu
    rw [hd]
    rfl
  · rw [h.hasDelivery.row]
    rfl

theorem keysApart (h : db'.Extends db n v) (hlong : db.LongStream n) : db'.KeysApart := by
  intro u hu u' hu' _
  rw [StoredEnvelope.logicalStream_of_input (h.input_all hlong hu),
    StoredEnvelope.logicalStream_of_input (h.input_all hlong hu')]

theorem firstOpen (h : db'.Extends db n v) (hlong : db.LongStream n) : db'.FirstOpen v := by
  refine ⟨h.mem_new, ⟨_, h.hasDelivery.row, ?_⟩, ?_⟩
  · show "DELIVERY_PENDING" ≠ "REPLICATED"
    decide
  · intro u hu _ hlt d hd
    rcases h.mem_cases hu with hu | rfl
    · obtain ⟨d', hd', hrep⟩ := h.replicated hlong hu
      cases hd.symm.trans hd'
      exact hrep
    · omega

/-- There is one stream only, so it is numbered like the journal. -/
theorem sequence_eq (h : db'.Extends db n v) (hlong : db.LongStream n) (hg : db'.Gapless)
    {u : StoredEnvelope} (hu : u ∈ db'.storedEnvelope.rows) :
    u.streamSequence = u.journalSequence := by
  have hall : db'.streamEnvelopes (LogicalStream.formattedKey ("inst", "ns", "t", "orders")) =
      db'.storedEnvelope.rows := by
    refine List.filter_eq_self.mpr ?_
    intro u hu
    refine decide_eq_true (StoredEnvelope.formattedStreamKey_eq ?_)
    exact StoredEnvelope.logicalStream_of_input (h.input_all hlong hu)
  have hmap := hg.stream (LogicalStream.formattedKey ("inst", "ns", "t", "orders"))
  rw [hall, ← hg.journal] at hmap
  exact List.map_inj_left.mp hmap u hu

/-- The row of the new event, confirmed. -/
theorem longStream (h : db'.Extends db n v) (hlong : db.LongStream n)
    {k : ReplicatedDeliveryConfirmation} (hk : k.Matches (sampleRecord 20 (longId n) "ns"))
    (hpartition : 0 ≤ k.kafkaPartition) (hoffset : 0 ≤ k.kafkaOffset) {rev now : Int}
    {t : KeyedTable DeliveryState.eventId} {t' : KeyedTable LifecycleState.eventId}
    (ht : db'.deliveryState.Puts v.eventId
      ((sampleRecord 20 (longId n) "ns").replicated k rev now).sealed.toRow t) :
    ({ db' with deliveryState := t, lifecycleState := t' } : Db).LongStream (n + 1) where
  length := by
    show db'.storedEnvelope.rows.length = n + 1
    rw [h.rows, List.length_append, hlong.length]
    rfl
  id := by
    intro u hu
    rcases h.mem_cases hu with hu | rfl
    · obtain ⟨i, hi, hid⟩ := hlong.id u hu
      exact ⟨i, by omega, hid⟩
    · exact ⟨n, by omega, h.id⟩
  input u hu := h.input_all hlong hu
  producer := h.producer
  healthy := by
    have hhealthy := h.healthy hlong
    exact hhealthy.puts ht ⟨_, rfl, replicated_healthy (hhealthy.record h.hasDelivery) hk
      hpartition hoffset rev now⟩
  replicated := by
    intro u hu
    by_cases heq : v.eventId = u.eventId
    · exact ⟨_, heq ▸ ht.self, rfl⟩
    · rcases h.mem_cases hu with hu | rfl
      · obtain ⟨d, hd, hrep⟩ := h.replicated hlong hu
        exact ⟨d, (ht.other heq).trans hd, hrep⟩
      · exact absurd rfl heq

end Db.Extends

/-- A stream of any length that is replicated to its end. -/
theorem exists_longStream (n : Nat) :
    ∃ tr db, journalLts.Run (LocalJournal.open {}) tr ⟨{}, db, false⟩ ∧ db.LongStream n := by
  induction n with
  | zero =>
      refine ⟨[], .empty, .nil, rfl, ?_, ?_, ?_, ?_, ?_⟩
      · simp [Db.empty, KeyedTable.empty]
      · simp [Db.empty, KeyedTable.empty]
      · intro key row hrow
        cases hrow
      · intro e d hd
        cases hd
      · simp [Db.empty, KeyedTable.empty]
  | succ n ih =>
      obtain ⟨tr, db, hrun, hlong⟩ := ih
      obtain ⟨tr', db', v, hrun', hext⟩ := hlong.extend hrun
      have hreach : Reachable ⟨{}, db', false⟩ := ⟨_, _, hrun'⟩
      have hv : db'.storedEnvelope.find? v.eventId = some v := KeyedTable.find?_of_mem hext.mem_new
      obtain ⟨l, hst⟩ := hreach.consistent.hasStatus hv
      have hopen : (sampleRecord 20 (longId n) "ns").deliveryStatus ≠ "REPLICATED" := by
        show "DELIVERY_PENDING" ≠ "REPLICATED"
        decide
      have hmatches : ((DeliveryService.new sampleProfile).confirmation
          (sampleRouting "ns") 0 0).Matches (sampleRecord 20 (longId n) "ns") :=
        ⟨rfl, rfl, rfl, rfl⟩
      obtain ⟨t, t', hconfirm, ht, -⟩ := confirmReplicatedDelivery_of_current
        ((CallEnv.calm_faultless 30).executes _) hext.hasDelivery hst hopen hmatches
      have hstep : journalLts.step ⟨{}, db', false⟩ ⟨.calm 30, .confirmReplicatedDelivery v.eventId
          _ _, .updated⟩ ⟨{}, { db' with deliveryState := t, lifecycleState := t' }, false⟩ :=
        congrArg (LocalJournal.write ⟨{}, db', false⟩) hconfirm
      exact ⟨_, _, hrun'.snoc hstep,
        hext.longStream hlong hmatches (Int.le_refl 0) (Int.le_refl 0) ht⟩

/-- Past 10000 replicated events, recovery leaves the gate behind the next one. -/
theorem Db.Extends.not_allowed {db' : Db} {n : Nat} {v : StoredEnvelope}
    (h : db'.Extends db n v) (hlong : db.LongStream n) (hn : 10000 < n) (hg : db'.Gapless)
    (hc : db'.Consistent) {env : CallEnv} {out : List PendingDelivery}
    (hscan : scanDeliveryGateStates env db' 10000 = .ok out) (gate : OrderingGate) :
    (gate.recoverFromScan (out.map (·.recovered))).check v.streamKey v.streamSequence ≠
      .allowed := by
  have hv : v.journalSequence = n + 1 := by rw [h.sequence, hlong.length]
  have hseq := h.sequence_eq hlong hg h.mem_new
  have hlisted : ∀ u ∈ db'.storedEnvelope.rows, db'.Listed 10000 u → u.journalSequence ≤ 10000 :=
    fun u hu hl => ((h.allTracked hlong).listed_iff hc hg hu).mp hl
  rw [Ne, (h.firstOpen hlong).recovered_check_iff hscan hg (h.keysApart hlong)]
  rintro (hone | hl | ⟨u, hu, -, hus, hl⟩)
  · omega
  · have := hlisted v h.mem_new hl
    omega
  · have := hlisted u hu hl
    have := h.sequence_eq hlong hg hu
    omega

end CraftRelay
