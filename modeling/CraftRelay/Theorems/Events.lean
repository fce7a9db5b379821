import CraftRelay.Client.LifecycleSnapshotTracker
import CraftRelay.Client.Uuid

/-!
# Events on both sides

The bridge and the client take the same texts for event identifiers and decide alike on the
revisions of a lifecycle, and what a tracker ends with does not depend on the order in which
snapshots reach it.
-/

namespace CraftRelay.Client

open LifecycleSnapshotTracker (Agreeing)

/-! ## Identifiers -/

/-- The texts `is_canonical_uuid_v7` accepts are those `canonicalUuidV7` does not throw on,
as long as `UUID.fromString` reads back what `UUID.toString` printed. -/
theorem uuid_acceptance_agrees {fromString : JavaString → Option Uuid}
    (hinverts : ∀ u : Uuid, u.InRange → fromString u.toText = some u) (s field : String) :
    isCanonicalUuidV7 s = true ↔
      ∃ v, canonicalUuidV7Reading fromString (.ofString s) field = .ok v := by
  have hunits : IsUuidV7Text (JavaString.ofString s).units ↔
      IsUuidV7Text (s.toList.map Char.toNat) :=
    JavaString.units_iff (JavaString.oneUnit_of_narrow narrow_isUuidChar) fun _ h => h.all
  have hbytes : IsUuidV7Text ((utf8 s).map UInt8.toNat) ↔
      IsUuidV7Text (s.toList.map Char.toNat) := by
    rw [← String.ofList_toList (s := s), utf8_ofList, String.toList_ofList]
    exact Ascii.encode_iff narrow_isUuidChar fun _ h => h.all
  rw [exists_reading_iff hinverts, isCanonicalUuidV7_iff, hunits, hbytes]

/-- The first identifier of the shared vectors. -/
theorem uuid_acceptance_agrees_shared :
    isCanonicalUuidV7 "01890f3e-7b4c-7cc2-98c8-3f0f5f3f9b4a" = true ∧
      ∃ v, canonicalUuidV7 (.ofString "01890f3e-7b4c-7cc2-98c8-3f0f5f3f9b4a") "eventId" =
        .ok v := by
  have hvalid : isCanonicalUuidV7 "01890f3e-7b4c-7cc2-98c8-3f0f5f3f9b4a" = true := by
    decide +kernel
  exact ⟨hvalid, (uuid_acceptance_agrees (fun _ h => Uuid.fromString_toText h) _ _).mp hvalid⟩

/-! ## Lifecycles -/

/-- What the tracker answers where the bridge decides so. -/
def lifecycleAnswer : RevisionDecision → Except ContractViolation LifecycleSnapshotTracker.Decision
  | .inserted => .ok .applied
  | .duplicate => .ok .duplicate
  | .stale => .ok .stale
  | .integrityConflict => .error ⟨.lifecycleIntegrityConflict,
      "same lifecycle revision has a different snapshot checksum"⟩

/-- A tracker with a current snapshot answers as `compare_revision` decides. -/
theorem apply_answer {t : LifecycleSnapshotTracker} {current : PublishLifecycleSnapshot}
    (h : t.current = some current) (s : PublishLifecycleSnapshot) :
    (t.apply s).2 = lifecycleAnswer
      (compareRevision current.revision current.checksum s.revision s.checksum) := by
  have hchecksum : s.checksum = current.checksum ↔ s.snapshotChecksum = current.snapshotChecksum :=
    Subtype.ext_iff
  rw [compareRevision_eq]
  unfold LifecycleSnapshotTracker.apply
  rw [h]
  simp only [hchecksum]
  split
  · rfl
  · split
    · rfl
    · split
      · rfl
      · rfl

/-- Snapshots whose checksum is determined by their revision leave every new tracker with
the greatest revision and its checksum, in any order and however often they are applied.
The revision of any tracker never decreases, only an applied snapshot changes it, and it
decides as the bridge does. -/
theorem lifecycle_tracking_converges {xs : List PublishLifecycleSnapshot} (hxs : Agreeing xs) :
    (∀ ys, (∀ s, s ∈ ys ↔ s ∈ xs) →
      ∀ s ∈ xs, (∀ s' ∈ xs, s'.revision.toInt ≤ s.revision.toInt) →
        (LifecycleSnapshotTracker.new.applyAll ys).current.map
          PublishLifecycleSnapshot.version = some s.version) ∧
    (∀ ys zs, (∀ s, s ∈ ys ↔ s ∈ xs) → (∀ s, s ∈ zs ↔ s ∈ xs) →
      (LifecycleSnapshotTracker.new.applyAll ys).current.map PublishLifecycleSnapshot.version =
        (LifecycleSnapshotTracker.new.applyAll zs).current.map
          PublishLifecycleSnapshot.version) ∧
    (∀ (t : LifecycleSnapshotTracker) (ys : List PublishLifecycleSnapshot) current,
      t.current = some current → ∃ current', (t.applyAll ys).current = some current' ∧
        current.revision.toInt ≤ current'.revision.toInt) ∧
    (∀ (t : LifecycleSnapshotTracker) s,
      (t.apply s).2 ≠ .ok .applied → (t.apply s).1.current = t.current) ∧
    (∀ (t : LifecycleSnapshotTracker) s current, t.current = some current →
      (t.apply s).2 = lifecycleAnswer
        (compareRevision current.revision current.checksum s.revision s.checksum)) := by
  refine ⟨?_, ?_, ?_, ?_, ?_⟩
  · intro ys hys s hs hgreatest
    exact LifecycleSnapshotTracker.applyAll_new_version hxs hys hs hgreatest
  · intro ys zs hys hzs
    cases hend : (LifecycleSnapshotTracker.new.applyAll ys).current with
    | none =>
        -- a tracker that ends with nothing was given nothing
        have hempty : ∀ s, s ∉ xs := by
          intro s hs
          obtain ⟨current, hcurrent⟩ :=
            LifecycleSnapshotTracker.exists_applyAll_new ((hys s).mpr hs)
          rw [hend] at hcurrent
          cases hcurrent
        have hnil : zs = [] := List.eq_nil_iff_forall_not_mem.mpr fun s hs =>
          hempty s ((hzs s).mp hs)
        rw [hnil]
        rfl
    | some current =>
        obtain ⟨hin, hmax⟩ := LifecycleSnapshotTracker.greatest_of_applyAll_new hend
        have hgreatest : ∀ s' ∈ xs, s'.revision.toInt ≤ current.revision.toInt :=
          fun s' hs' => hmax s' ((hys s').mpr hs')
        rw [Option.map_some, LifecycleSnapshotTracker.applyAll_new_version hxs hzs
          ((hys current).mp hin) hgreatest]
  · intro t ys current hcurrent
    exact LifecycleSnapshotTracker.applyAll_revision_le hcurrent
  · intro t s hanswer
    rcases LifecycleSnapshotTracker.apply_cases t s with ⟨happly, -⟩ | ⟨-, -, -, hsame, -⟩
    · rw [happly] at hanswer
      exact absurd rfl hanswer
    · rw [hsame]
  · intro t s current hcurrent
    exact apply_answer hcurrent s

/-- A snapshot of an event at a revision. -/
def sampleSnapshot (revision : Int64) (fill : UInt8)
    (status : PublishLifecycleSnapshot.DeliveryStatus)
    (h : PublishLifecycleSnapshot.check (.ofString "installation-a")
      (.ofString "01890f3e-7b4c-7cc2-98c8-3f0f5f3f9b4a") revision (List.replicate 32 fill) [] =
        .ok ()) : PublishLifecycleSnapshot where
  installationId := .ofString "installation-a"
  eventId := .ofString "01890f3e-7b4c-7cc2-98c8-3f0f5f3f9b4a"
  revision := revision
  snapshotChecksum := List.replicate 32 fill
  deliveryStatus := status
  projectionStatus := .notRequired
  retentionStatus := .present
  attemptSummaries := []
  fakeNonDurable := false
  constructed := h

def sampleSnapshots : List PublishLifecycleSnapshot :=
  [sampleSnapshot 1 0 .pending (by decide +kernel),
    sampleSnapshot 2 7 .replicated (by decide +kernel)]

/-- Two snapshots, the later one first and once more at the end. -/
theorem lifecycle_tracking_converges_reordered :
    Agreeing sampleSnapshots ∧
      (LifecycleSnapshotTracker.new.applyAll
        (sampleSnapshots.reverse ++ sampleSnapshots)).current.map
          PublishLifecycleSnapshot.version = some (2, List.replicate 32 7) := by
  have hagreeing : Agreeing sampleSnapshots := by
    unfold Agreeing sampleSnapshots
    simp only [List.forall_mem_cons, List.not_mem_nil, false_imp_iff, implies_true, and_true]
    exact ⟨⟨trivial, fun h => absurd h (by decide)⟩, fun h => absurd h (by decide)⟩
  refine ⟨hagreeing, (lifecycle_tracking_converges hagreeing).1 _ (by simp) _
    (List.mem_cons_of_mem _ List.mem_cons_self) ?_⟩
  unfold sampleSnapshots
  simp only [List.forall_mem_cons, List.not_mem_nil, false_imp_iff, implies_true, and_true]
  exact ⟨by decide, by decide⟩

end CraftRelay.Client
