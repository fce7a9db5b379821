import Mathlib.Data.List.MinMax
import CraftRelay.Client.ContractValidation

/-!
# Tracking the lifecycle of an event

`PublishLifecycleSnapshot.java` and `LifecycleSnapshotTracker.java`. A tracker keeps the
snapshot of the greatest revision it was given. What it ends with is the `argmax` of the
revisions, so the order in which snapshots arrive, and how often, is forgotten.
-/

namespace CraftRelay.Client

/-! ## Snapshots -/

namespace PublishLifecycleSnapshot

inductive DeliveryStatus where
  | notAccepted | localAcceptedFake | pending | retrying | replicated | deliveryBlocked
  deriving DecidableEq, Repr

inductive ProjectionStatus where
  | notRequired | pending | acknowledged | blocked
  deriving DecidableEq, Repr

inductive RetentionStatus where
  | present | eligible | removed | integrityBlocked
  deriving DecidableEq, Repr

/-- The constructor of `AttemptSummary`. -/
def checkAttemptSummary (attemptNumber : Int32) (outcomeCode : JavaString) :
    Except ContractViolation Unit := do
  let _ ← positiveInt32 attemptNumber "attemptNumber"
  let _ ← boundedText outcomeCode "outcomeCode" 128

structure AttemptSummary where
  attemptNumber : Int32
  outcomeCode : JavaString
  constructed : checkAttemptSummary attemptNumber outcomeCode = .ok ()

/-- The constructor of `PublishLifecycleSnapshot`. -/
def check (installationId eventId : JavaString) (revision : Int64) (snapshotChecksum : Bytes)
    (attemptSummaries : List AttemptSummary) : Except ContractViolation Unit := do
  let _ ← boundedText installationId "installationId" 128
  let _ ← canonicalUuidV7 eventId "eventId"
  let _ ← positiveInt64 revision "lifecycleRevision"
  let _ ← fixedChecksum snapshotChecksum "snapshotChecksum"
  Except.refuseIf (16 < attemptSummaries.length)
    ⟨.boundsExceeded, "attempt summaries exceed 16"⟩

end PublishLifecycleSnapshot

structure PublishLifecycleSnapshot where
  installationId : JavaString
  eventId : JavaString
  revision : Int64
  snapshotChecksum : Bytes
  deliveryStatus : PublishLifecycleSnapshot.DeliveryStatus
  projectionStatus : PublishLifecycleSnapshot.ProjectionStatus
  retentionStatus : PublishLifecycleSnapshot.RetentionStatus
  attemptSummaries : List PublishLifecycleSnapshot.AttemptSummary
  fakeNonDurable : Bool
  constructed : PublishLifecycleSnapshot.check installationId eventId revision snapshotChecksum
    attemptSummaries = .ok ()

namespace PublishLifecycleSnapshot

theorem length_snapshotChecksum (s : PublishLifecycleSnapshot) :
    s.snapshotChecksum.length = 32 := by
  have h := s.constructed
  unfold check at h
  rw [boundedText_bind, canonicalUuidV7_bind, positiveInt64_bind, fixedChecksum_bind] at h
  exact h.2.2.2.1

/-- The checksum as an array of 32 bytes. -/
def checksum (s : PublishLifecycleSnapshot) : Checksum :=
  ⟨s.snapshotChecksum, s.length_snapshotChecksum⟩

/-- What a snapshot is compared by. -/
def version (s : PublishLifecycleSnapshot) : Int64 × Bytes := (s.revision, s.snapshotChecksum)

end PublishLifecycleSnapshot

/-! ## The tracker -/

structure LifecycleSnapshotTracker where
  current : Option PublishLifecycleSnapshot

namespace LifecycleSnapshotTracker

inductive Decision where
  | applied | duplicate | stale
  deriving DecidableEq, Repr

def new : LifecycleSnapshotTracker := ⟨none⟩

/-- `apply` is synchronized, so calls come one after the other. -/
def apply (t : LifecycleSnapshotTracker) (incoming : PublishLifecycleSnapshot) :
    LifecycleSnapshotTracker × Except ContractViolation Decision :=
  match t.current with
  | none => (⟨some incoming⟩, .ok .applied)
  | some current =>
    if current.revision < incoming.revision then (⟨some incoming⟩, .ok .applied)
    else if incoming.revision < current.revision then (t, .ok .stale)
    else if incoming.snapshotChecksum = current.snapshotChecksum then (t, .ok .duplicate)
    else (t, .error ⟨.lifecycleIntegrityConflict,
      "same lifecycle revision has a different snapshot checksum"⟩)

/-- The tracker after a list of calls; one that throws is followed by the next. -/
def applyAll (t : LifecycleSnapshotTracker) (incoming : List PublishLifecycleSnapshot) :
    LifecycleSnapshotTracker :=
  incoming.foldl (fun t s => (t.apply s).1) t

variable {t : LifecycleSnapshotTracker} {s current : PublishLifecycleSnapshot}
  {xs ys : List PublishLifecycleSnapshot}

/-- What a call can do. -/
theorem apply_cases (t : LifecycleSnapshotTracker) (s : PublishLifecycleSnapshot) :
    (t.apply s = (⟨some s⟩, .ok .applied) ∧
        ∀ current, t.current = some current → current.revision.toInt < s.revision.toInt) ∨
      (∃ current, t.current = some current ∧ s.revision.toInt ≤ current.revision.toInt ∧
        (t.apply s).1 = t ∧ (t.apply s).2 ≠ .ok .applied) := by
  unfold apply
  cases hcurrent : t.current with
  | none => exact .inl ⟨rfl, nofun⟩
  | some current =>
      simp only [Int64.lt_iff_toInt_lt]
      split
      · rename_i hlt
        refine .inl ⟨rfl, ?_⟩
        rintro _ ⟨rfl⟩
        exact hlt
      · rename_i hle
        refine .inr ⟨current, rfl, Int.not_lt.mp hle, ?_⟩
        split
        · exact ⟨rfl, nofun⟩
        · split
          · exact ⟨rfl, nofun⟩
          · exact ⟨rfl, nofun⟩

/-- Only a greater revision is taken over. -/
theorem apply_current : (t.apply s).1.current =
    List.argAux (fun b c => c.revision.toInt < b.revision.toInt) t.current s := by
  rcases apply_cases t s with ⟨happly, hlt⟩ | ⟨current, hcurrent, hle, hsame, -⟩
  · rw [happly]
    cases hcurrent : t.current with
    | none => rfl
    | some current => exact (if_pos (hlt current hcurrent)).symm
  · rw [hsame, hcurrent]
    exact (if_neg (Int.not_lt.mpr hle)).symm

theorem applyAll_current : (t.applyAll xs).current =
    xs.foldl (List.argAux fun b c => c.revision.toInt < b.revision.toInt) t.current := by
  induction xs generalizing t with
  | nil => rfl
  | cons s xs ih =>
      show ((t.apply s).1.applyAll xs).current = _
      rw [ih, apply_current]
      rfl

/-- A new tracker ends with a snapshot that has the greatest revision of those it was
given. -/
theorem greatest_of_applyAll_new (h : (new.applyAll xs).current = some current) :
    current ∈ xs ∧ ∀ s ∈ xs, s.revision.toInt ≤ current.revision.toInt := by
  have hargmax : (xs.argmax fun s => s.revision.toInt) = some current :=
    applyAll_current.symm.trans h
  exact ⟨List.argmax_mem hargmax, fun s hs =>
    List.le_of_mem_argmax (f := fun s : PublishLifecycleSnapshot => s.revision.toInt) hs hargmax⟩

theorem exists_applyAll_new (h : s ∈ xs) : ∃ current, (new.applyAll xs).current = some current := by
  refine Option.ne_none_iff_exists'.mp fun hnone => ?_
  have hargmax : (xs.argmax fun s => s.revision.toInt) = none := applyAll_current.symm.trans hnone
  rw [List.argmax_eq_none.mp hargmax] at h
  cases h

/-- Snapshots of the same revision have the same checksum. -/
def Agreeing (xs : List PublishLifecycleSnapshot) : Prop :=
  ∀ s ∈ xs, ∀ s' ∈ xs, s.revision = s'.revision → s.snapshotChecksum = s'.snapshotChecksum

/-- Whatever the order and the repetitions, it ends with the version of a snapshot that has
the greatest revision. -/
theorem applyAll_new_version (hxs : Agreeing xs) (hmem : ∀ s, s ∈ ys ↔ s ∈ xs) (hs : s ∈ xs)
    (hgreatest : ∀ s' ∈ xs, s'.revision.toInt ≤ s.revision.toInt) :
    (new.applyAll ys).current.map PublishLifecycleSnapshot.version = some s.version := by
  obtain ⟨current, hcurrent⟩ := exists_applyAll_new ((hmem s).mpr hs)
  obtain ⟨hin, hmax⟩ := greatest_of_applyAll_new hcurrent
  have hin' := (hmem current).mp hin
  have hrevision : current.revision = s.revision :=
    Int64.toInt_inj.mp (Int.le_antisymm (hgreatest current hin') (hmax s ((hmem s).mpr hs)))
  rw [hcurrent, Option.map_some]
  unfold PublishLifecycleSnapshot.version
  rw [hrevision, hxs current hin' s hs hrevision]

/-- The current revision never decreases. -/
theorem apply_revision_le (h : t.current = some current) :
    ∃ current', (t.apply s).1.current = some current' ∧
      current.revision.toInt ≤ current'.revision.toInt := by
  rcases apply_cases t s with ⟨happly, hlt⟩ | ⟨-, -, -, hsame, -⟩
  · exact ⟨s, by rw [happly], Int.le_of_lt (hlt current h)⟩
  · exact ⟨current, by rw [hsame, h], Int.le_refl _⟩

theorem applyAll_revision_le (h : t.current = some current) :
    ∃ current', (t.applyAll xs).current = some current' ∧
      current.revision.toInt ≤ current'.revision.toInt := by
  induction xs generalizing t current with
  | nil => exact ⟨current, h, Int.le_refl _⟩
  | cons s xs ih =>
      obtain ⟨next, hnext, hle⟩ := apply_revision_le (s := s) h
      obtain ⟨last, hlast, hle'⟩ := ih hnext
      exact ⟨last, hlast, Int.le_trans hle hle'⟩

end LifecycleSnapshotTracker

end CraftRelay.Client
