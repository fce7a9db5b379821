import CraftRelay.Lib.Collected
import CraftRelay.Client.ContractValidation

/-!
# Ownership snapshots in the client

`OwnershipSnapshot.java`. The constructors bound the texts, `validate` reports what is wrong
with the entries, and two methods answer which namespaces the node of the snapshot owns.
-/

namespace CraftRelay.Client

open Collected (flag)

namespace OwnershipSnapshot

inductive OwnershipMode where
  | nodeLocal
  deriving DecidableEq, Repr

inductive Violation where
  | missingOwner | duplicateNamespace | crossInstallation | unsupportedMode
  | dynamicElectionForbidden
  deriving DecidableEq, Repr

structure NamespaceEntry where
  «namespace» : JavaString
  ownerNodeId : JavaString
  ownerAgentId : JavaString
  installationId : JavaString
  mode : OwnershipMode
  deriving DecidableEq

def NamespaceEntry.construct (c : NamespaceEntry) : Except ContractViolation NamespaceEntry := do
  let «namespace» ← boundedText c.namespace "namespace" 128
  let ownerNodeId ← boundedText c.ownerNodeId "ownerNodeId" 128
  let ownerAgentId ← boundedText c.ownerAgentId "ownerAgentId" 128
  let installationId ← boundedText c.installationId "installationId" 128
  return ⟨«namespace», ownerNodeId, ownerAgentId, installationId, c.mode⟩

end OwnershipSnapshot

/-- The components of the record. -/
structure OwnershipSnapshot where
  snapshotId : JavaString
  snapshotVersion : Int64
  installationId : JavaString
  nodeId : JavaString
  mode : OwnershipSnapshot.OwnershipMode
  entries : List OwnershipSnapshot.NamespaceEntry
  deriving DecidableEq

namespace OwnershipSnapshot

def construct (c : OwnershipSnapshot) : Except ContractViolation OwnershipSnapshot := do
  let snapshotId ← boundedText c.snapshotId "snapshotId" 128
  let _ ← positiveInt64 c.snapshotVersion "snapshotVersion"
  let installationId ← boundedText c.installationId "installationId" 128
  let nodeId ← boundedText c.nodeId "nodeId" 128
  return ⟨snapshotId, c.snapshotVersion, installationId, nodeId, c.mode, c.entries⟩

/-- The body of the loop. `repeated` is what `seen` answers. -/
def entryViolations (installationId : JavaString) (repeated : Bool) (entry : NamespaceEntry) :
    List Violation :=
  flag (entry.ownerNodeId.isBlank = true ∨ entry.ownerAgentId.isBlank = true) .missingOwner ++
  flag (repeated = true) .duplicateNamespace ++
  flag (entry.installationId ≠ installationId) .crossInstallation ++
  flag (entry.mode ≠ .nodeLocal) .unsupportedMode

def validate (snapshot : OwnershipSnapshot) : List Violation :=
  flag (snapshot.mode ≠ .nodeLocal) .unsupportedMode ++
  Collected.scan (·.namespace) (entryViolations snapshot.installationId) [] snapshot.entries

def isNamespaceLocallyOwned (snapshot : OwnershipSnapshot) («namespace» : JavaString) : Bool :=
  snapshot.entries.any fun e =>
    decide (e.namespace = «namespace») && decide (e.ownerNodeId = snapshot.nodeId)

def ownedNamespaces (snapshot : OwnershipSnapshot) : List JavaString :=
  (snapshot.entries.filter fun e => decide (e.ownerNodeId = snapshot.nodeId)).map (·.namespace)

/-! ## What is reported, and what is owned -/

variable {snapshot : OwnershipSnapshot}

theorem namespaces_nodup (h : snapshot.validate = []) :
    (snapshot.entries.map (·.namespace)).Nodup := by
  have hrepeated : ∀ entry, entryViolations snapshot.installationId true entry ≠ [] := by
    intro entry hentry
    simp [entryViolations, flag] at hentry
  unfold validate at h
  rw [List.append_eq_nil_iff, Collected.scan_eq_nil_iff hrepeated] at h
  exact h.2.2.1

/-- The two answers are the same. -/
theorem isNamespaceLocallyOwned_iff {«namespace» : JavaString} :
    snapshot.isNamespaceLocallyOwned «namespace» = true ↔
      «namespace» ∈ snapshot.ownedNamespaces := by
  unfold isNamespaceLocallyOwned ownedNamespaces
  rw [List.any_eq_true, List.mem_map]
  simp only [Bool.and_eq_true, decide_eq_true_eq, List.mem_filter]
  constructor
  · intro ⟨entry, hentry, hnamespace, howner⟩
    exact ⟨entry, ⟨hentry, howner⟩, hnamespace⟩
  · intro ⟨entry, ⟨hentry, howner⟩, hnamespace⟩
    exact ⟨entry, hentry, hnamespace, howner⟩

end OwnershipSnapshot

end CraftRelay.Client
