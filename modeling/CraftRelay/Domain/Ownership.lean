import CraftRelay.Lib.Collected

/-!
# Ownership snapshots in the bridge

`craftrelay-domain`: a snapshot lists which node owns which namespace. It is validated as a
whole, while a lookup takes any entry that names the namespace and the node.
-/

namespace CraftRelay

open Collected (flag)

inductive OwnershipMode where
  | nodeLocal
  deriving DecidableEq, Repr

/-- The node and the agent a namespace belongs to. -/
structure NamespaceOwnershipEntry where
  «namespace» : String
  ownerNodeId : String
  ownerAgentId : String
  installationId : String
  mode : OwnershipMode
  deriving DecidableEq

/-- A node's view of who owns what. -/
structure OwnershipSnapshot where
  installationId : String
  nodeId : String
  mode : OwnershipMode
  entries : List NamespaceOwnershipEntry
  deriving DecidableEq

inductive OwnershipViolation where
  | missingOwner | duplicateNamespace | crossInstallation | unsupportedMode
  | dynamicElectionForbidden | ambiguousOwnership | notLocallyOwned
  deriving DecidableEq, Repr

/-- The body of the loop. `repeated` is what the set of namespaces answers. -/
def ownershipViolations (installationId : String) (repeated : Bool)
    (entry : NamespaceOwnershipEntry) : List OwnershipViolation :=
  flag (entry.ownerNodeId = "" ∨ entry.ownerAgentId = "") .missingOwner ++
  flag (repeated = true) .duplicateNamespace ++
  flag (entry.installationId ≠ installationId) .crossInstallation ++
  flag (entry.mode ≠ .nodeLocal) .unsupportedMode

def validateOwnershipSnapshot (snapshot : OwnershipSnapshot) :
    Except (List OwnershipViolation) Unit :=
  Collected.report <|
    flag (snapshot.mode ≠ .nodeLocal) .unsupportedMode ++
    Collected.scan (·.namespace) (ownershipViolations snapshot.installationId) [] snapshot.entries

def isNamespaceLocallyOwned (snapshot : OwnershipSnapshot) («namespace» : String) : Bool :=
  snapshot.entries.any fun e =>
    decide (e.namespace = «namespace») && decide (e.ownerNodeId = snapshot.nodeId)

/-! ## What an accepted snapshot is -/

/-- Every entry is for a namespace of its own, with an owner in the installation. -/
structure OwnershipSnapshot.Accepted (snapshot : OwnershipSnapshot) : Prop where
  owners : ∀ entry ∈ snapshot.entries, entry.ownerNodeId ≠ "" ∧ entry.ownerAgentId ≠ ""
  installation : ∀ entry ∈ snapshot.entries, entry.installationId = snapshot.installationId
  namespaces : (snapshot.entries.map (·.namespace)).Nodup

variable {snapshot : OwnershipSnapshot}

/-- Nothing is pushed for a new namespace exactly when it has an owner in the installation. -/
theorem ownershipViolations_eq_nil_iff {installationId : String}
    {entry : NamespaceOwnershipEntry} :
    ownershipViolations installationId false entry = [] ↔
      (entry.ownerNodeId ≠ "" ∧ entry.ownerAgentId ≠ "") ∧
        entry.installationId = installationId := by
  unfold ownershipViolations
  simp only [List.append_eq_nil_iff, Collected.flag_eq_nil_iff, not_or, not_not]
  constructor
  · intro h
    obtain ⟨⟨⟨howners, _⟩, hinstallation⟩, _⟩ := h
    exact ⟨howners, hinstallation⟩
  · intro h
    obtain ⟨howners, hinstallation⟩ := h
    -- there is one mode only
    exact ⟨⟨⟨howners, by simp⟩, hinstallation⟩, by simp⟩

/-- A snapshot is accepted exactly when every entry is in order and no namespace repeats. -/
theorem validateOwnershipSnapshot_eq_ok_iff :
    validateOwnershipSnapshot snapshot = .ok () ↔ snapshot.Accepted := by
  have hrepeated : ∀ entry, ownershipViolations snapshot.installationId true entry ≠ [] := by
    intro entry h
    simp [ownershipViolations, flag] at h
  unfold validateOwnershipSnapshot
  rw [Collected.report_eq_ok_iff, List.append_eq_nil_iff, Collected.flag_eq_nil_iff, not_not,
    Collected.scan_eq_nil_iff hrepeated]
  simp only [ownershipViolations_eq_nil_iff]
  constructor
  · intro ⟨_, hentries, hnamespaces, _⟩
    exact ⟨fun entry h => (hentries entry h).1, fun entry h => (hentries entry h).2, hnamespaces⟩
  · intro h
    exact ⟨by simp, fun entry hentry => ⟨h.owners entry hentry, h.installation entry hentry⟩,
      h.namespaces, by simp⟩

/-- The node owns what an entry gives to it. -/
theorem isNamespaceLocallyOwned_iff {«namespace» : String} :
    isNamespaceLocallyOwned snapshot «namespace» = true ↔
      ∃ entry ∈ snapshot.entries, entry.namespace = «namespace» ∧
        entry.ownerNodeId = snapshot.nodeId := by
  simp [isNamespaceLocallyOwned]

/-- A namespace has one entry, hence one owner. -/
theorem OwnershipSnapshot.Accepted.entry_unique (h : snapshot.Accepted)
    {e e' : NamespaceOwnershipEntry} (he : e ∈ snapshot.entries) (he' : e' ∈ snapshot.entries)
    (heq : e.namespace = e'.namespace) : e = e' :=
  List.inj_on_of_nodup_map h.namespaces he he' heq

end CraftRelay
