import CraftRelay.Client.OwnershipSnapshot
import CraftRelay.Domain.Ownership

/-!
# Namespace ownership

A namespace is owned by one node of an installation, whichever node asks.
-/

namespace CraftRelay

/-- The node and its agent are listed as an owner of the namespace. -/
def OwnershipSnapshot.Owner (snapshot : OwnershipSnapshot) («namespace» : String)
    (owner : String × String) : Prop :=
  ∃ entry ∈ snapshot.entries, entry.namespace = «namespace» ∧
    (entry.ownerNodeId, entry.ownerAgentId) = owner

theorem OwnershipSnapshot.Accepted.owner_unique {snapshot : OwnershipSnapshot}
    (h : snapshot.Accepted) {ns : String} {owner owner' : String × String}
    (howner : snapshot.Owner ns owner) (howner' : snapshot.Owner ns owner') : owner = owner' := by
  obtain ⟨entry, hentry, hns, rfl⟩ := howner
  obtain ⟨entry', hentry', hns', rfl⟩ := howner'
  rw [h.entry_unique hentry hentry' (hns.trans hns'.symm)]

namespace Client.OwnershipSnapshot

/-- The node and its agent are listed as an owner of the namespace. -/
def Owner (snapshot : OwnershipSnapshot) («namespace» : JavaString)
    (owner : JavaString × JavaString) : Prop :=
  ∃ entry ∈ snapshot.entries, entry.namespace = «namespace» ∧
    (entry.ownerNodeId, entry.ownerAgentId) = owner

theorem owner_unique {snapshot : OwnershipSnapshot} (h : snapshot.validate = [])
    {ns : JavaString} {owner owner' : JavaString × JavaString}
    (howner : snapshot.Owner ns owner) (howner' : snapshot.Owner ns owner') :
    owner = owner' := by
  obtain ⟨entry, hentry, hns, rfl⟩ := howner
  obtain ⟨entry', hentry', hns', rfl⟩ := howner'
  rw [List.inj_on_of_nodup_map (namespaces_nodup h) hentry hentry' (hns.trans hns'.symm)]

end Client.OwnershipSnapshot

/-- Two nodes that accept the same entries never both own a namespace; an accepted snapshot
names at most one owner of a namespace, in both languages; and the client's two ways to ask
agree. -/
theorem namespace_ownership_exclusive :
    (∀ a b : OwnershipSnapshot, a.entries = b.entries → a.installationId = b.installationId →
      a.nodeId ≠ b.nodeId → validateOwnershipSnapshot a = .ok () →
      validateOwnershipSnapshot b = .ok () →
      ∀ ns, ¬ (isNamespaceLocallyOwned a ns = true ∧ isNamespaceLocallyOwned b ns = true)) ∧
    (∀ snapshot : OwnershipSnapshot, validateOwnershipSnapshot snapshot = .ok () →
      ∀ ns owner owner', snapshot.Owner ns owner → snapshot.Owner ns owner' → owner = owner') ∧
    (∀ snapshot : Client.OwnershipSnapshot, snapshot.validate = [] →
      ∀ ns owner owner', snapshot.Owner ns owner → snapshot.Owner ns owner' → owner = owner') ∧
    ∀ (snapshot : Client.OwnershipSnapshot) (ns : Client.JavaString),
      snapshot.isNamespaceLocallyOwned ns = true ↔ ns ∈ snapshot.ownedNamespaces := by
  refine ⟨?_, ?_, ?_, ?_⟩
  · intro a b hentries _ hnodes ha _ ns ⟨howned, howned'⟩
    rw [isNamespaceLocallyOwned_iff] at howned howned'
    obtain ⟨entry, hentry, hns, hnode⟩ := howned
    obtain ⟨entry', hentry', hns', hnode'⟩ := howned'
    rw [← hentries] at hentry'
    have hsame := (validateOwnershipSnapshot_eq_ok_iff.mp ha).entry_unique hentry hentry'
      (hns.trans hns'.symm)
    apply hnodes
    rw [← hnode, ← hnode', hsame]
  · intro snapshot h ns owner owner' howner howner'
    exact (validateOwnershipSnapshot_eq_ok_iff.mp h).owner_unique howner howner'
  · intro snapshot h ns owner owner' howner howner'
    exact Client.OwnershipSnapshot.owner_unique h howner howner'
  · intro snapshot ns
    exact Client.OwnershipSnapshot.isNamespaceLocallyOwned_iff

/-- Two nodes of one installation, and the entry of one of them. -/
def nodeSnapshot (nodeId : String) : OwnershipSnapshot where
  installationId := "installation-a"
  nodeId := nodeId
  mode := .nodeLocal
  entries := [⟨"economy", "node-1", "agent-1", "installation-a", .nodeLocal⟩]

theorem namespace_ownership_exclusive_two_nodes :
    isNamespaceLocallyOwned (nodeSnapshot "node-1") "economy" = true ∧
      ¬ (isNamespaceLocallyOwned (nodeSnapshot "node-1") "economy" = true ∧
        isNamespaceLocallyOwned (nodeSnapshot "node-2") "economy" = true) :=
  ⟨by decide, namespace_ownership_exclusive.1 (nodeSnapshot "node-1") (nodeSnapshot "node-2") rfl
    rfl (by decide) (by decide) (by decide) "economy"⟩

end CraftRelay
