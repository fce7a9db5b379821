import CraftRelay.Lib.Joined
import CraftRelay.Journal.Accept
import CraftRelay.Delivery.Policy

/-!
# What the joined names say

The topic of an event, the key of its stream's head, its partition key and the
text of its routing checksum are all fields joined by a separator that the fields
may contain. Each of them determines its fields exactly as far as the lemmas of
`Joined` say.
-/

namespace CraftRelay

/-- The routing input of an accepted event. -/
def StoredEnvelope.routingInput (v : StoredEnvelope) : RoutingInput where
  installationId := v.installationId
  «namespace» := v.namespace
  logicalStreamType := v.logicalStreamType
  streamKey := v.streamKey
  eventType := v.eventType
  routingVersion := v.routingVersion

/-- The routing input of a request, which is that of its envelope. -/
def AcceptRequest.routingInput (req : AcceptRequest) : RoutingInput where
  installationId := req.installationId
  «namespace» := req.namespace
  logicalStreamType := req.logicalStreamType
  streamKey := req.streamKey
  eventType := req.eventType
  routingVersion := req.routingVersion

/-- The fields that name a logical stream. -/
def RoutingInput.streamFields (input : RoutingInput) : List String :=
  [input.installationId, input.namespace, input.logicalStreamType, input.streamKey]

/-- The fields a routing checksum covers. -/
def RoutingInput.routingFields (input : RoutingInput) : List String :=
  input.streamFields ++ [input.eventType, toString input.routingVersion]

/-- Whatever `resolve_routing` answers, it answers these three texts, for version 1. -/
theorem resolveRouting_eq_ok [Sha256] {input : RoutingInput} {routing : RoutingResolution}
    (h : resolveRouting input = .ok routing) :
    routing.topic = input.topic ∧ routing.partitionKey = input.partitionKey ∧
      routing.routingChecksum = Sha256.digest (utf8 input.canonical) ∧
      input.routingVersion = 1 := by
  unfold resolveRouting at h
  split at h
  · cases h
  rename_i hversion
  split at h
  · cases h
  · cases h
    exact ⟨rfl, rfl, rfl, not_not.mp hversion⟩

/-! ## Topics -/

theorem RoutingInput.topic_eq (input : RoutingInput) :
    input.topic = "craftrelay." ++
      (input.installationId ++ String.singleton '.' ++ input.namespace) ++ ".events" := by
  unfold RoutingInput.topic
  simp only [String.append_assoc]
  rfl

/-- Topics are equal when their middle parts are. -/
theorem RoutingInput.topic_eq_iff {a b : RoutingInput} :
    a.topic = b.topic ↔ a.installationId ++ String.singleton '.' ++ a.namespace =
      b.installationId ++ String.singleton '.' ++ b.namespace := by
  rw [a.topic_eq, b.topic_eq]
  generalize a.installationId ++ String.singleton '.' ++ a.namespace = m
  generalize b.installationId ++ String.singleton '.' ++ b.namespace = n
  simp [← String.toList_inj]

theorem topic_determines_iff {a b : RoutingInput} :
    (a.topic = b.topic → a.installationId = b.installationId ∧ a.namespace = b.namespace) ↔
      ¬ Joined.TextShifted '.' a.installationId a.namespace b.installationId b.namespace ∧
        ¬ Joined.TextShifted '.' b.installationId b.namespace a.installationId a.namespace := by
  rw [RoutingInput.topic_eq_iff]
  exact Joined.eq_of_text_pair_iff

/-! ## Stream keys and routing checksums -/

theorem joinNul_determines_iff {xs ys : List String} (hx : xs ≠ []) (hy : ys ≠ []) :
    (joinNul xs = joinNul ys → xs = ys) ↔ ¬ Joined.TextRecut '\x00' xs ys :=
  @Joined.eq_of_intercalate_text_iff '\x00' xs ys hx hy

theorem AcceptRequest.formattedStreamKey_eq (req : AcceptRequest) :
    req.formattedStreamKey = joinNul req.routingInput.streamFields := rfl

theorem RoutingInput.partitionKey_eq (input : RoutingInput) :
    input.partitionKey = joinNul input.streamFields := rfl

theorem RoutingInput.canonical_eq (input : RoutingInput) :
    input.canonical = joinNul input.routingFields := rfl

/-- The two requests name the same logical stream. -/
structure AcceptRequest.SameStream (r₁ r₂ : AcceptRequest) : Prop where
  installationId : r₁.installationId = r₂.installationId
  «namespace» : r₁.namespace = r₂.namespace
  logicalStreamType : r₁.logicalStreamType = r₂.logicalStreamType
  streamKey : r₁.streamKey = r₂.streamKey

theorem AcceptRequest.sameStream_iff {r₁ r₂ : AcceptRequest} :
    r₁.SameStream r₂ ↔ r₁.routingInput.streamFields = r₂.routingInput.streamFields := by
  constructor
  · rintro ⟨h1, h2, h3, h4⟩
    simp [RoutingInput.streamFields, AcceptRequest.routingInput, h1, h2, h3, h4]
  · intro h
    injection h with h1 h
    injection h with h2 h
    injection h with h3 h
    injection h with h4
    exact ⟨h1, h2, h3, h4⟩

/-- The fields of a routing checksum are those of the stream, the event type and
the version. -/
theorem RoutingInput.routingFields_inj {a b : RoutingInput} :
    a.routingFields = b.routingFields ↔ a.streamFields = b.streamFields ∧
      a.eventType = b.eventType ∧ toString a.routingVersion = toString b.routingVersion := by
  constructor
  · intro h
    obtain ⟨hstream, hrest⟩ := List.append_inj h rfl
    simpa [hstream] using hrest
  · rintro ⟨hstream, htype, hversion⟩
    simp [RoutingInput.routingFields, hstream, htype, hversion]

/-- The bytes a routing checksum hashes. -/
theorem canonical_determines_iff {a b : RoutingInput} :
    (utf8 a.canonical = utf8 b.canonical → a.routingFields = b.routingFields) ↔
      ¬ Joined.TextRecut '\x00' a.routingFields b.routingFields := by
  have hbytes : utf8 a.canonical = utf8 b.canonical ↔
      joinNul a.routingFields = joinNul b.routingFields := by
    rw [← a.canonical_eq, ← b.canonical_eq]
    exact ⟨utf8_injective, congrArg utf8⟩
  rw [hbytes]
  exact joinNul_determines_iff (by simp [RoutingInput.routingFields])
    (by simp [RoutingInput.routingFields])

end CraftRelay
