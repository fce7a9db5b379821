import CraftRelay.Journal.EnvelopeBytes
import CraftRelay.Journal.Progress
import CraftRelay.Delivery.Routing

/-!
# Names that two streams can share

Topics are joined by dots, which identifiers may contain; stream keys, partition
keys and routing checksums are joined by the zero character, which nothing
excludes. Each result names the pairs of inputs for which the joined text still
tells them apart.
-/

namespace CraftRelay

/-- Different installations get different topics, and equal topics have equal
namespaces, exactly when neither installation is the other one continued by a dot
and a text that starts the other's namespace. -/
theorem topics_isolated_iff [Sha256] {a b : RoutingInput} {ra rb : RoutingResolution}
    (ha : resolveRouting a = .ok ra) (hb : resolveRouting b = .ok rb) :
    ((a.installationId ≠ b.installationId → ra.topic ≠ rb.topic) ∧
        (ra.topic = rb.topic → a.namespace = b.namespace)) ↔
      ¬ Joined.TextShifted '.' a.installationId a.namespace b.installationId b.namespace ∧
        ¬ Joined.TextShifted '.' b.installationId b.namespace a.installationId a.namespace := by
  obtain ⟨hta, -⟩ := resolveRouting_eq_ok ha
  obtain ⟨htb, -⟩ := resolveRouting_eq_ok hb
  rw [hta, htb, ← topic_determines_iff]
  constructor
  · rintro ⟨hinst, hns⟩ htopic
    exact ⟨by_contra fun hne => hinst hne htopic, hns htopic⟩
  · intro h
    exact ⟨fun hne htopic => hne (h htopic).1, fun htopic => (h htopic).2⟩

/-- A routing input with the two fields a topic is made of. -/
def topicInput (installationId «namespace» : String) : RoutingInput :=
  ⟨installationId, «namespace», "t", "orders", "created", 1⟩

theorem resolveRouting_topicInput [Sha256] {installationId «namespace» : String}
    (hinst : installationId ≠ "") (hns : «namespace» ≠ "") :
    ∃ routing, resolveRouting (topicInput installationId «namespace») = .ok routing := by
  unfold resolveRouting
  simp [topicInput, hinst, hns]

/-- Two installations without dots have their own topics. -/
theorem topics_isolated_iff_plain :
    ∃ ra rb, @resolveRouting fipsSha256 (topicInput "install-a" "ns") = .ok ra ∧
      @resolveRouting fipsSha256 (topicInput "install-b" "ns") = .ok rb ∧
      ra.topic ≠ rb.topic := by
  obtain ⟨ra, ha⟩ := @resolveRouting_topicInput fipsSha256 "install-a" "ns" (by decide) (by decide)
  obtain ⟨rb, hb⟩ := @resolveRouting_topicInput fipsSha256 "install-b" "ns" (by decide) (by decide)
  refine ⟨ra, rb, ha, hb, ((@topics_isolated_iff fipsSha256 _ _ _ _ ha hb).mpr ⟨?_, ?_⟩).1 ?_⟩
  · rw [Joined.textShifted_iff]
    rintro ⟨w, hw, -⟩
    exact absurd (congrArg List.length hw) (by simp [topicInput])
  · rw [Joined.textShifted_iff]
    rintro ⟨w, hw, -⟩
    exact absurd (congrArg List.length hw) (by simp [topicInput])
  · decide

/-- Installation `a.b` with namespace `c` and installation `a` with namespace
`b.c` share a topic. -/
theorem topics_collide :
    ¬ ∃ h : Sha256, ∀ a b ra rb, @resolveRouting h a = .ok ra → @resolveRouting h b = .ok rb →
      (a.installationId ≠ b.installationId → ra.topic ≠ rb.topic) ∧
        (ra.topic = rb.topic → a.namespace = b.namespace) := by
  rintro ⟨h, hall⟩
  obtain ⟨ra, ha⟩ := @resolveRouting_topicInput h "a.b" "c" (by decide) (by decide)
  obtain ⟨rb, hb⟩ := @resolveRouting_topicInput h "a" "b.c" (by decide) (by decide)
  refine (hall _ _ _ _ ha hb).1 (by decide : "a.b" ≠ "a") ?_
  rw [(resolveRouting_eq_ok ha).1, (resolveRouting_eq_ok hb).1]
  decide

/-- Without a zero character in a field of the stream or in the event type, neither the
fields of the stream nor those of the checksum can be recut. -/
theorem not_textRecut_of_nulFree [Sha256] {a b : RoutingInput} {ra rb : RoutingResolution}
    (ha : resolveRouting a = .ok ra) (hb : resolveRouting b = .ok rb)
    (hfieldsA : ∀ f ∈ a.streamFields ++ [a.eventType], NulFree f)
    (hfieldsB : ∀ f ∈ b.streamFields ++ [b.eventType], NulFree f) :
    ¬ Joined.TextRecut '\x00' a.streamFields b.streamFields ∧
      ¬ Joined.TextRecut '\x00' a.routingFields b.routingFields := by
  have hfields : ∀ {i : RoutingInput} {r : RoutingResolution}, resolveRouting i = .ok r →
      (∀ f ∈ i.streamFields ++ [i.eventType], NulFree f) → ∀ f ∈ i.routingFields, NulFree f := by
    intro i r hresolved hplain f hf
    unfold RoutingInput.routingFields at hf
    rw [(resolveRouting_eq_ok hresolved).2.2.2, List.append_cons, List.mem_append] at hf
    rcases hf with hf | hf
    · exact hplain f hf
    · rw [List.mem_singleton.mp hf]
      decide
  constructor
  · apply Joined.not_textRecut_of_notMem
    · exact fun f hf => hfieldsA f (List.mem_append_left _ hf)
    · exact fun f hf => hfieldsB f (List.mem_append_left _ hf)
  · exact Joined.not_textRecut_of_notMem (hfields ha hfieldsA) (hfields hb hfieldsB)

/-- Stream key, partition key and the bytes of the routing checksum tell two
requests apart, exactly when neither the fields of the stream nor those of the
checksum are the same pieces with the zero characters distributed in two ways. -/
theorem stream_identity_iff [Sha256] {r₁ r₂ : AcceptRequest} {p₁ p₂ : RoutingResolution}
    (h₁ : resolveRouting r₁.routingInput = .ok p₁)
    (h₂ : resolveRouting r₂.routingInput = .ok p₂) :
    ((r₁.formattedStreamKey = r₂.formattedStreamKey → r₁.SameStream r₂) ∧
        (p₁.partitionKey = p₂.partitionKey → r₁.SameStream r₂) ∧
        (utf8 r₁.routingInput.canonical = utf8 r₂.routingInput.canonical →
          r₁.SameStream r₂ ∧ r₁.eventType = r₂.eventType ∧
            r₁.routingVersion = r₂.routingVersion)) ↔
      ¬ Joined.TextRecut '\x00' r₁.routingInput.streamFields r₂.routingInput.streamFields ∧
        ¬ Joined.TextRecut '\x00' r₁.routingInput.routingFields r₂.routingInput.routingFields := by
  obtain ⟨-, hpart₁, -, hv₁⟩ := resolveRouting_eq_ok h₁
  obtain ⟨-, hpart₂, -, hv₂⟩ := resolveRouting_eq_ok h₂
  have hv₁ : r₁.routingVersion = 1 := hv₁
  have hv₂ : r₂.routingVersion = 1 := hv₂
  have hne : ∀ i : RoutingInput, i.streamFields ≠ [] := fun _ => List.cons_ne_nil _ _
  have hstream := joinNul_determines_iff (hne r₁.routingInput) (hne r₂.routingInput)
  rw [← hstream, ← canonical_determines_iff, hpart₁, hpart₂,
    AcceptRequest.formattedStreamKey_eq, AcceptRequest.formattedStreamKey_eq,
    RoutingInput.partitionKey_eq, RoutingInput.partitionKey_eq, AcceptRequest.sameStream_iff,
    RoutingInput.routingFields_inj]
  constructor
  · rintro ⟨hkey, -, hcanonical⟩
    refine ⟨hkey, fun hbytes => ?_⟩
    obtain ⟨hsame, htype, hversion⟩ := hcanonical hbytes
    exact ⟨hsame, htype, congrArg toString hversion⟩
  · rintro ⟨hkey, hcanonical⟩
    refine ⟨hkey, hkey, fun hbytes => ?_⟩
    obtain ⟨hsame, htype, -⟩ := hcanonical hbytes
    exact ⟨hsame, htype, hv₁.trans hv₂.symm⟩

/-- A sample request of another installation and namespace. -/
def streamRequest (installationId «namespace» : String) : AcceptRequest :=
  { sampleRequest "e1" «namespace» 1 with installationId := installationId }

theorem resolveRouting_streamRequest [Sha256] {installationId «namespace» : String}
    (hinst : installationId ≠ "") (hns : «namespace» ≠ "") :
    ∃ routing, resolveRouting (streamRequest installationId «namespace»).routingInput =
      .ok routing := resolveRouting_topicInput hinst hns

/-- Two requests without zero characters have their own stream keys. -/
theorem stream_identity_iff_plain :
    ∃ p₁ p₂, @resolveRouting fipsSha256 (streamRequest "inst" "ns").routingInput = .ok p₁ ∧
      @resolveRouting fipsSha256 (streamRequest "inst" "other").routingInput = .ok p₂ ∧
      p₁.partitionKey ≠ p₂.partitionKey := by
  obtain ⟨p₁, h₁⟩ := @resolveRouting_streamRequest fipsSha256 "inst" "ns" (by decide) (by decide)
  obtain ⟨p₂, h₂⟩ :=
    @resolveRouting_streamRequest fipsSha256 "inst" "other" (by decide) (by decide)
  have hsplit := @stream_identity_iff fipsSha256 _ _ _ _ h₁ h₂
  refine ⟨p₁, p₂, h₁, h₂, fun hsame => ?_⟩
  have hplain := @not_textRecut_of_nulFree fipsSha256 _ _ _ _ h₁ h₂ (by decide) (by decide)
  have hstream := (hsplit.mpr hplain).2.1 hsame
  exact absurd hstream.namespace (by decide)

/-- Two admissible requests of different streams have one stream key. -/
theorem streams_share_key :
    ¬ ∃ h : Sha256, ∀ (r₁ r₂ : AcceptRequest) (j : LocalJournal) (env : CallEnv) (p₁ p₂),
      r₁.Admissible j env → r₂.Admissible j env →
      @resolveRouting h r₁.routingInput = .ok p₁ → @resolveRouting h r₂.routingInput = .ok p₂ →
      (r₁.formattedStreamKey = r₂.formattedStreamKey → r₁.SameStream r₂) ∧
        (p₁.partitionKey = p₂.partitionKey → r₁.SameStream r₂) ∧
        (utf8 r₁.routingInput.canonical = utf8 r₂.routingInput.canonical →
          r₁.SameStream r₂ ∧ r₁.eventType = r₂.eventType ∧
            r₁.routingVersion = r₂.routingVersion) := by
  rintro ⟨h, hall⟩
  obtain ⟨p₁, h₁⟩ := @resolveRouting_streamRequest h "a\x00b" "c" (by decide) (by decide)
  obtain ⟨p₂, h₂⟩ := @resolveRouting_streamRequest h "a" "b\x00c" (by decide) (by decide)
  have hadm : ∀ installationId «namespace» : String, installationId ≠ "" →
      (streamRequest installationId «namespace»).Admissible (LocalJournal.open {}) (.calm 10) := by
    intro installationId «namespace» hinst
    have hsample := sampleRequest_admissible (by decide : "e1" ≠ "") «namespace» 1 10 .empty
    exact ⟨rfl, rfl, hsample.size, hsample.eventId, hinst⟩
  obtain ⟨hkey, -, -⟩ := hall _ _ _ _ p₁ p₂ (hadm _ "c" (by decide)) (hadm _ "b\x00c" (by decide))
    h₁ h₂
  have hsame := hkey (by decide)
  exact absurd hsame.installationId (by decide)

end CraftRelay
