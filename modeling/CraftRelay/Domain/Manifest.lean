import CraftRelay.Lib.Ascii
import CraftRelay.Lib.Collected
import CraftRelay.Domain.PolicyResolution
import CraftRelay.Journal.Checksums

/-!
# Manifest validation in the bridge

`craftrelay-domain`: `validate_manifest` pushes a violation for everything it finds wrong
with a manifest, first about the manifest itself, then about its events, queries and
namespaces in turn. Names are judged byte by byte.
-/

namespace CraftRelay

open Collected (flag)

/-- An event type a plugin declares. -/
structure ManifestEventDeclaration where
  eventType : String
  minSchemaVersion : Int32
  maxSchemaVersion : Int32
  «namespace» : String
  eventClass : String
  requestedPriority : PriorityClass
  deriving DecidableEq

/-- A query a plugin declares. -/
structure ManifestQueryDeclaration where
  queryId : String
  minSchemaVersion : Int32
  maxSchemaVersion : Int32
  deriving DecidableEq

/-- The columns `validate_manifest` reads. -/
structure ExtendedIntegrationManifest where
  integrationId : String
  integrationVersion : Int32
  paperPluginId : String
  events : List ManifestEventDeclaration
  queries : List ManifestQueryDeclaration
  namespaces : List String
  requestedPriority : PriorityClass
  maxPendingPublishes : Int32
  maxPendingQueries : Int32
  maxActiveWatches : Int32
  deriving DecidableEq

/-- What can be wrong with a manifest. All that is wrong with one is collected. -/
inductive ManifestViolation where
  | duplicateEvent | duplicateQuery | duplicateNamespace
  | invalidEventName | invalidQueryName | invalidNamespaceName
  | unboundedLimit | missingLimit | bestEffortForbidden | selfPromotionForbidden
  | invalidSchemaVersion
  deriving DecidableEq, Repr

/-! ## Names -/

/-- `[a-z0-9._-]`, of a byte or of a character. -/
def isIdentifierPart (n : Nat) : Bool :=
  Ascii.isLower n || Ascii.isDigit n || n == 46 || n == 95 || n == 45

/-- The length is counted in bytes, and the first byte is a letter. -/
def isValidIdentifier (value : String) : Bool :=
  let bytes := utf8 value
  !bytes.isEmpty && bytes.length ≤ 128 && bytes.all (fun b => isIdentifierPart b.toNat) &&
    bytes.head?.any fun b => Ascii.isLower b.toNat

/-! ## The loops -/

/-- The body of the first loop. `repeated` is what the set of names answers. -/
def eventViolations (installationPriorityCeiling : PriorityClass) (repeated : Bool)
    (event : ManifestEventDeclaration) : List ManifestViolation :=
  flag (event.eventType = "" ∨ isValidIdentifier event.eventType = false) .invalidEventName ++
  flag (repeated = true) .duplicateEvent ++
  flag (event.minSchemaVersion ≤ 0 ∨ event.maxSchemaVersion ≤ 0) .invalidSchemaVersion ++
  flag (event.maxSchemaVersion < event.minSchemaVersion) .invalidSchemaVersion ++
  flag (event.namespace = "" ∨ isValidIdentifier event.namespace = false)
    .invalidNamespaceName ++
  flag (event.eventClass = "BEST_EFFORT") .bestEffortForbidden ++
  flag (event.requestedPriority.ordinal < installationPriorityCeiling.ordinal)
    .selfPromotionForbidden

/-- The second loop does not compare the two versions. -/
def queryViolations (repeated : Bool) (query : ManifestQueryDeclaration) :
    List ManifestViolation :=
  flag (query.queryId = "" ∨ isValidIdentifier query.queryId = false) .invalidQueryName ++
  flag (repeated = true) .duplicateQuery ++
  flag (query.minSchemaVersion ≤ 0 ∨ query.maxSchemaVersion ≤ 0) .invalidSchemaVersion

def namespaceViolations (repeated : Bool) (ns : String) : List ManifestViolation :=
  flag (ns = "" ∨ isValidIdentifier ns = false) .invalidNamespaceName ++
  flag (repeated = true) .duplicateNamespace

/-- What is pushed before the loops. -/
def manifestViolations (installationPriorityCeiling : PriorityClass)
    (manifest : ExtendedIntegrationManifest) : List ManifestViolation :=
  flag (manifest.integrationId = "" ∨ manifest.paperPluginId = "") .invalidEventName ++
  flag (manifest.integrationVersion ≤ 0) .invalidSchemaVersion ++
  flag (manifest.maxPendingPublishes ≤ 0 ∨ manifest.maxPendingQueries ≤ 0 ∨
    manifest.maxActiveWatches ≤ 0) .missingLimit ++
  flag (4096 < manifest.maxPendingPublishes ∨ 4096 < manifest.maxPendingQueries ∨
    4096 < manifest.maxActiveWatches) .unboundedLimit ++
  flag (manifest.requestedPriority.ordinal < installationPriorityCeiling.ordinal)
    .selfPromotionForbidden

/-- What is wrong with the manifest, its events, its queries and its namespaces, in that
order. -/
def validateManifest (manifest : ExtendedIntegrationManifest)
    (installationPriorityCeiling : PriorityClass) : Except (List ManifestViolation) Unit :=
  Collected.report <|
    manifestViolations installationPriorityCeiling manifest ++
    Collected.scan (·.eventType) (eventViolations installationPriorityCeiling) []
      manifest.events ++
    Collected.scan (·.queryId) queryViolations [] manifest.queries ++
    Collected.scan id namespaceViolations [] manifest.namespaces

/-! ## What a name is -/

/-- At most 128 characters, the first one a letter and the others parts of a name. -/
structure IsName (letter part : Nat → Bool) (s : String) : Prop where
  text : Ascii.Begins letter part (s.toList.map Char.toNat)
  length : s.toList.length ≤ 128

/-- `[a-z][a-z0-9._-]*`. -/
abbrev IsIdentifier : String → Prop := IsName Ascii.isLower isIdentifierPart

theorem isIdentifierPart_iff {n : Nat} :
    isIdentifierPart n = true ↔
      Ascii.isLower n = true ∨ Ascii.isDigit n = true ∨ n = 46 ∨ n = 95 ∨ n = 45 := by
  simp [isIdentifierPart, or_assoc]

theorem narrow_isIdentifierPart : Ascii.Narrow isIdentifierPart := by
  intro n hn
  rw [isIdentifierPart_iff, Ascii.isLower_iff, Ascii.isDigit_iff] at hn
  omega

/-- A name is ASCII, so its characters are its bytes. -/
theorem IsIdentifier.ascii {s : String} (h : IsIdentifier s) : ∀ c ∈ s.toList, c.toNat < 128 := by
  intro c hc
  have hall := h.text.all c.toNat (List.mem_map_of_mem hc)
  rcases (Bool.or_eq_true ..).mp hall with hn | hn
  · exact Ascii.narrow_isLower _ hn
  · exact narrow_isIdentifierPart _ hn

/-- The bytes pass when the characters do. -/
theorem isValidIdentifier_iff {s : String} :
    isValidIdentifier s = true ↔ IsIdentifier s := by
  obtain ⟨cs, rfl⟩ : ∃ cs, s = String.ofList cs := ⟨s.toList, String.ofList_toList.symm⟩
  have hbytes : isValidIdentifier (String.ofList cs) = true ↔
      Ascii.Begins Ascii.isLower isIdentifierPart
        ((cs.flatMap String.utf8EncodeChar).map UInt8.toNat) ∧
      (cs.flatMap String.utf8EncodeChar).length ≤ 128 := by
    unfold isValidIdentifier
    rw [utf8_ofList]
    cases cs.flatMap String.utf8EncodeChar with
    | nil => simp [Ascii.Begins]
    | cons b rest =>
        -- a letter is a part of a name
        have hletter : Ascii.isLower b.toNat = true → isIdentifierPart b.toNat = true :=
          fun h => isIdentifierPart_iff.mpr (.inl h)
        simp only [List.isEmpty_cons, Bool.not_false, Bool.true_and, Bool.and_eq_true,
          decide_eq_true_eq, List.all_cons, List.head?_cons, Option.any_some, List.map_cons,
          Ascii.Begins, List.forall_mem_map, List.all_eq_true]
        constructor
        · intro ⟨⟨hlen, _, hrest⟩, hstart⟩
          exact ⟨⟨hstart, hrest⟩, hlen⟩
        · intro ⟨⟨hstart, hrest⟩, hlen⟩
          exact ⟨⟨hlen, hletter hstart, hrest⟩, hstart⟩
  rw [hbytes, Ascii.begins_encode_iff Ascii.narrow_isLower narrow_isIdentifierPart]
  -- the limit on the bytes is one on the characters, as those of a name take one byte each
  have hlength : Ascii.Begins Ascii.isLower isIdentifierPart (cs.map Char.toNat) →
      (cs.flatMap String.utf8EncodeChar).length = cs.length := by
    intro h
    have hnat := Ascii.encode_toNat_of_begins Ascii.narrow_isLower narrow_isIdentifierPart h
    simpa using congrArg List.length hnat
  constructor
  · intro ⟨htext, hlen⟩
    rw [hlength htext] at hlen
    exact ⟨by simpa using htext, by simpa using hlen⟩
  · intro ⟨htext, hlen⟩
    rw [String.toList_ofList] at htext hlen
    rw [hlength htext]
    exact ⟨htext, hlen⟩

/-- The test for the empty text adds nothing. -/
theorem not_empty_or_invalid_iff {s : String} :
    ¬ (s = "" ∨ isValidIdentifier s = false) ↔ IsIdentifier s := by
  rw [not_or, Bool.not_eq_false, isValidIdentifier_iff]
  constructor
  · intro h
    exact h.2
  · intro h
    refine ⟨?_, h⟩
    intro hempty
    subst hempty
    exact h.text

/-! ## What a well-formed manifest is -/

def IsSchemaVersion (n : Int32) : Prop := 0 < n.toInt

def IsLimit (n : Int32) : Prop := 1 ≤ n.toInt ∧ n.toInt ≤ 4096

/-- The rules for an event. -/
structure EventWellFormed (ceiling : PriorityClass) (event : ManifestEventDeclaration) :
    Prop where
  eventType : IsIdentifier event.eventType
  versions : IsSchemaVersion event.minSchemaVersion ∧ IsSchemaVersion event.maxSchemaVersion
  order : event.minSchemaVersion.toInt ≤ event.maxSchemaVersion.toInt
  «namespace» : IsIdentifier event.namespace
  eventClass : event.eventClass ≠ "BEST_EFFORT"
  priority : ceiling.ordinal ≤ event.requestedPriority.ordinal

/-- The rules for a query, the order of its versions apart. -/
structure QueryNamed (query : ManifestQueryDeclaration) : Prop where
  queryId : IsIdentifier query.queryId
  versions : IsSchemaVersion query.minSchemaVersion ∧ IsSchemaVersion query.maxSchemaVersion

namespace ExtendedIntegrationManifest

/-- The rules for a manifest, the order of the versions of its queries apart. -/
structure KeepsRules (manifest : ExtendedIntegrationManifest) (ceiling : PriorityClass) :
    Prop where
  identities : manifest.integrationId ≠ "" ∧ manifest.paperPluginId ≠ ""
  version : 0 < manifest.integrationVersion.toInt
  limits : IsLimit manifest.maxPendingPublishes ∧ IsLimit manifest.maxPendingQueries ∧
    IsLimit manifest.maxActiveWatches
  priority : ceiling.ordinal ≤ manifest.requestedPriority.ordinal
  events : ∀ event ∈ manifest.events, EventWellFormed ceiling event
  eventTypes : (manifest.events.map (·.eventType)).Nodup
  queries : ∀ query ∈ manifest.queries, QueryNamed query
  queryIds : (manifest.queries.map (·.queryId)).Nodup
  namespaces : ∀ ns ∈ manifest.namespaces, IsIdentifier ns
  distinct : manifest.namespaces.Nodup

/-- The versions of every query are in order. -/
def QueriesOrdered (manifest : ExtendedIntegrationManifest) : Prop :=
  ∀ query ∈ manifest.queries, query.minSchemaVersion.toInt ≤ query.maxSchemaVersion.toInt

structure WellFormed (manifest : ExtendedIntegrationManifest) (ceiling : PriorityClass) :
    Prop where
  rules : manifest.KeepsRules ceiling
  queriesOrdered : manifest.QueriesOrdered

end ExtendedIntegrationManifest

/-! ## What is accepted -/

section Accepted

variable {ceiling : PriorityClass}

theorem not_nonpositive_iff {n : Int32} : ¬ n ≤ 0 ↔ 0 < n.toInt := by
  rw [Int32.not_le, Int32.lt_iff_toInt_lt, Int32.toInt_zero]

theorem versions_iff {a b : Int32} :
    ¬ (a ≤ 0 ∨ b ≤ 0) ↔ IsSchemaVersion a ∧ IsSchemaVersion b := by
  rw [not_or, not_nonpositive_iff, not_nonpositive_iff]
  exact Iff.rfl

theorem ordered_iff {a b : Int32} : ¬ b < a ↔ a.toInt ≤ b.toInt := by
  rw [Int32.not_lt, Int32.le_iff_toInt_le]

/-- Nothing is pushed for an event exactly when it is well formed. -/
theorem eventViolations_eq_nil_iff {event : ManifestEventDeclaration} :
    eventViolations ceiling false event = [] ↔ EventWellFormed ceiling event := by
  unfold eventViolations
  simp only [List.append_eq_nil_iff, Collected.flag_eq_nil_iff, not_empty_or_invalid_iff,
    versions_iff, ordered_iff, Nat.not_lt]
  constructor
  · intro h
    obtain ⟨⟨⟨⟨⟨⟨hname, _⟩, hversions⟩, horder⟩, hnamespace⟩, hclass⟩, hpriority⟩ := h
    exact ⟨hname, hversions, horder, hnamespace, hclass, hpriority⟩
  · intro h
    exact ⟨⟨⟨⟨⟨⟨h.eventType, by simp⟩, h.versions⟩, h.order⟩, h.namespace⟩, h.eventClass⟩,
      h.priority⟩

/-- Nothing is pushed for a query exactly when it has a name and positive versions. -/
theorem queryViolations_eq_nil_iff {query : ManifestQueryDeclaration} :
    queryViolations false query = [] ↔ QueryNamed query := by
  unfold queryViolations
  simp only [List.append_eq_nil_iff, Collected.flag_eq_nil_iff, not_empty_or_invalid_iff,
    versions_iff]
  constructor
  · intro h
    obtain ⟨⟨hname, _⟩, hversions⟩ := h
    exact ⟨hname, hversions⟩
  · intro h
    exact ⟨⟨h.queryId, by simp⟩, h.versions⟩

theorem namespaceViolations_eq_nil_iff {ns : String} :
    namespaceViolations false ns = [] ↔ IsIdentifier ns := by
  unfold namespaceViolations
  rw [List.append_eq_nil_iff, Collected.flag_eq_nil_iff, not_empty_or_invalid_iff]
  simp

/-- A repetition is always pushed. -/
theorem violations_of_repeated :
    (∀ event, eventViolations ceiling true event ≠ []) ∧
      (∀ query, queryViolations true query ≠ []) ∧
      ∀ ns, namespaceViolations true ns ≠ [] := by
  refine ⟨?_, ?_, ?_⟩
  · intro event h
    simp [eventViolations, Collected.flag] at h
  · intro query h
    simp [queryViolations, Collected.flag] at h
  · intro ns h
    simp [namespaceViolations, Collected.flag] at h

/-- The two tests of the limits are those of their range. -/
theorem limits_iff {a b c : Int32} :
    ¬ (a ≤ 0 ∨ b ≤ 0 ∨ c ≤ 0) ∧ ¬ (4096 < a ∨ 4096 < b ∨ 4096 < c) ↔
      IsLimit a ∧ IsLimit b ∧ IsLimit c := by
  have hmax : (4096 : Int32).toInt = 4096 := rfl
  simp only [not_or, not_nonpositive_iff, ordered_iff, hmax, IsLimit]
  omega

/-- A manifest is accepted exactly when it keeps the rules that are tested. -/
theorem validateManifest_eq_ok_iff {manifest : ExtendedIntegrationManifest} :
    validateManifest manifest ceiling = .ok () ↔ manifest.KeepsRules ceiling := by
  obtain ⟨hevents, hqueries, hnamespaces⟩ := @violations_of_repeated ceiling
  unfold validateManifest manifestViolations
  rw [Collected.report_eq_ok_iff]
  simp only [List.append_eq_nil_iff, Collected.flag_eq_nil_iff,
    Collected.scan_eq_nil_iff hevents, Collected.scan_eq_nil_iff hqueries,
    Collected.scan_eq_nil_iff hnamespaces, eventViolations_eq_nil_iff,
    queryViolations_eq_nil_iff, namespaceViolations_eq_nil_iff, not_nonpositive_iff,
    Nat.not_lt, List.map_id]
  constructor
  · intro ⟨⟨⟨⟨⟨⟨⟨hid, hversion⟩, hmissing⟩, hunbounded⟩, hpriority⟩, hevent, hnames, _⟩, hquery,
      hids, _⟩, hns, hdistinct, _⟩
    exact ⟨not_or.mp hid, hversion, limits_iff.mp ⟨hmissing, hunbounded⟩, hpriority, hevent,
      hnames, hquery, hids, hns, hdistinct⟩
  · intro h
    obtain ⟨hmissing, hunbounded⟩ := limits_iff.mpr h.limits
    exact ⟨⟨⟨⟨⟨⟨⟨not_or.mpr h.identities, h.version⟩, hmissing⟩, hunbounded⟩, h.priority⟩,
      h.events, h.eventTypes, by simp⟩, h.queries, h.queryIds, by simp⟩, h.namespaces, h.distinct,
      by simp⟩

end Accepted

end CraftRelay
