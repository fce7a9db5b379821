import Mathlib.Algebra.GroupWithZero.Nat
import Mathlib.Data.List.Lex
import CraftRelay.Lib.EarlyReturn
import CraftRelay.Lib.SortedBy
import CraftRelay.Client.ContractValidation
import CraftRelay.Client.Writing

/-!
# The client's envelope input

`MetadataEntry.java`, `CanonicalMetadata.java` and `EnvelopeInput.java`. The constructor
of the record checks its components and sorts the metadata by the bytes of their keys;
`canonicalBytes` writes the components one after the other. A retry of an event is
compared by these bytes.
-/

namespace CraftRelay.Client

/-! ## Metadata -/

/-- `[a-z0-9]`. -/
def isKeyStart (u : UInt16) : Bool :=
  (97 ≤ u.toNat && u.toNat ≤ 122) || (48 ≤ u.toNat && u.toNat ≤ 57)

/-- `[a-z0-9._-]`. -/
def isKeyPart (u : UInt16) : Bool :=
  isKeyStart u || u.toNat == 46 || u.toNat == 95 || u.toNat == 45

/-- `matches("[a-z0-9][a-z0-9._-]*")`. -/
def matchesKey : JavaString → Bool
  | [] => false
  | u :: rest => isKeyStart u && rest.all isKeyPart

/-- The constructor of `MetadataEntry`. -/
def checkMetadataEntry (key value : JavaString) : Except ContractViolation Unit := do
  let _ ← boundedText key "metadata.key" maxMetadataKeyBytes
  let _ ← boundedText value "metadata.value" maxMetadataValueBytes
  Except.refuseIf (matchesKey key = false)
    ⟨.invalidMetadataKey, "metadata.key must match [a-z0-9][a-z0-9._-]*"⟩

structure MetadataEntry where
  key : JavaString
  value : JavaString
  constructed : checkMetadataEntry key value = .ok ()

instance : DecidableEq MetadataEntry := fun a b =>
  decidable_of_iff (a.key = b.key ∧ a.value = b.value) (by cases a; cases b; simp)

def MetadataEntry.construct (key value : JavaString) : Except ContractViolation MetadataEntry :=
  match h : checkMetadataEntry key value with
  | .error v => .error v
  | .ok () => .ok ⟨key, value, h⟩

/-- The order `Arrays.compareUnsigned` gives the UTF-8 bytes of the key. -/
def MetadataEntry.unsignedKey (e : MetadataEntry) : List Nat := e.key.getBytes.map UInt8.toNat

/-- The loop of `validateAndSort`: the keys seen so far and the bytes counted. `addExact`
does not overflow, since there are few entries and each is short. -/
def countMetadata : List MetadataEntry → List JavaString → Nat → Except ContractViolation Nat
  | [], _, totalBytes => .ok totalBytes
  | entry :: rest, keys, totalBytes =>
      if entry.key ∈ keys then
        .error ⟨.duplicateMetadataKey,
          "duplicate metadata key: " ++ String.ofList entry.key.decode⟩
      else
        countMetadata rest (entry.key :: keys)
          (totalBytes + (entry.key.getBytes.length + entry.value.getBytes.length))

def validateAndSort (entries : List MetadataEntry) :
    Except ContractViolation (List MetadataEntry) := do
  Except.refuseIf (maxMetadataEntries < entries.length)
    ⟨.metadataCountExceeded, "metadata entry count exceeds " ++ toString maxMetadataEntries⟩
  let totalBytes ← countMetadata entries [] 0
  Except.refuseIf (maxMetadataBytes < totalBytes)
    ⟨.metadataBytesExceeded, "metadata bytes exceed " ++ toString maxMetadataBytes⟩
  return SortedBy.sortBy MetadataEntry.unsignedKey entries

/-! ## The record -/

/-- The components of the record. -/
structure EnvelopeInput where
  eventId : JavaString
  «namespace» : JavaString
  logicalStreamType : JavaString
  streamKey : Bytes
  eventType : JavaString
  schemaVersion : Int32
  operationType : JavaString
  operationId : JavaString
  eventRole : JavaString
  requestedMinimumDurability : JavaString
  clientMetadata : List MetadataEntry
  typedPayload : Bytes
  canonicalizationVersion : Int32
  eventContractHandle : JavaString
  deriving DecidableEq

namespace EnvelopeInput

/-- The constructor: the components of the record from those it is given. -/
def construct (c : EnvelopeInput) : Except ContractViolation EnvelopeInput := do
  let eventId ← canonicalUuidV7 c.eventId "eventId"
  let «namespace» ← boundedText c.namespace "namespace" 128
  let logicalStreamType ← boundedText c.logicalStreamType "logicalStreamType" 128
  let eventType ← boundedText c.eventType "eventType" 128
  let schemaVersion ← positiveInt32 c.schemaVersion "schemaVersion"
  let operationType ← boundedText c.operationType "operationType" 128
  let operationId ← boundedText c.operationId "operationId" 256
  let eventRole ← boundedText c.eventRole "eventRole" 64
  let requestedMinimumDurability ←
    boundedText c.requestedMinimumDurability "requestedMinimumDurability" 64
  let canonicalizationVersion ←
    positiveInt32 c.canonicalizationVersion "canonicalizationVersion"
  let eventContractHandle ← boundedText c.eventContractHandle "eventContractHandle" 256
  Except.refuseIf (c.streamKey.length = 0 ∨ 1024 < c.streamKey.length)
    ⟨.boundsExceeded, "streamKey must contain 1..1024 bytes"⟩
  Except.refuseIf (maxPayloadBytes < c.typedPayload.length)
    ⟨.payloadTooLarge, "typedPayload exceeds " ++ toString maxPayloadBytes ++ " bytes"⟩
  let clientMetadata ← validateAndSort c.clientMetadata
  return ⟨eventId, «namespace», logicalStreamType, c.streamKey, eventType, schemaVersion,
    operationType, operationId, eventRole, requestedMinimumDurability, clientMetadata,
    c.typedPayload, canonicalizationVersion, eventContractHandle⟩

def canonicalBytes (x : EnvelopeInput) : Bytes :=
  writeText x.eventId ++ writeText x.namespace ++ writeText x.logicalStreamType ++
    writeBytes x.streamKey ++ writeText x.eventType ++ writeInt x.schemaVersion ++
    writeText x.operationType ++ writeText x.operationId ++ writeText x.eventRole ++
    writeText x.requestedMinimumDurability ++
    (writeSize x.clientMetadata.length ++
      x.clientMetadata.flatMap fun entry => writeText entry.key ++ writeText entry.value) ++
    writeBytes x.typedPayload ++ writeInt x.canonicalizationVersion ++
    writeText x.eventContractHandle

end EnvelopeInput

/-! ## What the metadata loop accepts -/

theorem checkMetadataEntry_eq_ok {key value : JavaString}
    (h : checkMetadataEntry key value = .ok ()) :
    key.getBytes.length ≤ 128 ∧ value.getBytes.length ≤ 1024 ∧ matchesKey key = true := by
  unfold checkMetadataEntry at h
  rw [boundedText_bind, boundedText_bind, Except.refuseIf_eq_ok_iff] at h
  obtain ⟨hkey, hvalue, hmatch⟩ := h
  exact ⟨hkey.bytes, hvalue.bytes, by simpa using hmatch⟩

/-- A key is ASCII. -/
theorem wellFormed_of_matchesKey {key : JavaString} (h : matchesKey key = true) :
    key.WellFormed := by
  have hpart : ∀ u : UInt16, isKeyPart u = true → u.toNat < 0xD800 := by
    intro u hu
    simp only [isKeyPart, isKeyStart, Bool.or_eq_true, Bool.and_eq_true, decide_eq_true_eq,
      beq_iff_eq] at hu
    omega
  refine JavaString.wellFormed_of_lt ?_
  cases key with
  | nil => simp
  | cons u rest =>
      simp only [matchesKey, Bool.and_eq_true, List.all_eq_true] at h
      intro v hv
      rcases List.mem_cons.mp hv with rfl | hv
      · exact hpart v (by simp [isKeyPart, h.1])
      · exact hpart v (h.2 v hv)

theorem MetadataEntry.key_eq_of_unsignedKey {a b : MetadataEntry}
    (h : a.unsignedKey = b.unsignedKey) : a.key = b.key := by
  have hbytes : a.key.getBytes = b.key.getBytes :=
    List.map_injective_iff.mpr (fun _ _ h => UInt8.toNat_inj.mp h) h
  exact JavaString.getBytes_injective
    (wellFormed_of_matchesKey (checkMetadataEntry_eq_ok a.constructed).2.2)
    (wellFormed_of_matchesKey (checkMetadataEntry_eq_ok b.constructed).2.2) hbytes

/-- The bytes an entry counts for. -/
def MetadataEntry.size (e : MetadataEntry) : Nat := e.key.getBytes.length + e.value.getBytes.length

/-- The loop ends when no key was seen before, with the bytes of all entries. -/
theorem countMetadata_eq_ok_iff {entries : List MetadataEntry} {keys : List JavaString}
    {n m : Nat} :
    countMetadata entries keys n = .ok m ↔
      (∀ e ∈ entries, e.key ∉ keys) ∧ (entries.map (·.key)).Nodup ∧
        m = n + (entries.map (·.size)).sum := by
  induction entries generalizing keys n with
  | nil => simp [countMetadata, eq_comm]
  | cons e entries ih =>
      unfold countMetadata
      split
      · rename_i hseen
        simp [hseen]
      · rename_i hnew
        rw [ih]
        simp only [List.mem_cons, not_or, List.map_cons, List.nodup_cons, List.mem_map,
          List.sum_cons, MetadataEntry.size]
        constructor
        · rintro ⟨hkeys, hnodup, rfl⟩
          refine ⟨?_, ⟨?_, hnodup⟩, by omega⟩
          · rintro e' (rfl | he')
            · exact hnew
            · exact (hkeys e' he').2
          · rintro ⟨e', he', heq⟩
            exact (hkeys e' he').1 heq
        · rintro ⟨hkeys, ⟨hfresh, hnodup⟩, rfl⟩
          refine ⟨fun e' he' => ⟨fun heq => hfresh ⟨e', he', heq⟩, hkeys e' (.inr he')⟩, hnodup,
            by omega⟩

/-- The lists `validateAndSort` sorts. -/
structure MetadataAccepted (entries : List MetadataEntry) : Prop where
  count : entries.length ≤ maxMetadataEntries
  keys : (entries.map (·.key)).Nodup
  bytes : (entries.map (·.size)).sum ≤ maxMetadataBytes

theorem validateAndSort_eq_ok_iff {entries sorted : List MetadataEntry} :
    validateAndSort entries = .ok sorted ↔
      MetadataAccepted entries ∧ sorted = SortedBy.sortBy MetadataEntry.unsignedKey entries := by
  unfold validateAndSort
  rw [Except.refuseIf_bind_iff, Except.bind_eq_ok_iff]
  simp only [Except.refuseIf_bind_iff, countMetadata_eq_ok_iff, Nat.not_lt]
  constructor
  · rintro ⟨hcount, _, ⟨-, hkeys, rfl⟩, hbytes, hsorted⟩
    cases hsorted
    exact ⟨⟨hcount, hkeys, by simpa using hbytes⟩, rfl⟩
  · rintro ⟨⟨hcount, hkeys, hbytes⟩, rfl⟩
    exact ⟨hcount, _, ⟨by simp, hkeys, rfl⟩, by simpa using hbytes, rfl⟩

theorem MetadataAccepted.perm {entries entries' : List MetadataEntry}
    (h : MetadataAccepted entries) (hperm : entries'.Perm entries) :
    MetadataAccepted entries' where
  count := by
    rw [hperm.length_eq]
    exact h.count
  keys := (hperm.map _).nodup_iff.mpr h.keys
  bytes := by
    rw [(hperm.map _).sum_nat]
    exact h.bytes

/-- Keys that are apart have bytes that are apart. -/
theorem MetadataAccepted.unsignedKeys {entries : List MetadataEntry}
    (h : MetadataAccepted entries) : (entries.map MetadataEntry.unsignedKey).Nodup := by
  refine (List.nodup_map_iff_inj_on h.keys.of_map).mpr ?_
  intro a ha b hb hab
  exact List.inj_on_of_nodup_map h.keys ha hb (MetadataEntry.key_eq_of_unsignedKey hab)

/-! ## What the constructor accepts -/

namespace EnvelopeInput

variable {a b c x y : EnvelopeInput}

structure Accepted (c : EnvelopeInput) : Prop where
  eventId : canonicalUuidV7 c.eventId "eventId" = .ok c.eventId
  «namespace» : Bounded c.namespace 128
  logicalStreamType : Bounded c.logicalStreamType 128
  eventType : Bounded c.eventType 128
  schemaVersion : 0 < c.schemaVersion.toInt
  operationType : Bounded c.operationType 128
  operationId : Bounded c.operationId 256
  eventRole : Bounded c.eventRole 64
  requestedMinimumDurability : Bounded c.requestedMinimumDurability 64
  canonicalizationVersion : 0 < c.canonicalizationVersion.toInt
  eventContractHandle : Bounded c.eventContractHandle 256
  streamKey : ¬ (c.streamKey.length = 0 ∨ 1024 < c.streamKey.length)
  typedPayload : c.typedPayload.length ≤ maxPayloadBytes
  clientMetadata : MetadataAccepted c.clientMetadata

/-- The record that is built from accepted components. -/
def sorted (c : EnvelopeInput) : EnvelopeInput :=
  { c with clientMetadata := SortedBy.sortBy MetadataEntry.unsignedKey c.clientMetadata }

theorem construct_eq_ok_iff : c.construct = .ok x ↔ c.Accepted ∧ x = c.sorted := by
  have hmetadata : ∀ {f : List MetadataEntry → Except ContractViolation EnvelopeInput},
      (validateAndSort c.clientMetadata >>= f) = .ok x ↔ MetadataAccepted c.clientMetadata ∧
        f (SortedBy.sortBy MetadataEntry.unsignedKey c.clientMetadata) = .ok x :=
    Except.returns_bind_iff fun _ => validateAndSort_eq_ok_iff
  unfold construct
  simp only [canonicalUuidV7_bind, boundedText_bind, positiveInt32_bind, Except.refuseIf_bind_iff,
    hmetadata, Nat.not_lt]
  constructor
  · rintro ⟨h1, h2, h3, h4, h5, h6, h7, h8, h9, h10, h11, h12, h13, h14, h⟩
    cases h
    exact ⟨⟨h1, h2, h3, h4, h5, h6, h7, h8, h9, h10, h11, h12, h13, h14⟩, rfl⟩
  · rintro ⟨⟨h1, h2, h3, h4, h5, h6, h7, h8, h9, h10, h11, h12, h13, h14⟩, rfl⟩
    exact ⟨h1, h2, h3, h4, h5, h6, h7, h8, h9, h10, h11, h12, h13, h14, rfl⟩

/-! ## What the bytes determine -/

/-- Every string is well-formed Unicode. -/
structure WellFormed (x : EnvelopeInput) : Prop where
  eventId : x.eventId.WellFormed
  «namespace» : x.namespace.WellFormed
  logicalStreamType : x.logicalStreamType.WellFormed
  eventType : x.eventType.WellFormed
  operationType : x.operationType.WellFormed
  operationId : x.operationId.WellFormed
  eventRole : x.eventRole.WellFormed
  requestedMinimumDurability : x.requestedMinimumDurability.WellFormed
  clientMetadata : ∀ entry ∈ x.clientMetadata, entry.key.WellFormed ∧ entry.value.WellFormed
  eventContractHandle : x.eventContractHandle.WellFormed

/-- The records that can be read back from their bytes. -/
structure Framable (x : EnvelopeInput) : Prop where
  eventId : Readable x.eventId
  «namespace» : Readable x.namespace
  logicalStreamType : Readable x.logicalStreamType
  streamKey : IsSize x.streamKey.length
  eventType : Readable x.eventType
  operationType : Readable x.operationType
  operationId : Readable x.operationId
  eventRole : Readable x.eventRole
  requestedMinimumDurability : Readable x.requestedMinimumDurability
  clientMetadata : IsSize x.clientMetadata.length ∧
    ∀ entry ∈ x.clientMetadata, Readable entry.key ∧ Readable entry.value
  typedPayload : IsSize x.typedPayload.length
  eventContractHandle : Readable x.eventContractHandle

theorem Accepted.framable (h : c.Accepted) (hwf : c.WellFormed) : c.sorted.Framable := by
  have hbounded : ∀ {s : JavaString} {n : Nat}, Bounded s n → n ≤ 256 → s.WellFormed →
      Readable s := by
    intro s n hs hn hwf
    exact ⟨hwf, lt_of_le_of_lt (hs.bytes.trans hn) (by decide)⟩
  have hid : Readable c.eventId := by
    refine ⟨hwf.eventId, ?_⟩
    have hlen := (canonicalUuidV7_length h.eventId).1
    have hbytes := c.eventId.length_getBytes_le
    unfold IsSize
    omega
  have hstream := not_or.mp h.streamKey
  refine ⟨hid, hbounded h.namespace (by decide) hwf.namespace,
    hbounded h.logicalStreamType (by decide) hwf.logicalStreamType, ?_,
    hbounded h.eventType (by decide) hwf.eventType,
    hbounded h.operationType (by decide) hwf.operationType,
    hbounded h.operationId (by decide) hwf.operationId,
    hbounded h.eventRole (by decide) hwf.eventRole,
    hbounded h.requestedMinimumDurability (by decide) hwf.requestedMinimumDurability,
    ⟨?_, ?_⟩, ?_, hbounded h.eventContractHandle (by decide) hwf.eventContractHandle⟩
  · show c.streamKey.length < _
    omega
  · show (SortedBy.sortBy _ _).length < _
    rw [SortedBy.length_sortBy]
    exact lt_of_le_of_lt h.clientMetadata.count (by decide)
  · intro entry hentry
    obtain ⟨hkey, hvalue⟩ := hwf.clientMetadata entry ((SortedBy.mem_sortBy _).mp hentry)
    obtain ⟨hkeyLen, hvalueLen, -⟩ := checkMetadataEntry_eq_ok entry.constructed
    exact ⟨⟨hkey, lt_of_le_of_lt hkeyLen (by decide)⟩,
      ⟨hvalue, lt_of_le_of_lt hvalueLen (by decide)⟩⟩
  · exact lt_of_le_of_lt h.typedPayload (by decide)

/-- The code of an entry. -/
theorem entry_determines :
    Framed.Determines (fun entry : MetadataEntry => Readable entry.key ∧ Readable entry.value)
      (fun entry => writeText entry.key ++ writeText entry.value)
      (fun entry => (entry.key, entry.value)) :=
  (writeText_determines.comp MetadataEntry.key fun _ h => h.1).append
    (writeText_determines.comp MetadataEntry.value fun _ h => h.2)

theorem entries_eq {entries entries' : List MetadataEntry}
    (h : entries.map (fun e => (e.key, e.value)) = entries'.map fun e => (e.key, e.value)) :
    entries = entries' := by
  refine List.map_injective_iff.mpr ?_ h
  intro e e' heq
  cases e
  cases e'
  simpa using heq

/-- The bytes of a record determine it. -/
theorem eq_of_canonicalBytes (hx : x.Framable) (hy : y.Framable)
    (h : x.canonicalBytes = y.canonicalBytes) : x = y := by
  have text := fun (field : EnvelopeInput → JavaString) (hfield : ∀ z : EnvelopeInput, z.Framable →
    Readable (field z)) => writeText_determines.comp (P := Framable) field hfield
  have number := fun field : EnvelopeInput → Int32 =>
    writeInt_determines.comp (P := Framable) field fun _ _ => trivial
  have bytes := fun (field : EnvelopeInput → Bytes) (hfield : ∀ z : EnvelopeInput, z.Framable →
    IsSize (field z).length) => writeBytes_determines.comp (P := Framable) field hfield
  have metadata := (writeSize_determines.counted entry_determines).comp (P := Framable)
    EnvelopeInput.clientMetadata fun _ h => h.clientMetadata
  have hall := (((((((((((((text eventId fun _ h => h.eventId).append
    (text EnvelopeInput.namespace fun _ h => h.namespace)).append
    (text logicalStreamType fun _ h => h.logicalStreamType)).append
    (bytes streamKey fun _ h => h.streamKey)).append
    (text eventType fun _ h => h.eventType)).append
    (number schemaVersion)).append
    (text operationType fun _ h => h.operationType)).append
    (text operationId fun _ h => h.operationId)).append
    (text eventRole fun _ h => h.eventRole)).append
    (text requestedMinimumDurability fun _ h => h.requestedMinimumDurability)).append
    metadata).append
    (bytes typedPayload fun _ h => h.typedPayload)).append
    (number canonicalizationVersion)).append
    (text eventContractHandle fun _ h => h.eventContractHandle)
  have hvalues := hall.eq hx hy h
  simp only [Prod.mk.injEq, id_eq] at hvalues
  obtain ⟨⟨⟨⟨⟨⟨⟨⟨⟨⟨⟨⟨⟨h1, h2⟩, h3⟩, h4⟩, h5⟩, h6⟩, h7⟩, h8⟩, h9⟩, h10⟩, h11⟩, h12⟩, h13⟩, h14⟩ := hvalues
  have hentries := entries_eq h11
  cases x
  cases y
  simp_all

/-- The same input: scalar fields, stream key and payload are equal, and the metadata have
the same entries. -/
structure SameInput (a b : EnvelopeInput) : Prop where
  eventId : a.eventId = b.eventId
  «namespace» : a.namespace = b.namespace
  logicalStreamType : a.logicalStreamType = b.logicalStreamType
  streamKey : a.streamKey = b.streamKey
  eventType : a.eventType = b.eventType
  schemaVersion : a.schemaVersion = b.schemaVersion
  operationType : a.operationType = b.operationType
  operationId : a.operationId = b.operationId
  eventRole : a.eventRole = b.eventRole
  requestedMinimumDurability : a.requestedMinimumDurability = b.requestedMinimumDurability
  clientMetadata : ∀ entry, entry ∈ a.clientMetadata ↔ entry ∈ b.clientMetadata
  typedPayload : a.typedPayload = b.typedPayload
  canonicalizationVersion : a.canonicalizationVersion = b.canonicalizationVersion
  eventContractHandle : a.eventContractHandle = b.eventContractHandle

theorem sorted_wellFormed : c.sorted.WellFormed ↔ c.WellFormed := by
  have hmem : ∀ e, e ∈ c.sorted.clientMetadata ↔ e ∈ c.clientMetadata :=
    fun _ => SortedBy.mem_sortBy _
  constructor
  · intro h
    exact { h with clientMetadata := fun e he => h.clientMetadata e ((hmem e).mpr he) }
  · intro h
    exact { h with clientMetadata := fun e he => h.clientMetadata e ((hmem e).mp he) }

theorem sorted_sameInput : a.sorted.SameInput b.sorted ↔ a.SameInput b := by
  have hmem : ∀ (c : EnvelopeInput) e, e ∈ c.sorted.clientMetadata ↔ e ∈ c.clientMetadata :=
    fun _ _ => SortedBy.mem_sortBy _
  constructor
  · intro h
    exact { h with
      clientMetadata := fun e => ((hmem a e).symm.trans (h.clientMetadata e)).trans (hmem b e) }
  · intro h
    exact { h with
      clientMetadata := fun e => ((hmem a e).trans (h.clientMetadata e)).trans (hmem b e).symm }

/-- Records are equal when they were built from the same input. -/
theorem sorted_eq_iff (ha : a.Accepted) (hb : b.Accepted) : a.sorted = b.sorted ↔ a.SameInput b := by
  have hsort : SortedBy.sortBy MetadataEntry.unsignedKey a.clientMetadata =
      SortedBy.sortBy MetadataEntry.unsignedKey b.clientMetadata ↔
      ∀ entry, entry ∈ a.clientMetadata ↔ entry ∈ b.clientMetadata := by
    constructor
    · intro h entry
      rw [← SortedBy.mem_sortBy MetadataEntry.unsignedKey, h, SortedBy.mem_sortBy]
    · exact SortedBy.sortBy_eq_of_mem_iff ha.clientMetadata.unsignedKeys
        hb.clientMetadata.unsignedKeys
  unfold sorted
  rw [EnvelopeInput.mk.injEq, hsort]
  constructor
  · rintro ⟨h1, h2, h3, h4, h5, h6, h7, h8, h9, h10, h11, h12, h13, h14⟩
    exact ⟨h1, h2, h3, h4, h5, h6, h7, h8, h9, h10, h11, h12, h13, h14⟩
  · rintro ⟨h1, h2, h3, h4, h5, h6, h7, h8, h9, h10, h11, h12, h13, h14⟩
    exact ⟨h1, h2, h3, h4, h5, h6, h7, h8, h9, h10, h11, h12, h13, h14⟩

end EnvelopeInput

end CraftRelay.Client
