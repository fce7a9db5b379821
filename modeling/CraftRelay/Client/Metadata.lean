import CraftRelay.Client.EnvelopeInput
import CraftRelay.Domain.Metadata

/-!
# Metadata in the client

Each entry is constructed, which checks it alone, and the entries are checked together and
sorted. What the client accepts of a list of texts is what the bridge accepts, as long as
no entry is over the limits of its record.
-/

namespace CraftRelay.Client

namespace MetadataEntry

def pair (entry : MetadataEntry) : JavaString × JavaString := (entry.key, entry.value)

theorem construct_eq_ok_iff {key value : JavaString} {entry : MetadataEntry} :
    construct key value = .ok entry ↔ entry.pair = (key, value) := by
  unfold construct pair
  constructor
  · intro h
    split at h
    · cases h
    · cases h
      rfl
  · intro h
    obtain ⟨k, v, hcheck⟩ := entry
    cases h
    split
    · rename_i hfail
      rw [hcheck] at hfail
      cases hfail
    · rfl

theorem exists_construct_iff {key value : JavaString} :
    (∃ entry, construct key value = .ok entry) ↔ checkMetadataEntry key value = .ok () := by
  simp only [construct_eq_ok_iff, pair]
  constructor
  · intro ⟨entry, h⟩
    cases h
    exact entry.constructed
  · intro h
    exact ⟨⟨key, value, h⟩, rfl⟩

end MetadataEntry

/-- The entries are constructed before the list is checked. -/
def canonicalMetadata (entries : List (JavaString × JavaString)) :
    Except ContractViolation (List MetadataEntry) := do
  let constructed ← entries.mapM fun entry => MetadataEntry.construct entry.1 entry.2
  validateAndSort constructed

theorem construct_all_iff {entries : List (JavaString × JavaString)}
    {constructed : List MetadataEntry} :
    entries.mapM (fun entry => MetadataEntry.construct entry.1 entry.2) = .ok constructed ↔
      constructed.map MetadataEntry.pair = entries := by
  have hpair : ∀ (entry : JavaString × JavaString) (e : MetadataEntry),
      MetadataEntry.construct entry.1 entry.2 = .ok e ↔ entry = e.pair := by
    intro entry e
    rw [MetadataEntry.construct_eq_ok_iff]
    exact eq_comm
  rw [Except.mapM_eq_ok_iff]
  simp only [hpair]
  rw [eq_comm, ← List.forall₂_eq_eq_eq, List.forall₂_map_right_iff]

/-! ## Entries that are texts -/

/-- The same entry for the client. -/
def transcribe (entry : CraftRelay.MetadataEntry) : JavaString × JavaString :=
  (JavaString.ofString entry.key, JavaString.ofString entry.value)

/-- Within the limits of the record: what the bridge does not check. -/
structure WithinRecordLimits (entry : CraftRelay.MetadataEntry) : Prop where
  key : (utf8 entry.key).length ≤ maxMetadataKeyBytes
  value : (utf8 entry.value).length ≤ maxMetadataValueBytes
  notBlank : ∃ c ∈ entry.value.toList, JavaString.isWhitespace c = false

theorem matchesKey_iff {key : JavaString} :
    matchesKey key = true ↔
      Ascii.Begins CraftRelay.MetadataEntry.isKeyStart CraftRelay.MetadataEntry.isKeyPart
        key.units := by
  cases key with
  | nil => simp [matchesKey, JavaString.units, Ascii.Begins]
  | cons u rest =>
      unfold matchesKey
      rw [Bool.and_eq_true, List.all_eq_true]
      simp only [JavaString.units, List.map_cons, Ascii.Begins, List.forall_mem_map]
      exact Iff.rfl

/-- The regular expression and the test of the bytes are the same rule. -/
theorem matchesKey_ofString_iff {entry : CraftRelay.MetadataEntry} :
    matchesKey (JavaString.ofString entry.key) = true ↔ entry.Keyed := by
  rw [matchesKey_iff, JavaString.begins_units_iff
    (JavaString.oneUnit_of_narrow CraftRelay.MetadataEntry.narrow_isKeyStart)
    (JavaString.oneUnit_of_narrow CraftRelay.MetadataEntry.narrow_isKeyPart)]
  exact Iff.rfl

theorem isBlank_ofString_iff {t : String} :
    (JavaString.ofString t).isBlank = false ↔ ∃ c ∈ t.toList, JavaString.isWhitespace c = false := by
  unfold JavaString.isBlank
  rw [JavaString.decode_ofString, List.all_eq_false]
  simp only [Bool.not_eq_true]

theorem not_isWhitespace_of_isKeyStart {c : Char}
    (h : CraftRelay.MetadataEntry.isKeyStart c.toNat = true) :
    JavaString.isWhitespace c = false := by
  have hrange : (97 ≤ c.toNat ∧ c.toNat ≤ 122) ∨ 48 ≤ c.toNat ∧ c.toNat ≤ 57 := by
    simpa [CraftRelay.MetadataEntry.isKeyStart, Ascii.isLower_iff, Ascii.isDigit_iff] using h
  unfold JavaString.isWhitespace
  simp only [Bool.or_eq_false_iff, Bool.and_eq_false_iff, decide_eq_false_iff_not,
    beq_eq_false_iff_ne]
  omega

/-- A key is not blank. -/
theorem exists_not_whitespace_of_keyed {entry : CraftRelay.MetadataEntry} (h : entry.Keyed) :
    ∃ c ∈ entry.key.toList, JavaString.isWhitespace c = false := by
  unfold CraftRelay.MetadataEntry.Keyed at h
  cases hchars : entry.key.toList with
  | nil =>
      rw [hchars] at h
      exact h.elim
  | cons c cs =>
      rw [hchars] at h
      exact ⟨c, List.mem_cons_self, not_isWhitespace_of_isKeyStart h.1⟩

theorem checkMetadataEntry_transcribe_iff {entry : CraftRelay.MetadataEntry} :
    checkMetadataEntry (transcribe entry).1 (transcribe entry).2 = .ok () ↔
      entry.Keyed ∧ WithinRecordLimits entry := by
  unfold checkMetadataEntry transcribe
  rw [boundedText_bind, boundedText_bind, Except.refuseIf_eq_ok_iff, Bool.not_eq_false,
    matchesKey_ofString_iff]
  constructor
  · intro ⟨hkey, hvalue, hkeyed⟩
    have hkeyBytes := hkey.bytes
    have hvalueBytes := hvalue.bytes
    rw [JavaString.getBytes_ofString] at hkeyBytes hvalueBytes
    exact ⟨hkeyed, hkeyBytes, hvalueBytes, isBlank_ofString_iff.mp hvalue.notBlank⟩
  · intro ⟨hkeyed, hlimits⟩
    refine ⟨⟨?_, ?_⟩, ⟨?_, ?_⟩, hkeyed⟩
    · exact isBlank_ofString_iff.mpr (exists_not_whitespace_of_keyed hkeyed)
    · rw [JavaString.getBytes_ofString]
      exact hlimits.key
    · exact isBlank_ofString_iff.mpr hlimits.notBlank
    · rw [JavaString.getBytes_ofString]
      exact hlimits.value

/-! ## Lists of entries that are texts -/

section Agree

variable {entries : List CraftRelay.MetadataEntry} {constructed : List MetadataEntry}

/-- What the lists have in common. -/
theorem keys_of_transcribed (h : constructed.map MetadataEntry.pair = entries.map transcribe) :
    constructed.length = entries.length ∧
      constructed.map (·.key) = (entries.map (·.key)).map JavaString.ofString ∧
      constructed.map (·.size) = entries.map (·.size) := by
  refine ⟨?_, ?_, ?_⟩
  · simpa using congrArg List.length h
  · simpa [MetadataEntry.pair, transcribe, Function.comp_def] using
      congrArg (List.map Prod.fst) h
  · have hsize := congrArg (List.map fun p => p.1.getBytes.length + p.2.getBytes.length) h
    simpa [MetadataEntry.pair, transcribe, Function.comp_def, JavaString.getBytes_ofString,
      MetadataEntry.size, CraftRelay.MetadataEntry.size] using hsize

/-- The rules for the list are the rules of the bridge, the keys apart. -/
theorem metadataAccepted_iff (h : constructed.map MetadataEntry.pair = entries.map transcribe) :
    MetadataAccepted constructed ↔
      entries.length ≤ maxMetadataEntries ∧ (entries.map (·.key)).Nodup ∧
        (entries.map (·.size)).sum ≤ maxMetadataBytes := by
  obtain ⟨hlength, hkeys, hsize⟩ := keys_of_transcribed h
  have hnodup : (constructed.map (·.key)).Nodup ↔ (entries.map (·.key)).Nodup := by
    rw [hkeys]
    exact List.nodup_map_iff fun _ _ => JavaString.ofString_injective
  constructor
  · intro haccepted
    have hcount := haccepted.count
    have hbytes := haccepted.bytes
    rw [hlength] at hcount
    rw [hsize] at hbytes
    exact ⟨hcount, hnodup.mp haccepted.keys, hbytes⟩
  · intro ⟨hcount, hdistinct, hbytes⟩
    refine ⟨?_, hnodup.mpr hdistinct, ?_⟩
    · rw [hlength]
      exact hcount
    · rw [hsize]
      exact hbytes

/-- The client accepts the list when every entry is within its record's limits and the list
keeps the rules of the bridge. -/
theorem exists_canonicalMetadata_iff :
    (∃ canonical, canonicalMetadata (entries.map transcribe) = .ok canonical) ↔
      KeepsMetadataRules entries ∧ ∀ entry ∈ entries, WithinRecordLimits entry := by
  have hconstructed : (∃ constructed : List MetadataEntry,
      constructed.map MetadataEntry.pair = entries.map transcribe) ↔
      ∀ entry ∈ entries, entry.Keyed ∧ WithinRecordLimits entry := by
    simp only [← construct_all_iff, Except.exists_mapM_iff, List.forall_mem_map,
      MetadataEntry.exists_construct_iff, checkMetadataEntry_transcribe_iff]
  unfold canonicalMetadata
  simp only [Except.bind_eq_ok_iff, construct_all_iff, validateAndSort_eq_ok_iff]
  constructor
  · intro ⟨_, constructed, hpairs, haccepted, _⟩
    obtain ⟨hcount, hkeys, hbytes⟩ := (metadataAccepted_iff hpairs).mp haccepted
    have hall := hconstructed.mp ⟨constructed, hpairs⟩
    exact ⟨⟨hcount, fun entry hentry => (hall entry hentry).1, hkeys, hbytes⟩,
      fun entry hentry => (hall entry hentry).2⟩
  · intro ⟨hrules, hlimits⟩
    obtain ⟨constructed, hpairs⟩ :=
      hconstructed.mpr fun entry hentry => ⟨hrules.keyed entry hentry, hlimits entry hentry⟩
    have haccepted := (metadataAccepted_iff hpairs).mpr ⟨hrules.count, hrules.keys, hrules.bytes⟩
    exact ⟨_, constructed, hpairs, haccepted, rfl⟩

/-- Both sort by the same bytes. -/
theorem canonicalMetadata_pairs {sorted : List CraftRelay.MetadataEntry}
    {canonical : List MetadataEntry} (hbridge : canonicalizeMetadata entries = .ok sorted)
    (hclient : canonicalMetadata (entries.map transcribe) = .ok canonical) :
    canonical.map MetadataEntry.pair = sorted.map transcribe := by
  let bytes : JavaString × JavaString → List Nat := fun p => p.1.getBytes.map UInt8.toNat
  have hpair : ∀ e : MetadataEntry, bytes e.pair = e.unsignedKey := fun _ => rfl
  have htranscribe : ∀ e : CraftRelay.MetadataEntry, bytes (transcribe e) = e.unsignedKey := by
    intro e
    show (JavaString.ofString e.key).getBytes.map UInt8.toNat = _
    rw [JavaString.getBytes_ofString]
    rfl
  obtain ⟨-, rfl⟩ := canonicalizeMetadata_eq_ok_iff.mp hbridge
  unfold canonicalMetadata at hclient
  simp only [Except.bind_eq_ok_iff, construct_all_iff, validateAndSort_eq_ok_iff] at hclient
  obtain ⟨constructed, hpairs, -, rfl⟩ := hclient
  rw [SortedBy.map_sortBy _ _ hpair, SortedBy.map_sortBy _ _ htranscribe, hpairs]

end Agree

end CraftRelay.Client
