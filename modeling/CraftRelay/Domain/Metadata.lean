import Mathlib.Algebra.GroupWithZero.Nat
import Mathlib.Data.List.Lex
import CraftRelay.Lib.Ascii
import CraftRelay.Lib.EarlyReturn
import CraftRelay.Lib.SortedBy
import CraftRelay.Journal.Checksums

/-!
# Metadata in the bridge

`craftrelay-domain`: `canonicalize_metadata` checks the entries in their order and sorts
them by the bytes of their keys, and `canonical_metadata_text` joins them. Nothing is
required of a value but that all of them together are not too long.
-/

namespace CraftRelay

inductive ValidationError where
  | invalidUuid | nonPositiveInt32 | nonPositiveInt64 | metadataCountExceeded
  | metadataBytesExceeded | invalidMetadataKey | duplicateMetadataKey | tokenInvalidMac
  | tokenExpired | tokenScopeMismatch
  deriving DecidableEq, Repr

/-- A key and its value, both any text until they are checked. -/
structure MetadataEntry where
  key : String
  value : String
  deriving DecidableEq

def maxMetadataEntries : Nat := 32
def maxMetadataBytes : Nat := 8192

namespace MetadataEntry

def isKeyStart (n : Nat) : Bool := Ascii.isLower n || Ascii.isDigit n

def isKeyPart (n : Nat) : Bool := isKeyStart n || n == 46 || n == 95 || n == 45

/-- The test of a byte of a key at its index. -/
def isKeyByte (index : Nat) (byte : UInt8) : Bool :=
  Ascii.isLower byte.toNat || Ascii.isDigit byte.toNat ||
    (decide (0 < index) && (byte == 46 || byte == 95 || byte == 45))

def keyIsValid (entry : MetadataEntry) : Bool :=
  !(utf8 entry.key).isEmpty && (utf8 entry.key).zipIdx.all fun b => isKeyByte b.2 b.1

/-- The bytes an entry counts for. -/
def size (entry : MetadataEntry) : Nat := (utf8 entry.key).length + (utf8 entry.value).length

/-- Keys are compared byte by byte. -/
def unsignedKey (entry : MetadataEntry) : List Nat := (utf8 entry.key).map UInt8.toNat

end MetadataEntry

/-- The loop over the entries: the keys seen so far and the bytes counted, a `usize`. -/
def scanMetadata : List MetadataEntry → List Bytes → Nat → Except ValidationError Nat
  | [], _, totalBytes => .ok totalBytes
  | entry :: rest, keys, totalBytes => do
      Except.refuseIf (entry.keyIsValid = false) .invalidMetadataKey
      Except.refuseIf (utf8 entry.key ∈ keys) .duplicateMetadataKey
      Except.refuseIf (2 ^ 64 ≤ totalBytes + entry.size) .metadataBytesExceeded
      scanMetadata rest (utf8 entry.key :: keys) (totalBytes + entry.size)

/-- The entries in the order of their keys, once they have passed the checks. -/
def canonicalizeMetadata (entries : List MetadataEntry) :
    Except ValidationError (List MetadataEntry) := do
  Except.refuseIf (maxMetadataEntries < entries.length) .metadataCountExceeded
  let totalBytes ← scanMetadata entries [] 0
  Except.refuseIf (maxMetadataBytes < totalBytes) .metadataBytesExceeded
  return SortedBy.sortBy MetadataEntry.unsignedKey entries

/-- What the entry adds to the text. -/
def MetadataEntry.field (entry : MetadataEntry) : String := entry.key ++ "=" ++ entry.value

def canonicalMetadataText (entries : List MetadataEntry) : Except ValidationError String := do
  let canonical ← canonicalizeMetadata entries
  return "|".intercalate (canonical.map MetadataEntry.field)

/-! ## Keys -/

namespace MetadataEntry

/-- `[a-z0-9][a-z0-9._-]*`. -/
def Keyed (entry : MetadataEntry) : Prop :=
  Ascii.Begins isKeyStart isKeyPart (entry.key.toList.map Char.toNat)

theorem narrow_isKeyStart : Ascii.Narrow isKeyStart :=
  Ascii.narrow_or Ascii.narrow_isLower Ascii.narrow_isDigit

theorem isKeyPart_iff {n : Nat} :
    isKeyPart n = true ↔ isKeyStart n = true ∨ n = 46 ∨ n = 95 ∨ n = 45 := by
  simp [isKeyPart, or_assoc]

theorem narrow_isKeyPart : Ascii.Narrow isKeyPart := by
  intro n hn
  rcases isKeyPart_iff.mp hn with hn | hn
  · exact narrow_isKeyStart n hn
  · omega

/-- The separators are told from the others by their index only. -/
theorem isKeyByte_zero (byte : UInt8) : isKeyByte 0 byte = isKeyStart byte.toNat := by
  simp [isKeyByte, isKeyStart]

theorem isKeyByte_succ (index : Nat) (byte : UInt8) :
    isKeyByte (index + 1) byte = isKeyPart byte.toNat := by
  simp [isKeyByte, isKeyPart, isKeyStart, ← UInt8.toNat_inj, beq_eq_decide, Bool.or_assoc]

/-- After the first byte every index lets the separators pass. -/
theorem all_zipIdx_succ (bytes : Bytes) (index : Nat) :
    ((bytes.zipIdx (index + 1)).all fun b => isKeyByte b.2 b.1) =
      bytes.all fun byte => isKeyPart byte.toNat := by
  induction bytes generalizing index with
  | nil => rfl
  | cons byte rest ih => rw [List.zipIdx_cons, List.all_cons, List.all_cons, isKeyByte_succ, ih]

/-- The bytes of a key pass when its characters do. -/
theorem keyIsValid_iff {entry : MetadataEntry} : entry.keyIsValid = true ↔ entry.Keyed := by
  have htext : utf8 entry.key = entry.key.toList.flatMap String.utf8EncodeChar := by
    rw [← utf8_ofList, String.ofList_toList]
  unfold keyIsValid Keyed
  rw [← Ascii.begins_encode_iff narrow_isKeyStart narrow_isKeyPart, ← htext]
  cases utf8 entry.key with
  | nil => simp [Ascii.Begins]
  | cons byte rest =>
      rw [List.zipIdx_cons, List.all_cons, all_zipIdx_succ, isKeyByte_zero]
      simp [Ascii.Begins, List.all_eq_true]

/-- The order tells keys apart. -/
theorem unsignedKey_inj {a b : MetadataEntry} : a.unsignedKey = b.unsignedKey ↔ a.key = b.key := by
  constructor
  · intro h
    exact utf8_injective (List.map_injective_iff.mpr (fun _ _ h => UInt8.toNat_inj.mp h) h)
  · intro h
    unfold unsignedKey
    rw [h]

end MetadataEntry

/-! ## What is accepted -/

section Accepted

open MetadataEntry

variable {entries canonical : List MetadataEntry}

/-- The rules of `canonicalize_metadata`. -/
structure KeepsMetadataRules (entries : List MetadataEntry) : Prop where
  count : entries.length ≤ maxMetadataEntries
  keyed : ∀ entry ∈ entries, entry.Keyed
  keys : (entries.map (·.key)).Nodup
  bytes : (entries.map (·.size)).sum ≤ maxMetadataBytes

/-- The loop ends with the bytes of all entries. -/
theorem scanMetadata_eq_ok_iff {keys : List Bytes} {n m : Nat} :
    scanMetadata entries keys n = .ok m ∧ m < 2 ^ 64 ↔
      (∀ entry ∈ entries, entry.Keyed ∧ utf8 entry.key ∉ keys) ∧
        (entries.map (·.key)).Nodup ∧ m = n + (entries.map (·.size)).sum ∧ m < 2 ^ 64 := by
  -- the keys seen so far grow by one with each entry, so a later one meets all before it
  induction entries generalizing keys n with
  | nil =>
      simp only [scanMetadata, Except.ok.injEq, List.not_mem_nil, false_implies, implies_true,
        List.map_nil, List.nodup_nil, List.sum_nil, Nat.add_zero, true_and]
      exact and_congr_left fun _ => eq_comm
  | cons entry rest ih =>
      unfold scanMetadata
      rw [List.forall_mem_cons]
      simp only [Except.refuseIf_bind_iff, and_assoc, ih, Bool.not_eq_false, keyIsValid_iff,
        List.map_cons, List.nodup_cons, List.mem_cons, not_or, List.sum_cons, Nat.not_le]
      constructor
      · intro ⟨hkeyed, hnew, _, hrest, hnodup, hm, hlt⟩
        refine ⟨hkeyed, hnew, fun e he => ⟨(hrest e he).1, (hrest e he).2.2⟩, ?_, hnodup, by omega,
          hlt⟩
        intro hmem
        obtain ⟨e, he, heq⟩ := List.mem_map.mp hmem
        exact (hrest e he).2.1 (congrArg utf8 heq)
      · intro ⟨hkeyed, hnew, hrest, hfresh, hnodup, hm, hlt⟩
        refine ⟨hkeyed, hnew, by omega, ?_, hnodup, by omega, hlt⟩
        intro e he
        refine ⟨(hrest e he).1, ?_, (hrest e he).2⟩
        intro heq
        exact hfresh (List.mem_map.mpr ⟨e, he, utf8_injective heq⟩)

/-- What is accepted keeps the rules, and the answer is its sorted list. -/
theorem canonicalizeMetadata_eq_ok_iff :
    canonicalizeMetadata entries = .ok canonical ↔
      KeepsMetadataRules entries ∧
        canonical = SortedBy.sortBy MetadataEntry.unsignedKey entries := by
  unfold canonicalizeMetadata
  rw [Except.refuseIf_bind_iff, Except.bind_eq_ok_iff, Nat.not_lt]
  constructor
  · intro ⟨hcount, total, hscan, h⟩
    rw [Except.refuseIf_bind_iff, Nat.not_lt] at h
    obtain ⟨hbytes, hcanonical⟩ := h
    -- a total within the limit has not overflowed on the way
    have hsmall : total < 2 ^ 64 := lt_of_le_of_lt hbytes (by decide)
    obtain ⟨hall, hkeys, htotal, -⟩ := scanMetadata_eq_ok_iff.mp ⟨hscan, hsmall⟩
    cases hcanonical
    refine ⟨⟨hcount, fun entry hentry => (hall entry hentry).1, hkeys, ?_⟩, rfl⟩
    omega
  · intro ⟨h, hcanonical⟩
    have hsmall : (entries.map (·.size)).sum < 2 ^ 64 := lt_of_le_of_lt h.bytes (by decide)
    have hscan : scanMetadata entries [] 0 = .ok (entries.map (·.size)).sum := by
      apply (scanMetadata_eq_ok_iff.mpr ⟨?_, h.keys, ?_, hsmall⟩).1
      · exact fun entry hentry => ⟨h.keyed entry hentry, List.not_mem_nil⟩
      · rw [Nat.zero_add]
    refine ⟨h.count, _, hscan, ?_⟩
    rw [Except.refuseIf_bind_iff, Nat.not_lt, hcanonical]
    exact ⟨h.bytes, rfl⟩

/-- Keys that are apart have bytes that are apart. -/
theorem KeepsMetadataRules.unsignedKeys (h : KeepsMetadataRules entries) :
    (entries.map MetadataEntry.unsignedKey).Nodup := by
  apply (List.nodup_map_iff_inj_on h.keys.of_map).mpr
  intro a ha b hb hab
  exact List.inj_on_of_nodup_map h.keys ha hb (unsignedKey_inj.mp hab)

end Accepted

end CraftRelay
