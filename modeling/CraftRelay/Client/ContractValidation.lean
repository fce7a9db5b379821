import CraftRelay.Lib.EarlyReturn
import CraftRelay.Client.Character

/-!
# The checks of the contract records

`ContractValidation.java` and `ContractLimits.java`. A check returns its value or throws
a `ContractViolationException`, which is its code and message. References are not `null`
here, except where the code compares them with `null`.
-/

namespace CraftRelay.Client

/-- `ContractViolationException.Code`. -/
inductive Code where
  | invalidUuid | uuidNotVersion7 | invalidInstallationScope | nonPositiveInt32
  | nonPositiveInt64 | metadataCountExceeded | metadataBytesExceeded | invalidMetadataKey
  | duplicateMetadataKey | payloadTooLarge | invalidChecksum | lifecycleIntegrityConflict
  | tokenInvalidMac | tokenExpired | tokenScopeMismatch | boundsExceeded | invalidArgument
  deriving DecidableEq, Repr

structure ContractViolation where
  code : Code
  message : String
  deriving DecidableEq

/-! ## Limits -/

def maxMetadataEntries : Nat := 32
def maxMetadataBytes : Nat := 8192
def maxMetadataKeyBytes : Nat := 128
def maxMetadataValueBytes : Nat := 1024
def maxPayloadBytes : Nat := 1048576
def maxBarrierPartitions : Nat := 1024
def maxTokenMutationReferences : Nat := 64
def maxTokenBytes : Nat := 16384

/-! ## Numbers, texts and checksums -/

def positiveInt32 (value : Int32) (field : String) : Except ContractViolation Int32 :=
  if value.toInt ≤ 0 then .error ⟨.nonPositiveInt32, field ++ " must be a positive int32"⟩
  else .ok value

def positiveInt64 (value : Int64) (field : String) : Except ContractViolation Int64 :=
  if value.toInt ≤ 0 then .error ⟨.nonPositiveInt64, field ++ " must be a positive int64"⟩
  else .ok value

def boundedText (value : JavaString) (field : String) (maximumUtf8Bytes : Nat) :
    Except ContractViolation JavaString :=
  if value.isBlank ∨ maximumUtf8Bytes < value.getBytes.length then
    .error ⟨.invalidArgument,
      field ++ " must contain 1.." ++ toString maximumUtf8Bytes ++ " UTF-8 bytes"⟩
  else .ok value

def fixedChecksum (value : Bytes) (field : String) : Except ContractViolation Bytes :=
  if value.length ≠ 32 then .error ⟨.invalidChecksum, field ++ " must contain 32 bytes"⟩
  else .ok value

/-- A text that `boundedText` returns. -/
structure Bounded (s : JavaString) (n : Nat) : Prop where
  notBlank : s.isBlank = false
  bytes : s.getBytes.length ≤ n

theorem positiveInt32_eq_ok {value n : Int32} {field : String} :
    positiveInt32 value field = .ok n ↔ 0 < value.toInt ∧ n = value := by
  unfold positiveInt32
  split
  · rename_i h
    simp [Int.not_lt.mpr h]
  · rename_i h
    simp [Int.not_le.mp h, eq_comm]

theorem positiveInt64_eq_ok {value n : Int64} {field : String} :
    positiveInt64 value field = .ok n ↔ 0 < value.toInt ∧ n = value := by
  unfold positiveInt64
  split
  · rename_i h
    simp [Int.not_lt.mpr h]
  · rename_i h
    simp [Int.not_le.mp h, eq_comm]

theorem boundedText_eq_ok {value s : JavaString} {field : String} {n : Nat} :
    boundedText value field n = .ok s ↔ Bounded value n ∧ s = value := by
  unfold boundedText
  split
  · rename_i h
    simp only [reduceCtorEq, false_iff, not_and]
    rintro ⟨hblank, hlen⟩
    rcases h with h | h
    · rw [hblank] at h
      cases h
    · omega
  · rename_i h
    obtain ⟨hblank, hlen⟩ := not_or.mp h
    have hbounded : Bounded value n := ⟨Bool.eq_false_iff.mpr hblank, Nat.not_lt.mp hlen⟩
    simp [hbounded, eq_comm]

theorem fixedChecksum_eq_ok {value b : Bytes} {field : String} :
    fixedChecksum value field = .ok b ↔ value.length = 32 ∧ b = value := by
  unfold fixedChecksum
  split
  · rename_i h
    simp [h]
  · rename_i h
    simp [not_not.mp h, eq_comm]

/-! ## UUIDs -/

/-- The value of an ASCII hexadecimal digit. -/
def hexDigit? (u : UInt16) : Option Nat :=
  let n := u.toNat
  if 48 ≤ n ∧ n ≤ 57 then some (n - 48)
  else if 97 ≤ n ∧ n ≤ 102 then some (n - 87)
  else if 65 ≤ n ∧ n ≤ 70 then some (n - 55)
  else none

/-- `java.util.UUID`. -/
structure Uuid where
  mostSigBits : Nat
  leastSigBits : Nat
  deriving DecidableEq

namespace Uuid

/-- Big-endian value of hexadecimal digits. -/
def hexValue? (s : JavaString) : Option Nat :=
  s.foldlM (fun acc u => (hexDigit? u).map fun d => acc * 16 + d) 0

/-- `Long.parseLong` to the base 16 of a group, which has no minus sign. -/
def parseLong (group : JavaString) : Option Nat :=
  let digits := if group.head? = some 43 then group.tail else group
  if digits = [] then none
  else digits.foldlM (fun acc u => (Character.digit u.toNat 16).bind fun d =>
    if acc * 16 + d < 2 ^ 63 then some (acc * 16 + d) else none) 0

/-- `UUID.fromString1`: any five groups, of which the low bits count. -/
def fromString1 (name : JavaString) : Option Uuid :=
  if 36 < name.length then none
  else
    match name.splitOn 45 with
    | [group₁, group₂, group₃, group₄, group₅] => do
      let bits₁ ← parseLong group₁
      let bits₂ ← parseLong group₂
      let bits₃ ← parseLong group₃
      let bits₄ ← parseLong group₄
      let bits₅ ← parseLong group₅
      return ⟨(bits₁ % 2 ^ 32 * 2 ^ 16 + bits₂ % 2 ^ 16) * 2 ^ 16 + bits₃ % 2 ^ 16,
        bits₄ % 2 ^ 16 * 2 ^ 48 + bits₅ % 2 ^ 48⟩
    | _ => none

/-- `UUID.fromString`: first as `toString` prints it. -/
def fromString (s : JavaString) : Option Uuid :=
  (if s.length = 36 ∧ [8, 13, 18, 23].all (fun i => s.getD i 0 == 45) then do
    let most ← hexValue? (s.take 8 ++ (s.drop 9).take 4 ++ (s.drop 14).take 4)
    let least ← hexValue? ((s.drop 19).take 4 ++ s.drop 24)
    return ⟨most, least⟩
  else none) <|> fromString1 s

/-- `width` lower-case hexadecimal digits. -/
def hexText (width n : Nat) : JavaString :=
  (List.range width).reverse.map fun i =>
    let d := n / 16 ^ i % 16
    UInt16.ofNat (if d < 10 then 48 + d else 87 + d)

def toText (u : Uuid) : JavaString :=
  hexText 8 (u.mostSigBits / 2 ^ 32) ++ [45] ++ hexText 4 (u.mostSigBits / 2 ^ 16) ++ [45] ++
    hexText 4 u.mostSigBits ++ [45] ++ hexText 4 (u.leastSigBits / 2 ^ 48) ++ [45] ++
    hexText 12 u.leastSigBits

def version (u : Uuid) : Nat := u.mostSigBits / 2 ^ 12 % 16

/-- The top bits `0`, `10` and `11x`. -/
def variant (u : Uuid) : Nat :=
  if u.leastSigBits / 2 ^ 63 % 2 = 0 then 0
  else if u.leastSigBits / 2 ^ 62 % 4 = 2 then 2
  else u.leastSigBits / 2 ^ 61 % 8

end Uuid

/-- `value.equals(value.toLowerCase(Locale.ROOT))`. -/
def isLowerCase (s : JavaString) : Bool :=
  s.decode.all fun c => !Character.changesToLowerCase c.toNat

def canonicalUuidV7 (value : JavaString) (field : String) :
    Except ContractViolation JavaString :=
  if value.length ≠ 36 ∨ isLowerCase value = false then
    .error ⟨.invalidUuid, field ++ " must be canonical lowercase UUID text"⟩
  else
    match Uuid.fromString value with
    | none => .error ⟨.invalidUuid, field ++ " must be a valid UUID"⟩
    | some parsed =>
      if parsed.toText ≠ value then
        .error ⟨.invalidUuid, field ++ " must use canonical UUID encoding"⟩
      else if parsed.version ≠ 7 ∨ parsed.variant ≠ 2 then
        .error ⟨.uuidNotVersion7, field ++ " must be RFC-variant UUIDv7"⟩
      else .ok value

theorem canonicalUuidV7_length {value s : JavaString} {field : String}
    (h : canonicalUuidV7 value field = .ok s) : value.length = 36 ∧ s = value := by
  unfold canonicalUuidV7 at h
  split at h
  · cases h
  rename_i hlen
  split at h
  · cases h
  split at h
  · cases h
  split at h
  · cases h
  cases h
  exact ⟨not_not.mp (not_or.mp hlen).1, rfl⟩

theorem canonicalUuidV7_eq_ok {value s : JavaString} {field : String} :
    canonicalUuidV7 value field = .ok s ↔
      canonicalUuidV7 value field = .ok value ∧ s = value := by
  constructor
  · intro h
    obtain ⟨-, rfl⟩ := canonicalUuidV7_length h
    exact ⟨h, rfl⟩
  · rintro ⟨h, rfl⟩
    exact h

example : canonicalUuidV7 (.ofString "01890f3e-7b4c-7cc2-98c8-3f0f5f3f9b4a") "eventId" =
    .ok (.ofString "01890f3e-7b4c-7cc2-98c8-3f0f5f3f9b4a") := by decide +kernel

/-- Groups of other lengths are read, and printed with their usual ones. -/
example : canonicalUuidV7 (.ofString "1890f3e-7b4c-7cc2-98c8-03f0f5f3f9b4a") "eventId" =
    .error ⟨.invalidUuid, "eventId must use canonical UUID encoding"⟩ := by decide +kernel

/-! ## Chains of checks -/

section Chains

variable {α : Type} {b : α}

theorem positiveInt32_bind {value : Int32} {field : String}
    {f : Int32 → Except ContractViolation α} :
    (positiveInt32 value field >>= f) = .ok b ↔ 0 < value.toInt ∧ f value = .ok b :=
  Except.returns_bind_iff fun _ => positiveInt32_eq_ok

theorem positiveInt64_bind {value : Int64} {field : String}
    {f : Int64 → Except ContractViolation α} :
    (positiveInt64 value field >>= f) = .ok b ↔ 0 < value.toInt ∧ f value = .ok b :=
  Except.returns_bind_iff fun _ => positiveInt64_eq_ok

theorem boundedText_bind {value : JavaString} {field : String} {n : Nat}
    {f : JavaString → Except ContractViolation α} :
    (boundedText value field n >>= f) = .ok b ↔ Bounded value n ∧ f value = .ok b :=
  Except.returns_bind_iff fun _ => boundedText_eq_ok

theorem fixedChecksum_bind {value : Bytes} {field : String}
    {f : Bytes → Except ContractViolation α} :
    (fixedChecksum value field >>= f) = .ok b ↔ value.length = 32 ∧ f value = .ok b :=
  Except.returns_bind_iff fun _ => fixedChecksum_eq_ok

theorem canonicalUuidV7_bind {value : JavaString} {field : String}
    {f : JavaString → Except ContractViolation α} :
    (canonicalUuidV7 value field >>= f) = .ok b ↔
      canonicalUuidV7 value field = .ok value ∧ f value = .ok b :=
  Except.returns_bind_iff fun _ => canonicalUuidV7_eq_ok

end Chains

end CraftRelay.Client
