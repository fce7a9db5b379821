import Mathlib.Algebra.Group.Nat.Defs
import Mathlib.Algebra.Group.Int.Defs
import CraftRelay.Lib.Fips180
import CraftRelay.Journal.Types

/-!
# Canonical byte strings and the journal's checksums

Three checksums protect the rows: the envelope checksum over the immutable
columns of `stored_envelope`, the lifecycle checksum, and the delivery checksum,
which leaves out `updated_at_ms`. Each is SHA-256 of a byte string whose parts
are separated by a zero byte.
-/

namespace CraftRelay

/-- The UTF-8 bytes of a text. -/
def utf8 (s : String) : Bytes := s.toUTF8.data.toList

/-- The bytes of a text determine it. -/
theorem utf8_injective {s t : String} (h : utf8 s = utf8 t) : s = t := by
  unfold utf8 at h
  rw [Array.toList_inj] at h
  exact String.toByteArray_inj.mp (ByteArray.ext h)

theorem utf8_ofList (cs : List Char) :
    utf8 (String.ofList cs) = cs.flatMap String.utf8EncodeChar := by
  unfold utf8
  rw [String.toUTF8_eq_toByteArray]
  simp [List.utf8Encode]

/-- `to_be_bytes` of a two's-complement integer of `width` bytes. -/
def beBytes (width : Nat) (n : Int) : Bytes :=
  let residue := (n % (256 ^ width : Nat)).toNat
  (List.range width).reverse.map fun i => UInt8.ofNat (residue / 256 ^ i)

theorem length_beBytes (width : Nat) (n : Int) : (beBytes width n).length = width := by
  simp [beBytes]

/-- Numbers below `256 ^ width` with the same digits are the same. -/
theorem eq_of_digits {width x y : Nat} (hx : x < 256 ^ width) (hy : y < 256 ^ width)
    (h : ∀ i < width, x / 256 ^ i % 256 = y / 256 ^ i % 256) : x = y := by
  induction width generalizing x y with
  | zero => omega
  | succ w ih =>
      have hlow : x % 256 = y % 256 := by simpa using h 0 (Nat.succ_pos w)
      have hhigh : x / 256 = y / 256 := by
        rw [Nat.pow_succ] at hx hy
        refine ih (Nat.div_lt_of_lt_mul (by omega)) (Nat.div_lt_of_lt_mul (by omega)) ?_
        intro i hi
        have hdigit := h (i + 1) (Nat.succ_lt_succ hi)
        rw [Nat.pow_succ, Nat.mul_comm, ← Nat.div_div_eq_div_mul, ← Nat.div_div_eq_div_mul]
          at hdigit
        exact hdigit
      omega

theorem emod_eq_of_beBytes {width : Nat} {m n : Int} (h : beBytes width m = beBytes width n) :
    m % (256 ^ width : Nat) = n % (256 ^ width : Nat) := by
  have hpos : (0 : Int) < (256 ^ width : Nat) := by
    exact_mod_cast Nat.pow_pos (by omega)
  have hm := Int.emod_nonneg m (Int.ne_of_gt hpos)
  have hn := Int.emod_nonneg n (Int.ne_of_gt hpos)
  have hm' := Int.emod_lt_of_pos m hpos
  have hn' := Int.emod_lt_of_pos n hpos
  have heq : (m % (256 ^ width : Nat)).toNat = (n % (256 ^ width : Nat)).toNat := by
    have hlt : (m % (256 ^ width : Nat)).toNat < 256 ^ width := by omega
    have hlt' : (n % (256 ^ width : Nat)).toNat < 256 ^ width := by omega
    refine eq_of_digits hlt hlt' ?_
    intro i hi
    have hmem : i ∈ (List.range width).reverse := by simpa using hi
    have hdigit := List.map_inj_left.mp h i hmem
    simpa using congrArg UInt8.toNat hdigit
  omega

/-- Parts joined by the character `\0`, as the formatted keys are. -/
def joinNul (parts : List String) : String := "\x00".intercalate parts

/-- Byte parts joined by a zero byte. -/
def joinNulBytes (parts : List Bytes) : Bytes := [(0 : UInt8)].intercalate parts

/-- An absent column is written as the empty text. -/
def orEmpty {α : Type} (f : α → String) (x : Option α) : String :=
  x.elim "" f

def hexDigits : List Char := "0123456789abcdef".toList

/-- Lowercase hexadecimal, two digits for each byte. -/
def checksumHex (c : Checksum) : String :=
  String.ofList (c.val.flatMap fun b =>
    [hexDigits.getD (b.toNat / 16) '0', hexDigits.getD (b.toNat % 16) '0'])

/-- The hash at which concrete runs are taken. -/
@[reducible] def fipsSha256 : Sha256 := ⟨Fips180.sha256⟩

variable [Sha256]

def computeSha256 (data : Bytes) : Checksum := Sha256.digest data

/-- The seventeen values an envelope checksum covers. -/
structure EnvelopeFields where
  journalSequence : Int
  eventId : String
  installationId : String
  producerId : String
  producerInstanceId : String
  producerOpSeq : Int
  «namespace» : String
  logicalStreamType : String
  streamKey : String
  eventType : String
  schemaVersion : Int
  streamSequence : Int
  payloadDigest : Checksum
  requestFingerprint : Checksum
  payloadRefId : String
  payloadLength : Int
  routingVersion : Int

/-- The byte string an envelope checksum hashes. -/
def EnvelopeFields.canonicalBytes (e : EnvelopeFields) : Bytes :=
  joinNulBytes
    [ beBytes 8 e.journalSequence, utf8 e.eventId, utf8 e.installationId, utf8 e.producerId,
      utf8 e.producerInstanceId, beBytes 8 e.producerOpSeq, utf8 e.namespace,
      utf8 e.logicalStreamType, utf8 e.streamKey, utf8 e.eventType, beBytes 4 e.schemaVersion,
      beBytes 8 e.streamSequence, e.payloadDigest.val, e.requestFingerprint.val,
      utf8 e.payloadRefId, beBytes 8 e.payloadLength, beBytes 8 e.routingVersion ]

def computeEnvelopeChecksum (e : EnvelopeFields) : Checksum :=
  Sha256.digest e.canonicalBytes

def computeLifecycleChecksum (eventId : String) (revision : Int)
    (deliveryStatus retentionStatus : String) : Checksum :=
  Sha256.digest (utf8 (joinNul [eventId, toString revision, deliveryStatus, retentionStatus]))

/-- The text a delivery checksum hashes. `updated_at_ms` is left out: ordinary
attempt bookkeeping updates it. -/
def DeliveryStateRecord.canonicalText (s : DeliveryStateRecord) : String :=
  joinNul
    [ s.eventId, s.deliveryStatus, toString s.attemptCount, orEmpty toString s.nextRetryAtMs,
      s.lastError.getD "", s.blockedReason.getD "", s.kafkaTopic.getD "",
      orEmpty toString s.kafkaPartition, orEmpty toString s.kafkaOffset,
      orEmpty checksumHex s.routingFingerprint, s.profileId.getD "",
      orEmpty toString s.profileVersion, toString s.deliveryRevision,
      orEmpty toString s.confirmedAtMs, toString s.createdAtMs ]

def computeDeliveryChecksum (s : DeliveryStateRecord) : Checksum :=
  Sha256.digest (utf8 s.canonicalText)

end CraftRelay
