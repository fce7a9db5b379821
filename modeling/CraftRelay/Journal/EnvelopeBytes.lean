import CraftRelay.Lib.Ascii
import CraftRelay.Lib.Framed
import CraftRelay.Journal.Checksums

/-!
# What an envelope checksum covers

The hashed bytes of an envelope are seventeen fields with a zero byte between them. Numbers
and digests have a fixed width and may have zero bytes of their own, so the byte string
cannot be split at its zero bytes; a text without the character U+0000 has none, and ends at
the next one.
-/

namespace CraftRelay

/-! ## Texts and numbers -/

/-- No character of the text is U+0000. -/
def NulFree (s : String) : Prop := '\x00' ∉ s.toList

instance (s : String) : Decidable (NulFree s) := inferInstanceAs (Decidable (_ ∉ _))

/-- Only U+0000 is written with a zero byte. -/
theorem zero_notMem_utf8EncodeChar {c : Char} (h : c ≠ '\x00') :
    (0 : UInt8) ∉ String.utf8EncodeChar c := by
  have hpos : c.toNat ≠ 0 := by
    intro hzero
    apply h
    exact Char.ext (UInt32.toNat_inj.mp hzero)
  intro hmem
  by_cases hascii : c.toNat < 128
  · rw [Ascii.encode_of_lt hascii, List.mem_singleton] at hmem
    apply hpos
    rw [← Ascii.toNat_byte hascii, ← hmem]
    rfl
  · -- every byte of a longer code has its highest bit set
    have hhigh : 128 ≤ (0 : UInt8).toNat := Ascii.high_of_mem (Nat.le_of_not_lt hascii) hmem
    exact absurd hhigh (by decide)

theorem NulFree.zero_notMem {s : String} (h : NulFree s) : (0 : UInt8) ∉ utf8 s := by
  rw [← String.ofList_toList (s := s), utf8_ofList, List.mem_flatMap]
  rintro ⟨c, hc, hmem⟩
  exact zero_notMem_utf8EncodeChar (fun hnul => h (hnul ▸ hc)) hmem

theorem InI64.eq_of_beBytes {m n : Int} (hm : InI64 m) (hn : InI64 n)
    (h : beBytes 8 m = beBytes 8 n) : m = n := by
  have hmod := emod_eq_of_beBytes h
  unfold InI64 at hm hn
  omega

theorem InI32.eq_of_beBytes {m n : Int} (hm : InI32 m) (hn : InI32 n)
    (h : beBytes 4 m = beBytes 4 n) : m = n := by
  have hmod := emod_eq_of_beBytes h
  unfold InI32 at hm hn
  omega

/-! ## Fields -/

namespace EnvelopeFields

def longs (e : EnvelopeFields) : List Int :=
  [e.journalSequence, e.producerOpSeq, e.streamSequence, e.payloadLength, e.routingVersion]

def texts (e : EnvelopeFields) : List String :=
  [ e.eventId, e.installationId, e.producerId, e.producerInstanceId, e.namespace,
    e.logicalStreamType, e.streamKey, e.eventType, e.payloadRefId ]

/-- The numbers are those of their types, and no text has U+0000. -/
structure Plain (e : EnvelopeFields) : Prop where
  longs : ∀ n ∈ e.longs, InI64 n
  schemaVersion : InI32 e.schemaVersion
  texts : ∀ s ∈ e.texts, NulFree s

theorem determines_long {field : EnvelopeFields → Int} (hfield : ∀ e, field e ∈ e.longs) :
    Framed.Determines Plain (fun e => beBytes 8 (field e)) field :=
  Framed.determines_of_length (fun _ _ => length_beBytes 8 _) fun _ _ ha hb h =>
    (ha.longs _ (hfield _)).eq_of_beBytes (hb.longs _ (hfield _)) h

theorem determines_schemaVersion :
    Framed.Determines Plain (fun e => beBytes 4 e.schemaVersion) (·.schemaVersion) :=
  Framed.determines_of_length (fun _ _ => length_beBytes 4 _) fun _ _ ha hb h =>
    ha.schemaVersion.eq_of_beBytes hb.schemaVersion h

theorem determines_digest (field : EnvelopeFields → Checksum) :
    Framed.Determines Plain (fun e => (field e).val) field :=
  Framed.determines_of_length (fun e _ => (field e).property) fun _ _ _ _ h => Subtype.ext h

theorem free_text {field : EnvelopeFields → String} (hfield : ∀ e, field e ∈ e.texts)
    (e : EnvelopeFields) (h : e.Plain) : (0 : UInt8) ∉ utf8 (field e) :=
  (h.texts _ (hfield e)).zero_notMem

/-- The hashed bytes, read field by field from the left. -/
theorem canonicalBytes_determines :
    Framed.Determines Plain canonicalBytes fun e =>
      (e.journalSequence, utf8 e.eventId, utf8 e.installationId, utf8 e.producerId,
        utf8 e.producerInstanceId, e.producerOpSeq, utf8 e.namespace, utf8 e.logicalStreamType,
        utf8 e.streamKey, utf8 e.eventType, e.schemaVersion, e.streamSequence, e.payloadDigest,
        e.requestFingerprint, utf8 e.payloadRefId, e.payloadLength, e.routingVersion) := by
  refine (determines_long (by simp [longs])).joined ?_
  refine .joined_free (free_text (by simp [texts])) ?_
  refine .joined_free (free_text (by simp [texts])) ?_
  refine .joined_free (free_text (by simp [texts])) ?_
  refine .joined_free (free_text (by simp [texts])) ?_
  refine (determines_long (by simp [longs])).joined ?_
  refine .joined_free (free_text (by simp [texts])) ?_
  refine .joined_free (free_text (by simp [texts])) ?_
  refine .joined_free (free_text (by simp [texts])) ?_
  refine .joined_free (free_text (by simp [texts])) ?_
  refine determines_schemaVersion.joined ?_
  refine (determines_long (by simp [longs])).joined ?_
  refine (determines_digest (·.payloadDigest)).joined ?_
  refine (determines_digest (·.requestFingerprint)).joined ?_
  refine .joined_free (free_text (by simp [texts])) ?_
  refine (determines_long (by simp [longs])).joined ?_
  exact (determines_long (by simp [longs])).joined_last

/-- Equal bytes are bytes of equal fields. -/
theorem Plain.eq_of_canonicalBytes {a b : EnvelopeFields} (ha : a.Plain) (hb : b.Plain)
    (h : a.canonicalBytes = b.canonicalBytes) : a = b := by
  have hvalues := canonicalBytes_determines.eq ha hb h
  cases a
  cases b
  simp only [Prod.mk.injEq] at hvalues
  obtain ⟨rfl, h2, h3, h4, h5, rfl, h7, h8, h9, h10, rfl, rfl, rfl, rfl, h15, rfl, rfl⟩ := hvalues
  obtain rfl := utf8_injective h2
  obtain rfl := utf8_injective h3
  obtain rfl := utf8_injective h4
  obtain rfl := utf8_injective h5
  obtain rfl := utf8_injective h7
  obtain rfl := utf8_injective h8
  obtain rfl := utf8_injective h9
  obtain rfl := utf8_injective h10
  obtain rfl := utf8_injective h15
  rfl

end EnvelopeFields

end CraftRelay
