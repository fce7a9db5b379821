import CraftRelay.Lib.Framed
import CraftRelay.Client.JavaString

/-!
# Canonical byte strings of the contract records

The records are written to a `DataOutputStream`: numbers with their fixed width, byte
strings and texts behind their length, lists behind their count. Each of these codes says
where it ends, so a record can be read back from its bytes.
-/

namespace CraftRelay.Client

/-! ## Fixed widths -/

/-- `writeInt`. -/
def writeInt (n : Int32) : Bytes := beBytes 4 n.toInt

/-- `writeLong`. -/
def writeLong (n : Int64) : Bytes := beBytes 8 n.toInt

/-- `writeInt` of a size. -/
def writeSize (n : Nat) : Bytes := beBytes 4 n

/-- A byte string behind its length. -/
def writeBytes (value : Bytes) : Bytes := writeSize value.length ++ value

/-- The UTF-8 bytes of a string behind their length. -/
def writeText (value : JavaString) : Bytes := writeBytes value.getBytes

/-- The sizes a Java array or list can have. -/
def IsSize (n : Nat) : Prop := n < 2147483648

/-! ## Lengths -/

@[simp] theorem length_writeInt (n : Int32) : (writeInt n).length = 4 := length_beBytes 4 _

@[simp] theorem length_writeLong (n : Int64) : (writeLong n).length = 8 := length_beBytes 8 _

@[simp] theorem length_writeSize (n : Nat) : (writeSize n).length = 4 := length_beBytes 4 _

@[simp] theorem length_writeText (value : JavaString) :
    (writeText value).length = 4 + value.getBytes.length := by
  simp [writeText, writeBytes]

/-! ## What the codes determine -/

theorem writeInt_determines : Framed.Determines (fun _ => True) writeInt id := by
  refine Framed.determines_of_length (n := 4) (fun _ _ => length_beBytes 4 _) ?_
  intro a b _ _ h
  have hmod := emod_eq_of_beBytes h
  have ha := a.toInt_lt
  have hb := b.toInt_lt
  have ha' := a.le_toInt
  have hb' := b.le_toInt
  have heq : a.toInt = b.toInt := by omega
  exact Int32.toInt_inj.mp heq

theorem writeLong_determines : Framed.Determines (fun _ => True) writeLong id := by
  refine Framed.determines_of_length (n := 8) (fun _ _ => length_beBytes 8 _) ?_
  intro a b _ _ h
  have hmod := emod_eq_of_beBytes h
  have ha := a.toInt_lt
  have hb := b.toInt_lt
  have ha' := a.le_toInt
  have hb' := b.le_toInt
  have heq : a.toInt = b.toInt := by omega
  exact Int64.toInt_inj.mp heq

theorem writeSize_determines : Framed.Determines IsSize writeSize id := by
  refine Framed.determines_of_length (n := 4) (fun _ _ => length_beBytes 4 _) ?_
  intro a b ha hb h
  have hmod := emod_eq_of_beBytes h
  unfold IsSize at ha hb
  show a = b
  omega

theorem writeBytes_determines :
    Framed.Determines (fun value => IsSize value.length) writeBytes id :=
  writeSize_determines.measured

/-- A text determines its UTF-8 bytes. -/
theorem writeText_determines_bytes :
    Framed.Determines (fun s : JavaString => IsSize s.getBytes.length) writeText
      JavaString.getBytes :=
  writeBytes_determines.comp JavaString.getBytes fun _ h => h

/-- A text that can be read back. -/
structure Readable (s : JavaString) : Prop where
  wellFormed : s.WellFormed
  size : IsSize s.getBytes.length

/-- A well-formed text determines itself. -/
theorem writeText_determines : Framed.Determines Readable writeText id := by
  intro a b r s ha hb hcode
  obtain ⟨hbytes, hrest⟩ := writeText_determines_bytes ha.size hb.size hcode
  exact ⟨JavaString.getBytes_injective ha.wellFormed hb.wellFormed hbytes, hrest⟩

end CraftRelay.Client
