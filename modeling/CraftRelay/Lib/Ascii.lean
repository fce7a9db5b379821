/-!
# ASCII characters in UTF-8

A character below 128 is written as one byte, its own number, and every byte of another
character is at least 128. A test that only ASCII passes therefore gives the same answer on
the bytes of a text and on its characters.
-/

namespace Ascii

def isLower (n : Nat) : Bool := 97 ≤ n && n ≤ 122

def isDigit (n : Nat) : Bool := 48 ≤ n && n ≤ 57

theorem toNat_byte {n : Nat} (h : n < 128) : (UInt8.ofNat n).toNat = n := by
  rw [UInt8.toNat_ofNat']
  omega

theorem encode_of_lt {c : Char} (h : c.toNat < 128) :
    String.utf8EncodeChar c = [UInt8.ofNat c.toNat] := by
  have hle : c.val.toNat ≤ 0x7f := by
    show c.toNat ≤ 127
    omega
  unfold String.utf8EncodeChar
  exact if_pos hle

theorem high_of_mem {c : Char} {b : UInt8} (h : 128 ≤ c.toNat)
    (hb : b ∈ String.utf8EncodeChar c) : 128 ≤ b.toNat := by
  have hvalid : c.val.toNat < 0xD800 ∨ 0xDFFF < c.val.toNat ∧ c.val.toNat < 0x110000 := c.valid
  have hgt : ¬ c.val.toNat ≤ 0x7f := by
    show ¬ c.toNat ≤ 127
    omega
  unfold String.utf8EncodeChar at hb
  simp only at hb
  rw [if_neg hgt] at hb
  split at hb
  · simp only [List.mem_cons, List.not_mem_nil, or_false] at hb
    rcases hb with rfl | rfl <;> rw [UInt8.toNat_ofNat'] <;> omega
  split at hb
  · simp only [List.mem_cons, List.not_mem_nil, or_false] at hb
    rcases hb with rfl | rfl | rfl <;> rw [UInt8.toNat_ofNat'] <;> omega
  · simp only [List.mem_cons, List.not_mem_nil, or_false] at hb
    rcases hb with rfl | rfl | rfl | rfl <;> rw [UInt8.toNat_ofNat'] <;> omega

/-- No character is written as nothing. -/
theorem exists_mem_encode (c : Char) : ∃ b, b ∈ String.utf8EncodeChar c := by
  apply List.exists_mem_of_length_pos
  rw [String.length_utf8EncodeChar]
  exact c.utf8Size_pos

/-- Only ASCII passes the test. -/
def Narrow (p : Nat → Bool) : Prop := ∀ n, p n = true → n < 128

theorem isLower_iff {n : Nat} : isLower n = true ↔ 97 ≤ n ∧ n ≤ 122 := by simp [isLower]

theorem isDigit_iff {n : Nat} : isDigit n = true ↔ 48 ≤ n ∧ n ≤ 57 := by simp [isDigit]

theorem narrow_isLower : Narrow isLower := by
  intro n hn
  have hrange := isLower_iff.mp hn
  omega

theorem narrow_isDigit : Narrow isDigit := by
  intro n hn
  have hrange := isDigit_iff.mp hn
  omega

variable {p : Nat → Bool}

theorem all_encodeChar (hp : Narrow p) (c : Char) :
    (String.utf8EncodeChar c).all (fun b => p b.toNat) = p c.toNat := by
  by_cases hc : c.toNat < 128
  · rw [encode_of_lt hc]
    simp [toNat_byte hc]
  · have hno : ∀ n, 128 ≤ n → p n = false := by
      intro n hn
      apply Bool.eq_false_iff.mpr
      intro htrue
      have hlt := hp n htrue
      omega
    obtain ⟨b, hb⟩ := exists_mem_encode c
    rw [hno c.toNat (by omega), List.all_eq_false]
    refine ⟨b, hb, ?_⟩
    rw [hno b.toNat (high_of_mem (by omega) hb)]
    exact Bool.false_ne_true

/-- The test on the bytes is the test on the characters. -/
theorem all_encode (hp : Narrow p) (cs : List Char) :
    (cs.flatMap String.utf8EncodeChar).all (fun b => p b.toNat) = cs.all fun c => p c.toNat := by
  rw [List.all_flatMap]
  simp only [all_encodeChar hp]

theorem encode_eq_map {cs : List Char} (h : ∀ c ∈ cs, c.toNat < 128) :
    cs.flatMap String.utf8EncodeChar = cs.map fun c => UInt8.ofNat c.toNat := by
  induction cs with
  | nil => rfl
  | cons c cs ih =>
      rw [List.flatMap_cons, encode_of_lt (h c List.mem_cons_self),
        ih fun d hd => h d (List.mem_cons_of_mem c hd)]
      rfl

/-- What passes is written with the numbers of its characters. -/
theorem encode_toNat (hp : Narrow p) {cs : List Char} (h : ∀ c ∈ cs, p c.toNat = true) :
    (cs.flatMap String.utf8EncodeChar).map UInt8.toNat = cs.map Char.toNat := by
  have hascii : ∀ c ∈ cs, c.toNat < 128 := fun c hc => hp _ (h c hc)
  rw [encode_eq_map hascii, List.map_map]
  exact List.map_congr_left fun c hc => toNat_byte (hascii c hc)

/-- What holds only of lists that pass holds of the bytes when it holds of the characters. -/
theorem encode_iff (hp : Narrow p) {S : List Nat → Prop}
    (hS : ∀ ns, S ns → ∀ n ∈ ns, p n = true) {cs : List Char} :
    S ((cs.flatMap String.utf8EncodeChar).map UInt8.toNat) ↔ S (cs.map Char.toNat) := by
  constructor
  · intro h
    have hbytes := hS _ h
    rw [List.forall_mem_map, ← List.all_eq_true, all_encode hp, List.all_eq_true] at hbytes
    rw [← encode_toNat hp hbytes]
    exact h
  · intro h
    rw [encode_toNat hp (List.forall_mem_map.mp (hS _ h))]
    exact h

/-! ## A first one and the others -/

/-- The first one starts and the others go on. -/
def Begins (start part : Nat → Bool) : List Nat → Prop
  | [] => False
  | n :: rest => start n = true ∧ ∀ m ∈ rest, part m = true

variable {start : Nat → Bool}

theorem Begins.all {ns : List Nat} (h : Begins start p ns) :
    ∀ n ∈ ns, (start n || p n) = true := by
  cases ns with
  | nil => exact h.elim
  | cons n rest =>
      intro m hm
      rw [Bool.or_eq_true]
      rcases List.mem_cons.mp hm with rfl | hm
      · exact .inl h.1
      · exact .inr (h.2 m hm)

theorem begins_congr {start' p' : Nat → Bool} {ns : List Nat}
    (h : ∀ n ∈ ns, start n = start' n ∧ p n = p' n) :
    Begins start p ns ↔ Begins start' p' ns := by
  cases ns with
  | nil => exact Iff.rfl
  | cons n rest =>
      have hrest : ∀ m ∈ rest, (p m = true ↔ p' m = true) := by
        intro m hm
        rw [(h m (List.mem_cons_of_mem n hm)).2]
      show start n = true ∧ _ ↔ start' n = true ∧ _
      rw [(h n List.mem_cons_self).1]
      exact and_congr_right fun _ => forall₂_congr hrest

theorem narrow_or (hstart : Narrow start) (hp : Narrow p) : Narrow fun n => start n || p n := by
  intro n hn
  rcases (Bool.or_eq_true ..).mp hn with hn | hn
  · exact hstart n hn
  · exact hp n hn

theorem encode_toNat_of_begins (hstart : Narrow start) (hp : Narrow p) {cs : List Char}
    (h : Begins start p (cs.map Char.toNat)) :
    (cs.flatMap String.utf8EncodeChar).map UInt8.toNat = cs.map Char.toNat :=
  encode_toNat (narrow_or hstart hp) (List.forall_mem_map.mp h.all)

/-- Such a text is one in its bytes. -/
theorem begins_encode_iff (hstart : Narrow start) (hp : Narrow p) {cs : List Char} :
    Begins start p ((cs.flatMap String.utf8EncodeChar).map UInt8.toNat) ↔
      Begins start p (cs.map Char.toNat) :=
  encode_iff (narrow_or hstart hp) fun _ h => h.all

end Ascii
