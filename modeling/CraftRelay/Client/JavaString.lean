import Mathlib.Order.Defs.LinearOrder
import CraftRelay.Lib.Ascii
import CraftRelay.Journal.Checksums

/-!
# Java strings

A Java string is a sequence of UTF-16 code units and need not be well-formed:
`getBytes(UTF_8)` writes a question mark for a surrogate without its partner, so
different strings can have the same bytes. Well-formed strings are the encodings of
Unicode texts, and their bytes determine them.
-/

namespace CraftRelay.Client

/-- The UTF-16 code units of a string. -/
abbrev JavaString := List UInt16

instance instLawfulBEqJavaString : LawfulBEq JavaString := inferInstance

namespace JavaString

def isHighSurrogate (u : UInt16) : Bool := 0xD800 ≤ u.toNat && u.toNat < 0xDC00

def isLowSurrogate (u : UInt16) : Bool := 0xDC00 ≤ u.toNat && u.toNat < 0xE000

/-- A code unit that is no part of a pair. -/
def loneChar (u : UInt16) : Char :=
  if isHighSurrogate u || isLowSurrogate u then '?' else Char.ofNat u.toNat

/-- The characters the encoder writes. -/
def decode : JavaString → List Char
  | [] => []
  | [u] => [loneChar u]
  | u :: v :: rest =>
      if isHighSurrogate u && isLowSurrogate v then
        Char.ofNat (0x10000 + (u.toNat - 0xD800) * 0x400 + (v.toNat - 0xDC00)) :: decode rest
      else loneChar u :: decode (v :: rest)

/-- `getBytes(StandardCharsets.UTF_8)`. -/
def getBytes (s : JavaString) : Bytes := utf8 (String.ofList (decode s))

/-- `Character.isWhitespace` of a code point. -/
def isWhitespace (c : Char) : Bool :=
  let n := c.toNat
  (9 ≤ n && n ≤ 13) || (28 ≤ n && n ≤ 32) || n == 0x1680 || (0x2000 ≤ n && n ≤ 0x2006) ||
    (0x2008 ≤ n && n ≤ 0x200A) || n == 0x2028 || n == 0x2029 || n == 0x205F || n == 0x3000

/-- `isBlank`. A lone surrogate is no white space, and neither is the question mark it is
read as here. -/
def isBlank (s : JavaString) : Bool := (decode s).all isWhitespace

/-- The order of `compareTo`. -/
def units (s : JavaString) : List Nat := s.map UInt16.toNat

/-! ## Well-formed strings -/

/-- The code units of a character. -/
def encodeChar (c : Char) : JavaString :=
  if c.toNat < 0x10000 then [UInt16.ofNat c.toNat]
  else [UInt16.ofNat (0xD800 + (c.toNat - 0x10000) / 0x400),
    UInt16.ofNat (0xDC00 + (c.toNat - 0x10000) % 0x400)]

def ofString (t : String) : JavaString := t.toList.flatMap encodeChar

/-- The string encodes a Unicode text. -/
def WellFormed (s : JavaString) : Prop := ∃ t, s = ofString t

theorem decode_lone {u : UInt16} (hu : isHighSurrogate u = false) (rest : JavaString) :
    decode (u :: rest) = loneChar u :: decode rest := by
  cases rest with
  | nil => rfl
  | cons v rest => simp [decode, hu]

theorem decode_pair {u v : UInt16} (hu : isHighSurrogate u = true) (hv : isLowSurrogate v = true)
    (rest : JavaString) :
    decode (u :: v :: rest) =
      Char.ofNat (0x10000 + (u.toNat - 0xD800) * 0x400 + (v.toNat - 0xDC00)) :: decode rest := by
  simp [decode, hu, hv]

theorem decode_encodeChar (c : Char) (rest : JavaString) :
    decode (encodeChar c ++ rest) = c :: decode rest := by
  have hvalid := c.valid
  have hrange : c.toNat < 0xD800 ∨ 0xDFFF < c.toNat ∧ c.toNat < 0x110000 := hvalid
  unfold encodeChar
  split
  · rename_i hsmall
    -- one unit, and no surrogate
    have hunit : (UInt16.ofNat c.toNat).toNat = c.toNat := by
      rw [UInt16.toNat_ofNat']
      omega
    have hhigh : isHighSurrogate (UInt16.ofNat c.toNat) = false := by
      simp only [isHighSurrogate, hunit, Bool.and_eq_false_iff, decide_eq_false_iff_not]
      omega
    have hlow : isLowSurrogate (UInt16.ofNat c.toNat) = false := by
      simp only [isLowSurrogate, hunit, Bool.and_eq_false_iff, decide_eq_false_iff_not]
      omega
    have hchar : loneChar (UInt16.ofNat c.toNat) = c := by
      simp [loneChar, hhigh, hlow, hunit]
    rw [List.singleton_append, decode_lone hhigh, hchar]
  · rename_i hlarge
    have hq : (c.toNat - 0x10000) / 0x400 < 0x400 := by omega
    have hr : (c.toNat - 0x10000) % 0x400 < 0x400 := by omega
    have hu : (UInt16.ofNat (0xD800 + (c.toNat - 0x10000) / 0x400)).toNat =
        0xD800 + (c.toNat - 0x10000) / 0x400 := by
      rw [UInt16.toNat_ofNat']
      omega
    have hv : (UInt16.ofNat (0xDC00 + (c.toNat - 0x10000) % 0x400)).toNat =
        0xDC00 + (c.toNat - 0x10000) % 0x400 := by
      rw [UInt16.toNat_ofNat']
      omega
    have hhigh : isHighSurrogate (UInt16.ofNat (0xD800 + (c.toNat - 0x10000) / 0x400)) = true := by
      simp only [isHighSurrogate, hu, Bool.and_eq_true, decide_eq_true_eq]
      omega
    have hlow : isLowSurrogate (UInt16.ofNat (0xDC00 + (c.toNat - 0x10000) % 0x400)) = true := by
      simp only [isLowSurrogate, hv, Bool.and_eq_true, decide_eq_true_eq]
      omega
    have hnat : 0x10000 + (0xD800 + (c.toNat - 0x10000) / 0x400 - 0xD800) * 0x400 +
        (0xDC00 + (c.toNat - 0x10000) % 0x400 - 0xDC00) = c.toNat := by omega
    rw [List.cons_append, List.singleton_append, decode_pair hhigh hlow, hu, hv, hnat,
      Char.ofNat_toNat]

theorem decode_ofString_append (t : String) (rest : JavaString) :
    decode (ofString t ++ rest) = t.toList ++ decode rest := by
  unfold ofString
  induction t.toList with
  | nil => rfl
  | cons c cs ih =>
      rw [List.flatMap_cons, List.append_assoc, decode_encodeChar, ih]
      rfl

theorem decode_ofString (t : String) : decode (ofString t) = t.toList := by
  have h := decode_ofString_append t []
  simpa [decode] using h

theorem ofString_injective {t t' : String} (h : ofString t = ofString t') : t = t' := by
  have hdecode := congrArg decode h
  rw [decode_ofString, decode_ofString] at hdecode
  exact String.toList_inj.mp hdecode

theorem ofString_inj {t t' : String} : ofString t = ofString t' ↔ t = t' :=
  ⟨ofString_injective, congrArg ofString⟩

theorem ofString_append (s t : String) : ofString (s ++ t) = ofString s ++ ofString t := by
  simp [ofString]

/-- What follows a text in a text is a text. -/
theorem ofString_eq_append {s t : String} {rest : JavaString}
    (h : ofString t = ofString s ++ rest) : ∃ u, t = s ++ u ∧ rest = ofString u := by
  have hdecode := congrArg decode h
  rw [decode_ofString, decode_ofString_append] at hdecode
  have ht : t = s ++ String.ofList (decode rest) := by
    rw [← String.toList_inj, hdecode]
    simp
  refine ⟨_, ht, ?_⟩
  rw [ht, ofString_append] at h
  exact (List.append_cancel_left h).symm

/-- A unit that is no second half of a pair starts a character. -/
theorem decode_append {u : UInt16} (hu : isLowSurrogate u = false) (s rest : JavaString) :
    decode (s ++ u :: rest) = decode s ++ decode (u :: rest) := by
  fun_induction decode s with
  | case1 => rfl
  | case2 v => simp [decode, hu]
  | case3 v w s hpair ih =>
      rw [Bool.and_eq_true] at hpair
      rw [List.cons_append, List.cons_append, decode_pair hpair.1 hpair.2, ih]
      rfl
  | case4 v w s hpair ih =>
      rw [List.cons_append, List.cons_append, decode, if_neg hpair, ← List.cons_append, ih]
      rfl

/-- What stands before such a text in a text is a text. -/
theorem ofString_eq_append_right {s t : String} {u : UInt16} {start rest : JavaString}
    (hu : isLowSurrogate u = false) (hs : ofString s = u :: rest)
    (h : ofString t = start ++ ofString s) : ∃ r, t = r ++ s ∧ start = ofString r := by
  have hdecode := congrArg decode h
  rw [decode_ofString, hs, decode_append hu, ← hs, decode_ofString] at hdecode
  have ht : t = String.ofList (decode start) ++ s := by
    rw [← String.toList_inj, hdecode]
    simp
  refine ⟨_, ht, ?_⟩
  rw [ht, ofString_append] at h
  exact (List.append_cancel_right h).symm

theorem getBytes_ofString (t : String) : getBytes (ofString t) = utf8 t := by
  unfold getBytes
  rw [decode_ofString, String.ofList_toList]

/-- The bytes of a well-formed string determine it. -/
theorem getBytes_injective {s s' : JavaString} (h : s.WellFormed) (h' : s'.WellFormed)
    (hbytes : getBytes s = getBytes s') : s = s' := by
  obtain ⟨t, rfl⟩ := h
  obtain ⟨t', rfl⟩ := h'
  rw [getBytes_ofString, getBytes_ofString] at hbytes
  rw [utf8_injective hbytes]

/-- A string without surrogates is well-formed. -/
theorem wellFormed_of_lt {s : JavaString} (h : ∀ u ∈ s, u.toNat < 0xD800) : s.WellFormed := by
  refine ⟨String.ofList (s.map fun u => Char.ofNat u.toNat), ?_⟩
  unfold ofString
  rw [String.toList_ofList]
  induction s with
  | nil => rfl
  | cons u s ih =>
      have hu := h u List.mem_cons_self
      have hvalid : u.toNat.isValidChar := Or.inl hu
      have hnat : (Char.ofNat u.toNat).toNat = u.toNat := by
        unfold Char.ofNat
        rw [dif_pos hvalid]
        rfl
      have hchar : encodeChar (Char.ofNat u.toNat) = [u] := by
        unfold encodeChar
        rw [hnat, if_pos (by omega), UInt16.ofNat_toNat]
      rw [List.map_cons, List.flatMap_cons, hchar,
        ← ih fun v hv => h v (List.mem_cons_of_mem u hv)]
      rfl

/-! ## Characters of one unit -/

section OneUnit

variable {p : Nat → Bool}

/-- Only characters of one unit pass the test. -/
def OneUnit (p : Nat → Bool) : Prop :=
  ∀ n, p n = true → n < 0xD800 ∨ 0xDFFF < n ∧ n < 0x10000

theorem encodeChar_of_lt {c : Char} (h : c.toNat < 0x10000) :
    encodeChar c = [UInt16.ofNat c.toNat] := if_pos h

theorem toNat_unit {n : Nat} (h : n < 0x10000) : (UInt16.ofNat n).toNat = n := by
  rw [UInt16.toNat_ofNat']
  omega

/-- A pair does not pass, and neither does its character. -/
theorem all_encodeChar (hp : OneUnit p) (c : Char) :
    (encodeChar c).all (fun u => p u.toNat) = p c.toNat := by
  by_cases hc : c.toNat < 0x10000
  · rw [encodeChar_of_lt hc]
    simp [toNat_unit hc]
  · have hvalid : c.toNat < 0xD800 ∨ 0xDFFF < c.toNat ∧ c.toNat < 0x110000 := c.valid
    have hno : ∀ n, 0xD800 ≤ n → n ≤ 0xDFFF ∨ 0x10000 ≤ n → p n = false := by
      intro n hlow hhigh
      apply Bool.eq_false_iff.mpr
      intro htrue
      have hunit := hp n htrue
      omega
    have hfirst : p (UInt16.ofNat (0xD800 + (c.toNat - 0x10000) / 0x400)).toNat = false := by
      rw [toNat_unit (by omega)]
      exact hno _ (by omega) (by omega)
    unfold encodeChar
    rw [if_neg hc, hno c.toNat (by omega) (by omega), List.all_cons, hfirst]
    rfl

/-- The test on the units is the test on the characters. -/
theorem all_ofString (hp : OneUnit p) (t : String) :
    (ofString t).all (fun u => p u.toNat) = t.toList.all fun c => p c.toNat := by
  unfold ofString
  rw [List.all_flatMap]
  simp only [all_encodeChar hp]

theorem ofString_eq_map {t : String} (h : ∀ c ∈ t.toList, c.toNat < 0x10000) :
    ofString t = t.toList.map fun c => UInt16.ofNat c.toNat := by
  unfold ofString
  generalize t.toList = cs at h
  induction cs with
  | nil => rfl
  | cons c cs ih =>
      rw [List.flatMap_cons, encodeChar_of_lt (h c List.mem_cons_self),
        ih fun d hd => h d (List.mem_cons_of_mem c hd)]
      rfl

/-- What passes is written with the numbers of its characters. -/
theorem units_ofString (hp : OneUnit p) {t : String} (h : ∀ c ∈ t.toList, p c.toNat = true) :
    (ofString t).units = t.toList.map Char.toNat := by
  have hlt : ∀ c ∈ t.toList, c.toNat < 0x10000 := by
    intro c hc
    have hc := hp _ (h c hc)
    omega
  unfold units
  rw [ofString_eq_map hlt, List.map_map]
  exact List.map_congr_left fun c hc => toNat_unit (hlt c hc)

/-- What holds only of lists that pass holds of the units when it holds of the characters. -/
theorem units_iff (hp : OneUnit p) {S : List Nat → Prop}
    (hS : ∀ ns, S ns → ∀ n ∈ ns, p n = true) {t : String} :
    S (ofString t).units ↔ S (t.toList.map Char.toNat) := by
  constructor
  · intro h
    have hunits := hS _ h
    unfold units at hunits
    rw [List.forall_mem_map, ← List.all_eq_true, all_ofString hp, List.all_eq_true] at hunits
    rw [← units_ofString hp hunits]
    exact h
  · intro h
    rw [units_ofString hp (List.forall_mem_map.mp (hS _ h))]
    exact h

variable {start : Nat → Bool}

theorem oneUnit_or (hstart : OneUnit start) (hp : OneUnit p) :
    OneUnit fun n => start n || p n := by
  intro n hn
  rcases (Bool.or_eq_true ..).mp hn with hn | hn
  · exact hstart n hn
  · exact hp n hn

theorem units_of_begins (hstart : OneUnit start) (hp : OneUnit p) {t : String}
    (h : Ascii.Begins start p (t.toList.map Char.toNat)) :
    (ofString t).units = t.toList.map Char.toNat :=
  units_ofString (oneUnit_or hstart hp) (List.forall_mem_map.mp h.all)

/-- Such a text is one in its units. -/
theorem begins_units_iff (hstart : OneUnit start) (hp : OneUnit p) {t : String} :
    Ascii.Begins start p (ofString t).units ↔
      Ascii.Begins start p (t.toList.map Char.toNat) :=
  units_iff (oneUnit_or hstart hp) fun _ h => h.all

/-- ASCII is written in one unit. -/
theorem oneUnit_of_narrow (hp : Ascii.Narrow p) : OneUnit p := by
  intro n hn
  have hlt := hp n hn
  omega

end OneUnit

/-! ## Lengths -/

/-- A character is written in at most four bytes. -/
theorem length_utf8_le (cs : List Char) : (utf8 (String.ofList cs)).length ≤ 4 * cs.length := by
  rw [utf8_ofList]
  induction cs with
  | nil => simp
  | cons c cs ih =>
      have hc := c.utf8Size_le_four
      rw [List.flatMap_cons, List.length_append, String.length_utf8EncodeChar, List.length_cons]
      omega

theorem length_decode_le (s : JavaString) : (decode s).length ≤ s.length := by
  fun_induction decode s with
  | case1 => simp
  | case2 u => simp
  | case3 u v rest h ih =>
      simp only [List.length_cons]
      omega
  | case4 u v rest h ih =>
      simp only [List.length_cons] at ih ⊢
      omega

theorem length_getBytes_le (s : JavaString) : s.getBytes.length ≤ 4 * s.length := by
  have hchars := length_utf8_le (decode s)
  have hunits := length_decode_le s
  unfold getBytes
  omega

/-- ASCII is written in one byte for each unit. -/
theorem length_getBytes_of_narrow {p : Nat → Bool} (hp : Ascii.Narrow p) {s : JavaString}
    (h : ∀ n ∈ s.units, p n = true) : s.getBytes.length = s.length := by
  have hlt : ∀ u ∈ s, u.toNat < 128 := fun u hu => hp _ (h _ (List.mem_map_of_mem hu))
  obtain ⟨t, rfl⟩ := wellFormed_of_lt fun u hu => Nat.lt_trans (hlt u hu) (by decide)
  have hchars := (units_iff (oneUnit_of_narrow hp) (S := fun ns => ∀ n ∈ ns, p n = true)
    fun _ h => h).mp h
  have hunits := congrArg List.length
    (units_ofString (oneUnit_of_narrow hp) (List.forall_mem_map.mp hchars))
  have hascii : ∀ c ∈ t.toList, c.toNat < 128 := fun c hc => hp _ (hchars _ (List.mem_map_of_mem hc))
  have hbytes : (utf8 t).length = t.toList.length := by
    rw [← String.ofList_toList (s := t), utf8_ofList, String.toList_ofList,
      Ascii.encode_eq_map hascii, List.length_map]
  unfold units at hunits
  rw [List.length_map, List.length_map] at hunits
  rw [getBytes_ofString, hbytes, hunits]

theorem units_injective {s s' : JavaString} (h : s.units = s'.units) : s = s' :=
  List.map_injective_iff.mpr (fun _ _ h => UInt16.toNat_inj.mp h) h

end JavaString

end CraftRelay.Client
