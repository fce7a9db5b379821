import CraftRelay.Lib.Positional
import CraftRelay.Domain.Events
import CraftRelay.Client.ContractValidation

/-!
# The texts of UUIDs of version 7

`UUID.toString` prints thirty-two digits in fixed places, so the texts it prints are those
of five groups of digits. `canonicalUuidV7` accepts a text that prints back to itself, and
needs of `UUID.fromString` only that it reads what was printed.
-/

namespace CraftRelay.Client

/-! ## The validation over any reader -/

/-- `canonicalUuidV7`, whatever `UUID.fromString` makes of other texts. -/
def canonicalUuidV7Reading (fromString : JavaString → Option Uuid) (value : JavaString)
    (field : String) : Except ContractViolation JavaString :=
  if value.length ≠ 36 ∨ isLowerCase value = false then
    .error ⟨.invalidUuid, field ++ " must be canonical lowercase UUID text"⟩
  else
    match fromString value with
    | none => .error ⟨.invalidUuid, field ++ " must be a valid UUID"⟩
    | some parsed =>
      if parsed.toText ≠ value then
        .error ⟨.invalidUuid, field ++ " must use canonical UUID encoding"⟩
      else if parsed.version ≠ 7 ∨ parsed.variant ≠ 2 then
        .error ⟨.uuidNotVersion7, field ++ " must be RFC-variant UUIDv7"⟩
      else .ok value

theorem canonicalUuidV7_eq_reading (value : JavaString) (field : String) :
    canonicalUuidV7 value field = canonicalUuidV7Reading Uuid.fromString value field := rfl

/-! ## Digits -/

/-- The code unit of a digit. -/
def hexUnit (d : Nat) : UInt16 := UInt16.ofNat (if d < 10 then 48 + d else 87 + d)

/-- The digit of a code unit. -/
def hexValue (n : Nat) : Nat := if n ≤ 57 then n - 48 else n - 87

theorem toNat_hexUnit {d : Nat} (h : d < 16) :
    (hexUnit d).toNat = if d < 10 then 48 + d else 87 + d := by
  unfold hexUnit
  rw [UInt16.toNat_ofNat']
  split <;> omega

theorem isHexDigit_hexUnit {d : Nat} (h : d < 16) : isHexDigit (hexUnit d).toNat = true := by
  rw [isHexDigit_iff, toNat_hexUnit h]
  split <;> omega

theorem hexValue_lt {n : Nat} (h : isHexDigit n = true) : hexValue n < 16 := by
  rw [isHexDigit_iff] at h
  unfold hexValue
  split <;> omega

theorem toNat_hexUnit_hexValue {n : Nat} (h : isHexDigit n = true) :
    (hexUnit (hexValue n)).toNat = n := by
  rw [toNat_hexUnit (hexValue_lt h)]
  rw [isHexDigit_iff] at h
  unfold hexValue
  split
  · split <;> omega
  · split <;> omega

theorem hexDigit?_hexUnit {d : Nat} (h : d < 16) : hexDigit? (hexUnit d) = some d := by
  unfold hexDigit?
  rw [toNat_hexUnit h]
  by_cases hd : d < 10
  · simp only [if_pos hd]
    rw [if_pos (by omega)]
    congr 1
    omega
  · simp only [if_neg hd]
    rw [if_neg (by omega), if_pos (by omega)]
    congr 1
    omega

namespace Uuid

theorem hexText_eq_map (width n : Nat) :
    hexText width n = (Positional.digits 16 width n).map hexUnit := by
  rw [Positional.digits_eq_map, List.map_map]
  rfl

theorem length_hexText (width n : Nat) : (hexText width n).length = width := by
  rw [hexText_eq_map, List.length_map, Positional.length_digits]

theorem isHexDigit_of_mem_hexText {width n : Nat} {u : UInt16} (h : u ∈ hexText width n) :
    isHexDigit u.toNat = true := by
  rw [hexText_eq_map, List.mem_map] at h
  obtain ⟨d, hd, rfl⟩ := h
  exact isHexDigit_hexUnit (Positional.lt_of_mem_digits (by decide) hd)

/-- A group of digits is printed from its value. -/
theorem exists_hexText {ns : List Nat} {k : Nat} (hlen : ns.length = k)
    (h : ∀ n ∈ ns, isHexDigit n = true) :
    ∃ ds : List Nat, ds.length = k ∧ (∀ d ∈ ds, d < 16) ∧
      (ds.map hexUnit).map UInt16.toNat = ns := by
  refine ⟨ns.map hexValue, ?_, ?_, ?_⟩
  · rw [List.length_map, hlen]
  · rw [List.forall_mem_map]
    exact fun n hn => hexValue_lt (h n hn)
  · rw [List.map_map, List.map_map]
    conv_rhs => rw [← List.map_id ns]
    exact List.map_congr_left fun n hn => toNat_hexUnit_hexValue (h n hn)

/-- The halves have 64 bits. -/
structure InRange (u : Uuid) : Prop where
  most : u.mostSigBits < 2 ^ 64
  least : u.leastSigBits < 2 ^ 64

/-- Sixteen digits for each half are those of a UUID. -/
theorem exists_of_digits {most least : List Nat} (hmost : ∀ x ∈ most, x < 16)
    (hleast : ∀ x ∈ least, x < 16) (hlenmost : most.length = 16) (hlenleast : least.length = 16) :
    ∃ u : Uuid, u.InRange ∧ Positional.digits 16 16 u.mostSigBits = most ∧
      Positional.digits 16 16 u.leastSigBits = least := by
  have hmostLt := Positional.value_lt hmost
  have hleastLt := Positional.value_lt hleast
  have hmostDigits := Positional.digits_value hmost
  have hleastDigits := Positional.digits_value hleast
  rw [hlenmost] at hmostLt hmostDigits
  rw [hlenleast] at hleastLt hleastDigits
  exact ⟨⟨_, _⟩, ⟨hmostLt, hleastLt⟩, hmostDigits, hleastDigits⟩

/-- The digits of the halves, in order. -/
theorem digits_most (u : Uuid) : Positional.digits 16 16 u.mostSigBits =
    Positional.digits 16 8 (u.mostSigBits / 2 ^ 32) ++
      (Positional.digits 16 4 (u.mostSigBits / 2 ^ 16) ++
        Positional.digits 16 4 u.mostSigBits) := by
  have hhalves : Positional.digits 16 (8 + 8) u.mostSigBits =
      Positional.digits 16 8 (u.mostSigBits / 16 ^ 8) ++ Positional.digits 16 8 u.mostSigBits :=
    Positional.digits_append 8
  have hlow : Positional.digits 16 (4 + 4) u.mostSigBits =
      Positional.digits 16 4 (u.mostSigBits / 16 ^ 4) ++ Positional.digits 16 4 u.mostSigBits :=
    Positional.digits_append 4
  exact hhalves.trans (congrArg _ hlow)

theorem digits_least (u : Uuid) : Positional.digits 16 16 u.leastSigBits =
    Positional.digits 16 4 (u.leastSigBits / 2 ^ 48) ++
      Positional.digits 16 12 u.leastSigBits :=
  Positional.digits_append (w := 4) 12

/-- The version is a digit, and so is what the variant is read from. -/
theorem version_eq (u : Uuid) :
    (Positional.digits 16 4 u.mostSigBits)[0]? = some u.version := rfl

theorem variant_eq_two_iff (u : Uuid) :
    u.variant = 2 ↔ ∃ d ∈ [8, 9, 10, 11],
      (Positional.digits 16 4 (u.leastSigBits / 2 ^ 48))[0]? = some d := by
  have htop : (Positional.digits 16 4 (u.leastSigBits / 2 ^ 48))[0]? =
      some (u.leastSigBits / 2 ^ 60 % 16) :=
    congrArg (fun q => some (q % 16)) (Nat.div_div_eq_div_mul _ (2 ^ 48) (2 ^ 12))
  rw [htop]
  simp only [List.mem_cons, List.not_mem_nil, or_false, Option.some.injEq]
  unfold variant
  constructor
  · intro h
    refine ⟨_, ?_, rfl⟩
    split at h
    · omega
    · split at h
      · omega
      · omega
  · rintro ⟨d, hd, rfl⟩
    rw [if_neg (by omega), if_pos (by omega)]

/-! ## What is printed -/

theorem units_toText (u : Uuid) : JavaString.units u.toText =
    dashed ((hexText 8 (u.mostSigBits / 2 ^ 32)).map UInt16.toNat)
      ((hexText 4 (u.mostSigBits / 2 ^ 16)).map UInt16.toNat)
      ((hexText 4 u.mostSigBits).map UInt16.toNat)
      ((hexText 4 (u.leastSigBits / 2 ^ 48)).map UInt16.toNat)
      ((hexText 12 u.leastSigBits).map UInt16.toNat) := by
  simp [JavaString.units, toText, dashed]

theorem isUuidV7Text_toText {u : Uuid} (hversion : u.version = 7) (hvariant : u.variant = 2) :
    IsUuidV7Text (JavaString.units u.toText) := by
  refine ⟨_, _, _, _, _, units_toText u, by simp [length_hexText], by simp [length_hexText],
    by simp [length_hexText], by simp [length_hexText], by simp [length_hexText], ?_, ?_, ?_⟩
  · intro n hn
    simp only [List.mem_append, List.mem_map] at hn
    rcases hn with (((⟨x, hx, rfl⟩ | ⟨x, hx, rfl⟩) | ⟨x, hx, rfl⟩) | ⟨x, hx, rfl⟩) | ⟨x, hx, rfl⟩
    all_goals exact isHexDigit_of_mem_hexText hx
  · have hdigit := version_eq u
    rw [hversion] at hdigit
    rw [hexText_eq_map, List.getElem?_map, List.getElem?_map, hdigit]
    rfl
  · obtain ⟨d, hd, hdigit⟩ := u.variant_eq_two_iff.mp hvariant
    rw [hexText_eq_map, List.getElem?_map, List.getElem?_map, hdigit]
    refine ⟨_, ?_, rfl⟩
    simp only [List.mem_cons, List.not_mem_nil, or_false] at hd
    rcases hd with rfl | rfl | rfl | rfl <;> decide

/-- The first digit of a group, from its code unit. -/
theorem digit_of_unit {ds : List Nat} {n : Nat} (hlt : ∀ d ∈ ds, d < 16)
    (h : ((ds.map hexUnit).map UInt16.toNat)[0]? = some n) :
    ∃ d, ds[0]? = some d ∧ n = if d < 10 then 48 + d else 87 + d := by
  cases ds with
  | nil => simp at h
  | cons d ds =>
      refine ⟨d, rfl, ?_⟩
      rw [← toNat_hexUnit (hlt d List.mem_cons_self)]
      exact (Option.some.inj h).symm

/-- Every such text is printed for a UUID of version 7 and variant 2. -/
theorem exists_toText {s : JavaString} (h : IsUuidV7Text s.units) :
    ∃ u : Uuid, u.InRange ∧ u.toText = s ∧ u.version = 7 ∧ u.variant = 2 := by
  obtain ⟨a, b, c, d, e, hs, hgroups⟩ := h
  have hdigits := hgroups.digits
  simp only [List.forall_mem_append] at hdigits
  obtain ⟨⟨⟨⟨ha, hb⟩, hc⟩, hd⟩, he⟩ := hdigits
  obtain ⟨da, hlena, hlta, rfl⟩ := exists_hexText hgroups.length₁ ha
  obtain ⟨db, hlenb, hltb, rfl⟩ := exists_hexText hgroups.length₂ hb
  obtain ⟨dc, hlenc, hltc, rfl⟩ := exists_hexText hgroups.length₃ hc
  obtain ⟨dd, hlend, hltd, rfl⟩ := exists_hexText hgroups.length₄ hd
  obtain ⟨de, hlene, hlte, rfl⟩ := exists_hexText hgroups.length₅ he
  have hltmost : ∀ x ∈ da ++ (db ++ dc), x < 16 := by
    simp only [List.forall_mem_append]
    exact ⟨hlta, hltb, hltc⟩
  have hltleast : ∀ x ∈ dd ++ de, x < 16 := by
    simp only [List.forall_mem_append]
    exact ⟨hltd, hlte⟩
  -- the digits of the halves are the groups
  obtain ⟨u, hrange, hmost, hleast⟩ := exists_of_digits hltmost hltleast
    (by simp [hlena, hlenb, hlenc]) (by simp [hlend, hlene])
  rw [digits_most] at hmost
  rw [digits_least] at hleast
  obtain ⟨hda, hrest⟩ := List.append_inj hmost (by simp [hlena])
  obtain ⟨hdb, hdc⟩ := List.append_inj hrest (by simp [hlenb])
  obtain ⟨hdd, hde⟩ := List.append_inj hleast (by simp [hlend])
  refine ⟨u, hrange, ?_, ?_, ?_⟩
  · apply JavaString.units_injective
    rw [units_toText, hs]
    simp only [hexText_eq_map, hda, hdb, hdc, hdd, hde]
  · obtain ⟨x, hx, h7⟩ := digit_of_unit hltc hgroups.version
    rw [← hdc, version_eq, Option.some.injEq] at hx
    split at h7 <;> omega
  · obtain ⟨n, hn, hhead⟩ := hgroups.variant
    obtain ⟨x, hx, hvalue⟩ := digit_of_unit hltd hhead
    refine u.variant_eq_two_iff.mpr ⟨x, ?_, by rw [hdd, hx]⟩
    simp only [List.mem_cons, List.not_mem_nil, or_false] at hn ⊢
    split at hvalue <;> omega

/-! ## What is read -/

theorem hexValue?_concat (s : JavaString) (x : UInt16) :
    hexValue? (s ++ [x]) =
      (hexValue? s).bind fun acc => (hexDigit? x).map fun d => acc * 16 + d := by
  unfold hexValue?
  rw [List.foldlM_append]
  simp [Option.bind_eq_bind]

/-- Digits are read with their value. -/
theorem hexValue?_map {ds : List Nat} (h : ∀ d ∈ ds, d < 16) :
    hexValue? (ds.map hexUnit) = some (Positional.value 16 ds) := by
  induction ds using List.reverseRecOn with
  | nil => rfl
  | append_singleton ds d ih =>
      rw [List.map_append, List.map_singleton, hexValue?_concat,
        ih fun x hx => h x (List.mem_append_left _ hx), hexDigit?_hexUnit (h d (by simp)),
        Positional.value_concat]
      rfl

theorem hexValue?_digits (width n : Nat) :
    hexValue? ((Positional.digits 16 width n).map hexUnit) = some (n % 16 ^ width) := by
  rw [hexValue?_map fun d hd => Positional.lt_of_mem_digits (by decide) hd,
    Positional.value_digits]

/-- The documented form is read back. -/
theorem fromString_toText {u : Uuid} (h : u.InRange) : fromString u.toText = some u := by
  have hform : u.toText.length = 36 ∧
      [8, 13, 18, 23].all (fun i => u.toText.getD i 0 == 45) = true := by
    simp [toText, List.getElem?_append, length_hexText]
  have hmost : u.toText.take 8 ++ (u.toText.drop 9).take 4 ++ (u.toText.drop 14).take 4 =
      (Positional.digits 16 16 u.mostSigBits).map hexUnit := by
    rw [digits_most]
    simp [toText, List.drop_append, List.drop_eq_nil_of_le, hexText_eq_map]
  have hleast : (u.toText.drop 19).take 4 ++ u.toText.drop 24 =
      (Positional.digits 16 16 u.leastSigBits).map hexUnit := by
    rw [digits_least]
    simp [toText, List.drop_append, List.drop_eq_nil_of_le, hexText_eq_map]
  unfold fromString
  rw [if_pos hform, hmost, hleast, hexValue?_digits, hexValue?_digits]
  show some (⟨u.mostSigBits % 2 ^ 64, u.leastSigBits % 2 ^ 64⟩ : Uuid) = some u
  rw [Nat.mod_eq_of_lt h.most, Nat.mod_eq_of_lt h.least]

end Uuid

/-! ## What is accepted -/

/-- What is accepted was printed, whatever the reader is. -/
theorem isUuidV7Text_of_reading {fromString : JavaString → Option Uuid} {s v : JavaString}
    {field : String} (h : canonicalUuidV7Reading fromString s field = .ok v) :
    IsUuidV7Text s.units := by
  unfold canonicalUuidV7Reading at h
  split at h
  · cases h
  split at h
  · cases h
  rename_i u _
  split at h
  · cases h
  rename_i htext
  split at h
  · cases h
  rename_i hbits
  obtain ⟨hversion, hvariant⟩ := not_or.mp hbits
  rw [← not_not.mp htext]
  exact Uuid.isUuidV7Text_toText (not_not.mp hversion) (not_not.mp hvariant)

theorem isLowerCase_of_isUuidV7Text {s : JavaString} (h : IsUuidV7Text s.units) :
    isLowerCase s = true := by
  have hlt : ∀ u ∈ s, u.toNat < 128 := fun u hu =>
    narrow_isUuidChar _ (h.all _ (List.mem_map_of_mem hu))
  obtain ⟨t, rfl⟩ := JavaString.wellFormed_of_lt fun u hu => Nat.lt_trans (hlt u hu) (by decide)
  have hchars : IsUuidV7Text (t.toList.map Char.toNat) :=
    (JavaString.units_iff (JavaString.oneUnit_of_narrow narrow_isUuidChar) fun _ h => h.all).mp h
  unfold isLowerCase
  rw [JavaString.decode_ofString, List.all_eq_true]
  intro c hc
  have hchar := hchars.all c.toNat (List.mem_map_of_mem hc)
  have hascii := narrow_isUuidChar _ hchar
  unfold isUuidChar at hchar
  rw [Bool.or_eq_true, isHexDigit_iff, beq_iff_eq] at hchar
  unfold Character.changesToLowerCase
  rw [if_pos hascii]
  simp
  omega

/-- A reader of what is printed accepts the texts of UUIDs of version 7. -/
theorem exists_reading_iff {fromString : JavaString → Option Uuid}
    (hinverts : ∀ u : Uuid, u.InRange → fromString u.toText = some u) {s : JavaString}
    {field : String} :
    (∃ v, canonicalUuidV7Reading fromString s field = .ok v) ↔ IsUuidV7Text s.units := by
  constructor
  · rintro ⟨v, h⟩
    exact isUuidV7Text_of_reading h
  · intro h
    obtain ⟨u, hrange, htext, hversion, hvariant⟩ := Uuid.exists_toText h
    have hlen : s.length = 36 := by simpa [JavaString.units] using h.length
    refine ⟨s, ?_⟩
    unfold canonicalUuidV7Reading
    rw [if_neg (by simp [hlen, isLowerCase_of_isUuidV7Text h]), ← htext, hinverts u hrange]
    simp [hversion, hvariant]

end CraftRelay.Client
