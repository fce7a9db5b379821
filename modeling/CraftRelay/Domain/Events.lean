import Mathlib.Tactic.Tauto
import CraftRelay.Lib.Ascii
import CraftRelay.Journal.Checksums

/-!
# Event identifiers and lifecycle revisions

`craftrelay-domain`: which text names an event, and what becomes of a lifecycle snapshot
that arrives while another one is stored.
-/

namespace CraftRelay

/-! ## Identifiers -/

/-- A lower-case hexadecimal digit. -/
def isHexDigit (n : Nat) : Bool := Ascii.isDigit n || (97 ≤ n && n ≤ 102)

/-- The bytes as numbers. -/
def isCanonicalUuidV7 (value : String) : Bool :=
  let bytes := (utf8 value).map UInt8.toNat
  bytes.length == 36 &&
    [8, 13, 18, 23].all (fun index => bytes[index]? == some 45) &&
    bytes.zipIdx.all (fun b => [8, 13, 18, 23].contains b.2 || isHexDigit b.1) &&
    bytes[14]? == some 55 &&
    bytes[19]?.any fun b => [56, 57, 97, 98].contains b

theorem isHexDigit_iff {n : Nat} :
    isHexDigit n = true ↔ (48 ≤ n ∧ n ≤ 57) ∨ (97 ≤ n ∧ n ≤ 102) := by
  simp [isHexDigit, Ascii.isDigit_iff]

/-- Five groups joined by dashes. -/
def dashed (a b c d e : List Nat) : List Nat :=
  a ++ 45 :: (b ++ 45 :: (c ++ 45 :: (d ++ 45 :: e)))

/-- The groups of a UUID of version 7 and the RFC's variant. -/
structure UuidV7Groups (a b v d e : List Nat) : Prop where
  length₁ : a.length = 8
  length₂ : b.length = 4
  length₃ : v.length = 4
  length₄ : d.length = 4
  length₅ : e.length = 12
  digits : ∀ n ∈ a ++ b ++ v ++ d ++ e, isHexDigit n = true
  version : v[0]? = some 55
  variant : ∃ n ∈ [56, 57, 97, 98], d[0]? = some n

/-- The text of such a UUID. -/
def IsUuidV7Text (ns : List Nat) : Prop :=
  ∃ a b c d e, ns = dashed a b c d e ∧ UuidV7Groups a b c d e

/-- A list cut at a place. -/
theorem exists_cut {ns : List Nat} (k : Nat) (h : k < ns.length) :
    ∃ a n rest, ns = a ++ n :: rest ∧ a.length = k ∧ rest.length + k + 1 = ns.length := by
  refine ⟨ns.take k, ns[k], ns.drop (k + 1), ?_, ?_, ?_⟩
  · rw [← List.drop_eq_getElem_cons h, List.take_append_drop]
  · simp
    omega
  · simp
    omega

/-- Thirty-six numbers are five groups and what stands between them. -/
theorem exists_groups {ns : List Nat} (h : ns.length = 36) :
    ∃ a i b j c k d l e, ns = a ++ i :: (b ++ j :: (c ++ k :: (d ++ l :: e))) ∧
      a.length = 8 ∧ b.length = 4 ∧ c.length = 4 ∧ d.length = 4 ∧ e.length = 12 := by
  obtain ⟨a, i, ns₁, rfl, ha, h₁⟩ := exists_cut 8 (by omega : 8 < ns.length)
  obtain ⟨b, j, ns₂, rfl, hb, h₂⟩ := exists_cut 4 (by omega : 4 < ns₁.length)
  obtain ⟨c, k, ns₃, rfl, hc, h₃⟩ := exists_cut 4 (by omega : 4 < ns₂.length)
  obtain ⟨d, l, e, rfl, hd, h₄⟩ := exists_cut 4 (by omega : 4 < ns₃.length)
  exact ⟨a, i, b, j, c, k, d, l, e, rfl, ha, hb, hc, hd, by omega⟩

/-- Away from the dashes every byte is to be a digit. -/
theorem all_zipIdx_of_no_dash (ns : List Nat) (start : Nat)
    (h : ∀ i ∈ [8, 13, 18, 23], i < start ∨ start + ns.length ≤ i) :
    (ns.zipIdx start).all (fun b => [8, 13, 18, 23].contains b.2 || isHexDigit b.1) =
      ns.all isHexDigit := by
  induction ns generalizing start with
  | nil => rfl
  | cons n ns ih =>
      rw [List.length_cons] at h
      -- no dash falls on the first byte, and so on along the list
      have hhere : [8, 13, 18, 23].contains start = false := by
        rw [List.contains_eq_mem, decide_eq_false_iff_not]
        intro hmem
        have := h start hmem
        omega
      have hrest := ih (start + 1) fun i hi => by
        have := h i hi
        have hne : i ≠ start := by
          rintro rfl
          omega
        omega
      rw [List.zipIdx_cons, List.all_cons, List.all_cons, hrest, hhere, Bool.false_or]

/-- The test of the positions, group by group. -/
theorem all_zipIdx_groups {a b c d e : List Nat} {i j k l : Nat} (ha : a.length = 8)
    (hb : b.length = 4) (hc : c.length = 4) (hd : d.length = 4) :
    (a ++ i :: (b ++ j :: (c ++ k :: (d ++ l :: e)))).zipIdx.all
        (fun x => [8, 13, 18, 23].contains x.2 || isHexDigit x.1) =
      (a ++ b ++ c ++ d ++ e).all isHexDigit := by
  have h₁ := all_zipIdx_of_no_dash a 0 (by simp; omega)
  have h₂ := all_zipIdx_of_no_dash b 9 (by simp; omega)
  have h₃ := all_zipIdx_of_no_dash c 14 (by simp; omega)
  have h₄ := all_zipIdx_of_no_dash d 19 (by simp; omega)
  have h₅ := all_zipIdx_of_no_dash e 24 (by simp)
  rw [List.zipIdx_append, List.zipIdx_cons, List.zipIdx_append, List.zipIdx_cons,
    List.zipIdx_append, List.zipIdx_cons, List.zipIdx_append, List.zipIdx_cons]
  simp only [List.all_append, List.all_cons, ha, hb, hc, hd, Nat.zero_add, Nat.reduceAdd, h₁, h₂,
    h₃, h₄, h₅]
  simp [Bool.and_assoc]

/-- The groups of a text are determined by their lengths. -/
theorem isUuidV7Text_iff {a b c d e : List Nat} {i j k l : Nat} (ha : a.length = 8)
    (hb : b.length = 4) (hc : c.length = 4) (hd : d.length = 4) :
    IsUuidV7Text (a ++ i :: (b ++ j :: (c ++ k :: (d ++ l :: e)))) ↔
      (i = 45 ∧ j = 45 ∧ k = 45 ∧ l = 45) ∧ UuidV7Groups a b c d e := by
  constructor
  · rintro ⟨a', b', c', d', e', heq, hgroups⟩
    unfold dashed at heq
    -- the groups have the same lengths, so they are equal one after another
    obtain ⟨rfl, htail₁⟩ := List.append_inj heq (by rw [ha, hgroups.length₁])
    obtain ⟨rfl, hrest₁⟩ := List.cons_eq_cons.mp htail₁
    obtain ⟨rfl, htail₂⟩ := List.append_inj hrest₁ (by rw [hb, hgroups.length₂])
    obtain ⟨rfl, hrest₂⟩ := List.cons_eq_cons.mp htail₂
    obtain ⟨rfl, htail₃⟩ := List.append_inj hrest₂ (by rw [hc, hgroups.length₃])
    obtain ⟨rfl, hrest₃⟩ := List.cons_eq_cons.mp htail₃
    obtain ⟨rfl, htail₄⟩ := List.append_inj hrest₃ (by rw [hd, hgroups.length₄])
    obtain ⟨rfl, rfl⟩ := List.cons_eq_cons.mp htail₄
    exact ⟨⟨rfl, rfl, rfl, rfl⟩, hgroups⟩
  · rintro ⟨⟨rfl, rfl, rfl, rfl⟩, hgroups⟩
    exact ⟨a, b, c, d, e, rfl, hgroups⟩

theorem IsUuidV7Text.length {ns : List Nat} (h : IsUuidV7Text ns) : ns.length = 36 := by
  obtain ⟨a, b, c, d, e, rfl, hgroups⟩ := h
  simp [dashed, hgroups.length₁, hgroups.length₂, hgroups.length₃, hgroups.length₄,
    hgroups.length₅]

/-- The characters of a UUID. -/
def isUuidChar (n : Nat) : Bool := isHexDigit n || n == 45

theorem narrow_isUuidChar : Ascii.Narrow isUuidChar := by
  intro n hn
  unfold isUuidChar at hn
  rw [Bool.or_eq_true, isHexDigit_iff, beq_iff_eq] at hn
  omega

/-- Only digits and dashes stand in the text of a UUID. -/
theorem IsUuidV7Text.all {ns : List Nat} (h : IsUuidV7Text ns) :
    ∀ n ∈ ns, isUuidChar n = true := by
  obtain ⟨a, b, c, d, e, rfl, hgroups⟩ := h
  have hdigits := hgroups.digits
  intro n hn
  unfold isUuidChar
  rw [Bool.or_eq_true, beq_iff_eq]
  by_cases hdash : n = 45
  · exact .inr hdash
  · left
    apply hdigits
    simp only [dashed, List.mem_append, List.mem_cons, hdash, false_or] at hn ⊢
    tauto

/-- The tests of the code, byte by byte, are those of the groups. -/
theorem isCanonicalUuidV7_iff {value : String} :
    isCanonicalUuidV7 value = true ↔ IsUuidV7Text ((utf8 value).map UInt8.toNat) := by
  unfold isCanonicalUuidV7
  generalize (utf8 value).map UInt8.toNat = ns
  by_cases hlen : ns.length = 36
  · obtain ⟨a, i, b, j, v, k, d, l, e, rfl, ha, hb, hv, hd, he⟩ := exists_groups hlen
    -- where each of the positions falls
    have hdashes : [8, 13, 18, 23].all (fun index =>
        (a ++ i :: (b ++ j :: (v ++ k :: (d ++ l :: e))))[index]? == some 45) = true ↔
        i = 45 ∧ j = 45 ∧ k = 45 ∧ l = 45 := by
      simp [List.getElem?_append, ha, hb, hv, hd]
    have hversion : (a ++ i :: (b ++ j :: (v ++ k :: (d ++ l :: e))))[14]? = v[0]? := by
      simp [List.getElem?_append, ha, hb, hv]
    have hvariant : (a ++ i :: (b ++ j :: (v ++ k :: (d ++ l :: e))))[19]? = d[0]? := by
      simp [List.getElem?_append, ha, hb, hv, hd]
    simp only [Bool.and_eq_true, hdashes, hversion, hvariant, all_zipIdx_groups ha hb hv hd, hlen,
      isUuidV7Text_iff ha hb hv hd, List.all_eq_true, beq_self_eq_true, beq_iff_eq, true_and,
      and_assoc, Option.any_eq_true, List.contains_iff_mem]
    constructor
    · rintro ⟨hi, hj, hk, hl, hdigits, h7, n, hn, hmem⟩
      exact ⟨hi, hj, hk, hl, ha, hb, hv, hd, he, hdigits, h7, n, hmem, hn⟩
    · rintro ⟨hi, hj, hk, hl, hgroups⟩
      obtain ⟨n, hmem, hn⟩ := hgroups.variant
      exact ⟨hi, hj, hk, hl, hgroups.digits, hgroups.version, n, hn, hmem⟩
  · have hno : ¬ IsUuidV7Text ns := fun h => hlen h.length
    simp [hlen, hno]

/-! ## Revisions -/

inductive RevisionDecision where
  | inserted | duplicate | integrityConflict | stale
  deriving DecidableEq, Repr

/-- A greater revision is new, a smaller one old, and an equal one goes by its checksum. -/
def compareRevision (currentRevision : Int64) (currentChecksum : Checksum)
    (incomingRevision : Int64) (incomingChecksum : Checksum) : RevisionDecision :=
  match compare incomingRevision currentRevision with
  | .gt => .inserted
  | .lt => .stale
  | .eq => if incomingChecksum = currentChecksum then .duplicate else .integrityConflict

/-- The decision as two comparisons, the greater revision first. -/
theorem compareRevision_eq {r r' : Int64} {c c' : Checksum} :
    compareRevision r c r' c' =
      if r < r' then .inserted
      else if r' < r then .stale
      else if c' = c then .duplicate else .integrityConflict := by
  have hcompare : compare r' r = if r' < r then .lt else if r' = r then .eq else .gt := rfl
  unfold compareRevision
  rw [hcompare]
  -- one case for each arm of the `match`
  rcases Int.lt_trichotomy r.toInt r'.toInt with h | h | h
  · have hne : r' ≠ r := fun heq => Int.lt_irrefl _ (heq ▸ h)
    have hlt : ¬ r' < r := by
      rw [Int64.lt_iff_toInt_lt]
      omega
    rw [if_neg hlt, if_neg hne, if_pos (Int64.lt_iff_toInt_lt.mpr h)]
  · obtain rfl := Int64.toInt_inj.mp h
    have hlt : ¬ r < r := by
      rw [Int64.lt_iff_toInt_lt]
      omega
    rw [if_neg hlt, if_pos rfl, if_neg hlt, if_neg hlt]
  · have hlt : ¬ r < r' := by
      rw [Int64.lt_iff_toInt_lt]
      omega
    rw [if_pos (Int64.lt_iff_toInt_lt.mpr h), if_neg hlt, if_pos (Int64.lt_iff_toInt_lt.mpr h)]

end CraftRelay
