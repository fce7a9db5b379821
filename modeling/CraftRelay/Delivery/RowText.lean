import Mathlib
import CraftRelay.Lib.Framed
import CraftRelay.Journal.EnvelopeBytes
import CraftRelay.Delivery.Routing

/-!
# What the text of a delivery checksum says

The fifteen columns are joined by the zero character, with absent values as empty
texts. The text determines the columns exactly as far as the lemmas of `Joined` say,
and the columns determine the record but for absent and empty texts: a number and a
fingerprint are never written as the empty text, but `last_error`, `blocked_reason`,
`kafka_topic` and `profile_id` may be empty as well as absent.
-/

namespace CraftRelay

/-! ## The columns as texts -/

theorem toString_int_injective : Function.Injective (fun n : Int => toString n) := by
  intro a b h
  exact Int.repr_injective h

theorem toString_int_ne (n : Int) : toString n ≠ "" := by
  intro h
  cases n with
  | ofNat m => exact Nat.repr_ne_empty (n := m) h
  | negSucc m =>
      have hsign : "-" ++ Nat.repr (m + 1) = "" := h
      simp [← String.toList_inj] at hsign

theorem hexDigits_getD_inj {m n : Nat} (hm : m < 16) (hn : n < 16)
    (h : hexDigits.getD m '0' = hexDigits.getD n '0') : m = n := by
  have hall : ∀ m n : Fin 16, hexDigits.getD m '0' = hexDigits.getD n '0' → m = n := by decide
  exact Fin.val_eq_of_eq (hall ⟨m, hm⟩ ⟨n, hn⟩ h)

/-- Two digits tell a byte. -/
theorem hexDigits_determines :
    Framed.Determines (fun _ => True)
      (fun b : UInt8 => [hexDigits.getD (b.toNat / 16) '0', hexDigits.getD (b.toNat % 16) '0'])
      id := by
  refine Framed.determines_of_length (n := 2) (fun _ _ => rfl) ?_
  intro a b _ _ h
  injection h with h₁ h
  injection h with h₂
  have ha := a.toNat_lt
  have hb := b.toNat_lt
  have hhigh := hexDigits_getD_inj (by omega) (by omega) h₁
  have hlow := hexDigits_getD_inj (by omega) (by omega) h₂
  exact UInt8.toNat_inj.mp (show a.toNat = b.toNat by omega)

theorem checksumHex_injective : Function.Injective checksumHex := by
  intro a b h
  have hlists := String.ofList_injective h
  have hlen : a.val.length = b.val.length := a.property.trans b.property.symm
  have hbytes := hexDigits_determines.flatMap (r := []) (s := []) hlen (fun _ _ => trivial)
    (fun _ _ => trivial) (by simpa using hlists)
  exact Subtype.ext (by simpa using hbytes.1)

theorem checksumHex_ne (c : Checksum) : checksumHex c ≠ "" := by
  intro h
  have hlen := congrArg (fun s => s.toList.length) h
  simp [checksumHex, c.property] at hlen

/-- A number is written with digits and a sign. -/
theorem nulFree_toString_int (n : Int) : NulFree (toString n) := by
  have hdigits : ∀ m : Nat, NulFree m.repr := by
    intro m hmem
    have hdigit := Nat.isDigit_of_mem_toDigits (b := 10) (by decide) (by decide)
      (Nat.toList_repr ▸ hmem)
    exact absurd hdigit (by decide)
  cases n with
  | ofNat m => exact hdigits m
  | negSucc m =>
      have hsign : (toString (Int.negSucc m)).toList = '-' :: (m + 1).repr.toList := by
        show ("-" ++ (m + 1).repr).toList = _
        rw [String.toList_append]
        rfl
      unfold NulFree
      rw [hsign, List.mem_cons, not_or]
      exact ⟨by decide, hdigits (m + 1)⟩

theorem nulFree_checksumHex (c : Checksum) : NulFree (checksumHex c) := by
  have hdigit : ∀ n < 16, '\x00' ≠ hexDigits.getD n '0' := by decide
  unfold NulFree checksumHex
  rw [String.toList_ofList, List.mem_flatMap]
  rintro ⟨b, -, hmem⟩
  have hb := b.toNat_lt
  simp only [List.mem_cons, List.not_mem_nil, or_false] at hmem
  rcases hmem with hhigh | hlow
  · exact hdigit _ (by omega) hhigh
  · exact hdigit _ (by omega) hlow

theorem nulFree_orEmpty {α : Type} {f : α → String} {x : Option α}
    (h : ∀ a, x = some a → NulFree (f a)) : NulFree (orEmpty f x) := by
  cases x with
  | none => exact List.not_mem_nil
  | some a => exact h a rfl

/-- A column that is never written as the empty text determines whether it is there. -/
theorem orEmpty_injective {α : Type} {f : α → String} (hf : Function.Injective f)
    (hne : ∀ a, f a ≠ "") : Function.Injective (orEmpty f) := by
  intro x y h
  cases x with
  | none =>
      cases y with
      | none => rfl
      | some b => exact absurd h.symm (hne b)
  | some a =>
      cases y with
      | none => exact absurd h (hne a)
      | some b => rw [hf h]

/-! ## Records -/

namespace DeliveryStateRecord

/-- The fifteen columns, as they are written. -/
def canonicalFields (s : DeliveryStateRecord) : List String :=
  [ s.eventId, s.deliveryStatus, toString s.attemptCount, orEmpty toString s.nextRetryAtMs,
    s.lastError.getD "", s.blockedReason.getD "", s.kafkaTopic.getD "",
    orEmpty toString s.kafkaPartition, orEmpty toString s.kafkaOffset,
    orEmpty checksumHex s.routingFingerprint, s.profileId.getD "",
    orEmpty toString s.profileVersion, toString s.deliveryRevision,
    orEmpty toString s.confirmedAtMs, toString s.createdAtMs ]

theorem canonicalText_eq (s : DeliveryStateRecord) :
    s.canonicalText = joinNul s.canonicalFields := rfl

/-- The records agree but for the checksum and the time of the update. -/
def SameState (a b : DeliveryStateRecord) : Prop :=
  a = { b with deliveryChecksum := a.deliveryChecksum, updatedAtMs := a.updatedAtMs }

/-- The columns that may be absent and may be empty. -/
def optionalTexts (s : DeliveryStateRecord) : List (Option String) :=
  [s.lastError, s.blockedReason, s.kafkaTopic, s.profileId]

/-- The record with every absent text read as the empty one. -/
def filled (s : DeliveryStateRecord) : DeliveryStateRecord :=
  { s with
    lastError := some (s.lastError.getD "")
    blockedReason := some (s.blockedReason.getD "")
    kafkaTopic := some (s.kafkaTopic.getD "")
    profileId := some (s.profileId.getD "") }

/-- The records differ, but only in texts that one of them has empty and the other
not at all. -/
structure EmptyForAbsent (a b : DeliveryStateRecord) : Prop where
  filled : a.filled.SameState b.filled
  moved : a.optionalTexts ≠ b.optionalTexts

instance (a b : DeliveryStateRecord) : Decidable (a.SameState b) :=
  inferInstanceAs (Decidable (a = _))

instance (a b : DeliveryStateRecord) : Decidable (a.EmptyForAbsent b) :=
  decidable_of_iff (a.filled.SameState b.filled ∧ a.optionalTexts ≠ b.optionalTexts)
    ⟨fun h => ⟨h.1, h.2⟩, fun h => ⟨h.1, h.2⟩⟩

theorem canonicalFields_eq_iff {a b : DeliveryStateRecord} :
    a.canonicalFields = b.canonicalFields ↔ a.filled.SameState b.filled := by
  have hint := fun m n : Int => toString_int_injective.eq_iff (a := m) (b := n)
  have hnumber := fun x y : Option Int =>
    (orEmpty_injective toString_int_injective toString_int_ne).eq_iff (a := x) (b := y)
  have hhex := fun x y : Option Checksum =>
    (orEmpty_injective checksumHex_injective checksumHex_ne).eq_iff (a := x) (b := y)
  cases a
  cases b
  simp only [canonicalFields, filled, SameState, List.cons.injEq, hint, hnumber, hhex, mk.injEq,
    Option.some.injEq, and_true, true_and]

theorem sameState_iff {a b : DeliveryStateRecord} :
    a.SameState b ↔ a.filled.SameState b.filled ∧ a.optionalTexts = b.optionalTexts := by
  cases a
  cases b
  simp only [SameState, filled, optionalTexts, List.cons.injEq, mk.injEq, Option.some.injEq,
    and_true, true_and]
  constructor
  · rintro ⟨h1, h2, h3, h4, rfl, rfl, rfl, h8, h9, h10, rfl, h12, h13, h14, h15⟩
    simp [*]
  · rintro ⟨⟨h1, h2, h3, h4, -, -, -, h8, h9, h10, -, h12, h13, h14, h15⟩, h5, h6, h7, h11⟩
    simp [*]

/-- The text determines the columns but for the recut ones, and the columns determine
the record but for the texts that are empty or absent. -/
theorem canonicalText_determines_iff {a b : DeliveryStateRecord} :
    (utf8 a.canonicalText = utf8 b.canonicalText → a.SameState b) ↔
      ¬ Joined.TextRecut '\x00' a.canonicalFields b.canonicalFields ∧ ¬ a.EmptyForAbsent b := by
  have hbytes : utf8 a.canonicalText = utf8 b.canonicalText ↔
      joinNul a.canonicalFields = joinNul b.canonicalFields := by
    rw [← canonicalText_eq, ← canonicalText_eq]
    exact ⟨utf8_injective, congrArg utf8⟩
  have hne : ∀ s : DeliveryStateRecord, s.canonicalFields ≠ [] := fun _ => List.cons_ne_nil _ _
  have hfields := joinNul_determines_iff (hne a) (hne b)
  rw [hbytes, sameState_iff, ← hfields, canonicalFields_eq_iff]
  constructor
  · intro h
    refine ⟨fun hjoin => (h hjoin).1, fun hempty => ?_⟩
    have hjoin := congrArg joinNul (canonicalFields_eq_iff.mpr hempty.filled)
    exact hempty.moved (h hjoin).2
  · rintro ⟨hcut, hempty⟩ hjoin
    refine ⟨hcut hjoin, by_contra fun hmoved => ?_⟩
    exact hempty ⟨hcut hjoin, hmoved⟩

/-- No text of the record has the zero character. -/
structure Plain (s : DeliveryStateRecord) : Prop where
  eventId : NulFree s.eventId
  deliveryStatus : NulFree s.deliveryStatus
  optionalTexts : ∀ text, some text ∈ s.optionalTexts → NulFree text

theorem Plain.canonicalFields {s : DeliveryStateRecord} (h : s.Plain) :
    ∀ f ∈ s.canonicalFields, NulFree f := by
  have hoptional : ∀ column ∈ s.optionalTexts, NulFree (column.getD "") := by
    intro column hcolumn
    cases column with
    | none => exact List.not_mem_nil
    | some text => exact h.optionalTexts text hcolumn
  have hnumber : ∀ column : Option Int, NulFree (orEmpty toString column) :=
    fun _ => nulFree_orEmpty fun n _ => nulFree_toString_int n
  have hfingerprint : NulFree (orEmpty checksumHex s.routingFingerprint) :=
    nulFree_orEmpty fun c _ => nulFree_checksumHex c
  unfold DeliveryStateRecord.canonicalFields
  simp only [List.forall_mem_cons, List.not_mem_nil, false_implies, implies_true, and_true]
  simp only [DeliveryStateRecord.optionalTexts, List.forall_mem_cons, List.not_mem_nil,
    false_implies, implies_true, and_true] at hoptional
  obtain ⟨herror, hreason, htopic, hprofile⟩ := hoptional
  exact ⟨h.eventId, h.deliveryStatus, nulFree_toString_int _, hnumber _, herror, hreason, htopic,
    hnumber _, hnumber _, hfingerprint, hprofile, hnumber _, nulFree_toString_int _, hnumber _,
    nulFree_toString_int _⟩

end DeliveryStateRecord

end CraftRelay
