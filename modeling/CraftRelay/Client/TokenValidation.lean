import Mathlib.Order.Interval.Set.LinearOrder
import CraftRelay.Client.ProjectionBytes

/-!
# Which tokens are valid

A token is valid when its bytes are authenticated, the server's clock is between its
instants and the request is for its scope. Only the bytes are authenticated; the clock
and the scope are compared with the fields.
-/

namespace CraftRelay.Client

/-! ## The order of instants -/

namespace Instant

/-- Nanoseconds since the epoch. -/
def nanos (a : Instant) : Int := a.epochSecond * 1000000000 + a.nano

theorem nanos_injective : Function.Injective nanos := by
  intro a b h
  have ha := a.nano_lt
  have hb := b.nano_lt
  unfold nanos at h
  have hsecond : a.epochSecond = b.epochSecond := by omega
  have hnano : a.nano = b.nano := by omega
  cases a
  cases b
  simp_all

instance : LinearOrder Instant := LinearOrder.lift' nanos nanos_injective

theorem isAfter_iff {a b : Instant} : a.isAfter b = true ↔ b < a := by
  have ha := a.nano_lt
  have hb := b.nano_lt
  show _ ↔ b.nanos < a.nanos
  simp only [isAfter, nanos, Bool.or_eq_true, Bool.and_eq_true, decide_eq_true_eq, beq_iff_eq]
  omega

end Instant

/-! ## Accepted tokens -/

namespace ProjectionConsistencyToken

variable [Sha256] {sign : TokenMacProvider} {x y : ProjectionConsistencyToken}

/-- The checksum and the MAC are those of the bytes. -/
def Authentic (sign : TokenMacProvider) (x : ProjectionConsistencyToken) : Prop :=
  ∃ canonical, x.unsignedCanonicalBytes = some canonical ∧
    (Sha256.digest canonical).val = x.tokenChecksum ∧ sign x.keyId canonical = .ok x.mac

/-- The instants at which a token is valid. -/
def window (x : ProjectionConsistencyToken) : Set Instant := Set.Ico x.issuedAt x.expiresAt

omit [Sha256] in
theorem window_eq_empty_iff : x.window = ∅ ↔ x.expiresAt.isAfter x.issuedAt = false := by
  rw [← Bool.not_eq_true, Instant.isAfter_iff]
  exact Set.Ico_eq_empty_iff

theorem validate_eq_ok_iff {expected : TokenScope} {serverNow : Instant} :
    validate sign x expected serverNow = .ok () ↔
      x.Authentic sign ∧ serverNow ∈ x.window ∧ expected = x.scope := by
  have hclock : ¬ (x.expiresAt.isAfter serverNow = false ∨ x.issuedAt.isAfter serverNow = true) ↔
      serverNow ∈ x.window := by
    rw [not_or, Bool.not_eq_false, Instant.isAfter_iff, Instant.isAfter_iff, not_lt, and_comm]
    exact Iff.rfl
  have hscope : ¬ (some x.installationId ≠ expected.installationId ∨
      some x.authenticatedProducerId ≠ expected.producerId ∨
      some x.projectorId ≠ expected.projectorId ∨
      some x.projectionName ≠ expected.projectionName ∨
      some x.queryScope ≠ expected.queryScope) ↔ expected = x.scope := by
    cases expected
    simp only [not_or, not_not, scope, TokenScope.mk.injEq, eq_comm]
  unfold validate Authentic
  cases hbytes : x.unsignedCanonicalBytes with
  | none => simp [Except.bind_eq_ok_iff]
  | some canonical =>
      simp only [Except.bind_eq_ok_iff, Except.refuseIf_eq_ok_iff, Except.mapError_eq_ok_iff, hclock,
        hscope, not_not, ne_eq, exists_const, Except.ok.injEq, Option.some.injEq, exists_eq_left']
      constructor
      · rintro ⟨hsum, mac, hmac, rfl, hwindow, hexpected⟩
        exact ⟨⟨hsum, hmac⟩, hwindow, hexpected⟩
      · rintro ⟨⟨hsum, hmac⟩, hwindow, hexpected⟩
        exact ⟨hsum, _, hmac, rfl, hwindow, hexpected⟩

theorem Authentic.congr (hkey : x.keyId = y.keyId)
    (hbytes : x.unsignedCanonicalBytes = y.unsignedCanonicalBytes)
    (hsum : x.tokenChecksum = y.tokenChecksum) (hmac : x.mac = y.mac) :
    x.Authentic sign ↔ y.Authentic sign := by
  unfold Authentic
  rw [hkey, hbytes, hsum, hmac]

/-- Two authentic tokens are valid for the same requests at the same times exactly when
neither ever is, or their instants and scopes are the same. -/
theorem valid_together_iff (hx : x.Authentic sign) (hy : y.Authentic sign) :
    (∀ expected serverNow, validate sign x expected serverNow = .ok () ↔
        validate sign y expected serverNow = .ok ()) ↔
      (x.window = ∅ ∧ y.window = ∅) ∨
        (x.issuedAt = y.issuedAt ∧ x.expiresAt = y.expiresAt ∧ x.scope = y.scope) := by
  simp only [validate_eq_ok_iff, hx, hy, true_and]
  constructor
  · intro h
    by_cases hempty : x.window = ∅ ∧ y.window = ∅
    · exact .inl hempty
    · right
      have hscope : x.scope = y.scope := by
        by_cases hxempty : x.window = ∅
        · obtain ⟨now, hnow⟩ := Set.nonempty_iff_ne_empty.mpr fun hy => hempty ⟨hxempty, hy⟩
          exact ((h y.scope now).mpr ⟨hnow, rfl⟩).2.symm
        · obtain ⟨now, hnow⟩ := Set.nonempty_iff_ne_empty.mpr hxempty
          exact ((h x.scope now).mp ⟨hnow, rfl⟩).2
      have hwindow : x.window = y.window := by
        ext now
        have := h x.scope now
        simpa [hscope] using this
      have hne : x.issuedAt < x.expiresAt ∨ y.issuedAt < y.expiresAt := by
        by_contra hnone
        obtain ⟨hnx, hny⟩ := not_or.mp hnone
        exact hempty ⟨Set.Ico_eq_empty hnx, Set.Ico_eq_empty hny⟩
      obtain ⟨hissued, hexpires⟩ := (Set.Ico_eq_Ico_iff hne).mp hwindow
      exact ⟨hissued, hexpires, hscope⟩
  · rintro (⟨hxempty, hyempty⟩ | ⟨hissued, hexpires, hscope⟩) expected now
    · simp [hxempty, hyempty]
    · unfold window
      rw [hissued, hexpires, hscope]

/-! ## Authentication -/

/-- A token with its checksum and MAC. -/
def signed (x : ProjectionConsistencyToken) (sum mac : Bytes) : ProjectionConsistencyToken :=
  { x with tokenChecksum := sum, mac := mac }

omit [Sha256] in
/-- What authenticates a token is no part of its bytes. -/
theorem unsignedCanonicalBytes_signed {sum mac : Bytes} :
    (x.signed sum mac).unsignedCanonicalBytes = x.unsignedCanonicalBytes := by
  unfold unsignedCanonicalBytes bytesAt signed
  rfl

omit [Sha256] in
theorem Accepted.signed {sum mac : Bytes} (h : x.Accepted) (hsum : sum.length = 32)
    (hmac : mac.length = 32) : (x.signed sum mac).Accepted :=
  { h with tokenChecksum := hsum, mac := hmac }

/-- Authentication of a record gives an authentic record with the same bytes. -/
theorem authenticate_eq_ok {canonical mac : Bytes} (hx : x.Accepted) (hsorted : x.sorted = x)
    (hbytes : x.unsignedCanonicalBytes = some canonical) (hmac : sign x.keyId canonical = .ok mac)
    (hlen : mac.length = 32) :
    ∃ y, authenticate sign x = .ok y ∧ y = x.signed (Sha256.digest canonical).val mac ∧
      y.construct = .ok y ∧ y.Authentic sign := by
  have hconstruct : (x.signed (Sha256.digest canonical).val mac).construct =
      .ok (x.signed (Sha256.digest canonical).val mac) := by
    refine construct_eq_ok_iff.mpr ⟨hx.signed (Sha256.digest canonical).property hlen, ?_⟩
    show _ = x.sorted.signed (Sha256.digest canonical).val mac
    rw [hsorted]
  refine ⟨_, ?_, rfl, hconstruct, canonical, unsignedCanonicalBytes_signed.trans hbytes, rfl, hmac⟩
  unfold authenticate
  rw [hbytes]
  show Except.bind (Except.mapError _ (sign x.keyId canonical)) _ = _
  rw [hmac]
  show Except.mapError _ (x.signed _ _).construct = _
  rw [hconstruct]
  rfl

end ProjectionConsistencyToken

end CraftRelay.Client
