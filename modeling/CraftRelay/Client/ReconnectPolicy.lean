import CraftRelay.Lib.Backoff
import CraftRelay.Lib.Wraparound
import CraftRelay.Client.Projection

/-!
# Delays before a reconnect

`ReconnectPolicy.java`, with the parts of `java.time.Duration` it uses. A duration counts
nanoseconds, a delay counts milliseconds: the initial backoff is cut to milliseconds,
doubled once for each attempt before this one, and cut at the maximum.
-/

namespace CraftRelay.Client

/-! ## Exact long arithmetic -/

/-- `Math.addExact` and `Math.multiplyExact` of a result: `none` is the exception. -/
def exactLong (n : Int) : Option Int64 :=
  if -9223372036854775808 ≤ n ∧ n ≤ 9223372036854775807 then some (.ofInt n) else none

theorem toInt_of_exactLong {n : Int} {value : Int64} (h : exactLong n = some value) :
    value.toInt = n := by
  unfold exactLong at h
  split at h
  · rename_i hrange
    obtain rfl := Option.some.inj h
    exact Int64.toInt_ofInt_of_le (by simpa using hrange.1) (by simp; omega)
  · cases h

theorem exactLong_eq_none {n : Int} (hpos : 0 ≤ n) (h : exactLong n = none) :
    9223372036854775807 < n := by
  unfold exactLong at h
  split at h
  · cases h
  · omega

theorem exists_exactLong {n : Int} (hpos : 0 ≤ n) (h : n ≤ 9223372036854775807) :
    ∃ value, exactLong n = some value := by
  refine ⟨_, if_pos ⟨?_, h⟩⟩
  omega

/-! ## Durations -/

/-- `java.time.Duration`: seconds in the range of a `long`, and nanoseconds of the second. -/
structure Duration where
  seconds : Int
  nano : Nat
  nano_lt : nano < 1000000000
  range : -9223372036854775808 ≤ seconds ∧ seconds ≤ 9223372036854775807

namespace Duration

def isZero (d : Duration) : Bool := d.seconds == 0 && d.nano == 0

def isNegative (d : Duration) : Bool := d.seconds < 0

/-- `compareTo`: by seconds, and then by nanoseconds of the second. -/
def compareTo (a b : Duration) : Int :=
  if a.seconds = b.seconds then a.nano - b.nano else if a.seconds < b.seconds then -1 else 1

/-- `toMillis`: what is below a millisecond is dropped, toward zero, and the exception for
a number that is no `long` is `none`. -/
def toMillis (d : Duration) : Option Int64 := do
  let (seconds, nanos) : Int × Int :=
    if d.seconds < 0 then (d.seconds + 1, d.nano - 1000000000) else (d.seconds, d.nano)
  let millis ← exactLong (seconds * 1000)
  exactLong (millis.toInt + nanos.tdiv 1000000)

def ofMillis (millis : Int64) : Duration where
  seconds := millis.toInt / 1000
  nano := (millis.toInt % 1000).toNat * 1000000
  nano_lt := by omega
  range := by
    have hlow := millis.le_toInt
    have hhigh := millis.toInt_lt
    omega

/-- The order of `compareTo`. -/
instance : LE Duration := ⟨fun a b => a.compareTo b ≤ 0⟩

instance (a b : Duration) : Decidable (a ≤ b) := inferInstanceAs (Decidable (_ ≤ (0 : Int)))

/-- The duration in nanoseconds, and its whole milliseconds. -/
def nanos (d : Duration) : Int := d.seconds * 1000000000 + d.nano

def millis (d : Duration) : Int := d.nanos / 1000000

/-- No part below a millisecond. -/
def WholeMillis (d : Duration) : Prop := d.nano % 1000000 = 0

instance (d : Duration) : Decidable d.WholeMillis := inferInstanceAs (Decidable (_ = _))

theorem le_iff {a b : Duration} : a ≤ b ↔ a.nanos ≤ b.nanos := by
  show a.compareTo b ≤ 0 ↔ _
  have ha := a.nano_lt
  have hb := b.nano_lt
  unfold compareTo nanos
  split
  · omega
  · split
    · omega
    · omega

theorem nanos_ofMillis (m : Int64) : (ofMillis m).nanos = m.toInt * 1000000 := by
  show m.toInt / 1000 * 1000000000 + ((m.toInt % 1000).toNat * 1000000 : Nat) = _
  omega

theorem wholeMillis_iff {d : Duration} : d.WholeMillis ↔ d.nanos = d.millis * 1000000 := by
  unfold WholeMillis millis nanos
  omega

theorem millis_le {a b : Duration} (h : a ≤ b) : a.millis ≤ b.millis := by
  have hnanos := le_iff.mp h
  unfold millis
  omega

/-- A duration that is not negative converts to its whole milliseconds, if they fit. -/
theorem toInt_of_toMillis {d : Duration} {m : Int64} (hpos : 0 ≤ d.seconds)
    (h : d.toMillis = some m) : m.toInt = d.millis := by
  unfold toMillis at h
  rw [if_neg (by omega)] at h
  obtain ⟨whole, hwhole, hsum⟩ := Option.bind_eq_some_iff.mp h
  rw [toInt_of_exactLong hsum, toInt_of_exactLong hwhole,
    Int.tdiv_eq_ediv_of_nonneg (Int.natCast_nonneg _)]
  unfold millis nanos
  omega

/-- A shorter duration that is not negative converts too. -/
theorem exists_toMillis {a b : Duration} {m : Int64} (hpos : 0 ≤ a.seconds) (hle : a ≤ b)
    (hb : b.toMillis = some m) : ∃ k, a.toMillis = some k := by
  have hnanos := le_iff.mp hle
  have hahead := a.nano_lt
  have hbehind := b.nano_lt
  have hbpos : 0 ≤ b.seconds := by
    unfold nanos at hnanos
    omega
  have hm := toInt_of_toMillis hbpos hb
  have hlt := m.toInt_lt
  have hmillis := millis_le hle
  have hwhole : a.seconds * 1000 + a.nano / 1000000 = a.millis := by
    unfold millis nanos
    omega
  obtain ⟨whole, hwholeLong⟩ := exists_exactLong (n := a.seconds * 1000) (by omega) (by omega)
  have hsum : whole.toInt + (a.nano : Int).tdiv 1000000 = a.millis := by
    rw [toInt_of_exactLong hwholeLong, Int.tdiv_eq_ediv_of_nonneg (Int.natCast_nonneg _)]
    exact hwhole
  obtain ⟨k, hk⟩ := exists_exactLong (n := a.millis) (by omega) (by omega)
  refine ⟨k, ?_⟩
  unfold toMillis
  rw [if_neg (by omega)]
  show (exactLong (a.seconds * 1000)).bind _ = _
  rw [hwholeLong]
  show exactLong _ = _
  rw [hsum]
  exact hk

end Duration

/-! ## The policy -/

structure ReconnectPolicy where
  maxAttempts : Int32
  initialBackoff : Duration
  maximumBackoff : Duration

namespace ReconnectPolicy

/-- The record's constructor. -/
def construct (maxAttempts : Int32) (initialBackoff maximumBackoff : Duration) :
    Except ContractViolation ReconnectPolicy := do
  let maxAttempts ← positiveInt32 maxAttempts "maxAttempts"
  Except.refuseIf (initialBackoff.isZero ∨ initialBackoff.isNegative ∨
      maximumBackoff.compareTo initialBackoff < 0)
    ⟨.invalidArgument, "reconnect backoff must be positive and bounded"⟩
  return ⟨maxAttempts, initialBackoff, maximumBackoff⟩

/-- `1L << Math.min(attempt - 1, 30)`. -/
def multiplier (attempt : Int32) : Int64 := 1 <<< (min (attempt - 1) 30).toInt64

/-- A value, or the `ArithmeticException` in its place. -/
def orThrow (millis : Option Int64) : Except Thrown Int64 :=
  match millis with
  | some millis => .ok millis
  | none => .error .arithmetic

def delayForAttempt (policy : ReconnectPolicy) (attempt : Int32) : Except Thrown Duration := do
  let _ ← (positiveInt32 attempt "attempt").mapError .violation
  let product := policy.initialBackoff.toMillis.bind fun initial =>
    exactLong (initial.toInt * (multiplier attempt).toInt)
  let millis ← match product with
    | some millis => .ok millis
    | none => orThrow policy.maximumBackoff.toMillis
  let maximum ← orThrow policy.maximumBackoff.toMillis
  return .ofMillis (min millis maximum)

/-! ## What the constructor lets through -/

/-- A policy the constructor accepts. -/
structure Accepted (policy : ReconnectPolicy) : Prop where
  maxAttempts : 0 < policy.maxAttempts.toInt
  positive : 0 < policy.initialBackoff.nanos
  bounded : policy.initialBackoff ≤ policy.maximumBackoff

theorem accepted_of_construct {maxAttempts : Int32} {initialBackoff maximumBackoff : Duration}
    {policy : ReconnectPolicy}
    (h : construct maxAttempts initialBackoff maximumBackoff = .ok policy) :
    policy.Accepted := by
  unfold construct at h
  obtain ⟨hpos, h⟩ := (Except.returns_bind_iff fun _ => positiveInt32_eq_ok).mp h
  obtain ⟨hrefuse, h⟩ := Except.check_eq_ok_iff.mp h
  obtain rfl := Except.ok.inj h
  have hpass := Except.refuseIf_eq_ok_iff.mp hrefuse
  simp only [not_or] at hpass
  obtain ⟨hzero, hneg, hcmp⟩ := hpass
  refine ⟨hpos, ?_, ?_⟩
  · have hnonneg : 0 ≤ initialBackoff.seconds := by simpa [Duration.isNegative] using hneg
    have hnonzero : initialBackoff.seconds = 0 → initialBackoff.nano ≠ 0 := by
      simpa [Duration.isZero] using hzero
    show 0 < initialBackoff.nanos
    unfold Duration.nanos
    omega
  · apply Duration.le_iff.mpr
    show initialBackoff.nanos ≤ maximumBackoff.nanos
    have hge : ¬ maximumBackoff.compareTo initialBackoff < 0 := hcmp
    have hi := initialBackoff.nano_lt
    have hm := maximumBackoff.nano_lt
    unfold Duration.compareTo at hge
    unfold Duration.nanos
    split at hge
    · omega
    · split at hge
      · omega
      · omega

theorem Accepted.seconds_nonneg {policy : ReconnectPolicy} (h : policy.Accepted) :
    0 ≤ policy.initialBackoff.seconds ∧ 0 ≤ policy.maximumBackoff.seconds := by
  have hpos := h.positive
  have hle := Duration.le_iff.mp h.bounded
  have hi := policy.initialBackoff.nano_lt
  have hm := policy.maximumBackoff.nano_lt
  unfold Duration.nanos at hpos hle
  omega

theorem Accepted.millis_nonneg {policy : ReconnectPolicy} (h : policy.Accepted) :
    0 ≤ policy.initialBackoff.millis := by
  have hpos := h.positive
  unfold Duration.millis
  omega

/-! ## The delay of an attempt -/

theorem toInt_multiplier {attempt : Int32} (h : 0 < attempt.toInt) :
    (multiplier attempt).toInt = 2 ^ min (attempt.toInt - 1).toNat 30 := by
  have hshift : ∀ k ≤ 30, ((1 : Int64) <<< (Int32.ofNat k).toInt64).toInt = 2 ^ k := by decide
  have hsub : (attempt - 1).toInt = attempt.toInt - 1 :=
    Wraparound.toInt_sub_of_nonneg (by omega) (by decide)
  have hmin : min (attempt - 1) 30 = Int32.ofNat (min (attempt.toInt - 1).toNat 30) := by
    apply Int32.toInt_inj.mp
    rw [Int32.toInt_ofNat_of_lt (by omega)]
    rw [Wraparound.toInt_min, hsub]
    show min _ (30 : Int) = _
    omega
  unfold multiplier
  rw [hmin]
  exact hshift _ (Nat.min_le_right _ _)

/-- The delay is the capped backoff of the whole milliseconds. The overflow of the product
takes the branch that the cap takes. -/
theorem delayForAttempt_eq {policy : ReconnectPolicy} {attempt : Int32} (h : policy.Accepted)
    (hfit : policy.maximumBackoff.toMillis.isSome) (hattempt : 0 < attempt.toInt) :
    ∃ delay : Int64, policy.delayForAttempt attempt = .ok (.ofMillis delay) ∧
      delay.toInt = Backoff.delay policy.initialBackoff.millis policy.maximumBackoff.millis 30
        (attempt.toInt - 1).toNat := by
  obtain ⟨maximum, hmaximum⟩ := Option.isSome_iff_exists.mp hfit
  obtain ⟨hipos, hmpos⟩ := h.seconds_nonneg
  obtain ⟨initial, hinitial⟩ := Duration.exists_toMillis hipos h.bounded hmaximum
  have hi := Duration.toInt_of_toMillis hipos hinitial
  have hm := Duration.toInt_of_toMillis hmpos hmaximum
  have hnonneg := h.millis_nonneg
  have hmul := toInt_multiplier hattempt
  have hprod : 0 ≤ initial.toInt * (multiplier attempt).toInt := by
    rw [hi, hmul]
    exact Int.mul_nonneg hnonneg (Int.pow_nonneg (by decide))
  unfold delayForAttempt
  rw [positiveInt32_eq_ok.mpr ⟨hattempt, rfl⟩, hinitial, hmaximum]
  cases hexact : exactLong (initial.toInt * (multiplier attempt).toInt) with
  | some millis =>
      have hmillis := toInt_of_exactLong hexact
      refine ⟨min millis maximum, ?_, ?_⟩
      · simp [hexact, orThrow, Except.mapError, bind, Except.bind, pure, Except.pure]
      · rw [Wraparound.toInt_min_long, hmillis, hi, hm, hmul]
        rfl
  | none =>
      have hover := exactLong_eq_none hprod hexact
      have hlt := maximum.toInt_lt
      refine ⟨min maximum maximum, ?_, ?_⟩
      · simp [hexact, orThrow, Except.mapError, bind, Except.bind, pure, Except.pure]
      · rw [Wraparound.toInt_min_long, min_self, hm]
        rw [hi, hmul] at hover
        exact (Backoff.delay_eq_cap (by omega)).symm

end ReconnectPolicy

end CraftRelay.Client
