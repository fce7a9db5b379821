import CraftRelay.Client.ReconnectPolicy

/-!
# Reconnect delays within the policy

The delays never pass the maximum and never shrink. They can be below the initial backoff,
whose part below a millisecond is cut.
-/

namespace CraftRelay.Client

namespace ReconnectPolicy

/-- The delay of an attempt is within the policy, and the next attempt's is no shorter. -/
def DelayWithin (policy : ReconnectPolicy) (attempt : Int32) : Prop :=
  ∃ delay, policy.delayForAttempt attempt = .ok delay ∧
    policy.initialBackoff ≤ delay ∧ delay ≤ policy.maximumBackoff ∧
    ∀ next : Int32, next.toInt = attempt.toInt + 1 →
      ∃ later, policy.delayForAttempt next = .ok later ∧ delay ≤ later

variable {policy : ReconnectPolicy} {attempt : Int32}

/-- Whatever the initial backoff, a delay is at most the maximum and at most the next. -/
theorem delay_bounded_and_growing (h : policy.Accepted)
    (hfit : policy.maximumBackoff.toMillis.isSome) (hattempt : 0 < attempt.toInt) {delay : Int64}
    (hdelay : delay.toInt = Backoff.delay policy.initialBackoff.millis
      policy.maximumBackoff.millis 30 (attempt.toInt - 1).toNat) :
    Duration.ofMillis delay ≤ policy.maximumBackoff ∧
      ∀ next : Int32, next.toInt = attempt.toInt + 1 →
        ∃ later, policy.delayForAttempt next = .ok later ∧ Duration.ofMillis delay ≤ later := by
  refine ⟨?_, fun next hnext => ?_⟩
  · apply Duration.le_iff.mpr
    have hcap : delay.toInt ≤ policy.maximumBackoff.millis := hdelay ▸ Backoff.delay_le_cap _
    have hcut : policy.maximumBackoff.millis * 1000000 ≤ policy.maximumBackoff.nanos := by
      unfold Duration.millis
      omega
    rw [Duration.nanos_ofMillis]
    omega
  · have hnextPos : 0 < next.toInt := by omega
    obtain ⟨later, hlater, hvalue⟩ := delayForAttempt_eq h hfit hnextPos
    refine ⟨_, hlater, Duration.le_iff.mpr ?_⟩
    have hnonneg := h.millis_nonneg
    have hmono : delay.toInt ≤ later.toInt := by
      rw [hdelay, hvalue]
      apply Backoff.delay_mono hnonneg
      omega
    rw [Duration.nanos_ofMillis, Duration.nanos_ofMillis]
    omega

/-- A delay reaches the initial backoff when there is nothing to cut, or the delay has grown
past what was cut. -/
theorem initialBackoff_le_delay_iff (h : policy.Accepted) {delay : Int64}
    (hdelay : delay.toInt = Backoff.delay policy.initialBackoff.millis
      policy.maximumBackoff.millis 30 (attempt.toInt - 1).toNat) :
    policy.initialBackoff ≤ .ofMillis delay ↔
      policy.initialBackoff.WholeMillis ∨
        (1 < attempt.toInt ∧ 0 < policy.initialBackoff.millis ∧
          policy.initialBackoff.millis < policy.maximumBackoff.millis) := by
  have hmillis := Duration.millis_le h.bounded
  have hnonneg := h.millis_nonneg
  have hgrown : policy.initialBackoff.millis < delay.toInt ↔ 0 < policy.initialBackoff.millis ∧
      0 < min (attempt.toInt - 1).toNat 30 ∧
        policy.initialBackoff.millis < policy.maximumBackoff.millis := by
    rw [hdelay]
    exact Backoff.base_lt_delay_iff hnonneg
  have hbase : policy.initialBackoff.millis ≤ delay.toInt := by
    rw [hdelay]
    exact Backoff.base_le_delay hnonneg hmillis _
  rw [Duration.le_iff, Duration.nanos_ofMillis]
  by_cases hwhole : policy.initialBackoff.WholeMillis
  · have heq := Duration.wholeMillis_iff.mp hwhole
    refine ⟨fun _ => .inl hwhole, fun _ => ?_⟩
    omega
  · -- what was cut is made up for as soon as the delay is above its base
    have hcut : policy.initialBackoff.nanos ≤ delay.toInt * 1000000 ↔
        policy.initialBackoff.millis < delay.toInt := by
      have hne := mt Duration.wholeMillis_iff.mpr hwhole
      unfold Duration.millis at hne ⊢
      omega
    rw [hcut, hgrown]
    refine ⟨fun ⟨hinitial, hdouble, hroom⟩ => .inr ⟨?_, hinitial, hroom⟩, fun hor => ?_⟩
    · omega
    · rcases hor with hwhole' | ⟨hlater, hinitial, hroom⟩
      · exact absurd hwhole' hwhole
      · refine ⟨hinitial, ?_, hroom⟩
        omega

end ReconnectPolicy

/-- The delay of an attempt lies between the initial and the maximum backoff, and grows with
the attempt, exactly when the initial backoff is a whole number of milliseconds or the
delay has doubled, from at least a millisecond and with a millisecond of room. -/
theorem reconnect_delay_within_policy {maxAttempts : Int32}
    {initialBackoff maximumBackoff : Duration} {policy : ReconnectPolicy}
    (hpolicy : ReconnectPolicy.construct maxAttempts initialBackoff maximumBackoff = .ok policy)
    (hfit : policy.maximumBackoff.toMillis.isSome) {attempt : Int32}
    (hattempt : 1 ≤ attempt.toInt) :
    policy.DelayWithin attempt ↔
      policy.initialBackoff.WholeMillis ∨
        (1 < attempt.toInt ∧ 0 < policy.initialBackoff.millis ∧
          policy.initialBackoff.millis < policy.maximumBackoff.millis) := by
  have h := ReconnectPolicy.accepted_of_construct hpolicy
  obtain ⟨value, hdelay, hvalue⟩ := ReconnectPolicy.delayForAttempt_eq h hfit hattempt
  have hiff := ReconnectPolicy.initialBackoff_le_delay_iff h hvalue
  refine ⟨fun ⟨delay, hok, hinitial, _, _⟩ => ?_, fun hcond => ?_⟩
  · rw [hdelay] at hok
    obtain rfl := Except.ok.inj hok
    exact hiff.mp hinitial
  · obtain ⟨hmaximum, hnext⟩ :=
      ReconnectPolicy.delay_bounded_and_growing h hfit hattempt hvalue
    exact ⟨_, hdelay, hiff.mpr hcond, hmaximum, hnext⟩

/-- A duration of less than a second. -/
def fractionOfSecond (nano : Nat) (h : nano < 1000000000) : Duration where
  seconds := 0
  nano := nano
  nano_lt := h
  range := by decide

/-- A policy of ten to a hundred milliseconds, at its eighth attempt. -/
theorem reconnect_delay_within_policy_hundred :
    ReconnectPolicy.DelayWithin
      ⟨4, fractionOfSecond 10000000 (by decide), fractionOfSecond 100000000 (by decide)⟩ 8 := by
  have hpolicy : ReconnectPolicy.construct 4 (fractionOfSecond 10000000 (by decide))
      (fractionOfSecond 100000000 (by decide)) = .ok ⟨4, _, _⟩ := rfl
  exact (reconnect_delay_within_policy hpolicy rfl (by decide)).mpr (.inl (by decide))

/-- A policy of half a millisecond to a millisecond waits for nothing. -/
theorem reconnect_delay_below_policy :
    ∃ policy, ReconnectPolicy.construct 4 (fractionOfSecond 500000 (by decide))
        (fractionOfSecond 1000000 (by decide)) = .ok policy ∧
      policy.initialBackoff.toMillis.isSome ∧ policy.maximumBackoff.toMillis.isSome ∧
      policy.delayForAttempt 1 = .ok (fractionOfSecond 0 (by decide)) ∧
      ¬ policy.initialBackoff ≤ fractionOfSecond 0 (by decide) ∧ ¬ policy.DelayWithin 1 := by
  refine ⟨_, rfl, rfl, rfl, rfl, by decide, ?_⟩
  rintro ⟨delay, hdelay, hinitial, _⟩
  obtain rfl : fractionOfSecond 0 (by decide) = delay := Except.ok.inj hdelay
  exact absurd hinitial (by decide)

end CraftRelay.Client
