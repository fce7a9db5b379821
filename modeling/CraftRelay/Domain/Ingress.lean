import CraftRelay.Lib.Reservation
import CraftRelay.Domain.Admission

/-!
# The counters of an ingress

A caller of the admission counts a publish when it is admitted and takes it out of its
counters when it is completed, in any order. The counters stand for a pool of which a share
is reserved, as long as the admission respects that share.
-/

namespace CraftRelay

/-- The counters a caller keeps, and its admitted publishes that are not completed. -/
structure Ingress (ρ : Type) where
  global : GlobalQuotaState
  outstanding : List ρ

inductive IngressEvent (ρ : Type) where
  | request (r : ρ)
  | complete (r : ρ)

namespace Ingress

variable {ρ : Type}

/-- The caller counts an admitted publish. -/
def enter (s : Ingress ρ) (p0 : Bool) (r : ρ) : Ingress ρ where
  global :=
    { s.global with
      inFlightPublishes := s.global.inFlightPublishes + 1
      usedP0Capacity :=
        if p0 then s.global.usedP0Capacity + 1 else s.global.usedP0Capacity }
  outstanding := r :: s.outstanding

/-- The counters as a pool. -/
def pool (s : Ingress ρ) : Reservation.Pool where
  capacity := s.global.maxInFlightPublishes.toInt
  reserved := s.global.reservedP0Capacity.toInt
  inUse := s.global.inFlightPublishes.toInt
  privileged := s.global.usedP0Capacity.toInt

/-- The counters count the outstanding publishes. -/
structure Counted (s : Ingress ρ) (p0 : ρ → Bool) : Prop where
  all : s.global.inFlightPublishes.toInt = s.outstanding.length
  privileged : s.global.usedP0Capacity.toInt = s.outstanding.countP p0

variable {admits : ρ → GlobalQuotaState → Prop} {p0 : ρ → Bool} {s t : Ingress ρ} {r : ρ}

/-- What the pool needs of an admission. -/
def Respects (admits : ρ → GlobalQuotaState → Prop) (p0 : ρ → Bool) : Prop :=
  ∀ r g, admits r g → 0 < g.maxInFlightPublishes - g.inFlightPublishes ∧
    (p0 r = true ∨ 0 < g.maxInFlightPublishes - g.inFlightPublishes -
      max (g.reservedP0Capacity - g.usedP0Capacity) 0)

/-- In a sound pool the counters are in range, so the admission is one of the pool. -/
theorem admits_pool (hrespects : Respects admits p0) (hsound : s.pool.Sound)
    (hreserved : 0 ≤ s.pool.reserved) (h : admits r s.global) : s.pool.Admits (p0 r) := by
  obtain ⟨hglobal, hreserve⟩ := hrespects r s.global h
  have hused : 0 ≤ s.global.usedP0Capacity.toInt := hsound.privileged_nonneg
  have hin : 0 ≤ s.global.inFlightPublishes.toInt := Int.le_trans hused hsound.privileged_le
  have hfree : 0 ≤ s.global.maxInFlightPublishes.toInt - s.global.inFlightPublishes.toInt :=
    hsound.free_nonneg
  have hroom := (AdmissionFigures.available_pos_iff (by omega) hin).mp hglobal
  constructor
  · show 0 < s.global.maxInFlightPublishes.toInt - s.global.inFlightPublishes.toInt
    omega
  · intro hother
    rcases hreserve with hp0 | hbeside
    · rw [hother] at hp0
      cases hp0
    · have hkept := (AdmissionFigures.beside_reserve_iff hin hreserved hused hroom).mp hbeside
      show max 0 (s.global.reservedP0Capacity.toInt - s.global.usedP0Capacity.toInt) <
        s.global.maxInFlightPublishes.toInt - s.global.inFlightPublishes.toInt
      omega

/-- Counting an admitted publish is entering the pool. -/
theorem pool_admit (hsound : s.pool.Sound) (hadmits : s.pool.Admits (p0 r)) :
    (s.enter (p0 r) r).pool = s.pool.enter (p0 r) := by
  have hone : (1 : Int32).toInt = 1 := rfl
  have hused : 0 ≤ s.global.usedP0Capacity.toInt := hsound.privileged_nonneg
  have hle : s.global.usedP0Capacity.toInt ≤ s.global.inFlightPublishes.toInt :=
    hsound.privileged_le
  have hfree : 0 < s.global.maxInFlightPublishes.toInt - s.global.inFlightPublishes.toInt :=
    hadmits.1
  have hmax := s.global.maxInFlightPublishes.toInt_lt
  -- there is a free place, so neither counter is at the end of its range
  have hin : (s.global.inFlightPublishes + 1).toInt = s.global.inFlightPublishes.toInt + 1 :=
    Wraparound.toInt_add_of_range (by rw [hone]; omega) (by rw [hone]; omega)
  have hp0 : (s.global.usedP0Capacity + 1).toInt = s.global.usedP0Capacity.toInt + 1 :=
    Wraparound.toInt_add_of_range (by rw [hone]; omega) (by rw [hone]; omega)
  unfold enter pool Reservation.Pool.enter
  cases p0 r with
  | true => simp only [hin, hp0, if_true]
  | false => simp only [hin, Bool.false_eq_true, if_false]

/-- An outstanding publish has a place in the pool. -/
theorem Counted.holds (h : s.Counted p0) (hmem : r ∈ s.outstanding) : s.pool.Holds (p0 r) := by
  obtain ⟨hall, hprivileged⟩ := h
  cases hr : p0 r with
  | true =>
      have hpos : 0 < s.outstanding.countP p0 := List.countP_pos_iff.mpr ⟨r, hmem, hr⟩
      show 0 < s.global.usedP0Capacity.toInt
      omega
  | false =>
      -- it is outstanding itself, so not every outstanding publish is P0
      have hlt : s.outstanding.countP p0 < s.outstanding.length := by
        apply Nat.lt_of_le_of_ne List.countP_le_length
        intro heq
        have hp0 := List.countP_eq_length.mp heq r hmem
        rw [hr] at hp0
        cases hp0
      show s.global.usedP0Capacity.toInt < s.global.inFlightPublishes.toInt
      omega

/-- The new publish is counted, and under P0 where it is one. -/
theorem Counted.enter (h : s.Counted p0)
    (hpool : (s.enter (p0 r) r).pool = s.pool.enter (p0 r)) : (s.enter (p0 r) r).Counted p0 := by
  have hall : (s.enter (p0 r) r).global.inFlightPublishes.toInt =
      s.global.inFlightPublishes.toInt + 1 := congrArg Reservation.Pool.inUse hpool
  have hprivileged : (s.enter (p0 r) r).global.usedP0Capacity.toInt =
      if p0 r then s.global.usedP0Capacity.toInt + 1 else s.global.usedP0Capacity.toInt :=
    congrArg Reservation.Pool.privileged hpool
  constructor
  · rw [hall, h.all]
    show _ = ((r :: s.outstanding).length : Int)
    simp
  · rw [hprivileged, h.privileged]
    show _ = ((r :: s.outstanding).countP p0 : Int)
    rw [List.countP_cons]
    cases p0 r <;> simp

/-! ## Runs -/

section Runs

variable [DecidableEq ρ]

/-- The caller takes a completed publish out of its counters. -/
def finish (s : Ingress ρ) (p0 : Bool) (r : ρ) : Ingress ρ where
  global :=
    { s.global with
      inFlightPublishes := s.global.inFlightPublishes - 1
      usedP0Capacity :=
        if p0 then s.global.usedP0Capacity - 1 else s.global.usedP0Capacity }
  outstanding := s.outstanding.erase r

/-- Requests, admitted or rejected on the counters as they are, and completions, in any
order. -/
def lts (admits : ρ → GlobalQuotaState → Prop) (p0 : ρ → Bool) :
    Lts (Ingress ρ) (IngressEvent ρ) where
  step s a t :=
    match a with
    | .request r =>
        (admits r s.global ∧ t = s.enter (p0 r) r) ∨ (¬ admits r s.global ∧ t = s)
    | .complete r => r ∈ s.outstanding ∧ t = s.finish (p0 r) r

/-- Taking a completed publish out is leaving the pool. -/
theorem pool_finish (p0 : ρ → Bool) (r : ρ) (hsound : s.pool.Sound) :
    (s.finish (p0 r) r).pool = s.pool.leave (p0 r) := by
  have hone : (1 : Int32).toInt = 1 := rfl
  have hused : 0 ≤ s.global.usedP0Capacity.toInt := hsound.privileged_nonneg
  have hle : s.global.usedP0Capacity.toInt ≤ s.global.inFlightPublishes.toInt :=
    hsound.privileged_le
  have hin : (s.global.inFlightPublishes - 1).toInt = s.global.inFlightPublishes.toInt - 1 :=
    Wraparound.toInt_sub_of_nonneg (by omega) (by decide)
  have hp0 : (s.global.usedP0Capacity - 1).toInt = s.global.usedP0Capacity.toInt - 1 :=
    Wraparound.toInt_sub_of_nonneg hused (by decide)
  unfold finish pool Reservation.Pool.leave
  cases p0 r with
  | true => simp only [hin, hp0, if_true]
  | false => simp only [hin, Bool.false_eq_true, if_false]

/-- A completed publish is no longer counted. -/
theorem Counted.finish (h : s.Counted p0) (hmem : r ∈ s.outstanding)
    (hpool : (s.finish (p0 r) r).pool = s.pool.leave (p0 r)) :
    (s.finish (p0 r) r).Counted p0 := by
  have hperm := List.perm_cons_erase hmem
  have hall : (s.finish (p0 r) r).global.inFlightPublishes.toInt =
      s.global.inFlightPublishes.toInt - 1 := congrArg Reservation.Pool.inUse hpool
  have hprivileged : (s.finish (p0 r) r).global.usedP0Capacity.toInt =
      if p0 r then s.global.usedP0Capacity.toInt - 1 else s.global.usedP0Capacity.toInt :=
    congrArg Reservation.Pool.privileged hpool
  constructor
  · rw [hall, h.all, hperm.length_eq]
    show _ = ((s.outstanding.erase r).length : Int)
    simp
  · rw [hprivileged, h.privileged, hperm.countP_eq, List.countP_cons]
    show _ = ((s.outstanding.erase r).countP p0 : Int)
    cases p0 r <;> simp

/-- The counters stand for a sound pool. -/
def Represents (p0 : ρ → Bool) (s : Ingress ρ) (p : Reservation.Pool) : Prop :=
  s.pool = p ∧ s.Counted p0 ∧ p.Sound ∧ 0 ≤ p.reserved

/-- Every step of the counters is answered by the pool. -/
theorem step_simulated (hrespects : Respects admits p0) {a : IngressEvent ρ}
    {p : Reservation.Pool} (h : Represents p0 s p) (hstep : (lts admits p0).step s a t) :
    ∃ tr q, Reservation.Pool.lts.Run p tr q ∧ Represents p0 t q := by
  obtain ⟨rfl, hcounted, hsound, hreserved⟩ := h
  cases a with
  | request r =>
      rcases hstep with ⟨hadmits, rfl⟩ | ⟨-, rfl⟩
      · have hpool := admits_pool hrespects hsound hreserved hadmits
        have heq := pool_admit hsound hpool
        refine ⟨[.enter (p0 r)], _, Lts.Run.nil.snoc ⟨hpool, rfl⟩, heq, hcounted.enter heq,
          hsound.enter hpool, hreserved⟩
      -- a rejected publish changes nothing
      · exact ⟨[], _, .nil, rfl, hcounted, hsound, hreserved⟩
  | complete r =>
      obtain ⟨hmem, rfl⟩ := hstep
      have hholds := hcounted.holds hmem
      have heq := pool_finish p0 r hsound
      refine ⟨[.leave (p0 r)], _, Lts.Run.nil.snoc ⟨hholds, rfl⟩, heq, hcounted.finish hmem heq,
        hsound.leave hholds, hreserved⟩

/-- Nothing is in flight, and the reserve is part of the capacity. -/
structure Empty (g : GlobalQuotaState) : Prop where
  inFlight : g.inFlightPublishes = 0
  used : g.usedP0Capacity = 0
  reserved : 0 ≤ g.reservedP0Capacity.toInt
  reserved_le : g.reservedP0Capacity.toInt ≤ g.maxInFlightPublishes.toInt

/-- Over every run that starts empty the counters stand for a sound pool, of the capacity
and reserve it started with. -/
theorem run_represents (hrespects : Respects admits p0) {g : GlobalQuotaState} (hg : Empty g)
    {tr : List (IngressEvent ρ)} (hrun : (lts admits p0).Run ⟨g, []⟩ tr s) :
    s.pool.Sound ∧ 0 ≤ s.pool.reserved ∧
      s.pool.capacity = g.maxInFlightPublishes.toInt ∧
      s.pool.reserved = g.reservedP0Capacity.toInt := by
  have hin : g.inFlightPublishes.toInt = 0 := by rw [hg.inFlight]; rfl
  have hused : g.usedP0Capacity.toInt = 0 := by rw [hg.used]; rfl
  have hsound : (pool (⟨g, []⟩ : Ingress ρ)).Sound :=
    Reservation.Pool.sound_of_empty hin hused hg.reserved hg.reserved_le
  have hstart : Represents p0 (⟨g, []⟩ : Ingress ρ) (pool (⟨g, []⟩ : Ingress ρ)) :=
    ⟨rfl, ⟨hin, hused⟩, hsound, hg.reserved⟩
  obtain ⟨tr', p, hpool, rfl, -, -, hreserved⟩ :=
    hrun.simulate (fun _ _ _ _ h hst => step_simulated hrespects h hst) hstart
  obtain ⟨hcapacity, hshare⟩ := Reservation.Pool.run_bounds hpool
  exact ⟨Reservation.Pool.run_sound hsound hpool, hreserved, hcapacity, hshare⟩

end Runs

end Ingress

end CraftRelay
