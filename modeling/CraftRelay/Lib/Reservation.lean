import CraftRelay.Lib.Lts

/-!
# A pool with a reserved share

Places that are taken and given back by two kinds of holders. A share of the pool is
reserved for the privileged kind: the others are admitted only while a place is free
beside what the privileged ones have not used of their share. In every run the unused
part of the share stays free, so a privileged holder finds a place as long as its kind
holds less than the share.
-/

namespace Reservation

structure Pool where
  capacity : Int
  reserved : Int
  inUse : Int
  privileged : Int

inductive Event where
  | enter (privileged : Bool)
  | leave (privileged : Bool)

namespace Pool

def free (p : Pool) : Int := p.capacity - p.inUse

/-- What is kept back for the privileged. -/
def keptBack (p : Pool) : Int := max 0 (p.reserved - p.privileged)

def Admits (p : Pool) (privileged : Bool) : Prop :=
  0 < p.free ∧ (privileged = false → p.keptBack < p.free)

/-- A holder of this kind has a place. -/
def Holds (p : Pool) (privileged : Bool) : Prop :=
  if privileged then 0 < p.privileged else p.privileged < p.inUse

def enter (p : Pool) (privileged : Bool) : Pool :=
  { p with
    inUse := p.inUse + 1
    privileged := if privileged then p.privileged + 1 else p.privileged }

def leave (p : Pool) (privileged : Bool) : Pool :=
  { p with
    inUse := p.inUse - 1
    privileged := if privileged then p.privileged - 1 else p.privileged }

/-- The unused part of the share is free. -/
structure Sound (p : Pool) : Prop where
  privileged_nonneg : 0 ≤ p.privileged
  privileged_le : p.privileged ≤ p.inUse
  keptBack_le : p.keptBack ≤ p.free

/-- Holders come when they are admitted and go when they have a place. -/
def lts : Lts Pool Event where
  step p a q :=
    match a with
    | .enter privileged => p.Admits privileged ∧ q = p.enter privileged
    | .leave privileged => p.Holds privileged ∧ q = p.leave privileged

variable {p q : Pool} {tr : List Event}

theorem Sound.free_nonneg (h : p.Sound) : 0 ≤ p.free := by
  have hkept := h.keptBack_le
  unfold keptBack at hkept
  omega

/-- An empty pool whose share is part of its capacity is sound. -/
theorem sound_of_empty (huse : p.inUse = 0) (hprivileged : p.privileged = 0)
    (hnonneg : 0 ≤ p.reserved) (hle : p.reserved ≤ p.capacity) : p.Sound := by
  refine ⟨by omega, by omega, ?_⟩
  show max 0 (p.reserved - p.privileged) ≤ p.capacity - p.inUse
  omega

/-- While the share is not used up, the privileged are admitted. -/
theorem Sound.admits_privileged (h : p.Sound) (hshare : p.privileged < p.reserved) :
    p.Admits true := by
  have hkept := h.keptBack_le
  unfold keptBack at hkept
  exact ⟨by omega, nofun⟩

theorem Sound.enter (h : p.Sound) {privileged : Bool} (hadmits : p.Admits privileged) :
    (p.enter privileged).Sound := by
  obtain ⟨hnonneg, hle, hkept⟩ := h
  obtain ⟨hfree, hothers⟩ := hadmits
  cases privileged with
  | true =>
      refine ⟨?_, ?_, ?_⟩
      · show 0 ≤ p.privileged + 1
        omega
      · show p.privileged + 1 ≤ p.inUse + 1
        omega
      · show max 0 (p.reserved - (p.privileged + 1)) ≤ p.capacity - (p.inUse + 1)
        unfold keptBack free at *
        omega
  | false =>
      have hroom := hothers rfl
      refine ⟨hnonneg, ?_, ?_⟩
      · show p.privileged ≤ p.inUse + 1
        omega
      · show max 0 (p.reserved - p.privileged) ≤ p.capacity - (p.inUse + 1)
        unfold keptBack free at *
        omega

theorem Sound.leave (h : p.Sound) {privileged : Bool} (hholds : p.Holds privileged) :
    (p.leave privileged).Sound := by
  obtain ⟨hnonneg, hle, hkept⟩ := h
  cases privileged with
  | true =>
      have hpos : 0 < p.privileged := hholds
      refine ⟨?_, ?_, ?_⟩
      · show 0 ≤ p.privileged - 1
        omega
      · show p.privileged - 1 ≤ p.inUse - 1
        omega
      · show max 0 (p.reserved - (p.privileged - 1)) ≤ p.capacity - (p.inUse - 1)
        unfold keptBack free at *
        omega
  | false =>
      have hother : p.privileged < p.inUse := hholds
      refine ⟨hnonneg, ?_, ?_⟩
      · show p.privileged ≤ p.inUse - 1
        omega
      · show max 0 (p.reserved - p.privileged) ≤ p.capacity - (p.inUse - 1)
        unfold keptBack free at *
        omega

theorem step_sound {a : Event} (h : p.Sound) (hstep : lts.step p a q) : q.Sound := by
  cases a with
  | enter privileged =>
      obtain ⟨hadmits, rfl⟩ := hstep
      exact h.enter hadmits
  | leave privileged =>
      obtain ⟨hholds, rfl⟩ := hstep
      exact h.leave hholds

/-- Soundness holds along every run. -/
theorem run_sound (h : p.Sound) (hrun : lts.Run p tr q) : q.Sound :=
  hrun.invariant (Q := fun _ => True) (fun _ _ => trivial) h
    fun _ _ _ _ hpre hstep => step_sound hpre hstep

/-- Capacity and share stay as they are. -/
theorem run_bounds (hrun : lts.Run p tr q) : q.capacity = p.capacity ∧ q.reserved = p.reserved := by
  induction hrun with
  | nil => exact ⟨rfl, rfl⟩
  | snoc hrun hstep ih =>
      rename_i r a q
      cases a with
      | enter privileged =>
          obtain ⟨-, rfl⟩ := hstep
          exact ih
      | leave privileged =>
          obtain ⟨-, rfl⟩ := hstep
          exact ih

end Pool

end Reservation
