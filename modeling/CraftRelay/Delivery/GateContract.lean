import CraftRelay.Lib.Lts
import CraftRelay.Delivery.Gate

/-!
# Runs of the gate

The calls a gate takes one after another, with their answers. A user of the gate is
disciplined when it marks a sequence only after it was let through, and until then marks
nothing else of the stream, as `attempt_delivery` does. Under a disciplined user each
stream is completed one sequence after the other.
-/

namespace CraftRelay

/-- A call of the gate, a check with its answer. -/
inductive GateCall where
  | check (streamKey : String) (streamSequence : Int) (answer : GateDecision)
  | markInFlight (streamKey : String) (streamSequence : Int)
  | markBlocking (streamKey : String) (streamSequence : Int)
  | markCompleted (streamKey : String) (streamSequence : Int)
  deriving DecidableEq

inductive GateStep : OrderingGate → GateCall → OrderingGate → Prop
  | check (gate k n) : GateStep gate (.check k n (gate.check k n)) gate
  | markInFlight (gate k n) : GateStep gate (.markInFlight k n) (gate.markInFlight k n)
  | markBlocking (gate k n) : GateStep gate (.markBlocking k n) (gate.markBlocking k n)
  | markCompleted (gate k n) : GateStep gate (.markCompleted k n) (gate.markCompleted k n)

def gateLts : Lts OrderingGate GateCall := ⟨GateStep⟩

namespace GateCall

def streamKey : GateCall → String
  | check k _ _ => k
  | markInFlight k _ => k
  | markBlocking k _ => k
  | markCompleted k _ => k

/-- The sequence a call marks. -/
def mark? : GateCall → Option Int
  | check _ _ _ => none
  | markInFlight _ n => some n
  | markBlocking _ n => some n
  | markCompleted _ n => some n

/-- The sequence of `k` a call completes. -/
def completed? (k : String) : GateCall → Option Int
  | markCompleted k' n => if k' = k then some n else none
  | _ => none

end GateCall

/-! ## Traces -/

/-- The sequence was let through, and nothing of the stream was marked since, unless the
same sequence as in flight. -/
def Granted (k : String) (n : Int) (tr : List GateCall) : Prop :=
  Lts.Since (· = .check k n .allowed)
    (fun call => call.streamKey = k → call.mark? = none ∨ call = .markInFlight k n) tr

/-- Whatever is marked was granted before. -/
def Disciplined (tr : List GateCall) : Prop :=
  ∀ before call after, tr = before ++ call :: after →
    ∀ n, call.mark? = some n → Granted call.streamKey n before

/-- The sequence was marked in flight, and neither blocking nor completed since. -/
def MarkedInFlight (k : String) (n : Int) (tr : List GateCall) : Prop :=
  Lts.Since (· = .markInFlight k n)
    (fun call => call ≠ .markBlocking k n ∧ call ≠ .markCompleted k n) tr

/-- The sequences of `k` that are completed, in order. -/
def completed (k : String) (tr : List GateCall) : List Int :=
  tr.filterMap (GateCall.completed? k)

theorem completed_snoc_of_none {k : String} {tr : List GateCall} {call : GateCall}
    (h : call.completed? k = none) : completed k (tr ++ [call]) = completed k tr := by
  simp [completed, h]

theorem completed_snoc_markCompleted (k : String) (tr : List GateCall) (n : Int) :
    completed k (tr ++ [.markCompleted k n]) = completed k tr ++ [n] := by
  simp [completed, GateCall.completed?]

theorem disciplined_nil : Disciplined [] := by
  intro before call after h
  simp at h

theorem disciplined_snoc {tr : List GateCall} {call : GateCall} :
    Disciplined (tr ++ [call]) ↔
      Disciplined tr ∧ ∀ n, call.mark? = some n → Granted call.streamKey n tr := by
  constructor
  · intro h
    refine ⟨fun before call' after htr => h before call' (after ++ [call]) ?_,
      h tr call [] rfl⟩
    rw [htr]
    simp
  · rintro ⟨hpre, hlast⟩ before call' after htr
    induction after using List.reverseRecOn with
    | nil =>
        obtain ⟨rfl, rfl⟩ := List.append_singleton_inj.mp htr
        exact hlast
    | append_singleton after c =>
        rw [← List.cons_append, ← List.append_assoc] at htr
        obtain ⟨rfl, rfl⟩ := List.append_singleton_inj.mp htr
        exact hpre before call' after rfl

/-! ## Steps -/

section

variable {gate gate' : OrderingGate} {call : GateCall} {k : String} {n : Int}

/-- A call leaves the entries of other streams alone. -/
theorem GateStep.entry_of_ne (h : GateStep gate call gate') (hk : call.streamKey ≠ k) :
    gate'.entry k = gate.entry k := by
  cases h with
  | check => rfl
  | markInFlight => exact (OrderingGate.entry_modify ..).trans (if_neg hk)
  | markBlocking => exact (OrderingGate.entry_modify ..).trans (if_neg hk)
  | markCompleted => exact (OrderingGate.entry_modify ..).trans (if_neg hk)

/-- A call leaves the answers about other streams alone. -/
theorem GateStep.check_of_ne (h : GateStep gate call gate') (hk : call.streamKey ≠ k) :
    gate'.check k n = gate.check k n := by
  rw [OrderingGate.check_eq, OrderingGate.check_eq, h.entry_of_ne hk]

end

/-- After `h` sequences of a stream were completed, it is at the next one. -/
structure GateContract (k : String) (tr : List GateCall) (gate : OrderingGate) (h : Nat) :
    Prop where
  completed : completed k tr = (List.range' 1 h).map Int.ofNat
  highest : (gate.entry k).highestCompleted = h
  marked : ∀ n, MarkedInFlight k n tr → (gate.entry k).inFlight = some n
  inFlight : ∀ n, (gate.entry k).inFlight = some n → n = h + 1
  blocking : ∀ n, (gate.entry k).blocking = some n → n = h + 1
  granted : ∀ n, Granted k n tr → n = h + 1

namespace GateContract

variable {k : String} {tr : List GateCall} {gate gate' : OrderingGate} {h : Nat}
  {call : GateCall} {n : Int}

theorem new (k : String) : GateContract k [] .new 0 where
  completed := rfl
  highest := rfl
  marked := fun _ hmarked => absurd hmarked Lts.not_since_nil
  inFlight := nofun
  blocking := nofun
  granted := fun _ hgranted => absurd hgranted Lts.not_since_nil

theorem next (hc : GateContract k tr gate h) : (gate.entry k).next = h + 1 := by
  unfold StreamGateState.next
  cases hbl : (gate.entry k).blocking with
  | none => simp [hc.highest]
  | some b => simpa using hc.blocking b hbl

/-- A check changes nothing, and lets only the next sequence through. -/
theorem check (hc : GateContract k tr gate h) (k' : String) (n : Int) :
    GateContract k (tr ++ [.check k' n (gate.check k' n)]) gate h where
  completed := (completed_snoc_of_none rfl).trans hc.completed
  highest := hc.highest
  marked := by
    intro m hmarked
    rcases Lts.since_snoc.mp hmarked with hcall | ⟨hmarked, -⟩
    · cases hcall
    · exact hc.marked m hmarked
  inFlight := hc.inFlight
  blocking := hc.blocking
  granted := by
    intro m hgranted
    rcases Lts.since_snoc.mp hgranted with hcall | ⟨hgranted, -⟩
    · obtain ⟨rfl, rfl, hanswer⟩ := GateCall.check.inj hcall
      rw [(OrderingGate.check_eq_allowed_iff.mp hanswer).2, hc.next]
    · exact hc.granted m hgranted

/-- A call on another stream does not matter to this one. -/
theorem frame (hc : GateContract k tr gate h) (hstep : GateStep gate call gate')
    (hk : call.streamKey ≠ k) : GateContract k (tr ++ [call]) gate' h where
  completed := by
    have hnone : call.completed? k = none := by
      cases call with
      | markCompleted k' n => exact if_neg hk
      | _ => rfl
    exact (completed_snoc_of_none hnone).trans hc.completed
  highest := by rw [hstep.entry_of_ne hk, hc.highest]
  marked := by
    intro m hmarked
    rw [hstep.entry_of_ne hk]
    rcases Lts.since_snoc.mp hmarked with rfl | ⟨hmarked, -⟩
    · exact absurd rfl hk
    · exact hc.marked m hmarked
  inFlight := by
    rw [hstep.entry_of_ne hk]
    exact hc.inFlight
  blocking := by
    rw [hstep.entry_of_ne hk]
    exact hc.blocking
  granted := by
    intro m hgranted
    rcases Lts.since_snoc.mp hgranted with rfl | ⟨hgranted, -⟩
    · exact absurd rfl hk
    · exact hc.granted m hgranted

theorem markInFlight (hc : GateContract k tr gate h) (hgranted : Granted k n tr) :
    GateContract k (tr ++ [.markInFlight k n]) (gate.markInFlight k n) h := by
  have hn := hc.granted n hgranted
  have hentry : (gate.markInFlight k n).entry k =
      { gate.entry k with inFlight := some n, blocking := none } :=
    (OrderingGate.entry_modify ..).trans (if_pos rfl)
  constructor
  case completed => exact (completed_snoc_of_none rfl).trans hc.completed
  case highest => rw [hentry, ← hc.highest]
  case marked =>
    intro m hmarked
    rw [hentry]
    rcases Lts.since_snoc.mp hmarked with hcall | ⟨hmarked, -⟩
    · cases hcall
      rfl
    · -- what was in flight before is the granted sequence itself
      rw [hc.inFlight m (hc.marked m hmarked), hn]
  case inFlight =>
    intro m hm
    rw [hentry] at hm
    rw [← hn, ← Option.some.inj hm]
  case blocking =>
    intro m hm
    rw [hentry] at hm
    cases hm
  case granted =>
    intro m hgranted'
    rcases Lts.since_snoc.mp hgranted' with hcall | ⟨hgranted', -⟩
    · cases hcall
    · exact hc.granted m hgranted'

/-- What is no longer in flight of a granted sequence is nothing. -/
theorem cleared (hc : GateContract k tr gate h) (hgranted : Granted k n tr) :
    (if (gate.entry k).inFlight = some n then none else (gate.entry k).inFlight) = none := by
  cases hfl : (gate.entry k).inFlight with
  | none => simp
  | some m => simp [hc.inFlight m hfl, hc.granted n hgranted]

theorem markBlocking (hc : GateContract k tr gate h) (hgranted : Granted k n tr) :
    GateContract k (tr ++ [.markBlocking k n]) (gate.markBlocking k n) h := by
  have hn := hc.granted n hgranted
  have hentry : (gate.markBlocking k n).entry k =
      { gate.entry k with inFlight := none, blocking := some n } := by
    refine (OrderingGate.entry_modify ..).trans ((if_pos rfl).trans ?_)
    rw [hc.cleared hgranted]
  constructor
  case completed => exact (completed_snoc_of_none rfl).trans hc.completed
  case highest => rw [hentry, ← hc.highest]
  case marked =>
    intro m hmarked
    rcases Lts.since_snoc.mp hmarked with hcall | ⟨hmarked, hne, -⟩
    · cases hcall
    · refine absurd ?_ hne
      rw [hc.inFlight m (hc.marked m hmarked), hn]
  case inFlight =>
    intro m hm
    rw [hentry] at hm
    cases hm
  case blocking =>
    intro m hm
    rw [hentry] at hm
    rw [← hn, ← Option.some.inj hm]
  case granted =>
    intro m hgranted'
    rcases Lts.since_snoc.mp hgranted' with hcall | ⟨-, hkeep⟩
    · cases hcall
    · rcases hkeep rfl with hnone | hcall
      · cases hnone
      · cases hcall

theorem markCompleted (hc : GateContract k tr gate h) (hgranted : Granted k n tr) :
    GateContract k (tr ++ [.markCompleted k n]) (gate.markCompleted k n) (h + 1) := by
  have hn := hc.granted n hgranted
  have hunblocked : (if (gate.entry k).blocking = some n then none
      else (gate.entry k).blocking) = none := by
    cases hbl : (gate.entry k).blocking with
    | none => simp
    | some m => simp [hc.blocking m hbl, hn]
  have hentry : (gate.markCompleted k n).entry k = ⟨n, none, none⟩ := by
    refine (OrderingGate.entry_modify ..).trans ((if_pos rfl).trans ?_)
    rw [hc.cleared hgranted, hunblocked]
  constructor
  case completed =>
    rw [completed_snoc_markCompleted, hc.completed, List.range'_concat, hn]
    simp [Int.add_comm]
  case highest =>
    rw [hentry]
    exact hn
  case marked =>
    intro m hmarked
    rcases Lts.since_snoc.mp hmarked with hcall | ⟨hmarked, -, hne⟩
    · cases hcall
    · refine absurd ?_ hne
      rw [hc.inFlight m (hc.marked m hmarked), hn]
  case inFlight =>
    intro m hm
    rw [hentry] at hm
    cases hm
  case blocking =>
    intro m hm
    rw [hentry] at hm
    cases hm
  case granted =>
    intro m hgranted'
    rcases Lts.since_snoc.mp hgranted' with hcall | ⟨-, hkeep⟩
    · cases hcall
    · rcases hkeep rfl with hnone | hcall
      · cases hnone
      · cases hcall

/-- A disciplined call keeps the stream at its next sequence, or completes that. -/
theorem step (hc : GateContract k tr gate h) (hstep : GateStep gate call gate')
    (hgranted : ∀ n, call.mark? = some n → Granted call.streamKey n tr) :
    ∃ h', GateContract k (tr ++ [call]) gate' h' := by
  by_cases hk : call.streamKey = k
  · subst hk
    cases hstep with
    | check k' n => exact ⟨h, hc.check k' n⟩
    | markInFlight k' n => exact ⟨h, hc.markInFlight (hgranted n rfl)⟩
    | markBlocking k' n => exact ⟨h, hc.markBlocking (hgranted n rfl)⟩
    | markCompleted k' n => exact ⟨h + 1, hc.markCompleted (hgranted n rfl)⟩
  · exact ⟨h, hc.frame hstep hk⟩

/-- Under a disciplined user every stream is at its next sequence. -/
theorem of_run (hrun : gateLts.Run .new tr gate) (hdisc : Disciplined tr) (k : String) :
    ∃ h, GateContract k tr gate h := by
  induction hrun with
  | nil => exact ⟨0, new k⟩
  | snoc _ hst ih =>
      obtain ⟨hpre, hgranted⟩ := disciplined_snoc.mp hdisc
      obtain ⟨h, hc⟩ := ih hpre
      exact hc.step hst hgranted

/-- A sequence in flight holds back its whole stream, itself included. -/
theorem check_of_marked (hc : GateContract k tr gate h) (hmarked : MarkedInFlight k n tr)
    (m : Int) : gate.check k m = .blocked n :=
  OrderingGate.check_of_inFlight (hc.marked n hmarked)

/-- The answers of a gate at its next sequence. -/
theorem check_eq (hc : GateContract k tr gate h) (n : Int) :
    gate.check k n = .blocked (h + 1) ∨ gate.check k n = .allowed ∧ n = h + 1 := by
  cases hfl : (gate.entry k).inFlight with
  | some m =>
      rw [OrderingGate.check_of_inFlight hfl, hc.inFlight m hfl]
      exact .inl rfl
  | none =>
      rw [OrderingGate.check_of_idle hfl, hc.next]
      by_cases hn : n = h + 1
      · exact .inr ⟨if_pos hn, hn⟩
      · exact .inl (if_neg hn)

end GateContract

end CraftRelay
