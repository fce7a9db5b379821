import CraftRelay.Lib.KeyedTable

/-!
# The per-stream ordering gate

`gate.rs`: for each stream key the gate remembers the highest completed
sequence, the one in flight and the one that blocks the stream. An event passes
when it is the blocking one, or the next after the highest completed one when
nothing blocks; an unknown stream lets only the sequence 1 through.
-/

namespace CraftRelay

inductive GateDecision where
  | allowed
  | blocked (waitingForSequence : Int)
  deriving DecidableEq, Repr

structure RecoveredStreamState where
  streamKey : String
  streamSequence : Int
  replicated : Bool
  blocking : Bool
  inFlight : Bool
  deriving DecidableEq

structure StreamGateState where
  highestCompleted : Int
  inFlight : Option Int
  blocking : Option Int
  deriving DecidableEq

/-- The entry `or_insert` puts in for an unknown stream. -/
def StreamGateState.fresh : StreamGateState := ⟨0, none, none⟩

/-- The sequence an idle entry lets through. -/
def StreamGateState.next (state : StreamGateState) : Int :=
  state.blocking.getD (state.highestCompleted + 1)

/-- What one scanned delivery adds to the entry of its stream. -/
def StreamGateState.recover (entry : StreamGateState)
    (recovered : RecoveredStreamState) : StreamGateState where
  highestCompleted :=
    if recovered.replicated && decide (entry.highestCompleted < recovered.streamSequence) then
      recovered.streamSequence
    else entry.highestCompleted
  blocking :=
    if recovered.blocking then
      match entry.blocking with
      | some existing => some (min existing recovered.streamSequence)
      | none => some recovered.streamSequence
    else entry.blocking
  inFlight := if recovered.inFlight then some recovered.streamSequence else entry.inFlight

/-- The map from stream keys to their gate state. -/
structure OrderingGate where
  streams : KeyedTable (Prod.fst : String × StreamGateState → String)

namespace OrderingGate

def new : OrderingGate := ⟨.empty⟩

def get (gate : OrderingGate) (streamKey : String) : Option StreamGateState :=
  (gate.streams.find? streamKey).map Prod.snd

/-- `entry(streamKey).or_insert(fresh)`, then an update in place. -/
def modify (gate : OrderingGate) (streamKey : String)
    (f : StreamGateState → StreamGateState) : OrderingGate :=
  ⟨gate.streams.upsert (streamKey, f ((gate.get streamKey).getD .fresh))⟩

def check (gate : OrderingGate) (streamKey : String) (streamSequence : Int) : GateDecision :=
  match gate.get streamKey with
  | none => if streamSequence = 1 then .allowed else .blocked 1
  | some state =>
    let next := state.highestCompleted + 1
    match state.inFlight with
    | some inFlight => .blocked inFlight
    | none =>
      match state.blocking with
      | some blocking => if streamSequence = blocking then .allowed else .blocked blocking
      | none => if streamSequence = next then .allowed else .blocked next

def markInFlight (gate : OrderingGate) (streamKey : String) (streamSequence : Int) :
    OrderingGate :=
  gate.modify streamKey fun state =>
    { state with inFlight := some streamSequence, blocking := none }

def markBlocking (gate : OrderingGate) (streamKey : String) (streamSequence : Int) :
    OrderingGate :=
  gate.modify streamKey fun state =>
    { state with
      inFlight := if state.inFlight = some streamSequence then none else state.inFlight
      blocking := some streamSequence }

def markCompleted (gate : OrderingGate) (streamKey : String) (streamSequence : Int) :
    OrderingGate :=
  gate.modify streamKey fun state =>
    { highestCompleted := streamSequence
      inFlight := if state.inFlight = some streamSequence then none else state.inFlight
      blocking := if state.blocking = some streamSequence then none else state.blocking }

/-- Forget everything, then add the scanned deliveries one by one. -/
def recoverFromScan (_ : OrderingGate) (states : List RecoveredStreamState) : OrderingGate :=
  states.foldl (fun gate recovered => gate.modify recovered.streamKey (·.recover recovered)) new

/-! ## Entries -/

/-- The state of a stream, `fresh` when the gate does not know it. -/
def entry (gate : OrderingGate) (streamKey : String) : StreamGateState :=
  (gate.get streamKey).getD .fresh

@[simp] theorem entry_new (streamKey : String) : new.entry streamKey = .fresh := rfl

theorem entry_modify (gate : OrderingGate) (streamKey : String)
    (f : StreamGateState → StreamGateState) (k : String) :
    (gate.modify streamKey f).entry k =
      if streamKey = k then f (gate.entry streamKey) else gate.entry k := by
  unfold entry modify get
  rw [KeyedTable.find?_upsert]
  by_cases hk : streamKey = k
  · rw [if_pos hk, if_pos hk]
    rfl
  · rw [if_neg hk, if_neg hk]

/-- What the gate answers, from the entry alone: an unknown stream is like a fresh one. -/
theorem check_eq (gate : OrderingGate) (streamKey : String) (n : Int) :
    gate.check streamKey n =
      match (gate.entry streamKey).inFlight with
      | some m => .blocked m
      | none =>
        if n = (gate.entry streamKey).next then .allowed
        else .blocked (gate.entry streamKey).next := by
  unfold check entry
  cases hget : gate.get streamKey with
  | none => rfl
  | some state =>
      obtain ⟨highestCompleted, inFlight, blocking⟩ := state
      cases inFlight with
      | some m => rfl
      | none =>
          cases blocking with
          | some b => rfl
          | none => rfl

/-- A sequence in flight holds the whole stream back, itself included. -/
theorem check_of_inFlight {gate : OrderingGate} {k : String} {m n : Int}
    (h : (gate.entry k).inFlight = some m) : gate.check k n = .blocked m := by
  rw [check_eq, h]

/-- With nothing in flight the stream waits for its next sequence. -/
theorem check_of_idle {gate : OrderingGate} {k : String} {n : Int}
    (h : (gate.entry k).inFlight = none) :
    gate.check k n =
      if n = (gate.entry k).next then .allowed else .blocked (gate.entry k).next := by
  rw [check_eq, h]

/-- Exactly the next sequence of a stream with nothing in flight passes. -/
theorem check_eq_allowed_iff {gate : OrderingGate} {streamKey : String} {n : Int} :
    gate.check streamKey n = .allowed ↔
      (gate.entry streamKey).inFlight = none ∧ n = (gate.entry streamKey).next := by
  cases hfl : (gate.entry streamKey).inFlight with
  | some m => simp [check_of_inFlight hfl]
  | none =>
      rw [check_of_idle hfl]
      by_cases hn : n = (gate.entry streamKey).next
      · simp [hn]
      · simp [hn]

/-! ## What the gate lets through -/

/-- Whatever the gate lets through satisfies `P`. -/
def Respects (gate : OrderingGate) (P : String → Int → Prop) : Prop :=
  ∀ k, (gate.entry k).inFlight = none → P k (gate.entry k).next

section Respects

variable {gate : OrderingGate} {P : String → Int → Prop} {k : String} {n : Int}

theorem Respects.allowed (h : gate.Respects P) (hgate : gate.check k n = .allowed) : P k n := by
  obtain ⟨hfl, rfl⟩ := check_eq_allowed_iff.mp hgate
  exact h k hfl

theorem Respects.modify (h : gate.Respects P) {f : StreamGateState → StreamGateState}
    (hf : (f (gate.entry k)).inFlight = none → P k (f (gate.entry k)).next) :
    (gate.modify k f).Respects P := by
  intro k' hfl
  rw [entry_modify] at hfl ⊢
  by_cases hk : k = k'
  · subst hk
    rw [if_pos rfl] at hfl ⊢
    exact hf hfl
  · rw [if_neg hk] at hfl ⊢
    exact h k' hfl

theorem Respects.markBlocking (h : gate.Respects P) (hn : P k n) :
    (gate.markBlocking k n).Respects P := h.modify fun _ => hn

theorem Respects.markInFlight (h : gate.Respects P) : (gate.markInFlight k n).Respects P :=
  h.modify fun hfl => by cases hfl

/-- A stream is completed up to what the gate last let through. -/
theorem Respects.markCompleted (h : gate.Respects P) (hgate : gate.check k n = .allowed)
    (hn : P k (n + 1)) : (gate.markCompleted k n).Respects P := by
  obtain ⟨-, hnext⟩ := check_eq_allowed_iff.mp hgate
  refine h.modify fun _ => ?_
  -- nothing blocks any more: the blocking sequence, if there was one, is `n`
  cases hbl : (gate.entry k).blocking with
  | none => simpa [StreamGateState.next, hbl] using hn
  | some b =>
      have hb : n = b := by simpa [StreamGateState.next, hbl] using hnext
      simpa [StreamGateState.next, hbl, hb] using hn

/-- One key is completed from in flight, where nothing blocks; the others mean what they
meant. -/
theorem Respects.sent {P' : String → Int → Prop} (h : gate.Respects P)
    (hP : ∀ k' m, k' ≠ k → P k' m → P' k' m) (hn : P' k (n + 1)) :
    ((gate.markInFlight k n).markCompleted k n).Respects P' := by
  intro k' hfl
  rw [OrderingGate.markCompleted, entry_modify] at hfl ⊢
  by_cases hk : k = k'
  · subst hk
    rw [if_pos rfl, OrderingGate.markInFlight, entry_modify, if_pos rfl]
    simpa [StreamGateState.next] using hn
  · rw [if_neg hk, OrderingGate.markInFlight, entry_modify, if_neg hk] at hfl ⊢
    exact hP k' _ (Ne.symm hk) (h k' hfl)

end Respects

end OrderingGate

end CraftRelay
