import CraftRelay.Lib.Slots
import CraftRelay.Client.Watches

/-!
# The places of the watches

What holds in every interleaving of the threads: the counter of a client is its places and
those calls that were too many (`ProducerWatches.Sound`). A place goes from the call that
was granted it to the handle it returns, and from the handle to the one call of `close` or
`detachForFixture` that sets its flag.
-/

namespace CraftRelay.Client

open Slots (Ledger tally weigh)

/-! ## Handles and the threads that finish them -/

/-- A thread that finishes a handle writes that it is not current, a handle without a place
is not current, and one with a place is current unless a thread is about to set its flag. -/
structure Tended {n : Nat} (handles : List InMemoryWatchHandle) (threads : Fin n → WatchTask) :
    Prop where
  finishing : ∀ t i f p, threads t = .finishing i f p → f.state ≠ .current ∧ i < handles.length
  written : ∀ t i f (h : InMemoryWatchHandle), threads t = .finishing i f .compareAndSet →
    handles[i]? = some h → h.isCurrent = false
  current : ∀ (i : Nat) (h : InMemoryWatchHandle), handles[i]? = some h → h.isCurrent = true →
    h.isOpen = true
  open_ : ∀ (i : Nat) (h : InMemoryWatchHandle), handles[i]? = some h → h.isOpen = true →
    h.isCurrent = true ∨ ∃ t f, threads t = .finishing i f .compareAndSet

namespace Tended

variable {n : Nat} {handles : List InMemoryWatchHandle} {threads : Fin n → WatchTask} {t : Fin n}

theorem new : Tended (n := n) [] fun _ => .idle where
  finishing := by
    intro t i f p h
    cases h
  written := by
    intro t i f h hthread
    cases hthread
  current := by
    intro i h hi
    cases hi
  open_ := by
    intro i h hi
    cases hi

/-- A thread changed that is not at a flag, before or after. -/
theorem setThread (h : Tended handles threads) {task : WatchTask}
    (hold : ∀ i f, threads t ≠ .finishing i f .compareAndSet)
    (hnew : ∀ i f p, task = .finishing i f p →
      p ≠ .compareAndSet ∧ f.state ≠ .current ∧ i < handles.length) :
    Tended handles (Function.update threads t task) where
  finishing := by
    intro u i f p hu
    by_cases hut : u = t
    · subst hut
      rw [Function.update_self] at hu
      exact (hnew i f p hu).2
    · rw [Function.update_of_ne hut] at hu
      exact h.finishing u i f p hu
  written := by
    intro u i f x hu hx
    by_cases hut : u = t
    · subst hut
      rw [Function.update_self] at hu
      exact absurd rfl (hnew i f _ hu).1
    · rw [Function.update_of_ne hut] at hu
      exact h.written u i f x hu hx
  current := h.current
  open_ := by
    intro i x hx hopen
    rcases h.open_ i x hx hopen with hcur | ⟨u, f, hu⟩
    · exact .inl hcur
    · refine .inr ⟨u, f, ?_⟩
      have hut : u ≠ t := by
        rintro rfl
        exact hold i f hu
      rw [Function.update_of_ne hut]
      exact hu

/-- A new handle that is current just when it has a place. -/
theorem append (h : Tended handles threads) {x : InMemoryWatchHandle}
    (hx : x.isCurrent = x.isOpen) : Tended (handles ++ [x]) threads where
  finishing := by
    intro u i f p hu
    obtain ⟨hstate, hi⟩ := h.finishing u i f p hu
    refine ⟨hstate, ?_⟩
    rw [List.length_append]
    omega
  written := by
    intro u i f y hu hy
    rw [List.getElem?_append_left (h.finishing u i f _ hu).2] at hy
    exact h.written u i f y hu hy
  current := by
    intro i y hy hcur
    rcases Slots.getElem?_snoc_cases hy with hy | rfl
    · exact h.current i y hy hcur
    · rw [← hx]
      exact hcur
  open_ := by
    intro i y hy hopen
    rcases Slots.getElem?_snoc_cases hy with hy | rfl
    · exact h.open_ i y hy hopen
    · rw [← hx] at hopen
      exact .inl hopen

/-- The freshness is written. -/
theorem write (h : Tended handles threads) {i : Nat} {f : WatchFreshnessMetadata}
    (ht : threads t = .finishing i f .freshness) :
    Tended (handles.modify i fun x => { x with freshness := f })
      (Function.update threads t (.finishing i f .compareAndSet)) := by
  obtain ⟨hstate, hi⟩ := h.finishing t i f _ ht
  have hself : ∀ (x : InMemoryWatchHandle), ({ x with freshness := f }).isCurrent = false := by
    intro x
    simpa [InMemoryWatchHandle.isCurrent] using hstate
  refine ⟨?_, ?_, ?_, ?_⟩
  · intro u j g p hu
    rw [List.length_modify]
    by_cases hut : u = t
    · subst hut
      rw [Function.update_self] at hu
      cases hu
      exact ⟨hstate, hi⟩
    · rw [Function.update_of_ne hut] at hu
      exact h.finishing u j g p hu
  · intro u j g x hu hx
    by_cases hij : i = j
    · subst hij
      rw [List.getElem?_modify_eq, Option.map_eq_map, Option.map_eq_some_iff] at hx
      obtain ⟨y, -, rfl⟩ := hx
      exact hself y
    · have hut : u ≠ t := by
        rintro rfl
        rw [Function.update_self] at hu
        cases hu
        exact hij rfl
      rw [List.getElem?_modify_ne _ _ hij] at hx
      rw [Function.update_of_ne hut] at hu
      exact h.written u j g x hu hx
  · intro j x hx hcur
    by_cases hij : i = j
    · subst hij
      rw [List.getElem?_modify_eq, Option.map_eq_map, Option.map_eq_some_iff] at hx
      obtain ⟨y, -, rfl⟩ := hx
      rw [hself y] at hcur
      cases hcur
    · rw [List.getElem?_modify_ne _ _ hij] at hx
      exact h.current j x hx hcur
  · intro j x hx hopen
    by_cases hij : i = j
    · subst hij
      exact .inr ⟨t, f, Function.update_self ..⟩
    · rw [List.getElem?_modify_ne _ _ hij] at hx
      rcases h.open_ j x hx hopen with hcur | ⟨u, g, hu⟩
      · exact .inl hcur
      · refine .inr ⟨u, g, ?_⟩
        have hut : u ≠ t := by
          rintro rfl
          cases ht.symm.trans hu
        rw [Function.update_of_ne hut]
        exact hu

/-- The flag is set: the handle has no place any more. -/
theorem flag (h : Tended handles threads) {i : Nat} {f : WatchFreshnessMetadata}
    {task : WatchTask} (ht : threads t = .finishing i f .compareAndSet)
    (htask : ∀ j g p, task = .finishing j g p →
      p ≠ .compareAndSet ∧ g.state ≠ .current ∧ j < handles.length) :
    Tended (handles.modify i fun x => { x with terminal := true })
      (Function.update threads t task) := by
  have hself : ∀ (x : InMemoryWatchHandle), ({ x with terminal := true }).isOpen = false := by
    intro x
    simp [InMemoryWatchHandle.isOpen]
  refine ⟨?_, ?_, ?_, ?_⟩
  · intro u j g p hu
    rw [List.length_modify]
    by_cases hut : u = t
    · subst hut
      rw [Function.update_self] at hu
      exact (htask j g p hu).2
    · rw [Function.update_of_ne hut] at hu
      exact h.finishing u j g p hu
  · intro u j g x hu hx
    have hut : u ≠ t := by
      rintro rfl
      rw [Function.update_self] at hu
      exact (htask j g _ hu).1 rfl
    rw [Function.update_of_ne hut] at hu
    by_cases hij : i = j
    · subst hij
      rw [List.getElem?_modify_eq, Option.map_eq_map, Option.map_eq_some_iff] at hx
      obtain ⟨y, hy, rfl⟩ := hx
      exact h.written u i g y hu hy
    · rw [List.getElem?_modify_ne _ _ hij] at hx
      exact h.written u j g x hu hx
  · intro j x hx hcur
    by_cases hij : i = j
    · subst hij
      rw [List.getElem?_modify_eq, Option.map_eq_map, Option.map_eq_some_iff] at hx
      obtain ⟨y, hy, rfl⟩ := hx
      -- the thread at the flag has written another state
      have hcur : y.isCurrent = true := hcur
      rw [h.written t i f y ht hy] at hcur
      cases hcur
    · rw [List.getElem?_modify_ne _ _ hij] at hx
      exact h.current j x hx hcur
  · intro j x hx hopen
    by_cases hij : i = j
    · subst hij
      rw [List.getElem?_modify_eq, Option.map_eq_map, Option.map_eq_some_iff] at hx
      obtain ⟨y, -, rfl⟩ := hx
      rw [hself y] at hopen
      cases hopen
    · rw [List.getElem?_modify_ne _ _ hij] at hx
      rcases h.open_ j x hx hopen with hcur | ⟨u, g, hu⟩
      · exact .inl hcur
      · refine .inr ⟨u, g, ?_⟩
        have hut : u ≠ t := by
          rintro rfl
          cases ht.symm.trans hu
          exact hij rfl
        rw [Function.update_of_ne hut]
        exact hu

/-- The flag was set before. -/
theorem flagged (h : Tended handles threads) {i : Nat} {f : WatchFreshnessMetadata}
    (ht : threads t = .finishing i f .compareAndSet)
    (hclosed : ∀ x : InMemoryWatchHandle, handles[i]? = some x → x.isOpen = false) :
    Tended handles (Function.update threads t .idle) where
  finishing := by
    intro u j g p hu
    by_cases hut : u = t
    · subst hut
      rw [Function.update_self] at hu
      cases hu
    · rw [Function.update_of_ne hut] at hu
      exact h.finishing u j g p hu
  written := by
    intro u j g x hu hx
    by_cases hut : u = t
    · subst hut
      rw [Function.update_self] at hu
      cases hu
    · rw [Function.update_of_ne hut] at hu
      exact h.written u j g x hu hx
  current := h.current
  open_ := by
    intro j x hx hopen
    rcases h.open_ j x hx hopen with hcur | ⟨u, g, hu⟩
    · exact .inl hcur
    · refine .inr ⟨u, g, ?_⟩
      have hut : u ≠ t := by
        rintro rfl
        cases ht.symm.trans hu
        rw [hclosed x hx] at hopen
        cases hopen
      rw [Function.update_of_ne hut]
      exact hu

end Tended

/-! ## What holds in every interleaving -/

namespace ProducerWatches

variable {maxActiveWatches : Int32} {n : Nat}

/-- The places: of threads, and of handles. -/
def held (s : ProducerWatches maxActiveWatches n) : Nat :=
  tally (WatchTask.held maxActiveWatches) s.threads +
    weigh (fun h => h.isOpen.toNat) s.handles

/-- The threads that are too many. -/
def surplus (s : ProducerWatches maxActiveWatches n) : Nat :=
  tally (WatchTask.surplus maxActiveWatches) s.threads

/-- The counter is accounted for and the handles are tended. -/
structure Sound (s : ProducerWatches maxActiveWatches n) : Prop where
  ledger : Ledger maxActiveWatches s.activeWatches s.held s.surplus
  tended : Tended s.handles s.threads

variable {s : ProducerWatches maxActiveWatches n} {t : Fin n}

theorem sound_new (hmax : 0 ≤ maxActiveWatches.toInt) :
    (new : ProducerWatches maxActiveWatches n).Sound := by
  have hheld : (new : ProducerWatches maxActiveWatches n).held = 0 := by
    show tally _ (fun _ : Fin n => WatchTask.idle) + 0 = 0
    rw [Slots.tally_eq_zero]
    intro i
    rfl
  have hsurplus : (new : ProducerWatches maxActiveWatches n).surplus = 0 :=
    Slots.tally_eq_zero fun _ => rfl
  refine ⟨?_, .new⟩
  rw [hheld, hsurplus]
  exact .new hmax

/-- The state after one operation of a thread. -/
def set (s : ProducerWatches maxActiveWatches n) (t : Fin n) (count : Int32)
    (handles : List InMemoryWatchHandle) (task : WatchTask) :
    ProducerWatches maxActiveWatches n :=
  ⟨count, handles, Function.update s.threads t task⟩

theorem held_set (s : ProducerWatches maxActiveWatches n) (t : Fin n) (count : Int32)
    (handles : List InMemoryWatchHandle) (task : WatchTask) :
    (s.set t count handles task).held + (s.threads t).held maxActiveWatches +
        weigh (fun h => h.isOpen.toNat) s.handles =
      s.held + task.held maxActiveWatches + weigh (fun h => h.isOpen.toNat) handles := by
  have hsum := Slots.tally_update (WatchTask.held maxActiveWatches) s.threads t task
  show tally _ (Function.update s.threads t task) + weigh _ handles + _ + _ = _
  unfold held
  omega

theorem surplus_set (s : ProducerWatches maxActiveWatches n) (t : Fin n) (count : Int32)
    (handles : List InMemoryWatchHandle) (task : WatchTask) :
    (s.set t count handles task).surplus + (s.threads t).surplus maxActiveWatches =
      s.surplus + task.surplus maxActiveWatches :=
  Slots.tally_update _ _ _ _

theorem Sound.of_counts {a b : Nat} (h : Ledger maxActiveWatches s.activeWatches a b)
    (hheld : s.held = a) (hsurplus : s.surplus = b) (htended : Tended s.handles s.threads) :
    s.Sound := by
  subst hheld hsurplus
  exact ⟨h, htended⟩

/-- An operation that leaves places and surplus as they were. -/
theorem Sound.same (h : s.Sound) {handles : List InMemoryWatchHandle} {task : WatchTask}
    (hheld : (s.threads t).held maxActiveWatches + weigh (fun h => h.isOpen.toNat) s.handles =
      task.held maxActiveWatches + weigh (fun h => h.isOpen.toNat) handles)
    (hsurplus : (s.threads t).surplus maxActiveWatches = task.surplus maxActiveWatches)
    (htended : Tended handles (Function.update s.threads t task)) :
    (s.set t s.activeWatches handles task).Sound := by
  have h₁ := s.held_set t s.activeWatches handles task
  have h₂ := s.surplus_set t s.activeWatches handles task
  exact .of_counts h.ledger (by omega) (by omega) htended

/-- A free thread begins something that holds nothing yet. -/
theorem Sound.begin (h : s.Sound) {task : WatchTask} (hfree : (s.threads t).isFree = true)
    (hheld : task.held maxActiveWatches = 0) (hsurplus : task.surplus maxActiveWatches = 0)
    (hnew : ∀ i f p, task = .finishing i f p →
      p ≠ .compareAndSet ∧ f.state ≠ .current ∧ i < s.handles.length) :
    (s.setThread t task).Sound := by
  have hold : (s.threads t).held maxActiveWatches = 0 ∧
      (s.threads t).surplus maxActiveWatches = 0 ∧ ∀ i f p, s.threads t ≠ .finishing i f p := by
    cases htask : s.threads t <;> rw [htask] at hfree <;>
      simp_all [WatchTask.isFree, WatchTask.held, WatchTask.surplus]
  refine h.same (by rw [hold.1, hheld]) (by rw [hold.2.1, hsurplus]) ?_
  exact h.tended.setThread (fun i f => hold.2.2 i f _) hnew

/-- Raising the counter: whoever finds it within the capacity has a place. -/
theorem Sound.raise (h : s.Sound) (hbound : s.held + s.surplus + 1 < 2 ^ 31)
    (ht : s.threads t = .counting) :
    (s.set t (s.activeWatches + 1) s.handles (.counted (s.activeWatches + 1))).Sound := by
  have htended : Tended s.handles
      (Function.update s.threads t (.counted (s.activeWatches + 1))) :=
    h.tended.setThread (by simp [ht]) (by simp)
  have h₁ := s.held_set t (s.activeWatches + 1) s.handles (.counted (s.activeWatches + 1))
  have h₂ := s.surplus_set t (s.activeWatches + 1) s.handles (.counted (s.activeWatches + 1))
  simp only [ht, WatchTask.held, WatchTask.surplus] at h₁ h₂
  by_cases hlt : maxActiveWatches < s.activeWatches + 1
  · rw [if_pos hlt] at h₁ h₂
    exact .of_counts (h.ledger.raise_surplus hbound) (by omega) (by omega) htended
  · rw [if_neg hlt] at h₁ h₂
    exact .of_counts (h.ledger.raise_held hbound hlt) (by omega) (by omega) htended

/-- Whoever was too many lowers the counter. -/
theorem Sound.refuse (h : s.Sound) {count : Int32} (ht : s.threads t = .counted count)
    (hlt : maxActiveWatches < count) :
    (s.set t (s.activeWatches - 1) s.handles .refused).Sound := by
  have h₁ := s.held_set t (s.activeWatches - 1) s.handles .refused
  have h₂ := s.surplus_set t (s.activeWatches - 1) s.handles .refused
  simp only [ht, WatchTask.held, WatchTask.surplus, if_pos hlt] at h₁ h₂
  have hledger : Ledger maxActiveWatches s.activeWatches s.held
      ((s.set t (s.activeWatches - 1) s.handles .refused).surplus + 1) := by
    have hsur : (s.set t (s.activeWatches - 1) s.handles .refused).surplus + 1 = s.surplus := by
      omega
    rw [hsur]
    exact h.ledger
  exact .of_counts hledger.lower_surplus (by omega) rfl
    (h.tended.setThread (by simp [ht]) (by simp))

/-- Who has a place gives it back. -/
theorem Sound.giveBack (h : s.Sound) {i : Nat} {f : WatchFreshnessMetadata}
    (ht : s.threads t = .finishing i f (.run .decrementAndGet)) :
    (s.set t (s.activeWatches - 1) s.handles .idle).Sound := by
  have h₁ := s.held_set t (s.activeWatches - 1) s.handles .idle
  have h₂ := s.surplus_set t (s.activeWatches - 1) s.handles .idle
  simp only [ht, WatchTask.held, WatchTask.surplus] at h₁ h₂
  have hledger : Ledger maxActiveWatches s.activeWatches
      ((s.set t (s.activeWatches - 1) s.handles .idle).held + 1) s.surplus := by
    have hheld : (s.set t (s.activeWatches - 1) s.handles .idle).held + 1 = s.held := by
      omega
    rw [hheld]
    exact h.ledger
  exact .of_counts hledger.lower_held rfl (by omega)
    (h.tended.setThread (by simp [ht]) (by simp))

/-- A handle is made: it takes over the place of its call. -/
theorem Sound.returnHandle (h : s.Sound) {x : InMemoryWatchHandle}
    (hx : x.isCurrent = x.isOpen) (hcas : ∀ i f p, s.threads t ≠ .finishing i f p)
    (hheld : (s.threads t).held maxActiveWatches = x.isOpen.toNat)
    (hsurplus : (s.threads t).surplus maxActiveWatches = 0) : (s.returnHandle t x).Sound := by
  have hweigh := Slots.weigh_append (fun h => h.isOpen.toNat) s.handles x
  refine h.same ?_ hsurplus ?_
  · rw [hweigh, hheld]
    show _ = 0 + _
    omega
  · exact (h.tended.append hx).setThread (fun i f => hcas i f _) (by simp)

/-- One operation of a call that finishes a handle. -/
theorem Sound.finishStep (h : s.Sound) {i : Nat} {f : WatchFreshnessMetadata} {p : FinishPoint}
    (ht : s.threads t = .finishing i f p) : (s.finishStep t i f p).Sound := by
  obtain ⟨hstate, hi⟩ := h.tended.finishing t i f p ht
  have hget : s.handles[i]? = some s.handles[i] := List.getElem?_eq_getElem hi
  cases p with
  | freshness =>
      -- neither the flag nor the runnable changes
      have hweigh := Slots.weigh_modify (fun h => h.isOpen.toNat)
        (fun x : InMemoryWatchHandle => { x with freshness := f }) hget
      refine h.same ?_ (by rw [ht]; rfl) (h.tended.write ht)
      have hopen : ({ s.handles[i] with freshness := f }).isOpen = s.handles[i].isOpen := rfl
      rw [hopen] at hweigh
      have hsame := Nat.add_right_cancel hweigh
      rw [ht]
      exact congrArg (0 + ·) hsame.symm
  | compareAndSet =>
      unfold ProducerWatches.finishStep
      simp only [hget]
      by_cases hterm : s.handles[i].terminal = true
      · rw [if_pos hterm]
        refine h.same (by rw [ht]; rfl) (by rw [ht]; rfl) (h.tended.flagged ht ?_)
        intro x hx
        cases hget.symm.trans hx
        simp [InMemoryWatchHandle.isOpen, hterm]
      · rw [if_neg hterm]
        have hweigh := Slots.weigh_modify (fun h => h.isOpen.toNat)
          (fun x : InMemoryWatchHandle => { x with terminal := true }) hget
        -- the thread takes over the place of the handle
        have hafter : ({ s.handles[i] with terminal := true }).isOpen = false := by
          simp [InMemoryWatchHandle.isOpen]
        have hbefore : s.handles[i].isOpen.toNat =
            (WatchTask.finishing i f (.run s.handles[i].onTerminal)).held maxActiveWatches := by
          cases hrun : s.handles[i].onTerminal <;>
            simp [InMemoryWatchHandle.isOpen, hrun, hterm, WatchTask.held]
        rw [hafter, hbefore] at hweigh
        have hmoved := hweigh.symm.trans (Nat.add_comm _ _)
        refine h.same ?_ ?_ (h.tended.flag ht (by simp [hstate, hi]))
        · rw [ht]
          exact (Nat.zero_add _).trans hmoved
        · rw [ht]
          rfl
  | run onTerminal =>
      cases onTerminal with
      | nothing =>
          refine h.same (by rw [ht]; rfl) (by rw [ht]; rfl) ?_
          exact h.tended.setThread (by simp [ht]) (by simp)
      | decrementAndGet => exact h.giveBack ht

/-- The next operation of a thread, whichever it is. -/
theorem Sound.advance (h : s.Sound) (hmax : maxActiveWatches.toInt ≤ 4096)
    (hn : n + 4097 < 2 ^ 31) (t : Fin n) : (s.advance t).Sound := by
  have hbound : s.held + s.surplus + 1 < 2 ^ 31 := by
    have hheld := h.ledger.held_le
    have hsurplus : s.surplus ≤ n := by
      refine Slots.tally_le (fun task => ?_) s.threads
      unfold WatchTask.surplus
      split
      · split <;> omega
      · omega
    omega
  unfold ProducerWatches.advance
  cases ht : s.threads t with
  | idle => exact h
  | failed message => exact h
  | returned handle => exact h
  | counting => exact h.raise hbound ht
  | counted count =>
      by_cases hlt : maxActiveWatches < count
      · simp only [if_pos hlt]
        exact h.refuse ht hlt
      · simp only [if_neg hlt]
        refine h.returnHandle rfl (by simp [ht]) ?_ ?_
        · simp [ht, WatchTask.held, hlt, InMemoryWatchHandle.isOpen,
            InMemoryWatchHandle.granted]
        · simp [ht, WatchTask.surplus, hlt]
  | refused => exact h.returnHandle rfl (by simp [ht]) (by rw [ht]; rfl) (by rw [ht]; rfl)
  | finishing i f p => exact h.finishStep ht

theorem step_sound (h : s.Sound) (hmax : maxActiveWatches.toInt ≤ 4096) (hn : n + 4097 < 2 ^ 31)
    {ev : WatchEvent n} {s' : ProducerWatches maxActiveWatches n} (hst : WatchStep s ev s') :
    s'.Sound := by
  cases hst with
  | watch timeout hfree =>
      unfold watch
      split
      · exact h.begin hfree rfl rfl (by simp)
      · exact h.begin hfree rfl rfl (by simp)
  | close hfree hi =>
      refine h.begin hfree rfl rfl fun j f p heq => ?_
      cases heq
      exact ⟨by simp, by simp [WatchFreshnessMetadata.closed], hi⟩
  | detachForFixture reason hfree hi =>
      refine h.begin hfree rfl rfl fun j f p heq => ?_
      cases heq
      exact ⟨by simp, by simp [WatchFreshnessMetadata.detachedFor], hi⟩
  | advance => exact h.advance hmax hn _

theorem run_sound (hmax : 0 ≤ maxActiveWatches.toInt ∧ maxActiveWatches.toInt ≤ 4096)
    (hn : n + 4097 < 2 ^ 31) {tr : List (WatchEvent n)}
    (hrun : (watchLts maxActiveWatches n).Run new tr s) : s.Sound :=
  hrun.invariant (Q := fun _ => True) (fun _ _ => trivial) (sound_new hmax.1)
    fun _ _ _ _ hpre hst => step_sound hpre hmax.2 hn hst

/-! ## What the handles say -/

/-- The handles that say they are current. -/
def current (s : ProducerWatches maxActiveWatches n) : List InMemoryWatchHandle :=
  s.handles.filter InMemoryWatchHandle.isCurrent

/-- Every handle that says it is current has a place. -/
theorem Sound.current_le (h : s.Sound) : s.current.length ≤ maxActiveWatches.toInt := by
  have hopen : s.current.length ≤ (s.handles.filter InMemoryWatchHandle.isOpen).length := by
    unfold current
    rw [← List.countP_eq_length_filter, ← List.countP_eq_length_filter]
    apply List.countP_mono_left
    intro x hx hcur
    obtain ⟨i, hi⟩ := List.mem_iff_getElem?.mp hx
    exact h.tended.current i x hi hcur
  have hweigh := Slots.weigh_eq_length_filter InMemoryWatchHandle.isOpen s.handles
  have hheld : s.held = tally (WatchTask.held maxActiveWatches) s.threads +
    weigh (fun h => h.isOpen.toNat) s.handles := rfl
  have hle := h.ledger.held_le
  omega

/-- Where no call is under way the counter counts the handles that are current. -/
theorem Sound.rest (h : s.Sound) (hfree : ∀ t, (s.threads t).isFree = true) :
    s.activeWatches.toInt = s.current.length := by
  have hnone : ∀ t, (s.threads t).held maxActiveWatches = 0 ∧
      (s.threads t).surplus maxActiveWatches = 0 ∧ ∀ i f p, s.threads t ≠ .finishing i f p := by
    intro t
    have ht := hfree t
    cases htask : s.threads t <;> rw [htask] at ht <;>
      simp_all [WatchTask.isFree, WatchTask.held, WatchTask.surplus]
  have hopen : s.current.length = (s.handles.filter InMemoryWatchHandle.isOpen).length := by
    unfold current
    rw [← List.countP_eq_length_filter, ← List.countP_eq_length_filter]
    apply List.countP_congr
    intro x hx
    obtain ⟨i, hi⟩ := List.mem_iff_getElem?.mp hx
    constructor
    · exact h.tended.current i x hi
    · intro hx
      rcases h.tended.open_ i x hi hx with hcur | ⟨t, f, ht⟩
      · exact hcur
      · exact absurd ht ((hnone t).2.2 i f _)
  have hweigh := Slots.weigh_eq_length_filter InMemoryWatchHandle.isOpen s.handles
  have hheld : s.held = tally (WatchTask.held maxActiveWatches) s.threads +
    weigh (fun h => h.isOpen.toNat) s.handles := rfl
  have hthreads : tally (WatchTask.held maxActiveWatches) s.threads = 0 :=
    Slots.tally_eq_zero fun t => (hnone t).1
  have hsurplus : s.surplus = 0 := Slots.tally_eq_zero fun t => (hnone t).2.1
  have hcount := h.ledger.count_eq
  omega

/-- A handle that was closed or detached, or never had a place. -/
def Over (s : ProducerWatches maxActiveWatches n) (i : Nat) : Prop :=
  ∃ h : InMemoryWatchHandle, s.handles[i]? = some h ∧ h.isCurrent = false

theorem over_modify {i j : Nat} {g : InMemoryWatchHandle → InMemoryWatchHandle}
    (hg : ∀ x : InMemoryWatchHandle, x.isCurrent = false → (g x).isCurrent = false)
    {handles : List InMemoryWatchHandle}
    (h : ∃ x : InMemoryWatchHandle, handles[i]? = some x ∧ x.isCurrent = false) :
    ∃ x : InMemoryWatchHandle, (handles.modify j g)[i]? = some x ∧ x.isCurrent = false := by
  obtain ⟨x, hx, hover⟩ := h
  rw [List.getElem?_modify, hx]
  by_cases hj : j = i
  · exact ⟨g x, by simp [hj], hg x hover⟩
  · exact ⟨x, by simp [hj], hover⟩

/-- What is over stays over. -/
theorem step_over (h : s.Sound) {ev : WatchEvent n} {s' : ProducerWatches maxActiveWatches n}
    (hst : WatchStep s ev s') {i : Nat} (hover : s.Over i) : s'.Over i := by
  have happend : ∀ (t : Fin n) (x : InMemoryWatchHandle), (s.returnHandle t x).Over i := by
    intro t x
    obtain ⟨y, hy, hcur⟩ := hover
    refine ⟨y, ?_, hcur⟩
    show (s.handles ++ [x])[i]? = some y
    rw [List.getElem?_append_left (List.getElem?_eq_some_iff.mp hy).1]
    exact hy
  cases hst with
  | watch timeout hfree =>
      unfold watch
      split
      · exact hover
      · exact hover
  | close => exact hover
  | detachForFixture => exact hover
  | advance =>
      rename_i t
      unfold ProducerWatches.advance
      cases ht : s.threads t with
      | idle => exact hover
      | failed message => exact hover
      | returned handle => exact hover
      | counting => exact hover
      | counted count =>
          simp only
          split
          · exact hover
          · exact happend t _
      | refused => exact happend t _
      | finishing j f p =>
          have hstate := (h.tended.finishing t j f p ht).1
          cases p with
          | freshness =>
              refine over_modify (fun x _ => ?_) hover
              simpa [InMemoryWatchHandle.isCurrent] using hstate
          | compareAndSet =>
              simp only [finishStep]
              split
              · exact hover
              split
              · exact hover
              · exact over_modify (g := fun x => { x with terminal := true }) (fun x hx => hx) hover
          | run onTerminal =>
              cases onTerminal <;> exact hover

theorem Sound.run_over (h : s.Sound) (hmax : maxActiveWatches.toInt ≤ 4096)
    (hn : n + 4097 < 2 ^ 31) {tr : List (WatchEvent n)} {s' : ProducerWatches maxActiveWatches n}
    (hrun : (watchLts maxActiveWatches n).Run s tr s') {i : Nat} (hover : s.Over i) :
    s'.Over i := by
  have hall : s'.Sound ∧ s'.Over i :=
    hrun.invariant (P := fun s => s.Sound ∧ s.Over i) (Q := fun _ => True) (fun _ _ => trivial)
      ⟨h, hover⟩ fun _ _ _ _ hpre hst => ⟨step_sound hpre.1 hmax hn hst, step_over hpre.1 hst hpre.2⟩
  exact hall.2

/-! ## A call alone -/

theorem step_advance {s' : ProducerWatches maxActiveWatches n} (h : WatchStep s (.advance t) s') :
    s' = s.advance t := by
  cases h
  rfl

/-- A call that runs alone is granted a watch just when fewer are current than allowed. -/
theorem Sound.rest_watch (h : s.Sound) (hmax : maxActiveWatches.toInt ≤ 4096)
    (hfree : ∀ t, (s.threads t).isFree = true) {timeout : Duration}
    (hzero : timeout.isZero = false) (hneg : timeout.isNegative = false)
    {s' : ProducerWatches maxActiveWatches n}
    (hrun : (watchLts maxActiveWatches n).Run s
      [.watch t (some timeout), .advance t, .advance t, .advance t] s') :
    ∃ i h, s'.threads t = .returned i ∧ s'.handles[i]? = some h ∧
      h.isCurrent = decide ((s.current.length : Int) < maxActiveWatches.toInt) := by
  have hcurrent := h.current_le
  have hledger : Ledger maxActiveWatches s.activeWatches s.current.length 0 :=
    ⟨by have := h.rest hfree; omega, hcurrent⟩
  have hroom := hledger.lt_raise_iff (by omega)
  obtain ⟨s₁, hst₁, hrun⟩ := hrun.head
  obtain ⟨s₂, hst₂, hrun⟩ := hrun.head
  obtain ⟨s₃, hst₃, hrun⟩ := hrun.head
  obtain ⟨s₄, hst₄, hnil⟩ := hrun.head
  obtain rfl := hnil.eq_of_nil
  have hcounting : s₁ = s.setThread t .counting := by
    cases hst₁ with
    | watch _ _ =>
        unfold watch
        simp [hzero, hneg]
  have hcounted : s₂ = s.set t (s.activeWatches + 1) s.handles (.counted (s.activeWatches + 1)) := by
    rw [step_advance hst₂, hcounting]
    simp [ProducerWatches.advance, ProducerWatches.setThread, set]
  rw [step_advance hst₄, step_advance hst₃, hcounted]
  by_cases hlt : maxActiveWatches < s.activeWatches + 1
  · -- too many: the counter is lowered again before the handle is made
    have hfull := hroom.mp hlt
    refine ⟨s.handles.length, .refused, ?_, ?_, ?_⟩
    · simp [ProducerWatches.advance, ProducerWatches.setThread, set, hlt,
        ProducerWatches.returnHandle]
    · simp [ProducerWatches.advance, ProducerWatches.setThread, set, hlt,
        ProducerWatches.returnHandle]
    · rw [decide_eq_false (by omega)]
      rfl
  · have hfree := (not_congr hroom).mp hlt
    refine ⟨s.handles.length, .granted, ?_, ?_, ?_⟩
    · simp [ProducerWatches.advance, ProducerWatches.setThread, set, hlt,
        ProducerWatches.returnHandle]
    · simp [ProducerWatches.advance, ProducerWatches.setThread, set, hlt,
        ProducerWatches.returnHandle]
    · rw [decide_eq_true (by omega)]
      rfl

end ProducerWatches

end CraftRelay.Client
