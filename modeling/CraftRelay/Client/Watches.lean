import CraftRelay.Lib.Lts
import CraftRelay.Client.ReconnectPolicy

/-!
# Watches

`LogicalProducerClient.watch` and `InMemoryWatchHandle`. Any number of threads ask for
watches and close them or detach them; a step is one operation on the counter or on a field
of a handle, so a run is an interleaving at that granularity. The observed version is 0 and
the observed barrier is null everywhere, and the metrics are left out.
-/

namespace CraftRelay.Client

/-! ## Handles -/

/-- `WatchFreshnessMetadata.State`. -/
inductive WatchState where
  | current | detached | incomparable | conflict | closed
  deriving DecidableEq

/-- `WatchFreshnessMetadata`; its constructor refuses to call another state current. -/
structure WatchFreshnessMetadata where
  state : WatchState
  current : Bool
  reason : String
  honest : current = true → state = .current

/-- The runnable a handle is made with. -/
inductive OnTerminal where
  | nothing | decrementAndGet
  deriving DecidableEq

structure InMemoryWatchHandle where
  freshness : WatchFreshnessMetadata
  onTerminal : OnTerminal
  terminal : Bool

namespace InMemoryWatchHandle

/-- The handle a granted call returns. -/
def granted : InMemoryWatchHandle :=
  ⟨⟨.current, true, "fake watch has no backend updates", fun _ => rfl⟩, .decrementAndGet, false⟩

/-- The handle a call returns that was too many. -/
def refused : InMemoryWatchHandle :=
  ⟨⟨.detached, false, "per-producer watch capacity exceeded", by simp⟩, .nothing, false⟩

def isCurrent (h : InMemoryWatchHandle) : Bool := h.freshness.state == .current

/-- The handle has a place that nobody has begun to give back. -/
def isOpen (h : InMemoryWatchHandle) : Bool := h.onTerminal == .decrementAndGet && !h.terminal

end InMemoryWatchHandle

/-- What `detachForFixture` writes. -/
def WatchFreshnessMetadata.detachedFor (reason : String) : WatchFreshnessMetadata :=
  ⟨.detached, false, reason, by simp⟩

/-- What `close` writes. -/
def WatchFreshnessMetadata.closed : WatchFreshnessMetadata := ⟨.closed, false, "closed", by simp⟩

/-! ## Threads -/

/-- Where a call of `close` or `detachForFixture` is: before the write of the freshness,
before the flag, and before the runnable. -/
inductive FinishPoint where
  | freshness | compareAndSet | run (onTerminal : OnTerminal)

inductive WatchTask where
  | idle
  | failed (message : String)
  | counting
  | counted (count : Int32)
  | refused
  | returned (handle : Nat)
  | finishing (handle : Nat) (freshness : WatchFreshnessMetadata) (point : FinishPoint)

namespace WatchTask

/-- The thread can make a call. -/
def isFree : WatchTask → Bool
  | .idle | .failed _ | .returned _ => true
  | _ => false

/-- The thread has a place that no handle has yet, or no handle has any more. -/
def held (maxActiveWatches : Int32) : WatchTask → Nat
  | .counted count => if maxActiveWatches < count then 0 else 1
  | .finishing _ _ (.run .decrementAndGet) => 1
  | _ => 0

/-- The thread found the counter above the capacity and has not lowered it yet. -/
def surplus (maxActiveWatches : Int32) : WatchTask → Nat
  | .counted count => if maxActiveWatches < count then 1 else 0
  | _ => 0

end WatchTask

/-! ## The client -/

/-- The counter of a client, the handles it made and its threads. -/
structure ProducerWatches (maxActiveWatches : Int32) (n : Nat) where
  activeWatches : Int32
  handles : List InMemoryWatchHandle
  threads : Fin n → WatchTask

namespace ProducerWatches

variable {maxActiveWatches : Int32} {n : Nat}

def new : ProducerWatches maxActiveWatches n := ⟨0, [], fun _ => .idle⟩

def setThread (s : ProducerWatches maxActiveWatches n) (t : Fin n) (task : WatchTask) :
    ProducerWatches maxActiveWatches n :=
  { s with threads := Function.update s.threads t task }

/-- A handle is made and returned. -/
def returnHandle (s : ProducerWatches maxActiveWatches n) (t : Fin n) (handle : InMemoryWatchHandle) :
    ProducerWatches maxActiveWatches n :=
  setThread { s with handles := s.handles ++ [handle] } t (.returned s.handles.length)

/-- The next operation of a call of `close` or `detachForFixture`. -/
def finishStep (s : ProducerWatches maxActiveWatches n) (t : Fin n) (handle : Nat)
    (freshness : WatchFreshnessMetadata) : FinishPoint → ProducerWatches maxActiveWatches n
  | .freshness =>
      setThread { s with
        handles := s.handles.modify handle fun h => { h with freshness := freshness } } t
        (.finishing handle freshness .compareAndSet)
  | .compareAndSet =>
      match s.handles[handle]? with
      | none => s.setThread t .idle
      | some h =>
          if h.terminal then s.setThread t .idle
          else setThread { s with
            handles := s.handles.modify handle fun h => { h with terminal := true } } t
            (.finishing handle freshness (.run h.onTerminal))
  | .run .nothing => s.setThread t .idle
  | .run .decrementAndGet => setThread { s with activeWatches := s.activeWatches - 1 } t .idle

/-- The next operation of a thread. -/
def advance (s : ProducerWatches maxActiveWatches n) (t : Fin n) :
    ProducerWatches maxActiveWatches n :=
  match s.threads t with
  | .counting =>
      setThread { s with activeWatches := s.activeWatches + 1 } t (.counted (s.activeWatches + 1))
  | .counted count =>
      if maxActiveWatches < count then
        setThread { s with activeWatches := s.activeWatches - 1 } t .refused
      else s.returnHandle t .granted
  | .refused => s.returnHandle t .refused
  | .finishing handle freshness point => s.finishStep t handle freshness point
  | _ => s

/-- The beginning of `watch`, which touches nothing shared. -/
def watch (s : ProducerWatches maxActiveWatches n) (t : Fin n) (timeout : Option Duration) :
    ProducerWatches maxActiveWatches n :=
  if timeout.all fun d => d.isZero || d.isNegative then
    s.setThread t (.failed "timeout must be positive")
  else s.setThread t .counting

end ProducerWatches

inductive WatchEvent (n : Nat) where
  | watch (t : Fin n) (timeout : Option Duration)
  | close (t : Fin n) (handle : Nat)
  | detachForFixture (t : Fin n) (handle : Nat) (reason : String)
  | advance (t : Fin n)

/-- One operation of a thread, or the beginning of a call. -/
inductive WatchStep {maxActiveWatches : Int32} {n : Nat}
    (s : ProducerWatches maxActiveWatches n) :
    WatchEvent n → ProducerWatches maxActiveWatches n → Prop
  | watch {t} (timeout : Option Duration) (hfree : (s.threads t).isFree = true) :
      WatchStep s (.watch t timeout) (s.watch t timeout)
  | close {t handle} (hfree : (s.threads t).isFree = true) (h : handle < s.handles.length) :
      WatchStep s (.close t handle) (s.setThread t (.finishing handle .closed .freshness))
  | detachForFixture {t handle} (reason : String) (hfree : (s.threads t).isFree = true)
      (h : handle < s.handles.length) :
      WatchStep s (.detachForFixture t handle reason)
        (s.setThread t (.finishing handle (.detachedFor reason) .freshness))
  | advance {t} : WatchStep s (.advance t) (s.advance t)

def watchLts (maxActiveWatches : Int32) (n : Nat) :
    Lts (ProducerWatches maxActiveWatches n) (WatchEvent n) where
  step := WatchStep

end CraftRelay.Client
