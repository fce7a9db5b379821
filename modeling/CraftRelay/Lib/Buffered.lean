import CraftRelay.Lib.Lts

/-!
# First-in, first-out buffers in a system

A part of a system's state is a buffer when every step takes elements only from its front
and adds elements only at its end. Over a run, what came out and what is in it are then
exactly what went in, in the order in which it went in. A buffer that takes what another
gives is one buffer with it.
-/

namespace Lts

variable {σ α β : Type} {T : Lts σ α}

/-- `held` is a buffer: a step adds `ins` at its end and takes `outs` from its front. -/
def Buffers (T : Lts σ α) (held : σ → List β) (ins outs : α → List β) : Prop :=
  ∀ s a t, T.step s a t → held s ++ ins a = outs a ++ held t

variable {held held' : σ → List β} {ins mid outs : α → List β}

/-- Nothing is lost, made twice or overtaken. -/
theorem Buffers.run (h : T.Buffers held ins outs) {s t : σ} {tr : List α} (hrun : T.Run s tr t) :
    held s ++ tr.flatMap ins = tr.flatMap outs ++ held t := by
  induction hrun with
  | nil => simp
  | snoc _ hst ih =>
      rw [List.flatMap_append, List.flatMap_append, List.flatMap_singleton,
        List.flatMap_singleton, ← List.append_assoc, ih, List.append_assoc, h _ _ _ hst,
        List.append_assoc]

/-- A buffer behind a buffer. -/
theorem Buffers.comp (h : T.Buffers held ins mid) (h' : T.Buffers held' mid outs) :
    T.Buffers (fun s => held' s ++ held s) ins outs := by
  intro s a t hst
  show (held' s ++ held s) ++ ins a = outs a ++ (held' t ++ held t)
  rw [List.append_assoc, h s a t hst, ← List.append_assoc, h' s a t hst, List.append_assoc]

end Lts
