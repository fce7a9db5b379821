import Mathlib.Data.List.Nodup

/-!
# Loops that collect findings

A validation that does not stop at the first finding: a loop over a list that pushes what
it finds for each element, with the set of keys it has seen so far. When a repetition is
always a finding, nothing is found exactly when no element has a finding of its own and no
key comes twice.
-/

namespace Collected

variable {α ε κ : Type}

/-- Push a finding when the condition holds. -/
def flag (c : Prop) [Decidable c] (e : ε) : List ε := if c then [e] else []

@[simp] theorem flag_eq_nil_iff {c : Prop} [Decidable c] {e : ε} : flag c e = [] ↔ ¬ c := by
  unfold flag
  by_cases hc : c
  · simp [hc]
  · simp [hc]

/-- `Ok` when nothing was found. -/
def report (findings : List ε) : Except (List ε) Unit :=
  if findings.isEmpty then .ok () else .error findings

theorem report_eq_ok_iff {findings : List ε} : report findings = .ok () ↔ findings = [] := by
  unfold report
  cases findings with
  | nil => simp
  | cons e rest => simp

variable [DecidableEq κ] (key : α → κ) (found : Bool → α → List ε)

/-- The loop. `found repeated a` is what it pushes for `a`, whose key was seen before when
`repeated` holds. -/
def scan : List κ → List α → List ε
  | _, [] => []
  | seen, a :: rest => found (decide (key a ∈ seen)) a ++ scan (key a :: seen) rest

variable {key found}

/-- Nothing is found when nothing is wrong with an element and no key was seen before. -/
theorem scan_eq_nil_iff (hrepeated : ∀ a, found true a ≠ []) {seen : List κ} {xs : List α} :
    scan key found seen xs = [] ↔
      (∀ a ∈ xs, found false a = []) ∧ (xs.map key).Nodup ∧ ∀ a ∈ xs, key a ∉ seen := by
  induction xs generalizing seen with
  | nil => simp [scan]
  | cons a rest ih =>
      unfold scan
      rw [List.append_eq_nil_iff, ih, List.map_cons, List.nodup_cons]
      constructor
      · intro ⟨ha, hrest, hnodup, hseen⟩
        have hnew : key a ∉ seen := by
          intro hmem
          rw [decide_eq_true hmem] at ha
          exact hrepeated a ha
        rw [decide_eq_false hnew] at ha
        refine ⟨?_, ⟨?_, hnodup⟩, ?_⟩
        · intro b hb
          rcases List.mem_cons.mp hb with rfl | hb
          · exact ha
          · exact hrest b hb
        · intro hmem
          obtain ⟨b, hb, heq⟩ := List.mem_map.mp hmem
          apply hseen b hb
          rw [heq]
          exact List.mem_cons_self
        · intro b hb
          rcases List.mem_cons.mp hb with rfl | hb
          · exact hnew
          · exact fun hmem => hseen b hb (List.mem_cons_of_mem _ hmem)
      · intro ⟨hall, ⟨hfresh, hnodup⟩, hseen⟩
        refine ⟨?_, fun b hb => hall b (List.mem_cons_of_mem a hb), hnodup, ?_⟩
        · rw [decide_eq_false (hseen a List.mem_cons_self)]
          exact hall a List.mem_cons_self
        · intro b hb hmem
          rcases List.mem_cons.mp hmem with heq | hmem
          · exact hfresh (List.mem_map.mpr ⟨b, hb, heq⟩)
          · exact hseen b (List.mem_cons_of_mem a hb) hmem

end Collected
