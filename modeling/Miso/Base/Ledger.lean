import Mathlib.Data.List.Count

set_option autoImplicit false

namespace Miso.Base

section

variable {ε : Type} [DecidableEq ε]

-- The newest event comes first, and nothing is released that is not held.
def InOrder (acquire release : ε) : List ε → Prop
  | [] => True
  | event :: older => InOrder acquire release older ∧ (event :: older).count release ≤ (event :: older).count acquire

structure Matched (acquire release : ε) (events : List ε) : Prop where
  inOrder : InOrder acquire release events
  settled : events.count acquire = events.count release

theorem in_order_cons (acquire release event : ε) (older : List ε) (ordered : InOrder acquire release older)
    (bound : (event :: older).count release ≤ (event :: older).count acquire) : InOrder acquire release (event :: older) :=
  ⟨ordered, bound⟩

theorem in_order_unreleased (acquire release : ε) (events older : List ε) (kept : ∀ event, event ∈ events → event ≠ release)
    (ordered : InOrder acquire release older) : InOrder acquire release (events ++ older) := by
  induction events with
  | nil => exact ordered
  | cons event events ih =>
      have later := ih fun other member => kept other (List.mem_cons_of_mem event member)
      have bound : (events ++ older).count release ≤ (events ++ older).count acquire := by
        cases rest : events ++ older with
        | nil => exact Nat.le_refl _
        | cons _ _ => exact (rest ▸ later).2
      refine ⟨later, ?_⟩
      rw [List.count_cons_of_ne (kept event List.mem_cons_self)]
      exact Nat.le_trans bound List.count_le_count_cons

end

end Miso.Base
