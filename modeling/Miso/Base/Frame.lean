set_option autoImplicit false

namespace Miso.Base

variable {σ α β γ : Type}

theorem run_then (first : StateM σ α) (rest : α → StateM σ β) (state : σ) :
    (first >>= rest).run state = (rest (first.run state).1).run (first.run state).2 := rfl

def Keeps (view : σ → γ) (prog : StateM σ α) : Prop := ∀ state, view (prog.run state).2 = view state

theorem keeps_pure (view : σ → γ) (value : α) : Keeps view (pure value : StateM σ α) := fun _ => rfl

theorem keeps_bind (view : σ → γ) (first : StateM σ α) (rest : α → StateM σ β) (left : Keeps view first)
    (right : ∀ value, Keeps view (rest value)) : Keeps view (first >>= rest) :=
  fun state => (right _ _).trans (left state)

theorem keeps_ite (view : σ → γ) (condition : Prop) [Decidable condition] (left right : StateM σ α)
    (yes : Keeps view left) (no : Keeps view right) : Keeps view (if condition then left else right) := by
  split
  · exact yes
  · exact no

-- Up to tmr attempts; the count that is left, 0 when all have failed.
def retry (attempt : StateM σ Bool) : Nat → StateM σ Nat
  | 0 => pure 0
  | tmr + 1 => do
      if ← attempt then pure (tmr + 1) else retry attempt tmr

theorem keeps_retry (view : σ → γ) (attempt : StateM σ Bool) (kept : Keeps view attempt) (tmr : Nat) :
    Keeps view (retry attempt tmr) := by
  induction tmr with
  | zero => exact keeps_pure view 0
  | succ tmr ih => exact keeps_bind view attempt _ kept fun done => keeps_ite view _ _ _ (keeps_pure view _) ih

end Miso.Base
