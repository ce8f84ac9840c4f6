import Mathlib.Logic.Function.Basic

set_option autoImplicit false

namespace Miso.Base

-- Numbers packed into bytes, low bits first: number index lies in the bits from
-- slot * index on, of which payload count.
section Packed

variable (slot payload : Nat)

def bitAt (bytes : Nat → BitVec 8) (position : Nat) : Bool := (bytes (position / 8)).getLsbD (position % 8)

def Reads (bytes : Nat → BitVec 8) (index : Nat) (value : BitVec 32) : Prop :=
  ∀ bit, bit < 32 → value.getLsbD bit = (decide (bit < payload) && bitAt bytes (slot * index + bit))

def Leaves (bytes after : Nat → BitVec 8) (index : Nat) : Prop :=
  ∀ position, ¬ (slot * index ≤ position ∧ position < slot * index + payload) → bitAt after position = bitAt bytes position

-- All that writing a number changes is its own bits.
def Writes (bytes after : Nat → BitVec 8) (index : Nat) (value : BitVec 32) : Prop :=
  ∀ position, bitAt after position =
    if slot * index ≤ position ∧ position < slot * index + payload then value.getLsbD (position - slot * index)
    else bitAt bytes position

variable {slot payload}

theorem writes_here (bytes after : Nat → BitVec 8) (index : Nat) (value back : BitVec 32)
    (writes : Writes slot payload bytes after index value) (reads : Reads slot payload after index back) (bit : Nat)
    (small : bit < 32) : back.getLsbD bit = (decide (bit < payload) && value.getLsbD bit) := by
  rw [reads bit small, writes]
  by_cases counts : bit < payload
  · rw [if_pos ⟨Nat.le_add_right _ _, Nat.add_lt_add_left counts _⟩, Nat.add_sub_cancel_left]
  · simp only [counts, decide_false, Bool.false_and]

theorem writes_leaves (bytes after : Nat → BitVec 8) (index : Nat) (value : BitVec 32)
    (writes : Writes slot payload bytes after index value) : Leaves slot payload bytes after index :=
  fun position outside => (writes position).trans (if_neg outside)

theorem leaves_elsewhere (bytes after : Nat → BitVec 8) (index other : Nat) (before back : BitVec 32)
    (leaves : Leaves slot payload bytes after index) (apart : payload ≤ slot) (different : other ≠ index)
    (reads : Reads slot payload bytes other before) (again : Reads slot payload after other back) : back = before := by
  refine BitVec.eq_of_getLsbD_eq fun bit small => ?_
  rw [again bit small, reads bit small]
  by_cases counts : bit < payload
  · have outside : ¬ (slot * index ≤ slot * other + bit ∧ slot * other + bit < slot * index + payload) := by
      intro inside
      rcases Nat.lt_or_gt_of_ne different with less | more
      · have step : slot * (other + 1) ≤ slot * index := Nat.mul_le_mul_left slot less
        rw [Nat.mul_succ] at step
        omega
      · have step : slot * (index + 1) ≤ slot * other := Nat.mul_le_mul_left slot more
        rw [Nat.mul_succ] at step
        omega
    rw [leaves _ outside]
  · simp only [counts, decide_false, Bool.false_and]

end Packed

end Miso.Base
