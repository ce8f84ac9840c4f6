import Mathlib.Logic.Function.Iterate

set_option autoImplicit false

namespace Miso.Base

section Bits

variable {width : Nat}

def has (bits mask : BitVec width) : Bool := bits &&& mask ≠ BitVec.ofNat width 0

@[simp] theorem has_zero (mask : BitVec width) : has (BitVec.ofNat width 0) mask = false := by simp [has]

@[simp] theorem has_or (left right mask : BitVec width) : has (left ||| right) mask = (has left mask || has right mask) := by
  have both : (left ||| right) &&& mask = BitVec.ofNat width 0 ↔
      left &&& mask = BitVec.ofNat width 0 ∧ right &&& mask = BitVec.ofNat width 0 := by
    rw [BitVec.and_or_distrib_right, BitVec.or_eq_zero_iff]
  by_cases first : left &&& mask = BitVec.ofNat width 0 <;> simp [has, both, first]

end Bits

-- The notification of one task: senders set bits, the task takes them all at
-- once. Bits set before it looks are merged and lose their order.
structure Notification (width : Nat) where
  value : BitVec width
  received : Bool
deriving DecidableEq

section Notification

variable {width : Nat}

def Notification.idle : Notification width := ⟨0, false⟩

def Notification.setBits (notification : Notification width) (bits : BitVec width) : Notification width :=
  ⟨notification.value ||| bits, true⟩

-- Without a notification the wait clears its entry bits and gives nothing,
-- now or at its timeout.
def Notification.wait (notification : Notification width) (onEntry onExit : BitVec width) :
    Option (BitVec width) × Notification width :=
  if notification.received then (some notification.value, ⟨notification.value &&& ~~~onExit, false⟩)
  else (none, ⟨notification.value &&& ~~~onEntry, false⟩)

@[simp] theorem set_bits_value (notification : Notification width) (bits : BitVec width) :
    (notification.setBits bits).value = notification.value ||| bits := rfl

@[simp] theorem set_bits_received (notification : Notification width) (bits : BitVec width) :
    (notification.setBits bits).received = true := rfl

theorem wait_received (notification : Notification width) (onEntry : BitVec width) (pending : notification.received = true) :
    notification.wait onEntry (BitVec.allOnes width) = (some notification.value, .idle) := by
  simp [Notification.wait, pending, Notification.idle]

end Notification

section Settling

variable {σ : Type} (work : σ → σ) (inv : σ → Prop) (kept : ∀ state, inv state → inv (work state))

include kept

-- Work that lowers some effort until it is quiet comes to rest.
theorem work_settles (quiet : σ → Prop) (effort : σ → Nat)
    (progress : ∀ state, inv state → ¬ quiet state → effort (work state) < effort state) (state : σ) (holds : inv state) :
    ∃ count, quiet (work^[count] state) := by
  induction bound : effort state using Nat.strongRecOn generalizing state with
  | ind limit ih =>
      by_cases rest : quiet state
      · exact ⟨0, rest⟩
      · have lower : effort (work state) < limit := bound ▸ progress state holds rest
        obtain ⟨count, settled⟩ := ih (effort (work state)) lower (work state) (kept state holds) rfl
        exact ⟨count + 1, settled⟩

theorem work_keeps {β : Type} (view : σ → β) (same : ∀ state, inv state → view (work state) = view state)
    (state : σ) (holds : inv state) (count : Nat) : view (work^[count] state) = view state := by
  induction count generalizing state with
  | zero => rfl
  | succ count ih => exact (ih (work state) (kept state holds)).trans (same state holds)

end Settling

end Miso.Base
