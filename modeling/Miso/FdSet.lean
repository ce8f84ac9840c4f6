set_option autoImplicit false

namespace Miso

-- SlFdSet_t: one 32-bit word, one bit for each socket index. The index is the
-- low four bits of a descriptor (BSD_SOCKET_ID_MASK); the high bits hold the
-- socket's payload type, so two descriptors can share a bit.
abbrev FdSet := BitVec 32

def socketIndex (fd : Int) : Nat := (fd % 16).toNat

def fdZero : FdSet := 0#32

def fdSet (fd : Int) (set : FdSet) : FdSet := set ||| (1#32 <<< socketIndex fd)

def fdIsset (fd : Int) (set : FdSet) : Int := if set &&& (1#32 <<< socketIndex fd) ≠ 0#32 then 1 else 0

def fdSubset (part whole : FdSet) : Prop := part &&& ~~~whole = 0#32

instance (part whole : FdSet) : Decidable (fdSubset part whole) := inferInstanceAs (Decidable (_ = _))

theorem socket_index_lt (fd : Int) : socketIndex fd < 32 := by
  unfold socketIndex
  omega

theorem index_mask_bit (fd : Int) (bit : Nat) :
    (1#32 <<< socketIndex fd).getLsbD bit = decide (bit = socketIndex fd) := by
  have bound := socket_index_lt fd
  rw [← BitVec.twoPow_eq, BitVec.getLsbD_twoPow]
  by_cases same : bit = socketIndex fd
  · simp [same, bound]
  · simp [same, Ne.symm same]

theorem index_mask_nonzero (fd : Int) : 1#32 <<< socketIndex fd ≠ 0#32 := by
  intro zero
  have bit := index_mask_bit fd (socketIndex fd)
  simp [zero] at bit

theorem fd_isset_iff (fd : Int) (set : FdSet) : fdIsset fd set = 1 ↔ set.getLsbD (socketIndex fd) = true := by
  have nonzero := index_mask_nonzero fd
  rw [← BitVec.twoPow_eq] at nonzero
  rw [fdIsset, ← BitVec.twoPow_eq, BitVec.and_twoPow]
  cases set.getLsbD (socketIndex fd) <;> simp [nonzero]

theorem fd_set_bit (fd : Int) (set : FdSet) (bit : Nat) :
    (fdSet fd set).getLsbD bit = true ↔ set.getLsbD bit = true ∨ bit = socketIndex fd := by
  rw [fdSet, BitVec.getLsbD_or, index_mask_bit]
  simp

theorem fd_set_isset (fd other : Int) (set : FdSet) :
    fdIsset other (fdSet fd set) = 1 ↔ fdIsset other set = 1 ∨ socketIndex other = socketIndex fd := by
  rw [fd_isset_iff, fd_isset_iff, fd_set_bit]

theorem fd_zero_isset (fd : Int) : fdIsset fd fdZero ≠ 1 := by
  simp [fdIsset, fdZero]

@[simp] theorem fd_zero_bit (bit : Nat) : fdZero.getLsbD bit = false := by simp [fdZero]

theorem fd_subset_bit (part whole : FdSet) (subset : fdSubset part whole) (bit : Nat)
    (present : part.getLsbD bit = true) : whole.getLsbD bit = true := by
  have bound : bit < 32 := by
    by_cases inside : bit < 32
    · exact inside
    · simp [BitVec.getLsbD_of_ge part bit (by omega)] at present
  have masked := congrArg (fun word => word.getLsbD bit) subset
  simpa [present, bound] using masked

theorem fd_subset_isset (part whole : FdSet) (subset : fdSubset part whole) (fd : Int) (set : fdIsset fd part = 1) :
    fdIsset fd whole = 1 := by
  rw [fd_isset_iff] at set ⊢
  exact fd_subset_bit part whole subset _ set

end Miso
