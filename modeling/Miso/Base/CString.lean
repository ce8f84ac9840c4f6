import Mathlib.Data.List.TakeWhile

set_option autoImplicit false

namespace Miso.Base

abbrev Byte := UInt8

instance bytesLawful : LawfulBEq (List Byte) := inferInstance

def ascii (text : String) : List Byte := text.toList.map fun character => UInt8.ofNat character.toNat

structure Buffer (capacity : Nat) where
  bytes : List Byte
  sized : bytes.length = capacity
deriving DecidableEq

section Buffer

variable {capacity : Nat}

@[ext] theorem buffer_ext (left right : Buffer capacity) (same : left.bytes = right.bytes) : left = right := by
  cases left
  cases right
  cases same
  rfl

def Buffer.zero (capacity : Nat) : Buffer capacity := ⟨List.replicate capacity 0, List.length_replicate⟩

def Buffer.Terminated (buffer : Buffer capacity) : Prop := 0 ∈ buffer.bytes

instance (buffer : Buffer capacity) : Decidable buffer.Terminated := inferInstanceAs (Decidable (_ ∈ _))

-- A write past the end of an array has no defined result.
def Buffer.store (buffer : Buffer capacity) (bytes : List Byte) : Option (Buffer capacity) :=
  if fits : bytes.length ≤ capacity then
    some ⟨bytes ++ buffer.bytes.drop bytes.length, by simp [buffer.sized, fits]⟩
  else none

def padded (text : List Byte) (count : Nat) : List Byte := text ++ List.replicate (count - text.length) 0

def cText (src : List Byte) (count : Nat) : List Byte := (src.take count).takeWhile (· ≠ 0)

def memset (dest : Buffer capacity) (value : Byte) (count : Nat) : Option (Buffer capacity) :=
  dest.store (List.replicate count value)

-- strncpy always writes count bytes: the text up to its NUL, then zeros. It
-- leaves no NUL of its own when the text fills the count.
def strncpy (dest : Buffer capacity) (src : List Byte) (count : Nat) : Option (Buffer capacity) :=
  dest.store (padded (cText src count) count)

-- strncmp(text, literal, strlen(literal)) == 0
def sameStart (text : List Byte) (literal : String) : Bool := (ascii literal).isPrefixOf text

theorem padded_length (text : List Byte) (count : Nat) (short : text.length ≤ count) : (padded text count).length = count := by
  simp [padded, short]

def fit (capacity : Nat) (text : List Byte) : Buffer capacity where
  bytes := padded (text.take capacity) capacity
  sized := padded_length _ _ (List.length_take_le capacity text)

theorem c_text_length (src : List Byte) (count : Nat) : (cText src count).length ≤ count := by
  have shorter : (cText src count).length ≤ (src.take count).length := (List.takeWhile_prefix _).length_le
  exact Nat.le_trans shorter (List.length_take_le count src)

theorem zero_mem_padded (text : List Byte) (count : Nat) (clean : 0 ∉ text) : 0 ∈ padded text count ↔ text.length < count := by
  simp [padded, clean]
  omega

theorem c_text_clean (src : List Byte) (count : Nat) : 0 ∉ cText src count := by
  intro member
  simpa using List.mem_takeWhile_imp member

theorem c_text_of_clean (src : List Byte) (count : Nat) (clean : 0 ∉ src.take count) : cText src count = src.take count := by
  apply List.takeWhile_eq_self_iff.mpr
  intro byte member
  have nonzero : byte ≠ 0 := ne_of_mem_of_not_mem member clean
  simpa using nonzero

theorem store_fits (buffer : Buffer capacity) (bytes : List Byte) :
    (buffer.store bytes).isSome = true ↔ bytes.length ≤ capacity := by
  by_cases fits : bytes.length ≤ capacity <;> simp [Buffer.store, fits]

theorem store_full (buffer : Buffer capacity) (bytes : List Byte) (full : bytes.length = capacity) :
    buffer.store bytes = some ⟨bytes, full⟩ := by
  have nothing : buffer.bytes.drop capacity = [] := List.drop_eq_nil_of_le buffer.sized.le
  simp [Buffer.store, full, nothing]

theorem store_bytes (buffer after : Buffer capacity) (bytes : List Byte) (stored : buffer.store bytes = some after) :
    after.bytes = bytes ++ buffer.bytes.drop bytes.length := by
  rw [Buffer.store] at stored
  split at stored
  · rw [← Option.some.inj stored]
  · cases stored

theorem strncpy_bytes (dest after : Buffer capacity) (src : List Byte) (count : Nat) (copied : strncpy dest src count = some after) :
    after.bytes = padded (cText src count) count ++ dest.bytes.drop count := by
  rw [store_bytes dest after _ copied, padded_length _ _ (c_text_length src count)]

theorem strncpy_fits (dest : Buffer capacity) (src : List Byte) (count : Nat) :
    (strncpy dest src count).isSome = true ↔ count ≤ capacity := by
  rw [strncpy, store_fits, padded_length _ _ (c_text_length src count)]

theorem strncpy_full (dest : Buffer capacity) (src : List Byte) :
    strncpy dest src capacity =
      some ⟨padded (cText src capacity) capacity, padded_length _ _ (c_text_length src capacity)⟩ :=
  store_full dest _ _

def strlen (src : List Byte) : Nat := (src.takeWhile (· ≠ 0)).length

theorem c_text_strlen (src : List Byte) (count : Nat) : (cText src count).length = min count (strlen src) := by
  rw [cText, ← List.take_takeWhile, List.length_take, strlen]

-- A copy of the full size leaves a NUL exactly when the text is shorter.
theorem strncpy_terminated (dest after : Buffer capacity) (src : List Byte) (copied : strncpy dest src capacity = some after) :
    after.Terminated ↔ strlen src < capacity := by
  rw [strncpy_full] at copied
  obtain rfl := Option.some.inj copied
  rw [Buffer.Terminated, zero_mem_padded _ _ (c_text_clean src capacity), c_text_strlen]
  omega

end Buffer

end Miso.Base
