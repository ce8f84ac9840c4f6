import Miso.Base.Packed
import Miso.FatFs

set_option autoImplicit false

namespace Miso.FatFs

open Base (Reads Writes bitAt)

variable {α : Type}

-- A move of the window and what follows it where it succeeds.
def onOk (moved : Volume × FResult) (next : Volume → Volume × α) (failed : FResult → α) : Volume × α :=
  if moved.2 = .ok then next moved.1 else (moved.1, failed moved.2)

def ldWord (low high : Byte) : BitVec 16 := high ++ low

def ldDword (first second third fourth : Byte) : BitVec 32 := fourth ++ third ++ second ++ first

-- Byte offset of a FAT12 entry.
def bc12 (clst : BitVec 32) : Nat := clst.toNat + clst.toNat / 2

def adjust12 (clst : BitVec 32) (low high : Byte) : BitVec 32 :=
  if clst.toNat % 2 = 1 then (ldWord low high >>> 4).setWidth 32 else (ldWord low high &&& 0xFFF).setWidth 32

def getFat12 (faults : Faults) (vol : Volume) (clst : BitVec 32) : Volume × BitVec 32 :=
  onOk (moveWindow faults vol (vol.layout.fatbase + BitVec.ofNat 32 (bc12 clst / ss)))
    (fun first => onOk (moveWindow faults first (first.layout.fatbase + BitVec.ofNat 32 ((bc12 clst + 1) / ss)))
      (fun second => (second, adjust12 clst (first.win (bc12 clst % ss)) (second.win ((bc12 clst + 1) % ss))))
      (fun _ => 0xFFFFFFFF))
    (fun _ => 0xFFFFFFFF)

def getFat16 (faults : Faults) (vol : Volume) (clst : BitVec 32) : Volume × BitVec 32 :=
  onOk (moveWindow faults vol (vol.layout.fatbase + BitVec.ofNat 32 (clst.toNat / (ss / 2))))
    (fun moved => (moved, (ldWord (moved.win (clst.toNat * 2 % ss)) (moved.win (clst.toNat * 2 % ss + 1))).setWidth 32))
    (fun _ => 0xFFFFFFFF)

def ldDwordAt (win : Sector) (place : Nat) : BitVec 32 :=
  ldDword (win place) (win (place + 1)) (win (place + 2)) (win (place + 3))

def getFat32 (faults : Faults) (vol : Volume) (clst : BitVec 32) : Volume × BitVec 32 :=
  onOk (moveWindow faults vol (vol.layout.fatbase + BitVec.ofNat 32 (clst.toNat / (ss / 4))))
    (fun moved => (moved, ldDwordAt moved.win (clst.toNat * 4 % ss) &&& 0x0FFFFFFF))
    (fun _ => 0xFFFFFFFF)

def getFat (faults : Faults) (vol : Volume) (clst : BitVec 32) : Volume × BitVec 32 :=
  if clst < 2 ∨ vol.layout.nFatent ≤ clst then (vol, 1)
  else
    match vol.layout.fsType with
    | .fat12 => getFat12 faults vol clst
    | .fat16 => getFat16 faults vol clst
    | .fat32 => getFat32 faults vol clst

def firstByte12 (clst val : BitVec 32) (old : Byte) : Byte :=
  if clst.toNat % 2 = 1 then (old &&& (0x0F : Byte)) ||| (val.setWidth 8 <<< 4) else val.setWidth 8

def secondByte12 (clst val : BitVec 32) (old : Byte) : Byte :=
  if clst.toNat % 2 = 1 then (val >>> 4).setWidth 8 else (old &&& (0xF0 : Byte)) ||| ((val >>> 8).setWidth 8 &&& (0x0F : Byte))

def putFat12 (faults : Faults) (vol : Volume) (clst val : BitVec 32) : Volume × FResult :=
  onOk (moveWindow faults vol (vol.layout.fatbase + BitVec.ofNat 32 (bc12 clst / ss)))
    (fun first => onOk
      (moveWindow faults (first.poke (bc12 clst % ss) (firstByte12 clst val (first.win (bc12 clst % ss))))
        (first.layout.fatbase + BitVec.ofNat 32 ((bc12 clst + 1) / ss)))
      (fun second =>
        (second.poke ((bc12 clst + 1) % ss) (secondByte12 clst val (second.win ((bc12 clst + 1) % ss))), .ok))
      id)
    id

def Volume.stWord (vol : Volume) (place : Nat) (val : BitVec 16) : Volume :=
  (vol.poke place (val.setWidth 8)).poke (place + 1) ((val >>> 8).setWidth 8)

def Volume.stDword (vol : Volume) (place : Nat) (val : BitVec 32) : Volume :=
  (((vol.poke place (val.setWidth 8)).poke (place + 1) ((val >>> 8).setWidth 8)).poke (place + 2)
    ((val >>> 16).setWidth 8)).poke (place + 3) ((val >>> 24).setWidth 8)

def putFat16 (faults : Faults) (vol : Volume) (clst val : BitVec 32) : Volume × FResult :=
  onOk (moveWindow faults vol (vol.layout.fatbase + BitVec.ofNat 32 (clst.toNat / (ss / 2))))
    (fun moved => (moved.stWord (clst.toNat * 2 % ss) (val.setWidth 16), .ok)) id

-- The upper 4 bits of an entry stay.
def putFat32 (faults : Faults) (vol : Volume) (clst val : BitVec 32) : Volume × FResult :=
  onOk (moveWindow faults vol (vol.layout.fatbase + BitVec.ofNat 32 (clst.toNat / (ss / 4))))
    (fun moved => (moved.stDword (clst.toNat * 4 % ss)
      ((val &&& 0x0FFFFFFF) ||| (ldDwordAt moved.win (clst.toNat * 4 % ss) &&& 0xF0000000)), .ok)) id

def putFat (faults : Faults) (vol : Volume) (clst val : BitVec 32) : Volume × FResult :=
  if 2 ≤ clst ∧ clst < vol.layout.nFatent then
    match vol.layout.fsType with
    | .fat12 => putFat12 faults vol clst val
    | .fat16 => putFat16 faults vol clst val
    | .fat32 => putFat32 faults vol clst val
  else (vol, .intErr)

-- The entries as numbers packed into the bytes of the FAT.
def FsType.slot : FsType → Nat
  | .fat12 => 12
  | .fat16 => 16
  | .fat32 => 32

def FsType.payload : FsType → Nat
  | .fat12 => 12
  | .fat16 => 16
  | .fat32 => 28

def entry (fsType : FsType) (bytes : Nat → Byte) (clst : BitVec 32) : BitVec 32 :=
  match fsType with
  | .fat12 => adjust12 clst (bytes (bc12 clst)) (bytes (bc12 clst + 1))
  | .fat16 => (ldWord (bytes (clst.toNat * 2)) (bytes (clst.toNat * 2 + 1))).setWidth 32
  | .fat32 => ldDwordAt bytes (clst.toNat * 4) &&& 0x0FFFFFFF

def Volume.table (vol : Volume) (clst : BitVec 32) : BitVec 32 := entry vol.layout.fsType vol.fat clst

theorem bit_at (bytes : Nat → Byte) (position byte bit : Nat) (same : position = 8 * byte + bit) (small : bit < 8) :
    bitAt bytes position = (bytes byte).getLsbD bit := by
  have quotient : position / 8 = byte := by omega
  have remainder : position % 8 = bit := by omega
  rw [bitAt, quotient, remainder]

theorem ld_word_bit (low high : Byte) (bit : Nat) :
    (ldWord low high).getLsbD bit = if bit < 8 then low.getLsbD bit else high.getLsbD (bit - 8) := by
  rw [ldWord, BitVec.getLsbD_append]

theorem entry12_reads (bytes : Nat → Byte) (clst : BitVec 32) :
    Reads 12 12 bytes clst.toNat (adjust12 clst (bytes (bc12 clst)) (bytes (bc12 clst + 1))) := by
  intro bit small
  unfold adjust12 bc12
  by_cases odd : clst.toNat % 2 = 1
  · rw [if_pos odd, BitVec.getLsbD_setWidth, BitVec.getLsbD_ushiftRight, ld_word_bit]
    by_cases inside : bit < 12
    · by_cases low : bit < 4
      · rw [if_pos (by omega), bit_at bytes (12 * clst.toNat + bit) (clst.toNat + clst.toNat / 2) (4 + bit) (by omega) (by omega)]
        simp [small, inside]
      · rw [if_neg (by omega), bit_at bytes (12 * clst.toNat + bit) (clst.toNat + clst.toNat / 2 + 1) (4 + bit - 8) (by omega)
          (by omega)]
        simp [small, inside]
    · rw [if_neg (by omega), BitVec.getLsbD_of_ge _ _ (by omega)]
      simp [inside]
  · rw [if_neg odd, BitVec.getLsbD_setWidth, BitVec.getLsbD_and, ld_word_bit]
    by_cases inside : bit < 12
    · have mask : (0xFFF : BitVec 16).getLsbD bit = true := by
        have all : ∀ bit, bit < 12 → (0xFFF : BitVec 16).getLsbD bit = true := by decide
        exact all bit inside
      by_cases low : bit < 8
      · rw [if_pos low, mask, bit_at bytes (12 * clst.toNat + bit) (clst.toNat + clst.toNat / 2) bit (by omega) low]
        simp [small, inside]
      · rw [if_neg low, mask, bit_at bytes (12 * clst.toNat + bit) (clst.toNat + clst.toNat / 2 + 1) (bit - 8) (by omega) (by omega)]
        simp [small, inside]
    · have mask : (0xFFF : BitVec 16).getLsbD bit = false := by
        have none_ : ∀ bit, bit < 32 → 12 ≤ bit → (0xFFF : BitVec 16).getLsbD bit = false := by decide
        exact none_ bit small (Nat.le_of_not_lt inside)
      rw [mask]
      simp [inside]

theorem entry16_reads (bytes : Nat → Byte) (clst : BitVec 32) :
    Reads 16 16 bytes clst.toNat ((ldWord (bytes (clst.toNat * 2)) (bytes (clst.toNat * 2 + 1))).setWidth 32) := by
  intro bit small
  rw [BitVec.getLsbD_setWidth, ld_word_bit]
  by_cases low : bit < 8
  · rw [if_pos low, bit_at bytes (16 * clst.toNat + bit) (clst.toNat * 2) bit (by omega) low]
    simp [small, Nat.lt_trans low (by decide : 8 < 16)]
  · rw [if_neg low]
    by_cases inside : bit < 16
    · rw [bit_at bytes (16 * clst.toNat + bit) (clst.toNat * 2 + 1) (bit - 8) (by omega) (by omega)]
      simp [small, inside]
    · rw [BitVec.getLsbD_of_ge _ _ (by omega)]
      simp [inside]

theorem ld_dword_reads (bytes : Nat → Byte) (index bit : Nat) (small : bit < 32) :
    (ldDwordAt bytes (index * 4)).getLsbD bit = bitAt bytes (32 * index + bit) := by
  unfold ldDwordAt ldDword
  rw [BitVec.getLsbD_append, BitVec.getLsbD_append, BitVec.getLsbD_append]
  by_cases first : bit < 8
  · rw [if_pos first, bit_at bytes (32 * index + bit) (index * 4) bit (by omega) first]
  · rw [if_neg first]
    by_cases second : bit < 16
    · rw [if_pos (by omega), bit_at bytes (32 * index + bit) (index * 4 + 1) (bit - 8) (by omega) (by omega)]
    · rw [if_neg (by omega)]
      by_cases third : bit < 24
      · rw [if_pos (by omega), bit_at bytes (32 * index + bit) (index * 4 + 2) (bit - 8 - 8) (by omega) (by omega)]
      · rw [if_neg (by omega), bit_at bytes (32 * index + bit) (index * 4 + 3) (bit - 8 - 8 - 8) (by omega) (by omega)]

theorem low_mask (bit : Nat) (small : bit < 32) : (0x0FFFFFFF : BitVec 32).getLsbD bit = decide (bit < 28) := by
  have all : ∀ bit, bit < 32 → (0x0FFFFFFF : BitVec 32).getLsbD bit = decide (bit < 28) := by decide
  exact all bit small

theorem entry32_reads (bytes : Nat → Byte) (clst : BitVec 32) :
    Reads 32 28 bytes clst.toNat (ldDwordAt bytes (clst.toNat * 4) &&& 0x0FFFFFFF) := by
  intro bit small
  rw [BitVec.getLsbD_and, low_mask bit small, ld_dword_reads bytes clst.toNat bit small, Bool.and_comm]

theorem entry_reads (fsType : FsType) (bytes : Nat → Byte) (clst : BitVec 32) :
    Reads fsType.slot fsType.payload bytes clst.toNat (entry fsType bytes clst) := by
  cases fsType with
  | fat12 => exact entry12_reads bytes clst
  | fat16 => exact entry16_reads bytes clst
  | fat32 => exact entry32_reads bytes clst

theorem position_split (position : Nat) : position = 8 * (position / 8) + position % 8 ∧ position % 8 < 8 :=
  ⟨(Nat.div_add_mod position 8).symm, Nat.mod_lt _ (by decide)⟩

theorem low_nibble (bit : Nat) (small : bit < 8) :
    (0x0F : Byte).getLsbD bit = decide (bit < 4) ∧ (0xF0 : Byte).getLsbD bit = decide (4 ≤ bit) := by
  have all : ∀ bit, bit < 8 → (0x0F : Byte).getLsbD bit = decide (bit < 4) ∧ (0xF0 : Byte).getLsbD bit = decide (4 ≤ bit) := by
    decide
  exact all bit small

-- The bytes of the FAT after an entry was put.
def putBytes12 (bytes : Nat → Byte) (clst val : BitVec 32) : Nat → Byte :=
  Function.update (Function.update bytes (bc12 clst) (firstByte12 clst val (bytes (bc12 clst)))) (bc12 clst + 1)
    (secondByte12 clst val (bytes (bc12 clst + 1)))

theorem put12_writes (bytes : Nat → Byte) (clst val : BitVec 32) : Writes 12 12 bytes (putBytes12 bytes clst val) clst.toNat val := by
  intro position
  obtain ⟨split, small⟩ := position_split position
  obtain ⟨low, high⟩ := low_nibble (position % 8) small
  have first : bc12 clst ≠ bc12 clst + 1 := Nat.ne_of_lt (Nat.lt_succ_self _)
  have here : bc12 clst = clst.toNat + clst.toNat / 2 := rfl
  unfold bitAt putBytes12
  by_cases second : position / 8 = bc12 clst + 1
  · rw [second, Function.update_self]
    unfold secondByte12
    by_cases odd : clst.toNat % 2 = 1
    · have place : position - 12 * clst.toNat = 4 + position % 8 := by omega
      rw [if_pos odd, if_pos (by omega), place, BitVec.getLsbD_setWidth, BitVec.getLsbD_ushiftRight]
      simp [small]
    · rw [if_neg odd, BitVec.getLsbD_or, BitVec.getLsbD_and, BitVec.getLsbD_and, low, high, BitVec.getLsbD_setWidth,
        BitVec.getLsbD_ushiftRight]
      by_cases lower : position % 8 < 4
      · have place : position - 12 * clst.toNat = 8 + position % 8 := by omega
        rw [if_pos (by omega), place]
        simp [small, lower, Nat.not_le_of_lt lower]
      · rw [if_neg (by omega)]
        simp [lower, Nat.le_of_not_lt lower]
  · rw [Function.update_of_ne second]
    by_cases start : position / 8 = bc12 clst
    · rw [start, Function.update_self]
      unfold firstByte12
      by_cases odd : clst.toNat % 2 = 1
      · rw [if_pos odd, BitVec.getLsbD_or, BitVec.getLsbD_and, low, BitVec.getLsbD_shiftLeft, BitVec.getLsbD_setWidth]
        by_cases lower : position % 8 < 4
        · rw [if_neg (by omega)]
          simp [lower]
        · have place : position - 12 * clst.toNat = position % 8 - 4 := by omega
          have inside : position % 8 - 4 < 8 := by omega
          rw [if_pos (by omega), place]
          simp [small, lower, inside]
      · have place : position - 12 * clst.toNat = position % 8 := by omega
        rw [if_neg odd, if_pos (by omega), place, BitVec.getLsbD_setWidth]
        simp [small]
    · rw [Function.update_of_ne start, if_neg (by omega)]

def putBytes16 (bytes : Nat → Byte) (clst : BitVec 32) (val : BitVec 16) : Nat → Byte :=
  Function.update (Function.update bytes (clst.toNat * 2) (val.setWidth 8)) (clst.toNat * 2 + 1) ((val >>> 8).setWidth 8)

theorem put16_writes (bytes : Nat → Byte) (clst val : BitVec 32) :
    Writes 16 16 bytes (putBytes16 bytes clst (val.setWidth 16)) clst.toNat val := by
  intro position
  obtain ⟨split, small⟩ := position_split position
  unfold bitAt putBytes16
  by_cases second : position / 8 = clst.toNat * 2 + 1
  · have place : position - 16 * clst.toNat = 8 + position % 8 := by omega
    have inside : 8 + position % 8 < 16 := by omega
    rw [second, Function.update_self, if_pos (by omega), place, BitVec.getLsbD_setWidth, BitVec.getLsbD_ushiftRight,
      BitVec.getLsbD_setWidth]
    simp [small, inside]
  · rw [Function.update_of_ne second]
    by_cases start : position / 8 = clst.toNat * 2
    · have place : position - 16 * clst.toNat = position % 8 := by omega
      have inside : position % 8 < 16 := by omega
      rw [start, Function.update_self, if_pos (by omega), place, BitVec.getLsbD_setWidth, BitVec.getLsbD_setWidth]
      simp [small, inside]
    · rw [Function.update_of_ne start, if_neg (by omega)]

def putBytes32 (bytes : Nat → Byte) (clst val : BitVec 32) : Nat → Byte :=
  Function.update (Function.update (Function.update (Function.update bytes (clst.toNat * 4) (val.setWidth 8))
    (clst.toNat * 4 + 1) ((val >>> 8).setWidth 8)) (clst.toNat * 4 + 2) ((val >>> 16).setWidth 8))
    (clst.toNat * 4 + 3) ((val >>> 24).setWidth 8)

theorem put32_bit (bytes : Nat → Byte) (clst val : BitVec 32) (position : Nat) :
    bitAt (putBytes32 bytes clst val) position =
      if 32 * clst.toNat ≤ position ∧ position < 32 * clst.toNat + 32 then val.getLsbD (position - 32 * clst.toNat)
      else bitAt bytes position := by
  obtain ⟨split, small⟩ := position_split position
  have byte (index : Nat) (bound : index < 4) (same : position / 8 = clst.toNat * 4 + index) :
      (if 32 * clst.toNat ≤ position ∧ position < 32 * clst.toNat + 32 then val.getLsbD (position - 32 * clst.toNat)
        else bitAt bytes position) = ((val >>> (8 * index)).setWidth 8).getLsbD (position % 8) := by
    have place : position - 32 * clst.toNat = 8 * index + position % 8 := by omega
    rw [if_pos (by omega), place, BitVec.getLsbD_setWidth, BitVec.getLsbD_ushiftRight]
    simp [small]
  unfold putBytes32
  by_cases fourth : position / 8 = clst.toNat * 4 + 3
  · rw [byte 3 (by omega) fourth, bitAt, fourth, Function.update_self]
  · by_cases third : position / 8 = clst.toNat * 4 + 2
    · rw [byte 2 (by omega) third, bitAt, Function.update_of_ne fourth, third, Function.update_self]
    · by_cases second : position / 8 = clst.toNat * 4 + 1
      · rw [byte 1 (by omega) second, bitAt, Function.update_of_ne fourth, Function.update_of_ne third, second, Function.update_self]
      · by_cases first : position / 8 = clst.toNat * 4
        · rw [byte 0 (by omega) first, bitAt, Function.update_of_ne fourth, Function.update_of_ne third,
            Function.update_of_ne second, first, Function.update_self]
          simp
        · rw [bitAt, Function.update_of_ne fourth, Function.update_of_ne third, Function.update_of_ne second,
            Function.update_of_ne first, if_neg (by omega), bitAt]

theorem put32_writes (bytes : Nat → Byte) (clst val : BitVec 32) :
    Writes 32 28 bytes (putBytes32 bytes clst
      ((val &&& 0x0FFFFFFF) ||| (ldDwordAt bytes (clst.toNat * 4) &&& 0xF0000000))) clst.toNat val := by
  intro position
  rw [put32_bit]
  by_cases inside : 32 * clst.toNat ≤ position ∧ position < 32 * clst.toNat + 32
  · obtain ⟨bit, bitIs⟩ : ∃ bit, bit = position - 32 * clst.toNat := ⟨_, rfl⟩
    have small : bit < 32 := by omega
    have upper : (0xF0000000 : BitVec 32).getLsbD bit = decide (28 ≤ bit) := by
      have all : ∀ bit, bit < 32 → (0xF0000000 : BitVec 32).getLsbD bit = decide (28 ≤ bit) := by decide
      exact all bit small
    have back : 32 * clst.toNat + bit = position := by omega
    rw [if_pos inside, ← bitIs, BitVec.getLsbD_or, BitVec.getLsbD_and, BitVec.getLsbD_and, low_mask bit small, upper,
      ld_dword_reads bytes clst.toNat bit small, back]
    by_cases low : bit < 28
    · rw [if_pos (by omega)]
      simp [low, Nat.not_le_of_lt low]
    · rw [if_neg (by omega)]
      simp [low, Nat.le_of_not_lt low]
  · rw [if_neg inside, if_neg (by omega)]

theorem first12_leaves (bytes : Nat → Byte) (clst val : BitVec 32) :
    Base.Leaves 12 12 bytes (Function.update bytes (bc12 clst) (firstByte12 clst val (bytes (bc12 clst)))) clst.toNat := by
  intro position outside
  have whole := Base.writes_leaves _ _ _ _ (put12_writes bytes clst val) position outside
  have here : bc12 clst = clst.toNat + clst.toNat / 2 := rfl
  unfold bitAt putBytes12 at whole
  unfold bitAt
  by_cases second : position / 8 = bc12 clst + 1
  · rw [Function.update_of_ne (by omega)]
  · rwa [Function.update_of_ne second] at whole

def FsType.mask : FsType → BitVec 32
  | .fat12 => 0xFFF
  | .fat16 => 0xFFFF
  | .fat32 => 0x0FFFFFFF

theorem mask_bit (fsType : FsType) (bit : Nat) (small : bit < 32) : fsType.mask.getLsbD bit = decide (bit < fsType.payload) := by
  have twelve : ∀ bit, bit < 32 → FsType.fat12.mask.getLsbD bit = decide (bit < 12) := by decide
  have sixteen : ∀ bit, bit < 32 → FsType.fat16.mask.getLsbD bit = decide (bit < 16) := by decide
  have more : ∀ bit, bit < 32 → FsType.fat32.mask.getLsbD bit = decide (bit < 28) := by decide
  cases fsType with
  | fat12 => exact twelve bit small
  | fat16 => exact sixteen bit small
  | fat32 => exact more bit small

theorem payload_slot (fsType : FsType) : fsType.payload ≤ fsType.slot := by
  cases fsType <;> decide

theorem entry_elsewhere (fsType : FsType) (bytes after : Nat → Byte) (clst other : BitVec 32)
    (leaves : Base.Leaves fsType.slot fsType.payload bytes after clst.toNat) (different : other ≠ clst) :
    entry fsType after other = entry fsType bytes other :=
  Base.leaves_elsewhere bytes after clst.toNat other.toNat _ _ leaves (payload_slot fsType)
    (fun same => different (BitVec.eq_of_toNat_eq same)) (entry_reads fsType bytes other) (entry_reads fsType after other)

theorem entry_writes (fsType : FsType) (bytes after : Nat → Byte) (clst val : BitVec 32)
    (writes : Writes fsType.slot fsType.payload bytes after clst.toNat val) :
    entry fsType after = Function.update (entry fsType bytes) clst (val &&& fsType.mask) := by
  funext other
  by_cases same : other = clst
  · rw [same, Function.update_self]
    refine BitVec.eq_of_getLsbD_eq fun bit small => ?_
    rw [Base.writes_here bytes after clst.toNat val _ writes (entry_reads fsType after clst) bit small, BitVec.getLsbD_and,
      mask_bit fsType bit small, Bool.and_comm]
  · rw [Function.update_of_ne same]
    exact entry_elsewhere fsType bytes after clst other (Base.writes_leaves _ _ _ _ writes) same

theorem entry_inside (layout : Layout) (clst : BitVec 32) (inside : clst < layout.nFatent) :
    match layout.fsType with
    | .fat12 => bc12 clst + 1 < ss * layout.fsize.toNat
    | .fat16 => clst.toNat * 2 + 1 < ss * layout.fsize.toNat
    | .fat32 => clst.toNat * 4 + 3 < ss * layout.fsize.toNat := by
  have fits := layout.fits
  have less := BitVec.lt_def.mp inside
  unfold FsType.needed at fits
  unfold bc12 ss
  cases type : layout.fsType with
  | fat12 =>
      rw [type] at fits
      simp only at fits ⊢
      omega
  | fat16 =>
      rw [type] at fits
      simp only at fits ⊢
      omega
  | fat32 =>
      rw [type] at fits
      simp only at fits ⊢
      omega

theorem same_sector (layout : Layout) (offset more : Nat) (within : offset % ss + more < ss) :
    layout.fatSector (offset + more) = layout.fatSector offset ∧ (offset + more) % ss = offset % ss + more := by
  unfold ss at within ⊢
  have sector : (offset + more) / ss = offset / ss := by
    unfold ss
    omega
  refine ⟨by rw [Layout.fatSector, Layout.fatSector, sector], ?_⟩
  omega

theorem moved_win (vol moved : Volume) (same : vol.Same moved) (offset : Nat) (inside : offset < ss * vol.layout.fsize.toNat)
    (here : moved.winsect = vol.layout.fatSector offset) : moved.win (offset % ss) = vol.fat offset := by
  rw [← same.fat]
  exact win_fat moved offset (by rw [same.layout]; exact inside) (by rw [same.layout]; exact here)

-- What get_fat of an entry does: the FAT stays as it is, and the answer is the
-- entry or the disk error.
structure Got (vol : Volume) (clst : BitVec 32) (answer : Volume × BitVec 32) : Prop where
  same : vol.Same answer.1
  held : answer.1.Held
  value : answer.2 = vol.table clst ∨ answer.2 = 0xFFFFFFFF

theorem on_ok_moved (faults : Faults) (vol : Volume) (held : vol.Held) (sect : Lba) (next : Volume → Volume × α)
    (failed : FResult → α) (holds : Volume × α → Prop)
    (moved : ∀ after, vol.Same after → after.Held → after.winsect = sect → holds (next after))
    (lost : ∀ after, vol.Same after → after.Held → holds (after, failed .diskErr)) :
    holds (onOk (moveWindow faults vol sect) next failed) := by
  obtain ⟨same, stillHeld, outcome⟩ := move_window faults vol sect held
  unfold onOk
  rcases outcome with ⟨ok, here⟩ | err
  · rw [if_pos ok]
    exact moved _ same stillHeld here
  · rw [if_neg (by rw [err]; exact FResult.noConfusion), err]
    exact lost _ same stillHeld

theorem get_fat12 (faults : Faults) (vol : Volume) (clst : BitVec 32) (held : vol.Held) (type : vol.layout.fsType = .fat12)
    (inside : clst < vol.layout.nFatent) : Got vol clst (getFat12 faults vol clst) := by
  have bound := entry_inside vol.layout clst inside
  simp only [type] at bound
  refine on_ok_moved faults vol held (vol.layout.fatSector (bc12 clst)) _ _ (Got vol clst) (fun first same firstHeld here => ?_)
    fun after same stillHeld => ⟨same, stillHeld, .inr rfl⟩
  refine on_ok_moved faults first firstHeld (first.layout.fatSector (bc12 clst + 1)) _ _ (Got vol clst)
    (fun second again secondHeld there => ?_) fun after again stillHeld => ⟨.trans same again, stillHeld, .inr rfl⟩
  have whole := Volume.Same.trans same again
  refine ⟨whole, secondHeld, .inl ?_⟩
  rw [Volume.table, type, entry, moved_win vol first same (bc12 clst) (by omega) here,
    moved_win vol second whole (bc12 clst + 1) bound (by rw [there, same.layout])]

theorem sector16 (layout : Layout) (clst : BitVec 32) :
    layout.fatbase + BitVec.ofNat 32 (clst.toNat / (ss / 2)) = layout.fatSector (clst.toNat * 2) := by
  have index : clst.toNat / (512 / 2) = clst.toNat * 2 / 512 := by omega
  exact congrArg (layout.fatbase + BitVec.ofNat 32 ·) index

theorem get_fat16 (faults : Faults) (vol : Volume) (clst : BitVec 32) (held : vol.Held) (type : vol.layout.fsType = .fat16)
    (inside : clst < vol.layout.nFatent) : Got vol clst (getFat16 faults vol clst) := by
  have bound := entry_inside vol.layout clst inside
  simp only [type] at bound
  obtain ⟨next, place⟩ := same_sector vol.layout (clst.toNat * 2) 1 (by unfold ss; omega)
  unfold getFat16
  rw [sector16]
  refine on_ok_moved faults vol held (vol.layout.fatSector (clst.toNat * 2)) _ _ (Got vol clst)
    (fun moved same movedHeld here => ⟨same, movedHeld, .inl ?_⟩) fun after same stillHeld => ⟨same, stillHeld, .inr rfl⟩
  rw [Volume.table, type, entry, moved_win vol moved same (clst.toNat * 2) (by omega) here, ← place,
    moved_win vol moved same (clst.toNat * 2 + 1) bound (by rw [here, next])]

theorem ld_dword_moved (vol moved : Volume) (same : vol.Same moved) (index : Nat)
    (inside : index * 4 + 3 < ss * vol.layout.fsize.toNat) (here : moved.winsect = vol.layout.fatSector (index * 4)) :
    ldDwordAt moved.win (index * 4 % ss) = ldDwordAt vol.fat (index * 4) := by
  have byte (more : Nat) (bound : more < 4) : moved.win (index * 4 % ss + more) = vol.fat (index * 4 + more) := by
    obtain ⟨next, place⟩ := same_sector vol.layout (index * 4) more (by unfold ss; omega)
    rw [← place]
    exact moved_win vol moved same (index * 4 + more) (by omega) (by rw [here, next])
  unfold ldDwordAt
  rw [byte 1 (by omega), byte 2 (by omega), byte 3 (by omega)]
  exact congrArg (ldDword · _ _ _) (byte 0 (by omega))

theorem sector32 (layout : Layout) (clst : BitVec 32) :
    layout.fatbase + BitVec.ofNat 32 (clst.toNat / (ss / 4)) = layout.fatSector (clst.toNat * 4) := by
  have index : clst.toNat / (512 / 4) = clst.toNat * 4 / 512 := by omega
  exact congrArg (layout.fatbase + BitVec.ofNat 32 ·) index

theorem get_fat32 (faults : Faults) (vol : Volume) (clst : BitVec 32) (held : vol.Held) (type : vol.layout.fsType = .fat32)
    (inside : clst < vol.layout.nFatent) : Got vol clst (getFat32 faults vol clst) := by
  have bound := entry_inside vol.layout clst inside
  simp only [type] at bound
  unfold getFat32
  rw [sector32]
  refine on_ok_moved faults vol held (vol.layout.fatSector (clst.toNat * 4)) _ _ (Got vol clst)
    (fun moved same movedHeld here => ⟨same, movedHeld, .inl ?_⟩) fun after same stillHeld => ⟨same, stillHeld, .inr rfl⟩
  rw [Volume.table, type, entry, ld_dword_moved vol moved same clst.toNat bound here]

theorem get_fat (faults : Faults) (vol : Volume) (clst : BitVec 32) (held : vol.Held) (low : 2 ≤ clst)
    (inside : clst < vol.layout.nFatent) : Got vol clst (getFat faults vol clst) := by
  have valid : ¬ (clst < 2 ∨ vol.layout.nFatent ≤ clst) := by
    rw [BitVec.le_def] at low ⊢
    rw [BitVec.lt_def] at inside ⊢
    omega
  unfold getFat
  rw [if_neg valid]
  cases type : vol.layout.fsType with
  | fat12 => exact get_fat12 faults vol clst held type inside
  | fat16 => exact get_fat16 faults vol clst held type inside
  | fat32 => exact get_fat32 faults vol clst held type inside

theorem st_dword_kept (vol : Volume) (place : Nat) (val : BitVec 32) : vol.Kept (vol.stDword place val) := ⟨rfl, rfl, rfl, rfl⟩

theorem poke_more (vol : Volume) (offset more : Nat) (value : Byte) (within : offset % ss + more < ss)
    (inside : offset + more < ss * vol.layout.fsize.toNat) (here : vol.winsect = vol.layout.fatSector offset) :
    (vol.poke (offset % ss + more) value).fat = Function.update vol.fat (offset + more) value ∧
      (vol.poke (offset % ss + more) value).Held := by
  obtain ⟨next, place⟩ := same_sector vol.layout offset more within
  rw [← place]
  exact poke_fat vol (offset + more) value inside (here.trans next.symm)

theorem st_dword_fat (vol : Volume) (index : Nat) (val : BitVec 32) (inside : index * 4 + 3 < ss * vol.layout.fsize.toNat)
    (here : vol.winsect = vol.layout.fatSector (index * 4)) :
    (vol.stDword (index * 4 % ss) val).fat = Function.update (Function.update (Function.update (Function.update vol.fat (index * 4)
      (val.setWidth 8)) (index * 4 + 1) ((val >>> 8).setWidth 8)) (index * 4 + 2) ((val >>> 16).setWidth 8)) (index * 4 + 3)
      ((val >>> 24).setWidth 8) ∧ (vol.stDword (index * 4 % ss) val).Held := by
  have within (more : Nat) (bound : more < 4) : index * 4 % ss + more < ss := by
    unfold ss
    omega
  obtain ⟨first, _⟩ := poke_more vol (index * 4) 0 (val.setWidth 8) (within 0 (by decide)) (by omega) here
  obtain ⟨second, _⟩ := poke_more (vol.poke (index * 4 % ss) (val.setWidth 8)) (index * 4) 1 ((val >>> 8).setWidth 8)
    (within 1 (by decide)) (Nat.lt_of_le_of_lt (by omega) inside) here
  obtain ⟨third, _⟩ := poke_more ((vol.poke (index * 4 % ss) (val.setWidth 8)).poke (index * 4 % ss + 1) ((val >>> 8).setWidth 8))
    (index * 4) 2 ((val >>> 16).setWidth 8) (within 2 (by decide)) (Nat.lt_of_le_of_lt (by omega) inside) here
  obtain ⟨fourth, held⟩ := poke_more (((vol.poke (index * 4 % ss) (val.setWidth 8)).poke (index * 4 % ss + 1)
    ((val >>> 8).setWidth 8)).poke (index * 4 % ss + 2) ((val >>> 16).setWidth 8)) (index * 4) 3 ((val >>> 24).setWidth 8)
    (within 3 (by decide)) inside here
  rw [Nat.add_zero, Nat.add_zero] at first
  refine ⟨?_, held⟩
  rw [Volume.stDword, fourth, third, second, first]

-- What put_fat of an entry does: the entry is the value, or the answer is the
-- disk error and no other entry changed. Only FAT12 can then leave the entry
-- itself between the two values, as its bytes are written one by one.
structure Put (vol : Volume) (clst val : BitVec 32) (answer : Volume × FResult) : Prop where
  kept : vol.Kept answer.1
  held : answer.1.Held
  outcome : answer.2 = .ok ∧ answer.1.table = Function.update vol.table clst (val &&& vol.layout.fsType.mask) ∨
    answer.2 = .diskErr ∧ (∀ other, other ≠ clst → answer.1.table other = vol.table other) ∧
      (vol.layout.fsType ≠ .fat12 → answer.1.table = vol.table)

theorem same_table (vol after : Volume) (same : vol.Same after) : after.table = vol.table := by
  unfold Volume.table
  rw [same.layout, same.fat]

theorem put_lost (vol after : Volume) (clst val : BitVec 32) (same : vol.Same after) (held : after.Held) :
    Put vol clst val (after, .diskErr) :=
  ⟨same.kept, held, .inr ⟨rfl, fun other _ => congrFun (same_table vol after same) other, fun _ => same_table vol after same⟩⟩

theorem put_done (vol after : Volume) (clst val : BitVec 32) (bytes : Nat → Byte) (kept : vol.Kept after) (held : after.Held)
    (fat : after.fat = bytes) (writes : Writes vol.layout.fsType.slot vol.layout.fsType.payload vol.fat bytes clst.toNat val) :
    Put vol clst val (after, .ok) := by
  refine ⟨kept, held, .inl ⟨rfl, ?_⟩⟩
  have table : after.table = entry vol.layout.fsType bytes := by
    unfold Volume.table
    rw [kept.layout, fat]
  rw [table]
  exact entry_writes vol.layout.fsType vol.fat bytes clst val writes

theorem put_fat12 (faults : Faults) (vol : Volume) (clst val : BitVec 32) (held : vol.Held) (type : vol.layout.fsType = .fat12)
    (inside : clst < vol.layout.nFatent) : Put vol clst val (putFat12 faults vol clst val) := by
  have bound := entry_inside vol.layout clst inside
  simp only [type] at bound
  refine on_ok_moved faults vol held (vol.layout.fatSector (bc12 clst)) _ _ (Put vol clst val) (fun first same firstHeld here => ?_)
    fun after same stillHeld => put_lost vol after clst val same stillHeld
  have win := moved_win vol first same (bc12 clst) (by omega) here
  obtain ⟨poked, pokedHeld⟩ := poke_fat first (bc12 clst) (firstByte12 clst val (first.win (bc12 clst % ss)))
    (by rw [same.layout]; omega) (by rw [here, same.layout])
  rw [win, same.fat] at poked
  rw [win] at pokedHeld ⊢
  obtain ⟨half, halfIs⟩ : ∃ half, half = first.poke (bc12 clst % ss) (firstByte12 clst val (vol.fat (bc12 clst))) := ⟨_, rfl⟩
  have halfKept : vol.Kept half := halfIs ▸ same.kept.trans (poke_kept first _ _)
  rw [← halfIs] at poked pokedHeld ⊢
  have halfTable (other : BitVec 32) (different : other ≠ clst) : half.table other = vol.table other := by
    unfold Volume.table
    rw [halfKept.layout, poked, type]
    exact entry_elsewhere .fat12 vol.fat _ clst other (first12_leaves vol.fat clst val) different
  refine on_ok_moved faults half pokedHeld (first.layout.fatSector (bc12 clst + 1)) _ _ (Put vol clst val)
    (fun second again secondHeld there => ?_) fun after again stillHeld => ?_
  · have secondHere : second.winsect = second.layout.fatSector (bc12 clst + 1) := by
      rw [there, again.layout, halfKept.layout, same.layout]
    have secondInside : bc12 clst + 1 < ss * second.layout.fsize.toNat := by
      rw [again.layout, halfKept.layout]
      exact bound
    have untouched : second.fat (bc12 clst + 1) = vol.fat (bc12 clst + 1) := by
      rw [again.fat, poked, Function.update_of_ne (Nat.succ_ne_self _)]
    obtain ⟨fat, fatHeld⟩ := poke_fat second (bc12 clst + 1) (secondByte12 clst val (second.win ((bc12 clst + 1) % ss)))
      secondInside secondHere
    refine put_done vol _ clst val (putBytes12 vol.fat clst val) ((halfKept.trans again.kept).trans (poke_kept second _ _))
      fatHeld ?_ (type ▸ put12_writes vol.fat clst val)
    rw [fat, win_fat second (bc12 clst + 1) secondInside secondHere, untouched, again.fat, poked]
    rfl
  · have table := same_table half after again
    exact ⟨halfKept.trans again.kept, stillHeld, .inr ⟨rfl, fun other different => by rw [table]; exact halfTable other different,
      fun other => absurd type other⟩⟩

theorem put_fat16 (faults : Faults) (vol : Volume) (clst val : BitVec 32) (held : vol.Held) (type : vol.layout.fsType = .fat16)
    (inside : clst < vol.layout.nFatent) : Put vol clst val (putFat16 faults vol clst val) := by
  have bound := entry_inside vol.layout clst inside
  simp only [type] at bound
  obtain ⟨next, place⟩ := same_sector vol.layout (clst.toNat * 2) 1 (by unfold ss; omega)
  unfold putFat16
  rw [sector16]
  refine on_ok_moved faults vol held (vol.layout.fatSector (clst.toNat * 2)) _ _ (Put vol clst val)
    (fun moved same movedHeld here => ?_) fun after same stillHeld => put_lost vol after clst val same stillHeld
  obtain ⟨first, _⟩ := poke_fat moved (clst.toNat * 2) ((val.setWidth 16).setWidth 8) (by rw [same.layout]; omega)
    (by rw [here, same.layout])
  obtain ⟨second, secondHeld⟩ := poke_fat (moved.poke (clst.toNat * 2 % ss) ((val.setWidth 16).setWidth 8)) (clst.toNat * 2 + 1)
    ((val.setWidth 16 >>> 8).setWidth 8) (by rw [(poke_kept moved _ _).layout, same.layout]; exact bound)
    (by rw [(poke_kept moved _ _).layout, same.layout, next]; exact here)
  rw [place] at second secondHeld
  refine put_done vol _ clst val (putBytes16 vol.fat clst (val.setWidth 16))
    ((same.kept.trans (poke_kept moved _ _)).trans (poke_kept _ _ _)) secondHeld ?_ (type ▸ put16_writes vol.fat clst val)
  rw [Volume.stWord, second, first, same.fat]
  rfl

theorem put_fat32 (faults : Faults) (vol : Volume) (clst val : BitVec 32) (held : vol.Held) (type : vol.layout.fsType = .fat32)
    (inside : clst < vol.layout.nFatent) : Put vol clst val (putFat32 faults vol clst val) := by
  have bound := entry_inside vol.layout clst inside
  simp only [type] at bound
  unfold putFat32
  rw [sector32]
  refine on_ok_moved faults vol held (vol.layout.fatSector (clst.toNat * 4)) _ _ (Put vol clst val)
    (fun moved same movedHeld here => ?_) fun after same stillHeld => put_lost vol after clst val same stillHeld
  rw [ld_dword_moved vol moved same clst.toNat bound here]
  obtain ⟨fat, fatHeld⟩ := st_dword_fat moved clst.toNat ((val &&& 0x0FFFFFFF) ||| (ldDwordAt vol.fat (clst.toNat * 4) &&& 0xF0000000))
    (by rw [same.layout]; exact bound) (by rw [here, same.layout])
  refine put_done vol _ clst val
    (putBytes32 vol.fat clst ((val &&& 0x0FFFFFFF) ||| (ldDwordAt vol.fat (clst.toNat * 4) &&& 0xF0000000)))
    (same.kept.trans (st_dword_kept moved _ _)) fatHeld ?_ (by rw [type]; exact put32_writes vol.fat clst val)
  rw [fat, same.fat]
  rfl

theorem put_fat (faults : Faults) (vol : Volume) (clst val : BitVec 32) (held : vol.Held) (low : 2 ≤ clst)
    (inside : clst < vol.layout.nFatent) : Put vol clst val (putFat faults vol clst val) := by
  unfold putFat
  rw [if_pos ⟨low, inside⟩]
  cases type : vol.layout.fsType with
  | fat12 => exact put_fat12 faults vol clst val held type inside
  | fat16 => exact put_fat16 faults vol clst val held type inside
  | fat32 => exact put_fat32 faults vol clst val held type inside

end Miso.FatFs
